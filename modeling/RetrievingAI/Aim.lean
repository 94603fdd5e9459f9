import RetrievingAI.Effect

/-! What a press of the interact button reaches: the actor remembered from the traces of all frames
so far, which a trace into the sky does not forget. -/
namespace RetrievingAI

variable {F : Type}

namespace World

def remember (last : Option InteractableRef) : LineTrace → Option InteractableRef
  | .noHit => last
  | .hitOther => none
  | .hitInteractable actor => some actor

def remembered : List LineTrace → Option InteractableRef
  | [] => none
  | trace :: earlier => remember (remembered earlier) trace

/-- The last frame traced into the sky, and the last one that hit anything hit an interactable. -/
def LooksAway (traces : List LineTrace) : Prop :=
  traces.head? = some .noHit ∧
    ∃ actor, traces.find? (· != .noHit) = some (.hitInteractable actor)

/-- Everything the press interacts with is what the most recent frame's trace hit. -/
def OnTarget (traces : List LineTrace) (calls : List GameCall) : Prop :=
  ∀ actor, .interaction actor ∈ calls → traces.head? = some (.hitInteractable actor)

theorem remembered_iff (traces : List LineTrace) (actor : InteractableRef) :
    remembered traces = some actor ↔ traces.find? (· != .noHit) = some (.hitInteractable actor) := by
  induction traces with
  | nil => simp [remembered]
  | cons trace earlier ih =>
    cases trace with
    | noHit => simpa [remembered,remember] using ih
    | hitOther => simp [remembered,remember]
    | hitInteractable other => simp [remembered,remember]

theorem onTarget_iff (traces : List LineTrace) (actor : InteractableRef)
    (last : remembered traces = some actor) :
    OnTarget traces [.interaction actor] ↔ ¬ LooksAway traces := by
  have find := (remembered_iff traces actor).mp last
  have same : OnTarget traces [.interaction actor] ↔ traces.head? = some (.hitInteractable actor) := by
    simp [OnTarget]
  rw [same]
  cases traces with
  | nil => contradiction
  | cons trace earlier =>
    cases trace with
    | noHit => simpa [LooksAway] using ⟨actor,find⟩
    | hitOther => contradiction
    | hitInteractable other =>
      cases last
      simp [LooksAway]

variable [EngineFloat F]

def Event.trace (world : World F) : Event F → Option LineTrace
  | .tick view => some (world.player.lineTrace view)
  | _ => none

/-- The traces of the frames of a run, the most recent first. -/
def traces (history : List (Machine.Moment (World F) (Event F) GameCall)) : List LineTrace :=
  history.filterMap fun moment => Event.trace moment.source moment.event

theorem traces_cons (moment : Machine.Moment (World F) (Event F) GameCall)
    (history : List (Machine.Moment (World F) (Event F) GameCall)) :
    traces (moment :: history) = (Event.trace moment.source moment.event).toList ++ traces history := by
  unfold traces
  rw [List.filterMap_cons]
  cases Event.trace moment.source moment.event with
  | none => rfl
  | some trace => rfl

theorem effect_remembers (E : Engine F) (world target : World F) (event : Event F)
    (calls : List GameCall) (effect : Effect E world event target calls) :
    target.player.lastHitInteractableActor =
      (Event.trace world event).elim world.player.lastHitInteractableActor
        (remember world.player.lastHitInteractableActor) := by
  cases effect with
  | lookBall view ref object traced | lookChest view ref object traced
  | leaveBall view ref object traced | leaveChest view ref object traced =>
    simp [Event.trace,traced,remember]
  | lookOn view traced =>
    rcases traced with missed | ⟨other,none⟩
    · simp [Event.trace,missed,remember]
    · simp [Event.trace,other,none,remember]
  | stopIgnoring => simp [Event.trace]
  | pressNothing | pressBlocked | pickUp | pressChest | throwNothing | throw | hitNothing | land
  | answer | strand | chestTick | chestWait | chestDrop | chaseOn | reach | carryOn | deliver => rfl

theorem run_remembers (E : Engine F)
    {history : List (Machine.Moment (World F) (Event F) GameCall)} {world : World F}
    (run : (machine E).Run history world) :
    world.player.lastHitInteractableActor = remembered (traces history) := by
  induction run with
  | start world initial => exact (start_player world initial.player).aim
  | next history source event calls target run step ih =>
    have moved := effect_remembers E source target event calls (step_effect E _ _ _ _ step)
    rw [moved,ih,traces_cons]
    cases Event.trace source event with
    | none => rfl
    | some trace => rfl

/-- A press interacts with what the most recent frame's trace hit, or with nothing, exactly when the
player does not look into the sky after having aimed at an interactable. -/
theorem press_onTarget (E : Engine F)
    (history : List (Machine.Moment (World F) (Event F) GameCall)) (world : World F)
    (run : (machine E).Run history world)
    (moment : Machine.Moment (World F) (Event F) GameCall)
    (earlier : List (Machine.Moment (World F) (Event F) GameCall))
    (taken : moment :: earlier <:+ history) (pressed : moment.event = .interactButtonPressed) :
    OnTarget (traces earlier) moment.calls ↔ ¬ LooksAway (traces earlier) := by
  obtain ⟨before,step⟩ := run.moment moment earlier taken
  have last := run_remembers E before
  obtain ⟨source,event,calls,target⟩ := moment
  cases pressed
  cases step_effect E source target _ calls step with
  | pressNothing none =>
    rw [none] at last
    apply iff_of_true
    · intro actor dispatched
      contradiction
    · intro away
      obtain ⟨_,actor,find⟩ := away
      rw [(remembered_iff _ actor).mpr find] at last
      contradiction
  | pressBlocked ref ball aimed => exact onTarget_iff _ _ (last.symm.trans aimed)
  | pickUp ref ball hud aimed => exact onTarget_iff _ _ (last.symm.trans aimed)
  | pressChest ref chest moved aimed => exact onTarget_iff _ _ (last.symm.trans aimed)

theorem press_onTarget_aimed : ∃ history world, (machine Engine.exact).Run history world ∧
    history.map (·.event) = [.interactButtonPressed,.tick (.tracing (.hitInteractable (.ball 0)))] ∧
      OnTarget [.hitInteractable (.ball 0)] [.interaction (.ball 0)] := by
  have start := Machine.Run.start (M := machine Engine.exact) _ (ballLevel_init 1).1
  have aimed := Machine.Run.next _ _ (.tick (.tracing (.hitInteractable (.ball 0)))) _ _ start ⟨rfl,rfl⟩
  have pressed := Machine.Run.next _ _ .interactButtonPressed _ _ aimed ⟨rfl,rfl⟩
  have target := press_onTarget Engine.exact _ _ pressed _ _ (List.suffix_refl _) rfl
  refine ⟨_,_,pressed,rfl,target.mpr ?_⟩
  intro away
  have first : LineTrace.hitInteractable (.ball 0) = .noHit := Option.some.inj away.1
  contradiction

/-- Aim at a ball, look into the sky, press: the ball is picked up from wherever the player is. -/
theorem skyward_press_dispatches : ∃ history world moment, (machine Engine.exact).Run (moment :: history) world ∧
    (moment :: history).map (·.event) = [.interactButtonPressed,.tick (.tracing .noHit),
      .tick (.tracing (.hitInteractable (.ball 0)))] ∧
    ¬ OnTarget (traces history) moment.calls := by
  have start := Machine.Run.start (M := machine Engine.exact) _ (ballLevel_init 1).1
  have aimed := Machine.Run.next _ _ (.tick (.tracing (.hitInteractable (.ball 0)))) _ _ start ⟨rfl,rfl⟩
  have raised := Machine.Run.next _ _ (.tick (.tracing .noHit)) _ _ aimed ⟨rfl,rfl⟩
  have pressed := Machine.Run.next _ _ .interactButtonPressed _ _ raised ⟨rfl,rfl⟩
  refine ⟨_,_,_,pressed,rfl,?_⟩
  intro onTarget
  have hit := onTarget (.ball 0) List.mem_cons_self
  contradiction

end World

end RetrievingAI
