import RetrievingAI.Hints

/-! How many hints are shown at once. A trace that moves straight from one interactable actor to
another leaves the first one's hint on. -/
namespace RetrievingAI

variable {F : Type}

namespace World

structure OneHint (world : World F) : Prop where
  single : ∀ first second, world.hintVisible first = true → world.hintVisible second = true →
    first = second
  aimed : ∀ actor, world.hintVisible actor = true →
    world.player.lastHitInteractableActor = some actor

theorem oneHint_iff (world : World F) : world.OneHint ↔ ∀ actor, world.hintVisible actor = true →
    world.player.lastHitInteractableActor = some actor := by
  constructor
  · intro one
    exact one.aimed
  · intro aimed
    refine ⟨?_,aimed⟩
    intro first second shown also
    have same := (aimed first shown).symm.trans (aimed second also)
    exact Option.some.inj same

/-- The step lights no hint that was off. -/
def Fades (world target : World F) : Prop :=
  ∀ actor, target.hintVisible actor = true → world.hintVisible actor = true

theorem Fades.ball {world target : World F} (ref : Nat) (old new : ABall F)
    (found : world.balls.read ref = some old) (written : target.balls = world.balls.write ref new)
    (kept : target.chests = world.chests)
    (fades : new.hintVisible = true → old.hintVisible = true) : world.Fades target := by
  intro actor visible
  by_cases same : actor = .ball ref
  · subst same
    rw [hintVisible_write_ball world target ref old new found written] at visible
    simpa [hintVisible,found] using fades visible
  · rwa [hintVisible_write_ball_of_ne world target ref new written kept actor same] at visible

theorem Fades.chest {world target : World F} (ref : Nat) (old new : AChest F)
    (found : world.chests.read ref = some old) (written : target.chests = world.chests.write ref new)
    (kept : target.balls = world.balls)
    (fades : new.hintVisible = true → old.hintVisible = true) : world.Fades target := by
  intro actor visible
  by_cases same : actor = .chest ref
  · subst same
    rw [hintVisible_write_chest world target ref old new found written] at visible
    simpa [hintVisible,found] using fades visible
  · rwa [hintVisible_write_chest_of_ne world target ref new written kept actor same] at visible

theorem Fades.spawn {world target : World F} (ball : ABall F) (hidden : ball.hintVisible = false)
    (balls : target.balls = world.balls.spawn ball) (kept : target.chests = world.chests) :
    world.Fades target := by
  intro actor visible
  cases actor with
  | chest ref => simpa [hintVisible,kept] using visible
  | ball ref =>
    simp only [hintVisible,balls,Pool.read_spawn] at visible ⊢
    split at visible
    · simp [hidden] at visible
    · exact visible

theorem Fades.trans {first second third : World F} (earlier : first.Fades second)
    (later : second.Fades third) : first.Fades third := by
  intro actor visible
  exact earlier actor (later actor visible)

theorem OneHint.fades {world target : World F} (one : world.OneHint) (fades : world.Fades target)
    (last : target.player.lastHitInteractableActor = world.player.lastHitInteractableActor) :
    target.OneHint := by
  apply (oneHint_iff target).mpr
  intro actor visible
  rw [last]
  exact one.aimed actor (fades actor visible)

theorem OneHint.leaves {world target : World F} (one : world.OneHint) (fades : world.Fades target)
    (last : InteractableRef) (aimed : world.player.lastHitInteractableActor = some last)
    (hidden : target.hintVisible last = false) : target.OneHint := by
  apply (oneHint_iff target).mpr
  intro actor visible
  have same := (one.aimed actor (fades actor visible)).symm.trans aimed
  rw [Option.some.inj same,hidden] at visible
  contradiction

/-- The player turns to another actor only from one whose hint is hidden. -/
def TurnsFromHidden (world : World F) (actor : InteractableRef) : Prop :=
  ∀ last, world.player.lastHitInteractableActor = some last → last ≠ actor →
    world.hintVisible last = false

theorem OneHint.looks {world target : World F} (one : world.OneHint) (actor : InteractableRef)
    (last : target.player.lastHitInteractableActor = some actor)
    (others : ∀ other, other ≠ actor → target.hintVisible other = world.hintVisible other) :
    target.OneHint ↔ world.TurnsFromHidden actor := by
  rw [oneHint_iff,last]
  constructor
  · intro aimed other before different
    cases visible : world.hintVisible other with
    | false => rfl
    | true =>
      rw [← others other different] at visible
      exact absurd (Option.some.inj (aimed other visible)).symm different
  · intro hidden other visible
    by_cases same : other = actor
    · rw [same]
    · rw [others other same] at visible
      rw [hidden other (one.aimed other visible) same] at visible
      contradiction

variable [EngineFloat F]

def LooksFromHidden (world : World F) : Event F → Prop
  | .tick view => ∀ actor, world.player.lineTrace view = .hitInteractable actor →
    world.TurnsFromHidden actor
  | _ => True

theorem looksFromHidden_iff (world : World F) (view : PlayerView F) (actor : InteractableRef)
    (traced : world.player.lineTrace view = .hitInteractable actor) :
    world.LooksFromHidden (.tick view) ↔ world.TurnsFromHidden actor := by
  constructor
  · intro hidden
    exact hidden actor traced
  · intro hidden other seen
    rw [traced] at seen
    cases seen
    exact hidden

theorem looksFromHidden_of_other (world : World F) (view : PlayerView F)
    (traced : ∀ actor, world.player.lineTrace view ≠ .hitInteractable actor) :
    world.LooksFromHidden (.tick view) := by
  intro actor seen
  exact absurd seen (traced actor)

theorem effect_oneHint (E : Engine F) (world target : World F) (event : Event F)
    (calls : List GameCall) (effect : Effect E world event target calls) (honest : world.Honest)
    (one : world.OneHint) : target.OneHint ↔ world.LooksFromHidden event := by
  cases effect with
  | lookBall view ref ball traced found =>
    rw [looksFromHidden_iff world view _ traced]
    apply one.looks (.ball ref) (by simp)
    intro other different
    exact hintVisible_write_ball_of_ne world _ ref _ (by rfl) (by rfl) other different
  | lookChest view ref chest traced found shown =>
    rw [looksFromHidden_iff world view _ traced]
    apply one.looks (.chest ref) (by simp)
    intro other different
    exact hintVisible_write_chest_of_ne world _ ref _ (by rfl) (by rfl) other different
  | leaveBall view ref ball traced last found =>
    have hidden := (honest.balls ref ball found).hinted_false
    refine iff_of_true ?_ (looksFromHidden_of_other world view (by simp [traced]))
    refine one.leaves (Fades.ball ref ball _ found rfl rfl ball.hinted_false_fades) (.ball ref) last ?_
    exact Eq.trans (hintVisible_write_ball world _ ref ball _ found (by rfl)) hidden
  | leaveChest view ref chest traced last found shown =>
    have hidden := (honest.chests ref chest found).hinted_false
    refine iff_of_true ?_ (looksFromHidden_of_other world view (by simp [traced]))
    refine one.leaves (Fades.chest ref chest _ found rfl rfl (by simp [hidden])) (.chest ref) last ?_
    exact Eq.trans (hintVisible_write_chest world _ ref chest _ found (by rfl)) hidden
  | lookOn view traced =>
    refine iff_of_true ?_ (looksFromHidden_of_other world view ?_)
    · exact one.fades (fun actor visible => visible) (by simp)
    · intro actor
      rcases traced with missed | ⟨other,_⟩
      · simp [missed]
      · simp [other]
  | pressNothing | pressBlocked | throwNothing | hitNothing | chaseOn | carryOn =>
    exact iff_of_true one trivial
  | stopIgnoring => exact iff_of_true (one.fades (fun actor visible => visible) (by simp)) trivial
  | pickUp ref ball hud last found free display =>
    exact iff_of_true (one.fades (Fades.ball ref ball _ found rfl rfl
      (ball.attachTo .player).hinted_false_fades) rfl) trivial
  | pressChest ref chest moved last found taken =>
    have hidden := chest.interaction_hint moved taken (honest.chests ref chest found)
    exact iff_of_true (one.fades (Fades.chest ref chest _ found rfl rfl (by simp [hidden])) rfl) trivial
  | throw location ref ball hud hand found display =>
    have hidden := (honest.balls ref ball found).launched world.player.throwStrength
      (world.player.throwDirection E location)
    exact iff_of_true (one.fades (Fades.ball ref ball _ found rfl rfl
      (fun visible => absurd (hidden.symm.trans visible) (by simp))) rfl) trivial
  | land ref spawned ball found =>
    exact iff_of_true (one.fades (Fades.ball ref ball _ found rfl rfl (fun visible => visible)) rfl) trivial
  | answer ref ball thrower tree retriever found =>
    exact iff_of_true (one.fades (Fades.ball ref ball _ found rfl rfl (fun visible => visible)) rfl) trivial
  | strand ref ball thrower found =>
    exact iff_of_true (one.fades (Fades.ball ref ball _ found rfl rfl (fun visible => visible)) rfl) trivial
  | chestTick ref chest deltaTime found =>
    have same := chest.tick_hintVisible E deltaTime
    exact iff_of_true (one.fades (Fades.chest ref chest _ found rfl rfl (by simp [same])) rfl) trivial
  | chestWait ref chest found =>
    have same := chest.fireTimer_hintVisible
    exact iff_of_true (one.fades (Fades.chest ref chest _ found rfl rfl (by simp [same])) rfl) trivial
  | chestDrop ref chest dropped ballClass found =>
    have same := chest.fireTimer_hintVisible
    have hidden := (ABall.honest_of_hidden (ABall.new_hidden ballClass)).launched dropped.dropStrength
      dropped.direction
    have fired : world.Fades {world with chests := world.chests.write ref chest.fireTimer.1} :=
      Fades.chest ref chest _ found rfl rfl (by simp [same])
    exact iff_of_true (one.fades (fired.trans (Fades.spawn _ hidden rfl rfl)) rfl) trivial
  | reach ref task distance retriever controler key ball found alive state named there =>
    exact iff_of_true (one.fades (Fades.ball key ball _ there rfl rfl (fun visible => visible)) rfl) trivial
  | deliver ref task distance retriever controler key ball found alive state named there =>
    have hidden := (honest.balls key ball there).launched ((1 : ℕ) : F) FVector.zeroVector
    exact iff_of_true (one.fades (Fades.ball key ball _ there rfl rfl
      (fun visible => absurd (hidden.symm.trans visible) (by simp))) rfl) trivial

/-- A run shows at most one hint, the aimed actor's, throughout exactly when every trace that hits an
interactable actor comes from that actor, from none, or from one whose hint is hidden. -/
theorem oneHint_run (E : Engine F)
    (history : List (Machine.Moment (World F) (Event F) GameCall)) (world : World F)
    (run : (machine E).Run history world) :
    Machine.Throughout OneHint history world ↔
      ∀ moment ∈ history, moment.source.LooksFromHidden moment.event := by
  apply run.exact (I := Honest)
  · intro state reachable
    obtain ⟨earlier,reached⟩ := reachable
    exact run_honest E reached
  · intro start initial
    apply (oneHint_iff start).mpr
    intro actor visible
    rw [(init_honest start initial).2 actor] at visible
    contradiction
  · intro source event calls target honest one step
    exact effect_oneHint E source target event calls (step_effect E _ _ _ _ step) honest one

theorem oneHint_run_turnedAway : ∃ history world, (machine Engine.exact).Run history world ∧
    history.map (·.event) = [.tick (.tracing (.hitInteractable (.ball 1))),.tick (.tracing .hitOther),
      .tick (.tracing (.hitInteractable (.ball 0)))] ∧
    Machine.Throughout OneHint history world := by
  have start := Machine.Run.start (M := machine Engine.exact) _ (ballLevel_init 2).1
  have first := Machine.Run.next _ _ (.tick (.tracing (.hitInteractable (.ball 0)))) _ _ start ⟨rfl,rfl⟩
  have away := Machine.Run.next _ _ (.tick (.tracing .hitOther)) _ _ first ⟨rfl,rfl⟩
  have second := Machine.Run.next _ _ (.tick (.tracing (.hitInteractable (.ball 1)))) _ _ away ⟨rfl,rfl⟩
  refine ⟨_,_,second,rfl,(oneHint_run Engine.exact _ _ second).mpr ?_⟩
  intro moment member
  simp only [List.mem_cons,List.not_mem_nil,or_false] at member
  rcases member with rfl | rfl | rfl
  · intro actor seen last aimed
    exact absurd aimed.symm (Option.some_ne_none last)
  · intro actor seen
    have hit : LineTrace.hitOther = .hitInteractable actor := seen
    contradiction
  · intro actor seen last aimed
    exact absurd aimed.symm (Option.some_ne_none last)

/-- A trace that moves straight from one ball to another leaves both hints on. -/
theorem straightTurn_twoHints : ∃ history world, (machine Engine.exact).Run history world ∧
    history.map (·.event) = [.tick (.tracing (.hitInteractable (.ball 1))),
      .tick (.tracing (.hitInteractable (.ball 0)))] ∧
    ¬ Machine.Throughout OneHint history world := by
  have start := Machine.Run.start (M := machine Engine.exact) _ (ballLevel_init 2).1
  have first := Machine.Run.next _ _ (.tick (.tracing (.hitInteractable (.ball 0)))) _ _ start ⟨rfl,rfl⟩
  have second := Machine.Run.next _ _ (.tick (.tracing (.hitInteractable (.ball 1)))) _ _ first ⟨rfl,rfl⟩
  refine ⟨_,_,second,rfl,?_⟩
  intro one
  have same := one.1.single (.ball 0) (.ball 1) rfl rfl
  contradiction

end World

end RetrievingAI
