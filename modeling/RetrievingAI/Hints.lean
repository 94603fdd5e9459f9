import RetrievingAI.Defaults

/-! Interaction hints. A visible hint always tells the truth about its actor; but the hint of an
actor that the player stops aiming at is hidden only if the trace then hits no other interactable. -/
namespace RetrievingAI

namespace Hint

variable {visible accepts : Bool}

theorem hidden (honest : visible = true → accepts = true) (busy : accepts = false) : visible = false := by
  cases visible with
  | false => rfl
  | true =>
    rw [honest rfl] at busy
    contradiction

theorem honest_of_hidden (unseen : visible = false) : visible = true → accepts = true := by
  intro seen
  rw [unseen] at seen
  contradiction

/-- An owner that asks whether it accepts before it shows or hides its hint keeps the hint honest. -/
theorem guarded (honest : visible = true → accepts = true) (asked : Bool) :
    (if accepts then asked else visible) = true → accepts = true := by
  intro seen
  split at seen
  next accepted => exact accepted
  next => exact honest seen

theorem guarded_false (honest : visible = true → accepts = true) :
    (if accepts then false else visible) = false := by
  split
  next => rfl
  next busy => exact hidden honest (by simpa using busy)

end Hint

variable {F : Type}

namespace ABall

/-- Neither blocked nor in flight: what the ball itself asks before it shows or hides its hint. -/
def accepts (ball : ABall F) : Bool := !ball.bInteractionHintBlocked && !ball.bBallThrown

/-- Only a ball that accepts an interaction shows its hint. -/
def Honest (ball : ABall F) : Prop := ball.hintVisible = true → ball.accepts = true

theorem Honest.hidden {ball : ABall F} (honest : ball.Honest) (busy : ball.accepts = false) :
    ball.hintVisible = false :=
  Hint.hidden honest busy

theorem hinted_accepts (ball : ABall F) (bIsVisible : Bool) :
    (ball.hinted bIsVisible).accepts = ball.accepts := by
  simp [accepts]

theorem hinted_hintVisible (ball : ABall F) (bIsVisible : Bool) :
    (ball.hinted bIsVisible).hintVisible = if ball.accepts then
      bIsVisible && UWidgetComponent.bound ball.interactionWidgetComponent else ball.hintVisible := by
  unfold hinted accepts hintVisible
  cases ball.bInteractionHintBlocked <;> cases ball.bBallThrown <;> simp

theorem Honest.hinted {ball : ABall F} (honest : ball.Honest) (bIsVisible : Bool) :
    (ball.hinted bIsVisible).Honest := by
  rw [Honest,hinted_accepts,hinted_hintVisible]
  exact Hint.guarded honest _

theorem hinted_false_fades (ball : ABall F) (visible : (ball.hinted false).hintVisible = true) :
    ball.hintVisible = true := by
  rw [hinted_hintVisible] at visible
  split at visible
  · simp at visible
  · exact visible

theorem Honest.hinted_false {ball : ABall F} (honest : ball.Honest) :
    (ball.hinted false).hintVisible = false := by
  rw [hinted_hintVisible]
  exact Hint.guarded_false honest

theorem Honest.attachTo {ball : ABall F} (honest : ball.Honest) (hand : HandSocket) :
    (ball.attachTo hand).Honest := honest

theorem Honest.launched [EngineFloat F] {ball : ABall F} (honest : ball.Honest) (strength : F)
    (direction : FVector F) : (ball.launched strength direction).hintVisible = false := by
  have moved : ({ball with ballMesh := ⟨true,none,direction.scale strength⟩} : ABall F).Honest := honest
  exact moved.hinted_false

theorem honest_of_hidden {ball : ABall F} (hidden : ball.hintVisible = false) : ball.Honest :=
  Hint.honest_of_hidden hidden

theorem Honest.landed {ball : ABall F} (honest : ball.Honest) (thrown : ball.bBallThrown = true)
    (blocked : Bool) : (ball.landed blocked).Honest := by
  have hidden : ball.hintVisible = false := honest.hidden (by simp [accepts,thrown])
  exact honest_of_hidden hidden

theorem new_hidden [EngineFloat F] (ballClass : BallClass) :
    (new ballClass : ABall F).hintVisible = false := by
  simp [hintVisible,new]

end ABall

namespace AChest

def accepts (chest : AChest F) : Bool := !chest.bInteractionHintBlocked

def Honest (chest : AChest F) : Prop := chest.hintVisible = true → chest.accepts = true

theorem Honest.hidden {chest : AChest F} (honest : chest.Honest) (busy : chest.accepts = false) :
    chest.hintVisible = false :=
  Hint.hidden honest busy

theorem hinted_accepts (chest : AChest F) (bIsVisible : Bool) :
    (chest.hinted bIsVisible).accepts = chest.accepts := by
  simp [accepts]

theorem hinted_hintVisible (chest : AChest F) (bIsVisible : Bool) :
    (chest.hinted bIsVisible).hintVisible = if chest.accepts then
      bIsVisible && UWidgetComponent.bound chest.interactionWidgetComponent else chest.hintVisible := by
  unfold hinted accepts hintVisible
  cases chest.bInteractionHintBlocked <;> simp

theorem Honest.hinted {chest : AChest F} (honest : chest.Honest) (bIsVisible : Bool) :
    (chest.hinted bIsVisible).Honest := by
  rw [Honest,hinted_accepts,hinted_hintVisible]
  exact Hint.guarded honest _

theorem Honest.hinted_false {chest : AChest F} (honest : chest.Honest) :
    (chest.hinted false).hintVisible = false := by
  rw [hinted_hintVisible]
  exact Hint.guarded_false honest

theorem honest_of_hidden {chest : AChest F} (hidden : chest.hintVisible = false) : chest.Honest :=
  Hint.honest_of_hidden hidden

theorem interaction_hint (chest moved : AChest F) (taken : chest.interaction = .ok moved)
    (honest : chest.Honest) : moved.hintVisible = false := by
  rcases chest.interaction_ok moved taken with ⟨blocked,rfl⟩ | ⟨free,rfl⟩
  · exact honest.hidden (by simp [accepts,blocked])
  · have asked : ({chest with bTestBoolRotation := true} : AChest F).Honest := honest
    exact asked.hinted_false

variable [EngineFloat F]

theorem tick_hintVisible (E : Engine F) (chest : AChest F) (deltaTime : F) :
    (chest.tick E deltaTime).hintVisible = chest.hintVisible := by
  simp [hintVisible]

theorem Honest.tick {chest : AChest F} (honest : chest.Honest) (E : Engine F) (deltaTime : F) :
    (chest.tick E deltaTime).Honest := by
  intro visible
  rw [tick_hintVisible] at visible
  have free := honest visible
  simp only [accepts,Bool.not_eq_true'] at free ⊢
  exact chest.tick_blocked E deltaTime free

theorem fireTimer_hintVisible (chest : AChest F) :
    chest.fireTimer.1.hintVisible = chest.hintVisible := by
  simp [hintVisible]

theorem Honest.fireTimer {chest : AChest F} (honest : chest.Honest) : chest.fireTimer.1.Honest := by
  intro visible
  rw [fireTimer_hintVisible] at visible
  simpa [accepts] using honest visible

end AChest

namespace World

def hintVisible (world : World F) : InteractableRef → Bool
  | .ball ref => (world.balls.read ref).any (·.hintVisible)
  | .chest ref => (world.chests.read ref).any (·.hintVisible)

def accepts (world : World F) : InteractableRef → Bool
  | .ball ref => (world.balls.read ref).any (·.accepts)
  | .chest ref => (world.chests.read ref).any (·.accepts)

structure Honest (world : World F) : Prop where
  balls : world.balls.All ABall.Honest
  chests : world.chests.All AChest.Honest

theorem Honest.accepted {world : World F} (honest : world.Honest) (actor : InteractableRef)
    (visible : world.hintVisible actor = true) : world.accepts actor = true := by
  cases actor with
  | ball ref =>
    obtain ⟨ball,found,shown⟩ := Option.any_eq_true _ _ |>.mp visible
    exact Option.any_eq_true _ _ |>.mpr ⟨ball,found,honest.balls ref ball found shown⟩
  | chest ref =>
    obtain ⟨chest,found,shown⟩ := Option.any_eq_true _ _ |>.mp visible
    exact Option.any_eq_true _ _ |>.mpr ⟨chest,found,honest.chests ref chest found shown⟩

theorem hintVisible_write_ball (world target : World F) (ref : Nat) (old new : ABall F)
    (found : world.balls.read ref = some old) (written : target.balls = world.balls.write ref new) :
    target.hintVisible (.ball ref) = new.hintVisible := by
  simp only [hintVisible,written,Pool.read_write_self _ _ _ _ found,Option.any_some]

theorem hintVisible_write_ball_of_ne (world target : World F) (ref : Nat) (new : ABall F)
    (written : target.balls = world.balls.write ref new) (kept : target.chests = world.chests)
    (actor : InteractableRef) (different : actor ≠ .ball ref) :
    target.hintVisible actor = world.hintVisible actor := by
  cases actor with
  | chest other => simp only [hintVisible,kept]
  | ball other =>
    have elsewhere : ref ≠ other := fun same => different (by rw [same])
    simp only [hintVisible,written,Pool.read_write_of_ne _ _ _ _ elsewhere]

theorem hintVisible_write_chest (world target : World F) (ref : Nat) (old new : AChest F)
    (found : world.chests.read ref = some old) (written : target.chests = world.chests.write ref new) :
    target.hintVisible (.chest ref) = new.hintVisible := by
  simp only [hintVisible,written,Pool.read_write_self _ _ _ _ found,Option.any_some]

theorem hintVisible_write_chest_of_ne (world target : World F) (ref : Nat) (new : AChest F)
    (written : target.chests = world.chests.write ref new) (kept : target.balls = world.balls)
    (actor : InteractableRef) (different : actor ≠ .chest ref) :
    target.hintVisible actor = world.hintVisible actor := by
  cases actor with
  | ball other => simp only [hintVisible,kept]
  | chest other =>
    have elsewhere : ref ≠ other := fun same => different (by rw [same])
    simp only [hintVisible,written,Pool.read_write_of_ne _ _ _ _ elsewhere]

variable [EngineFloat F]

theorem init_honest (world : World F) (initial : world.Init) :
    world.Honest ∧ ∀ actor, world.hintVisible actor = false := by
  have balls : ∀ ref ball, world.balls.read ref = some ball → ball.hintVisible = false := by
    intro ref ball found
    obtain ⟨ballClass,rfl⟩ := initial.balls ref ball found
    exact ABall.new_hidden ballClass
  refine ⟨⟨?_,?_⟩,?_⟩
  · intro ref ball found
    exact ABall.honest_of_hidden (balls ref ball found)
  · intro ref chest found
    exact AChest.honest_of_hidden (initial.chests ref chest found).2
  · intro actor
    cases actor with
    | ball ref =>
      cases found : world.balls.read ref with
      | none => simp [hintVisible,found]
      | some ball => simp [hintVisible,found,balls ref ball found]
    | chest ref =>
      cases found : world.chests.read ref with
      | none => simp [hintVisible,found]
      | some chest => simp [hintVisible,found,(initial.chests ref chest found).2]

theorem effect_honest (E : Engine F) (world target : World F) (event : Event F)
    (calls : List GameCall) (effect : Effect E world event target calls) (honest : world.Honest) :
    target.Honest := by
  obtain ⟨balls,chests⟩ := honest
  cases effect with
  | lookBall view ref ball traced found => exact ⟨balls.write ref _ ((balls ref ball found).hinted _),chests⟩
  | leaveBall view ref ball traced last found =>
    exact ⟨balls.write ref _ ((balls ref ball found).hinted _),chests⟩
  | lookChest view ref chest traced found shown =>
    exact ⟨balls,chests.write ref _ ((chests ref chest found).hinted _)⟩
  | leaveChest view ref chest traced last found shown =>
    exact ⟨balls,chests.write ref _ ((chests ref chest found).hinted _)⟩
  | lookOn | pressNothing | pressBlocked | throwNothing | stopIgnoring | hitNothing | chaseOn | carryOn =>
    exact ⟨balls,chests⟩
  | pickUp ref ball hud last found free display =>
    exact ⟨balls.write ref _ (((balls ref ball found).attachTo .player).hinted _),chests⟩
  | pressChest ref chest moved last found taken =>
    have hidden := chest.interaction_hint moved taken (chests ref chest found)
    exact ⟨balls,chests.write ref _ (AChest.honest_of_hidden hidden)⟩
  | throw location ref ball hud hand found display =>
    have hidden := (balls ref ball found).launched world.player.throwStrength
      (world.player.throwDirection E location)
    exact ⟨balls.write ref _ (ABall.honest_of_hidden hidden),chests⟩
  | land ref spawned ball found thrown =>
    exact ⟨balls.write ref _ ((balls ref ball found).landed thrown false),chests⟩
  | answer ref ball thrower tree retriever found thrown =>
    exact ⟨balls.write ref _ ((balls ref ball found).landed thrown true),chests⟩
  | strand ref ball thrower found thrown =>
    exact ⟨balls.write ref _ ((balls ref ball found).landed thrown true),chests⟩
  | chestTick ref chest deltaTime found =>
    exact ⟨balls,chests.write ref _ ((chests ref chest found).tick E deltaTime)⟩
  | chestWait ref chest found => exact ⟨balls,chests.write ref _ (chests ref chest found).fireTimer⟩
  | chestDrop ref chest dropped ballClass found =>
    have hidden := (ABall.honest_of_hidden (ABall.new_hidden ballClass)).launched dropped.dropStrength
      dropped.direction
    exact ⟨balls.spawn _ (ABall.honest_of_hidden hidden),
      chests.write ref _ (chests ref chest found).fireTimer⟩
  | reach ref task distance retriever controler key ball found alive state named there =>
    exact ⟨balls.write key _ ((balls key ball there).attachTo _),chests⟩
  | deliver ref task distance retriever controler key ball found alive state named there =>
    have hidden := (balls key ball there).launched ((1 : ℕ) : F) FVector.zeroVector
    exact ⟨balls.write key _ (ABall.honest_of_hidden hidden),chests⟩

theorem run_honest (E : Engine F) {history : List (Machine.Moment (World F) (Event F) GameCall)}
    {world : World F} (run : (machine E).Run history world) : world.Honest := by
  apply run.invariant
  · intro start initial
    exact (init_honest start initial).1
  · intro source event calls target honest step
    exact effect_honest E source target event calls (step_effect E _ _ _ _ step) honest

/-- Every actor, placed or still in a chest, has its widget and text block set. -/
structure Bound (world : World F) : Prop where
  balls : world.balls.All fun ball => UWidgetComponent.bound ball.interactionWidgetComponent = true
  chests : world.chests.All fun chest => UWidgetComponent.bound chest.interactionWidgetComponent = true
  classes : world.chests.All fun chest =>
    chest.ballBPClass.all (UWidgetComponent.bound ·.interactionWidgetComponent) = true

theorem effect_bound (E : Engine F) (world target : World F) (event : Event F)
    (calls : List GameCall) (effect : Effect E world event target calls) (bound : world.Bound) :
    target.Bound := by
  have kept := effect_keepsDefaults E world target event calls effect
  refine ⟨?_,?_,?_⟩
  · apply kept.balls_all (P := fun _ component => UWidgetComponent.bound component = true)
    · intro aiCharacterClass earlier later alike holds
      exact alike.bound.trans holds
    · exact bound.balls
    · intro ref chest found ballClass named
      have widgets := bound.classes ref chest found
      simpa [named] using widgets
  · apply kept.chests_all (P := fun _ component => UWidgetComponent.bound component = true)
    · intro ballBPClass earlier later alike holds
      exact alike.bound.trans holds
    · exact bound.chests
  · apply kept.chests_all
      (P := fun ballBPClass _ => ballBPClass.all (UWidgetComponent.bound ·.interactionWidgetComponent) = true)
    · intro ballBPClass earlier later alike holds
      exact holds
    · exact bound.classes

theorem tick_shows (E : Engine F) (world target : World F) (view : PlayerView F)
    (calls : List GameCall) (effect : Effect E world (.tick view) target calls) (honest : world.Honest)
    (bound : world.Bound) (actor : InteractableRef)
    (traced : world.player.lineTrace view = .hitInteractable actor) :
    target.hintVisible actor = target.accepts actor := by
  cases effect with
  | lookBall _ ref ball seen found =>
    rw [seen] at traced
    cases traced
    simp only [hintVisible,World.accepts,Pool.read_write_self _ _ _ _ found,Option.any_some]
    rw [ball.hinted_hintVisible,ball.hinted_accepts,bound.balls ref ball found]
    cases busy : ball.accepts with
    | false => simpa using (honest.balls ref ball found).hidden busy
    | true => rfl
  | lookChest _ ref chest seen found =>
    rw [seen] at traced
    cases traced
    simp only [hintVisible,World.accepts,Pool.read_write_self _ _ _ _ found,Option.any_some]
    rw [chest.hinted_hintVisible,chest.hinted_accepts,bound.chests ref chest found]
    cases busy : chest.accepts with
    | false => simpa using (honest.chests ref chest found).hidden busy
    | true => rfl
  | leaveBall _ ref ball seen | leaveChest _ ref chest seen =>
    rw [seen] at traced
    contradiction
  | lookOn _ seen =>
    rcases seen with missed | ⟨other,_⟩
    · rw [missed] at traced
      contradiction
    · rw [other] at traced
      contradiction

/-- A visible hint is always on an actor that accepts, and a frame that traces an actor leaves its
hint visible exactly when it does. -/
theorem hint_agrees (E : Engine F)
    (history : List (Machine.Moment (World F) (Event F) GameCall)) (world : World F)
    (run : ((machine E).starting Bound).Run history world) :
    (∀ actor, world.hintVisible actor = true → world.accepts actor = true) ∧
    ∀ moment ∈ history, ∀ view actor, moment.event = .tick view →
      moment.source.player.lineTrace view = .hitInteractable actor →
      (moment.target.hintVisible actor = true ↔ moment.target.accepts actor = true) := by
  have honest := run_honest E run.of_starting
  refine ⟨honest.accepted,?_⟩
  intro moment member view actor looked traced
  obtain ⟨⟨earlier,reached⟩,step⟩ := run.step_of_mem moment member
  have bound : moment.source.Bound := by
    apply reached.invariant
    · intro start initial
      exact initial.2
    · intro source event calls target bound step
      exact effect_bound E source target event calls (step_effect E _ _ _ _ step) bound
  have effect := step_effect E _ _ _ _ step
  rw [looked] at effect
  rw [tick_shows E _ _ view _ effect (run_honest E reached.of_starting) bound actor traced]

/-- A level with one ball and one chest, both with a hint to show. -/
def hintLevel : World ℚ :=
  level (.new (some ⟨some ⟨"",.white,.visible⟩⟩) (some ⟨"BT_AI"⟩) "CharacterMesh" "Pawn") []
    [⟨some ⟨"BP_AI"⟩,some ⟨some ⟨some ⟨"",.white,.visible⟩⟩⟩⟩]
    [.new (some ⟨some ⟨"BP_AI"⟩,some ⟨some ⟨some ⟨"",.white,.visible⟩⟩⟩⟩)
      (some ⟨some ⟨some ⟨"",.white,.hidden⟩⟩⟩)]

theorem hintLevel_bound : ((machine Engine.exact).starting Bound).Init hintLevel := by
  refine ⟨level_init _ _ _ _ (APlayerCharacter.new_constructed _ _ _ _) ?_,⟨?_,?_,?_⟩⟩
  · intro chest inside
    rw [List.mem_singleton.mp inside]
    exact ⟨AChest.new_init _ _,rfl⟩
  · intro ref ball found
    rw [List.mem_singleton.mp (List.mem_of_getElem? found)]
    rfl
  · intro ref chest found
    rw [List.mem_singleton.mp (List.mem_of_getElem? found)]
    rfl
  · intro ref chest found
    rw [List.mem_singleton.mp (List.mem_of_getElem? found)]
    rfl

theorem hint_agrees_aimed : ∃ history world, ((machine Engine.exact).starting Bound).Run history world ∧
    history.map (·.event) = [.tick (.tracing (.hitInteractable (.chest 0))),.interactButtonPressed,
      .tick (.tracing (.hitInteractable (.chest 0))),.tick (.tracing (.hitInteractable (.ball 0)))] ∧
    (world.hintVisible (.ball 0) = true ∧ world.accepts (.ball 0) = true) ∧
    (world.hintVisible (.chest 0) = false ∧ world.accepts (.chest 0) = false) ∧
    ∃ moment ∈ history, moment.target.hintVisible (.chest 0) = true ∧
      moment.target.accepts (.chest 0) = true := by
  have start := Machine.Run.start (M := (machine Engine.exact).starting Bound) _ hintLevel_bound
  have aimed := Machine.Run.next _ _ (.tick (.tracing (.hitInteractable (.ball 0)))) _ _ start ⟨rfl,rfl⟩
  have turned := Machine.Run.next _ _ (.tick (.tracing (.hitInteractable (.chest 0)))) _ _ aimed ⟨rfl,rfl⟩
  have pressed := Machine.Run.next _ _ .interactButtonPressed _ _ turned ⟨rfl,rfl⟩
  have blocked := Machine.Run.next _ _ (.tick (.tracing (.hitInteractable (.chest 0)))) _ _ pressed
    ⟨rfl,rfl⟩
  obtain ⟨honest,shows⟩ := hint_agrees Engine.exact _ _ blocked
  have dark := shows _ List.mem_cons_self _ (.chest 0) rfl rfl
  have lit := shows _ (List.mem_cons_of_mem _ (List.mem_cons_of_mem _ List.mem_cons_self)) _ (.chest 0)
    rfl rfl
  exact ⟨_,_,blocked,rfl,⟨rfl,honest _ rfl⟩,
    ⟨Bool.eq_false_iff.mpr fun seen => Bool.false_ne_true (dark.mp seen),rfl⟩,
    _,List.mem_cons_of_mem _ (List.mem_cons_of_mem _ List.mem_cons_self),lit.mpr rfl,rfl⟩

end World

end RetrievingAI
