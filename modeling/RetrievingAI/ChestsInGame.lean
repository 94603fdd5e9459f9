import RetrievingAI.ChestCycle
import RetrievingAI.Effect
import RetrievingAI.Lib.Component
import Mathlib.Data.List.Count

/-! Chests in the running game. Whatever else happens, each chest runs its own cycle, and every ball
of the world was placed in the level or paid for by a press that a chest accepted. -/
namespace RetrievingAI
open Fallible

variable {F : Type}

namespace AChest

/-- A press has been accepted and its ball has not dropped yet. -/
def owes (chest : AChest F) : Bool :=
  match chest.currentChestState with
  | .ecsClosed => chest.bTestBoolRotation
  | .ecsOpening => true
  | .ecsOpen => chest.timerHandle == some .ballDropDelayTimer
  | .ecsClosing => false

theorem InPhase.owes {chest : AChest F} {phase : ChestPhase} (here : chest.InPhase phase) :
    chest.owes.toNat = phase.owed := by
  unfold AChest.owes
  rw [here.state,here.rotation,here.timer]
  cases phase <;> rfl

variable [EngineFloat F]

theorem Passes.owed {E : Engine F} {chest moved : AChest F} {event : ChestEvent F}
    {calls : List ChestCall} {phase later : ChestPhase}
    (passes : Passes E chest phase event moved calls later) :
    later.owed + calls.count .dropBall = phase.owed + calls.count .accepted := by
  cases passes with
  | accept | armOpening | armClosing | finishOpening | finishClosing | drop | requestClosing => rfl
  | ignore | hint | rest | turn | count => rfl

theorem step_owes (E : Engine F) (chest moved : AChest F) (event : ChestEvent F)
    (calls : List ChestCall) (phase : ChestPhase) (here : chest.InPhase phase)
    (step : (machine E).Step chest event calls moved) :
    moved.owes.toNat + calls.count .dropBall = chest.owes.toNat + calls.count .accepted := by
  obtain ⟨later,passes⟩ := step_passes E chest moved event calls phase here step
  rw [(passes.inPhase here).owes,here.owes]
  exact passes.owed

end AChest

namespace World

variable [EngineFloat F]

/-- What a chest is told by an event of the game, and the chest's own calls. -/
def chestEvent (world : World F) (ref : Nat) (chest : AChest F) (calls : List GameCall) :
    Event F → Option (ChestEvent F × List ChestCall)
  | .tick view => match world.player.lineTrace view with
    | .hitInteractable actor =>
      if actor = .chest ref then some (.setInteractHintVisibility true,[]) else none
    | .hitOther =>
      if world.player.lastHitInteractableActor = some (.chest ref) then
        some (.setInteractHintVisibility false,[])
      else none
    | .noHit => none
  | .interactButtonPressed =>
    if world.player.lastHitInteractableActor = some (.chest ref) then
      some (.interaction,if chest.bInteractionHintBlocked then [] else [.accepted])
    else none
  | .chestTick other deltaTime => if other = ref then some (.tick deltaTime,[]) else none
  | .chestTimer other =>
    if other = ref then some (.timer,if calls = [] then [] else [.dropBall]) else none
  | _ => none

/-- The moment of a chest inside a moment of the game. -/
def chestMoment (ref : Nat) (moment : Machine.Moment (World F) (Event F) GameCall) :
    Option (Machine.Moment (AChest F) (ChestEvent F) ChestCall) := do
  let chest ← moment.source.chests.read ref
  let moved ← moment.target.chests.read ref
  let told ← moment.source.chestEvent ref chest moment.calls moment.event
  pure ⟨chest,told.1,told.2,moved⟩

/-- The chest takes the step it is told of, or stays as it is. -/
def Follows (E : Engine F) (chest : AChest F) (told : Option (ChestEvent F × List ChestCall))
    (now : Option (AChest F)) : Prop :=
  match told with
  | none => now = some chest
  | some (event,calls) => ∃ moved, now = some moved ∧ (AChest.machine E).Step chest event calls moved

theorem follows_write (E : Engine F) (chests : Pool (AChest F)) (ref other : Nat)
    (chest old moved : AChest F) (event : ChestEvent F) (calls : List ChestCall)
    (found : chests.read ref = some chest) (there : chests.read other = some old)
    (step : (AChest.machine E).Step old event calls moved) :
    Follows E chest (if other = ref then some (event,calls) else none)
      ((chests.write other moved).read ref) := by
  split
  next same =>
    subst same
    rw [found] at there
    cases there
    exact ⟨moved,Pool.read_write_self _ _ _ _ found,step⟩
  next different =>
    exact (Pool.read_write_of_ne _ _ _ _ different).trans found

/-- Every path through the code does to a chest what the chest is told, and nothing else. -/
theorem effect_follows (E : Engine F) (world target : World F) (event : Event F)
    (calls : List GameCall) (effect : Effect E world event target calls) (ref : Nat) (chest : AChest F)
    (found : world.chests.read ref = some chest) :
    Follows E chest (world.chestEvent ref chest calls event) (target.chests.read ref) := by
  cases effect with
  | lookBall view other ball traced => simpa [chestEvent,traced,Follows] using found
  | leaveBall view other ball traced last => simpa [chestEvent,traced,last,Follows] using found
  | lookOn view traced =>
    rcases traced with missed | ⟨other,nothing⟩
    · simpa [chestEvent,missed,Follows] using found
    · simpa [chestEvent,other,nothing,Follows] using found
  | lookChest view other old traced there shown =>
    have told : world.chestEvent ref chest [] (.tick view) =
        if other = ref then some (.setInteractHintVisibility true,[]) else none := by
      simp [chestEvent,traced]
    rw [told]
    exact follows_write E _ ref other chest old _ _ _ found there ⟨rfl,by rw [AChest.step,shown]; rfl⟩
  | leaveChest view other old traced last there shown =>
    have told : world.chestEvent ref chest [] (.tick view) =
        if other = ref then some (.setInteractHintVisibility false,[]) else none := by
      simp [chestEvent,traced,last]
    rw [told]
    exact follows_write E _ ref other chest old _ _ _ found there ⟨rfl,by rw [AChest.step,shown]; rfl⟩
  | pressNothing last | pressBlocked other ball last | pickUp other ball hud last =>
    simpa [chestEvent,last,Follows] using found
  | pressChest other old moved last there taken =>
    have told : world.chestEvent ref chest [.interaction (.chest other)] .interactButtonPressed =
        if other = ref then some (.interaction,if old.bInteractionHintBlocked then [] else [.accepted])
        else none := by
      by_cases same : other = ref
      · subst same
        rw [found] at there
        cases there
        simp [chestEvent,last]
      · simp [chestEvent,last,same]
    rw [told]
    exact follows_write E _ ref other chest old moved _ _ found there
      ⟨rfl,by rw [AChest.step,taken]; rfl⟩
  | chestTick other old deltaTime there =>
    exact follows_write E _ ref other chest old _ _ _ found there ⟨rfl,rfl⟩
  | chestWait other old there running quiet =>
    refine follows_write E _ ref other chest old _ _ _ found there ⟨running,?_⟩
    simp [AChest.step,quiet]
    rfl
  | chestDrop other old dropped ballClass there running drops =>
    refine follows_write E _ ref other chest old _ _ _ found there ⟨running,?_⟩
    simp [AChest.step,drops]
    rfl
  | throwNothing | throw | stopIgnoring | hitNothing | land | answer | strand | chaseOn | reach
  | carryOn | deliver => exact found

/-- A chest of the game as a component of it. -/
def chestComponent (E : Engine F) (ref : Nat) :
    Machine.Component (machine E) (AChest.machine E) where
  part world := world.chests.read ref
  own := chestMoment ref
  still moment chest step found unseen := by
    have follows := effect_follows E _ _ _ _ (step_effect E _ _ _ _ step) ref chest found
    cases told : moment.source.chestEvent ref chest moment.calls moment.event with
    | none => rwa [told] at follows
    | some own =>
      rw [told] at follows
      obtain ⟨moved,now,_⟩ := follows
      simp [chestMoment,found,now,told] at unseen
  moves moment chest taken step found seen := by
    have follows := effect_follows E _ _ _ _ (step_effect E _ _ _ _ step) ref chest found
    cases told : moment.source.chestEvent ref chest moment.calls moment.event with
    | none => simp [chestMoment,found,told] at seen
    | some own =>
      rw [told] at follows
      obtain ⟨moved,now,stepped⟩ := follows
      have same : Machine.Moment.mk chest own.1 own.2 moved = taken := by
        simpa [chestMoment,found,now,told] using seen
      subst same
      exact ⟨rfl,stepped,now⟩

/-- The game seen from a chest is a run of the chest alone, and all that the chest does is decided by
what it is told: two games that tell a chest the same leave the same chest, after the same moments. -/
theorem chest_inGame (E : Engine F) (start world : World F)
    (history : List (Machine.Moment (World F) (Event F) GameCall))
    (path : (machine E).Path start history world) (ref : Nat) (chest : AChest F)
    (found : start.chests.read ref = some chest) :
    ∃ now, world.chests.read ref = some now ∧
      (AChest.machine E).Path chest (history.filterMap (chestMoment ref)) now ∧
      ∀ start' history' world' other, (machine E).Path start' history' world' →
        start'.chests.read other = some chest →
        (history'.filterMap (chestMoment other)).map (·.event) =
          (history.filterMap (chestMoment ref)).map (·.event) →
        history'.filterMap (chestMoment other) = history.filterMap (chestMoment ref) ∧
          world'.chests.read other = some now := by
  obtain ⟨now,there,own⟩ := (chestComponent E ref).path path chest found
  refine ⟨now,there,own,?_⟩
  intro start' history' world' other path' found' told
  obtain ⟨now',there',own'⟩ := (chestComponent E other).path path' chest found'
  obtain ⟨same,reached⟩ := own.deterministic (Machine.ofFallible_deterministic _ _ _) _ _ own' told
  exact ⟨same,by rw [← reached]; exact there'⟩

theorem effect_chestPresent (E : Engine F) (world target : World F) (event : Event F)
    (calls : List GameCall) (effect : Effect E world event target calls) (ref : Nat) :
    (target.chests.read ref).isSome = (world.chests.read ref).isSome := by
  cases effect with
  | lookBall | lookChest | leaveBall | leaveChest | lookOn | pressNothing | pressBlocked | pickUp
  | pressChest | throwNothing | throw | stopIgnoring | hitNothing | land | answer | strand
  | chestTick | chestWait | chestDrop | chaseOn | reach | carryOn | deliver => simp

/-- What a chest keeps in every step of its own it keeps in the game. -/
theorem effect_chests (E : Engine F) (world target : World F) (event : Event F) (calls : List GameCall)
    (effect : Effect E world event target calls) {P : AChest F → Prop}
    (kept : ∀ chest own made moved, P chest → (AChest.machine E).Step chest own made moved → P moved)
    (all : world.chests.All P) : target.chests.All P := by
  intro ref now there
  have present := effect_chestPresent E world target event calls effect ref
  rw [there] at present
  obtain ⟨chest,found⟩ := Option.isSome_iff_exists.mp present.symm
  have follows := effect_follows E world target event calls effect ref chest found
  rw [there] at follows
  cases told : world.chestEvent ref chest calls event with
  | none =>
    rw [told] at follows
    cases follows
    exact all ref now found
  | some own =>
    rw [told] at follows
    obtain ⟨moved,same,step⟩ := follows
    cases same
    exact kept chest own.1 own.2 now (all ref chest found) step

/-- Every chest is in a phase of its cycle. -/
def Cycling (world : World F) : Prop := world.chests.All fun chest => ∃ phase, chest.InPhase phase

theorem init_cycling (world : World F) (initial : world.Init) : world.Cycling := by
  intro ref chest found
  exact ⟨.idle,chest.init_inPhase (initial.chests ref chest found).1⟩

theorem effect_cycling (E : Engine F) (world target : World F) (event : Event F)
    (calls : List GameCall) (effect : Effect E world event target calls) (cycling : world.Cycling) :
    target.Cycling := by
  refine effect_chests E world target event calls effect ?_ cycling
  intro chest own made moved cycles step
  obtain ⟨phase,here⟩ := cycles
  obtain ⟨later,passes⟩ := AChest.step_passes E chest moved own made phase here step
  exact ⟨later,passes.inPhase here⟩

theorem run_cycling (E : Engine F) {history : List (Machine.Moment (World F) (Event F) GameCall)}
    {world : World F} (run : (machine E).Run history world) : world.Cycling := by
  apply run.invariant init_cycling
  intro source event calls target cycling step
  exact effect_cycling E source target event calls (step_effect E _ _ _ _ step) cycling

omit [EngineFloat F] in
/-- The press reaches a chest that accepts it. -/
def acceptsPress (world : World F) : Event F → Bool
  | .interactButtonPressed => match world.player.lastHitInteractableActor with
    | some (.chest ref) => (world.chests.read ref).any (!·.bInteractionHintBlocked)
    | _ => false
  | _ => false

theorem Cycling.write_owes {world : World F} (cycling : world.Cycling) (E : Engine F) (ref : Nat)
    (chest moved : AChest F) (event : ChestEvent F) (calls : List ChestCall)
    (found : world.chests.read ref = some chest)
    (step : (AChest.machine E).Step chest event calls moved) :
    (world.chests.write ref moved).count AChest.owes + calls.count .dropBall =
      world.chests.count AChest.owes + calls.count .accepted := by
  obtain ⟨phase,here⟩ := cycling ref chest found
  have owed := AChest.step_owes E chest moved event calls phase here step
  have counted := world.chests.count_write AChest.owes ref chest moved found
  omega

/-- No step makes or loses a ball but for the press that a chest accepts. -/
theorem effect_conserves (E : Engine F) (world target : World F) (event : Event F)
    (calls : List GameCall) (effect : Effect E world event target calls) (cycling : world.Cycling) :
    target.balls.fresh + target.chests.count AChest.owes =
      world.balls.fresh + world.chests.count AChest.owes + (world.acceptsPress event).toNat := by
  cases effect with
  | lookBall | leaveBall | lookOn | throwNothing | throw | stopIgnoring | hitNothing | land | answer
  | strand | chaseOn | reach | carryOn | deliver => simp [acceptsPress]
  | pressNothing last | pressBlocked ref ball last | pickUp ref ball hud last =>
    simp [acceptsPress,last]
  | lookChest view ref chest traced found shown =>
    have kept := cycling.write_owes E ref chest _ (.setInteractHintVisibility true) [] found
      ⟨rfl,by rw [AChest.step,shown]; rfl⟩
    simpa [acceptsPress] using kept
  | leaveChest view ref chest traced last found shown =>
    have kept := cycling.write_owes E ref chest _ (.setInteractHintVisibility false) [] found
      ⟨rfl,by rw [AChest.step,shown]; rfl⟩
    simpa [acceptsPress] using kept
  | pressChest ref chest moved last found taken =>
    have paid := cycling.write_owes E ref chest moved .interaction _ found
      ⟨rfl,by rw [AChest.step,taken]; rfl⟩
    cases blocked : chest.bInteractionHintBlocked with
    | false =>
      simp [blocked] at paid
      simp [acceptsPress,last,found,blocked]
      omega
    | true =>
      simp [blocked] at paid
      simp [acceptsPress,last,found,blocked,paid]
  | chestTick ref chest deltaTime found =>
    have kept := cycling.write_owes E ref chest _ (.tick deltaTime) [] found ⟨rfl,rfl⟩
    simpa [acceptsPress] using kept
  | chestWait ref chest found running quiet =>
    have kept := cycling.write_owes E ref chest chest.fireTimer.1 .timer [] found
      ⟨running,by simp [AChest.step,quiet]; rfl⟩
    simpa [acceptsPress] using kept
  | chestDrop ref chest dropped ballClass found running drops class_ =>
    have paid := cycling.write_owes E ref chest chest.fireTimer.1 .timer [.dropBall] found
      ⟨running,by simp [AChest.step,drops]; rfl⟩
    simp at paid
    simp [acceptsPress]
    omega

/-- The accepted presses of a run. -/
def acceptedPresses (history : List (Machine.Moment (World F) (Event F) GameCall)) : Nat :=
  history.countP fun moment => moment.source.acceptsPress moment.event

/-- The balls of the world and those that chests still owe are the balls the level began with and one
for every press that a chest accepted. -/
theorem balls_conserved (E : Engine F) (start : World F) (initial : start.Init)
    (history : List (Machine.Moment (World F) (Event F) GameCall)) (world : World F)
    (path : (machine E).Path start history world) :
    world.balls.fresh + world.chests.count AChest.owes =
      start.balls.fresh + acceptedPresses history := by
  induction path with
  | refl =>
    have none : start.chests.count AChest.owes = 0 := by
      apply Pool.count_eq_zero
      intro ref chest found
      have ready := (initial.chests ref chest found).1
      simp [AChest.owes,ready.state,ready.rotation]
    rw [none]
    rfl
  | next history source event calls target before step ih =>
    have run := (Machine.Run.start start initial).extend before
    have moved := effect_conserves E source target event calls (step_effect E _ _ _ _ step)
      (run_cycling E run)
    have counted : acceptedPresses (⟨source,event,calls,target⟩ :: history) =
        acceptedPresses history + (source.acceptsPress event).toNat := by
      rw [acceptedPresses,List.countP_cons]
      cases source.acceptsPress event <;> rfl
    omega

/-- A level with one chest, whose balls call retrievers. -/
def chestLevel : World ℚ :=
  level (.new (some ⟨some ⟨"",.white,.visible⟩⟩) (some ⟨"BT_AI"⟩) "CharacterMesh" "Pawn") [] []
    [.new (some ⟨some ⟨"BP_AI"⟩,none⟩) none]

theorem chestLevel_init : chestLevel.Init := by
  apply level_init _ _ _ _ (APlayerCharacter.new_constructed _ _ _ _)
  intro chest inside
  rw [List.mem_singleton.mp inside]
  exact ⟨AChest.new_init _ _,rfl⟩

theorem chest_inGame_opened : ∃ history world now, (machine Engine.exact).Path chestLevel history world ∧
    history.map (·.event) = [.interactButtonPressed,.tick (.tracing (.hitInteractable (.chest 0)))] ∧
    world.chests.read 0 = some now ∧
    (AChest.machine Engine.exact).Path (.new (some ⟨some ⟨"BP_AI"⟩,none⟩) none)
      (history.filterMap (chestMoment 0)) now := by
  have start : (machine Engine.exact).Path chestLevel [] chestLevel := .refl
  have aimed := Machine.Path.next _ _ (.tick (.tracing (.hitInteractable (.chest 0)))) _ _ start ⟨rfl,rfl⟩
  have pressed := Machine.Path.next _ _ .interactButtonPressed _ _ aimed ⟨rfl,rfl⟩
  obtain ⟨now,there,own,_⟩ := chest_inGame Engine.exact _ _ _ pressed 0 _ rfl
  exact ⟨_,_,now,pressed,rfl,there,own⟩

theorem balls_conserved_owed : ∃ history world, (machine Engine.exact).Path chestLevel history world ∧
    history.map (·.event) = [.interactButtonPressed,.tick (.tracing (.hitInteractable (.chest 0)))] ∧
    world.balls.fresh + world.chests.count AChest.owes = 0 + 1 := by
  have start : (machine Engine.exact).Path chestLevel [] chestLevel := .refl
  have aimed := Machine.Path.next _ _ (.tick (.tracing (.hitInteractable (.chest 0)))) _ _ start ⟨rfl,rfl⟩
  have pressed := Machine.Path.next _ _ .interactButtonPressed _ _ aimed ⟨rfl,rfl⟩
  exact ⟨_,_,pressed,rfl,balls_conserved Engine.exact _ chestLevel_init _ _ pressed⟩

end World

end RetrievingAI
