import RetrievingAI.Chest

/-! The opening cycle of a chest as seven phases, and the chest code as a refinement of it. -/
namespace RetrievingAI
open Fallible

/-- Where a chest stands between two acceptances. -/
inductive ChestPhase
  | idle
  | requested
  | opening
  | dropDelay
  | closeDelay
  | closeRequested
  | closing
  deriving DecidableEq,Repr

namespace ChestPhase

def next : ChestPhase → ChestPhase
  | idle => requested
  | requested => opening
  | opening => dropDelay
  | dropDelay => closeDelay
  | closeDelay => closeRequested
  | closeRequested => closing
  | closing => idle

/-- The calls made on leaving a phase. -/
def calls : ChestPhase → List ChestCall
  | idle => [.accepted]
  | dropDelay => [.dropBall]
  | _ => []

def cycle : Machine ChestPhase Unit ChestCall where
  Init phase := phase = idle
  Step source _ calls target := target = source.next ∧ calls = source.calls

/-- The balls a phase still owes to the interaction that was accepted. -/
def owed : ChestPhase → Nat
  | requested | opening | dropDelay => 1
  | _ => 0

theorem cycle_accounts (history : List (Machine.Moment ChestPhase Unit ChestCall)) (phase : ChestPhase)
    (run : cycle.Run history phase) :
    (Machine.calls history).count .accepted = (Machine.calls history).count .dropBall + phase.owed := by
  induction run with
  | start phase begins => rw [show phase = idle from begins]; rfl
  | next history source event calls target run step ih =>
    obtain ⟨rfl,rfl⟩ := step
    rw [Machine.calls_cons,List.count_append,List.count_append,ih]
    cases source <;> simp [ChestPhase.calls,next,owed] <;> omega

def state : ChestPhase → EChestState
  | idle | requested => .ecsClosed
  | opening => .ecsOpening
  | dropDelay | closeDelay | closeRequested => .ecsOpen
  | closing => .ecsClosing

def rotating : ChestPhase → Bool
  | requested | opening | closeRequested | closing => true
  | _ => false

def targeted : ChestPhase → Bool
  | opening | closing => true
  | _ => false

def timer : ChestPhase → Option ChestTimer
  | dropDelay => some .ballDropDelayTimer
  | closeDelay => some .closeLidDelayTimer
  | _ => none

def ignoresBall : ChestPhase → Bool
  | closeDelay => true
  | _ => false

end ChestPhase

/-- The cyclic order of the lid states. -/
def EChestState.succ : EChestState → EChestState
  | .ecsClosed => .ecsOpening
  | .ecsOpening => .ecsOpen
  | .ecsOpen => .ecsClosing
  | .ecsClosing => .ecsClosed

theorem ChestPhase.state_next (phase : ChestPhase) :
    phase.next.state = phase.state ∨ phase.next.state = phase.state.succ := by
  cases phase <;> simp [ChestPhase.next,ChestPhase.state,EChestState.succ]

namespace AChest

variable {F : Type}

/-- The chest's flags, timer and collision profiles are those of the phase. -/
structure InPhase (chest : AChest F) (phase : ChestPhase) : Prop where
  state : chest.currentChestState = phase.state
  rotation : chest.bTestBoolRotation = phase.rotating
  target : chest.bTargetValuesSet = phase.targeted
  blocked : chest.bInteractionHintBlocked = (phase != .idle)
  timer : chest.timerHandle = phase.timer
  container : chest.containerMeshProfile = "IgnoreBall" ↔ phase.ignoresBall = true
  lid : chest.lidMeshProfile = "IgnoreBall" ↔ phase.ignoresBall = true

theorem hinted_inPhase (chest : AChest F) (bIsVisible : Bool) (phase : ChestPhase)
    (here : chest.InPhase phase) : (chest.hinted bIsVisible).InPhase phase := by
  rw [hinted_widget]
  exact ⟨here.state,here.rotation,here.target,here.blocked,here.timer,here.container,here.lid⟩

variable [EngineFloat F]

def arm (chest : AChest F) (direction : F) (state : EChestState) : AChest F :=
  {chest with
    rotateDirection := direction
    currentChestState := state
    targetRotation := chest.lidPivotPitch + chest.openRotationOffset * direction
    bTargetValuesSet := true}

def rotate (E : Engine F) (chest : AChest F) (deltaTime : F) : AChest F :=
  chest.setLidPitch E (E.fInterpConstantTo chest.lidPivotPitch chest.targetRotation deltaTime
    chest.openRotationSpeed)

def finishOpening (E : Engine F) (chest : AChest F) : AChest F :=
  {chest.setLidPitch E chest.targetRotation with
    callTracker := chest.ballDropDelayTimerRemainingCalls
    timerHandle := some .ballDropDelayTimer
    currentChestState := .ecsOpen
    bTestBoolRotation := false
    bTargetValuesSet := false}

def finishClosing (E : Engine F) (chest : AChest F) : AChest F :=
  {chest.setLidPitch E chest.targetRotation with
    currentChestState := .ecsClosed
    bTestBoolRotation := false
    bInteractionHintBlocked := false
    bTargetValuesSet := false}

def arrived (E : Engine F) (chest : AChest F) : Bool :=
  E.isNearlyEqual chest.targetRotation chest.lidPivotPitch ((2 : ℕ) : F)

theorem tick_resting (E : Engine F) (chest : AChest F) (deltaTime : F)
    (resting : chest.bTestBoolRotation = false) : chest.tick E deltaTime = chest := by
  simp [tick,managePivotRotation,resting]

theorem tick_requested (E : Engine F) (chest : AChest F) (deltaTime : F)
    (here : chest.InPhase .requested) :
    chest.tick E deltaTime = chest.arm ((1 : ℕ) : F) .ecsOpening := by
  simp [tick,managePivotRotation,arm,here.rotation,here.target,here.state,ChestPhase.rotating,
    ChestPhase.targeted,ChestPhase.state]

theorem tick_closeRequested (E : Engine F) (chest : AChest F) (deltaTime : F)
    (here : chest.InPhase .closeRequested) :
    chest.tick E deltaTime = chest.arm (-((1 : ℕ) : F)) .ecsClosing := by
  simp [tick,managePivotRotation,arm,here.rotation,here.target,here.state,ChestPhase.rotating,
    ChestPhase.targeted,ChestPhase.state]

theorem tick_opening (E : Engine F) (chest : AChest F) (deltaTime : F)
    (here : chest.InPhase .opening) :
    chest.tick E deltaTime = if (chest.rotate E deltaTime).arrived E then
      (chest.rotate E deltaTime).finishOpening E else chest.rotate E deltaTime := by
  simp [tick,managePivotRotation,rotate,arrived,finishOpening,setLidPitch,here.rotation,
    here.target,here.state,ChestPhase.rotating,ChestPhase.targeted,ChestPhase.state]

theorem tick_closing (E : Engine F) (chest : AChest F) (deltaTime : F)
    (here : chest.InPhase .closing) :
    chest.tick E deltaTime = if (chest.rotate E deltaTime).arrived E then
      (chest.rotate E deltaTime).finishClosing E else chest.rotate E deltaTime := by
  simp [tick,managePivotRotation,rotate,arrived,finishClosing,setLidPitch,here.rotation,
    here.target,here.state,ChestPhase.rotating,ChestPhase.targeted,ChestPhase.state]

omit [EngineFloat F] in
theorem rotate_inPhase (E : Engine F) (chest : AChest F) (deltaTime : F) (phase : ChestPhase)
    (here : chest.InPhase phase) : (chest.rotate E deltaTime).InPhase phase :=
  ⟨here.state,here.rotation,here.target,here.blocked,here.timer,here.container,here.lid⟩

/-- What one event does to a chest in a phase, path by path through the code, and the phase after. -/
inductive Passes (E : Engine F) (chest : AChest F) :
    ChestPhase → ChestEvent F → AChest F → List ChestCall → ChestPhase → Prop
  | accept (free : chest.bInteractionHintBlocked = false) :
      Passes E chest .idle .interaction
        {({chest with bTestBoolRotation := true} : AChest F).hinted false with
          bInteractionHintBlocked := true} [.accepted] .requested
  | ignore (phase) (blocked : chest.bInteractionHintBlocked = true) :
      Passes E chest phase .interaction chest [] phase
  | hint (phase bIsVisible) :
      Passes E chest phase (.setInteractHintVisibility bIsVisible) (chest.hinted bIsVisible) [] phase
  | rest (phase deltaTime) (resting : phase.rotating = false) :
      Passes E chest phase (.tick deltaTime) chest [] phase
  | armOpening (deltaTime) :
      Passes E chest .requested (.tick deltaTime) (chest.arm ((1 : ℕ) : F) .ecsOpening) [] .opening
  | armClosing (deltaTime) :
      Passes E chest .closeRequested (.tick deltaTime) (chest.arm (-((1 : ℕ) : F)) .ecsClosing) []
        .closing
  | turn (phase deltaTime) (turning : phase.targeted = true)
      (far : (chest.rotate E deltaTime).arrived E = false) :
      Passes E chest phase (.tick deltaTime) (chest.rotate E deltaTime) [] phase
  | finishOpening (deltaTime) (near : (chest.rotate E deltaTime).arrived E = true) :
      Passes E chest .opening (.tick deltaTime) ((chest.rotate E deltaTime).finishOpening E) []
        .dropDelay
  | finishClosing (deltaTime) (near : (chest.rotate E deltaTime).arrived E = true) :
      Passes E chest .closing (.tick deltaTime) ((chest.rotate E deltaTime).finishClosing E) [] .idle
  | count (phase) (running : chest.timerHandle.isSome = true) (on : ¬ chest.callTracker - 1 ≤ 0) :
      Passes E chest phase .timer {chest with callTracker := chest.callTracker - 1} [] phase
  | drop (out : chest.callTracker - 1 ≤ 0) :
      Passes E chest .dropDelay .timer {chest with
        containerMeshProfile := "IgnoreBall"
        lidMeshProfile := "IgnoreBall"
        callTracker := chest.closeLidDelayTimerRemainingCalls
        timerHandle := some .closeLidDelayTimer} [.dropBall] .closeDelay
  | requestClosing (out : chest.callTracker - 1 ≤ 0) :
      Passes E chest .closeDelay .timer {chest with
        containerMeshProfile := "BlockAllDynamic"
        lidMeshProfile := "BlockAllDynamic"
        callTracker := chest.callTracker - 1
        bTestBoolRotation := true
        timerHandle := none} [] .closeRequested

theorem tick_passes (E : Engine F) (chest : AChest F) (deltaTime : F) (phase : ChestPhase)
    (here : chest.InPhase phase) :
    ∃ later, Passes E chest phase (.tick deltaTime) (chest.tick E deltaTime) [] later := by
  cases phase with
  | idle | dropDelay | closeDelay =>
    rw [tick_resting E chest deltaTime here.rotation]
    exact ⟨_,.rest _ deltaTime rfl⟩
  | requested =>
    rw [tick_requested E chest deltaTime here]
    exact ⟨_,.armOpening deltaTime⟩
  | closeRequested =>
    rw [tick_closeRequested E chest deltaTime here]
    exact ⟨_,.armClosing deltaTime⟩
  | opening =>
    rw [tick_opening E chest deltaTime here]
    split
    next near => exact ⟨_,.finishOpening deltaTime near⟩
    next far => exact ⟨_,.turn _ deltaTime rfl (by simpa using far)⟩
  | closing =>
    rw [tick_closing E chest deltaTime here]
    split
    next near => exact ⟨_,.finishClosing deltaTime near⟩
    next far => exact ⟨_,.turn _ deltaTime rfl (by simpa using far)⟩

theorem fireTimer_passes (E : Engine F) (chest : AChest F) (phase : ChestPhase)
    (here : chest.InPhase phase) (running : chest.timerHandle.isSome = true) :
    ∃ later, Passes E chest phase .timer chest.fireTimer.1
      (if chest.fireTimer.2.isSome then [.dropBall] else []) later := by
  have held := here.timer
  cases phase with
  | idle | requested | opening | closeRequested | closing =>
    simp [held,ChestPhase.timer] at running
  | dropDelay =>
    have fired : chest.fireTimer = chest.ballDropDelayTimer := by simp only [fireTimer,held,ChestPhase.timer]
    rw [fired]
    simp only [ballDropDelayTimer,dropBall]
    split
    next out => exact ⟨_,.drop out⟩
    next on => exact ⟨_,.count _ running on⟩
  | closeDelay =>
    have fired : chest.fireTimer = (chest.closeLidDelayTimer,none) := by
      simp only [fireTimer,held,ChestPhase.timer]
    rw [fired]
    simp only [closeLidDelayTimer]
    split
    next out => exact ⟨_,.requestClosing out⟩
    next on => exact ⟨_,.count _ running on⟩

theorem step_passes (E : Engine F) (chest moved : AChest F) (event : ChestEvent F)
    (calls : List ChestCall) (phase : ChestPhase) (here : chest.InPhase phase)
    (step : (machine E).Step chest event calls moved) :
    ∃ later, Passes E chest phase event moved calls later := by
  obtain ⟨enabled,ok⟩ := step
  cases event with
  | interaction =>
    obtain ⟨result,taken,same⟩ := bind_ok _ _ _ ok
    cases same
    rcases interaction_ok chest moved taken with ⟨blocked,rfl⟩ | ⟨free,rfl⟩
    · rw [if_pos blocked]
      exact ⟨_,.ignore phase blocked⟩
    · have idle : phase = .idle := by simpa [free] using here.blocked
      subst idle
      rw [if_neg (by simp [free])]
      exact ⟨_,.accept free⟩
  | setInteractHintVisibility bIsVisible =>
    obtain ⟨result,taken,same⟩ := bind_ok _ _ _ ok
    cases same
    rw [setInteractHintVisibility_ok chest moved bIsVisible taken]
    exact ⟨_,.hint phase bIsVisible⟩
  | tick deltaTime =>
    cases ok
    exact tick_passes E chest deltaTime phase here
  | timer =>
    have made : (chest.fireTimer.1,if chest.fireTimer.2.isSome then [ChestCall.dropBall] else []) =
        (moved,calls) := Except.ok.inj ok
    obtain ⟨rfl,rfl⟩ := Prod.mk.inj made
    exact fireTimer_passes E chest phase here enabled

theorem Passes.inPhase {E : Engine F} {chest moved : AChest F} {event : ChestEvent F}
    {calls : List ChestCall} {phase later : ChestPhase}
    (passes : Passes E chest phase event moved calls later) (here : chest.InPhase phase) :
    moved.InPhase later := by
  cases passes with
  | ignore | rest => exact here
  | hint => exact hinted_inPhase chest _ phase here
  | accept =>
    rw [hinted_widget]
    exact ⟨here.state,rfl,here.target,rfl,here.timer,here.container,here.lid⟩
  | armOpening | armClosing =>
    exact ⟨rfl,here.rotation,rfl,here.blocked,here.timer,here.container,here.lid⟩
  | turn => exact rotate_inPhase E chest _ phase here
  | finishOpening => exact ⟨rfl,rfl,rfl,here.blocked,rfl,here.container,here.lid⟩
  | finishClosing => exact ⟨rfl,rfl,rfl,rfl,here.timer,here.container,here.lid⟩
  | count =>
    exact ⟨here.state,here.rotation,here.target,here.blocked,here.timer,here.container,here.lid⟩
  | drop =>
    exact ⟨here.state,here.rotation,here.target,here.blocked,rfl,by simp [ChestPhase.ignoresBall],
      by simp [ChestPhase.ignoresBall]⟩
  | requestClosing =>
    exact ⟨here.state,rfl,here.target,here.blocked,rfl,by simp [ChestPhase.ignoresBall],
      by simp [ChestPhase.ignoresBall]⟩

/-- One event leaves the phase alone or moves it on by one, making exactly that phase's calls. -/
theorem step_inPhase (E : Engine F) (chest moved : AChest F) (event : ChestEvent F)
    (calls : List ChestCall) (phase : ChestPhase) (here : chest.InPhase phase)
    (step : (machine E).Step chest event calls moved) :
    (moved.InPhase phase ∧ calls = []) ∨ (moved.InPhase phase.next ∧ calls = phase.calls) := by
  obtain ⟨later,passes⟩ := step_passes E chest moved event calls phase here step
  have there := passes.inPhase here
  cases passes with
  | ignore | hint | rest | turn | count => exact Or.inl ⟨there,rfl⟩
  | accept | armOpening | armClosing | finishOpening | finishClosing | drop | requestClosing =>
    exact Or.inr ⟨there,rfl⟩

omit [EngineFloat F] in
theorem init_inPhase (chest : AChest F) (initial : chest.Init) : chest.InPhase .idle :=
  ⟨initial.state,initial.rotation,initial.target,by simp [initial.blocked],initial.timer,
    by simp [initial.container,ChestPhase.ignoresBall],by simp [initial.lid,ChestPhase.ignoresBall]⟩

def refinement (E : Engine F) : Machine.Simulation (machine E) ChestPhase.cycle some where
  R := InPhase
  init chest initial := ⟨.idle,rfl,init_inPhase chest initial⟩
  step source event calls target phase here step := by
    rcases step_inPhase E source target event calls phase here step with ⟨kept,silent⟩ | ⟨moved,made⟩
    · exact ⟨[],phase,.refl,kept,by simp [silent]⟩
    · have taken : ChestPhase.cycle.Step phase () calls phase.next := ⟨rfl,made⟩
      exact ⟨_,phase.next,.single taken,moved,by simp⟩

theorem run_inPhase (E : Engine F) (history : List (Machine.Moment (AChest F) (ChestEvent F) ChestCall))
    (chest : AChest F) (run : (machine E).Run history chest) :
    ∃ phase, chest.InPhase phase ∧
      (Machine.calls history).count .accepted =
        (Machine.calls history).count .dropBall + phase.owed := by
  obtain ⟨mirrored,phase,mirror,here,same⟩ := (refinement E).run run
  have accounts := ChestPhase.cycle_accounts mirrored phase mirror
  rw [same,List.filterMap_some] at accounts
  exact ⟨phase,here,accounts⟩

/-- Every accepted interaction is answered by exactly one ball before the next is accepted, the lid
runs through its states in order, and timer, target and collision follow it. -/
theorem cycle_invariant (E : Engine F)
    (history : List (Machine.Moment (AChest F) (ChestEvent F) ChestCall)) (chest : AChest F)
    (run : (machine E).Run history chest) :
    ((Machine.calls history).count .accepted = (Machine.calls history).count .dropBall ∨
      (Machine.calls history).count .accepted = (Machine.calls history).count .dropBall + 1) ∧
    (chest.bInteractionHintBlocked = false →
      (Machine.calls history).count .accepted = (Machine.calls history).count .dropBall) ∧
    (∀ moment ∈ history, moment.target.currentChestState = moment.source.currentChestState ∨
      moment.target.currentChestState = moment.source.currentChestState.succ) ∧
    (∀ moment ∈ history, .accepted ∈ moment.calls →
      moment.source.currentChestState = .ecsClosed ∧ moment.source.bTestBoolRotation = false) ∧
    (chest.bTargetValuesSet = true ↔
      chest.currentChestState = .ecsOpening ∨ chest.currentChestState = .ecsClosing) ∧
    (chest.bInteractionHintBlocked = false ↔
      chest.currentChestState = .ecsClosed ∧ chest.bTestBoolRotation = false) ∧
    (chest.timerHandle.isSome = true ↔
      chest.currentChestState = .ecsOpen ∧ chest.bTestBoolRotation = false) ∧
    (chest.timerHandle = some .ballDropDelayTimer →
      (Machine.calls history).count .accepted = (Machine.calls history).count .dropBall + 1) ∧
    (chest.containerMeshProfile = "IgnoreBall" ↔ chest.timerHandle = some .closeLidDelayTimer) ∧
    (chest.lidMeshProfile = "IgnoreBall" ↔ chest.timerHandle = some .closeLidDelayTimer) := by
  obtain ⟨phase,here,accounts⟩ := run_inPhase E history chest run
  have order : ∀ moment ∈ history,
      moment.target.currentChestState = moment.source.currentChestState ∨
        moment.target.currentChestState = moment.source.currentChestState.succ := by
    intro moment member
    obtain ⟨⟨earlier,before⟩,step⟩ := run.step_of_mem moment member
    obtain ⟨stage,there,_⟩ := run_inPhase E earlier moment.source before
    rcases step_inPhase E _ _ _ _ stage there step with ⟨kept,_⟩ | ⟨advanced,_⟩
    · exact Or.inl (kept.state.trans there.state.symm)
    · rw [advanced.state,there.state]
      exact stage.state_next
  have rested : ∀ moment ∈ history, .accepted ∈ moment.calls →
      moment.source.currentChestState = .ecsClosed ∧ moment.source.bTestBoolRotation = false := by
    intro moment member accepted
    obtain ⟨⟨earlier,before⟩,step⟩ := run.step_of_mem moment member
    obtain ⟨stage,there,_⟩ := run_inPhase E earlier moment.source before
    rcases step_inPhase E _ _ _ _ stage there step with ⟨_,silent⟩ | ⟨_,made⟩
    · simp [silent] at accepted
    · rw [made] at accepted
      rw [there.state,there.rotation]
      cases stage <;> simp_all [ChestPhase.calls,ChestPhase.state,ChestPhase.rotating]
  refine ⟨?_,?_,order,rested,?_,?_,?_,?_,?_,?_⟩
  · rw [accounts]
    cases phase <;> simp [ChestPhase.owed]
  · intro free
    have idle : phase = .idle := by simpa [free] using here.blocked
    rw [accounts,idle]
    rfl
  · rw [here.target,here.state]
    cases phase <;> simp [ChestPhase.targeted,ChestPhase.state]
  · rw [here.blocked,here.state,here.rotation]
    cases phase <;> simp [ChestPhase.rotating,ChestPhase.state]
  · rw [here.timer,here.state,here.rotation]
    cases phase <;> simp [ChestPhase.timer,ChestPhase.rotating,ChestPhase.state]
  · intro held
    rw [here.timer] at held
    rw [accounts]
    cases phase <;> simp_all [ChestPhase.timer,ChestPhase.owed]
  · rw [here.container,here.timer]
    cases phase <;> simp [ChestPhase.timer,ChestPhase.ignoresBall]
  · rw [here.lid,here.timer]
    cases phase <;> simp [ChestPhase.timer,ChestPhase.ignoresBall]

theorem cycle_invariant_opening : ∃ history chest, (machine Engine.exact).Run history chest ∧
    chest.currentChestState = .ecsOpening ∧ chest.bTargetValuesSet = true := by
  have closed : (machine Engine.exact).Run [] (new none none) := .start _ (new_init none none)
  have requested := Machine.Run.next _ _ .interaction _ _ closed ⟨rfl,rfl⟩
  have opening := Machine.Run.next _ _ (.tick 0) _ _ requested ⟨rfl,rfl⟩
  have law := cycle_invariant Engine.exact _ _ opening
  exact ⟨_,_,opening,rfl,law.2.2.2.2.1.mpr (Or.inl rfl)⟩

end AChest

end RetrievingAI
