import RetrievingAI.ChestLid
import RetrievingAI.Lib.Countdown

/-! How long an opening cycle takes: two rotations bounded by the time they turn, two delays that count
the firings of their timers, and in between only what the next Tick does. -/
namespace RetrievingAI

/-- The interpolation has a constant step: it covers the whole step unless the target is nearer. -/
structure Engine.ConstantStep (E : Engine ℚ) : Prop extends E.Documented where
  advances : ∀ current target deltaTime interpSpeed, 0 ≤ deltaTime → 0 ≤ interpSpeed →
    |target - E.fInterpConstantTo current target deltaTime interpSpeed| ≤
      max 0 (|target-current| - interpSpeed*deltaTime)

theorem Engine.exact_constantStep : Engine.exact.ConstantStep where
  toDocumented := exact_documented
  advances current target _ _ forward positive :=
    Approach.abs_sub_approach_le current target _ (mul_nonneg positive forward)

def ChestEvent.elapsed : ChestEvent ℚ → ℚ
  | .tick deltaTime => deltaTime
  | _ => 0

namespace AChest

variable {F : Type}

/-- The settings that a level gives to a chest. -/
structure SameSettings (chest moved : AChest F) : Prop where
  offset : moved.openRotationOffset = chest.openRotationOffset
  speed : moved.openRotationSpeed = chest.openRotationSpeed
  drops : moved.ballDropDelayTimerRemainingCalls = chest.ballDropDelayTimerRemainingCalls
  closes : moved.closeLidDelayTimerRemainingCalls = chest.closeLidDelayTimerRemainingCalls

theorem SameSettings.trans {first second third : AChest F} (before : first.SameSettings second)
    (after : second.SameSettings third) : first.SameSettings third :=
  ⟨after.offset.trans before.offset,after.speed.trans before.speed,after.drops.trans before.drops,
    after.closes.trans before.closes⟩

def fires (timer : ChestTimer) (moment : Machine.Moment (AChest F) (ChestEvent F) ChestCall) : Bool :=
  match moment.event with
  | .timer => moment.source.timerHandle == some timer
  | _ => false

/-- The firings of a timer since the last accepted interaction, the most recent moment first. -/
def firings (timer : ChestTimer) : List (Machine.Moment (AChest F) (ChestEvent F) ChestCall) → Nat
  | [] => 0
  | moment :: earlier =>
    if moment.calls.contains .accepted then 0
    else if fires timer moment then firings timer earlier + 1
    else firings timer earlier

/-- The total time of the rotating Ticks since the Tick that armed the rotation. -/
def turned : List (Machine.Moment (AChest ℚ) (ChestEvent ℚ) ChestCall) → ℚ
  | [] => 0
  | moment :: earlier =>
    if moment.source.bTargetValuesSet then turned earlier + moment.event.elapsed
    else if moment.target.bTargetValuesSet then 0
    else turned earlier

/-- The preset of a timer. -/
def remainingCalls (chest : AChest F) : ChestTimer → Int32
  | .ballDropDelayTimer => chest.ballDropDelayTimerRemainingCalls
  | .closeLidDelayTimer => chest.closeLidDelayTimerRemainingCalls

/-- One moment of a chest that keeps to its time, after an earlier history. -/
structure OnTime (start : AChest ℚ) (moment : Machine.Moment (AChest ℚ) (ChestEvent ℚ) ChestCall)
    (earlier : List (Machine.Moment (AChest ℚ) (ChestEvent ℚ) ChestCall)) : Prop where
  waits : moment.source.bInteractionHintBlocked = true →
    moment.source.bTestBoolRotation = true ∨ moment.source.timerHandle.isSome = true
  arms : ∀ deltaTime, moment.event = .tick deltaTime → moment.source.bTestBoolRotation = true →
    moment.source.bTargetValuesSet = false → moment.target.bTargetValuesSet = true ∧
      moment.target.currentChestState = moment.source.currentChestState.succ
  finishes : ∀ deltaTime, moment.event = .tick deltaTime → moment.source.bTargetValuesSet = true →
    |start.openRotationOffset|/start.openRotationSpeed ≤ turned (moment :: earlier) →
      moment.target.bTargetValuesSet = false ∧ moment.target.bTestBoolRotation = false ∧
        moment.target.currentChestState = moment.source.currentChestState.succ
  bounded : ∀ timer, (firings timer (moment :: earlier) : Int) ≤ max 1 (start.remainingCalls timer).toInt
  drops : .dropBall ∈ moment.calls ↔ fires .ballDropDelayTimer moment = true ∧
    (firings .ballDropDelayTimer (moment :: earlier) : Int) =
      max 1 (start.remainingCalls .ballDropDelayTimer).toInt
  requests : moment.source.currentChestState = .ecsOpen ∧ moment.source.bTestBoolRotation = false ∧
      moment.target.bTestBoolRotation = true ↔ fires .closeLidDelayTimer moment = true ∧
    (firings .closeLidDelayTimer (moment :: earlier) : Int) =
      max 1 (start.remainingCalls .closeLidDelayTimer).toInt
  closes : moment.source.currentChestState = .ecsClosing → moment.target.bTargetValuesSet = false →
    moment.target.currentChestState = .ecsClosed ∧ moment.target.bInteractionHintBlocked = false
  ignores : moment.event = .interaction → moment.source.bInteractionHintBlocked = true →
    moment.target = moment.source ∧ moment.calls = []

theorem turned_rotating (moment : Machine.Moment (AChest ℚ) (ChestEvent ℚ) ChestCall)
    (earlier : List (Machine.Moment (AChest ℚ) (ChestEvent ℚ) ChestCall))
    (set : moment.source.bTargetValuesSet = true) :
    turned (moment :: earlier) = turned earlier + moment.event.elapsed := by
  rw [turned,if_pos set]

theorem turned_arming (moment : Machine.Moment (AChest ℚ) (ChestEvent ℚ) ChestCall)
    (earlier : List (Machine.Moment (AChest ℚ) (ChestEvent ℚ) ChestCall))
    (unset : moment.source.bTargetValuesSet = false) (armed : moment.target.bTargetValuesSet = true) :
    turned (moment :: earlier) = 0 := by
  rw [turned,if_neg (by simp [unset]),if_pos armed]

section Firings

variable (timer : ChestTimer) (moment : Machine.Moment (AChest F) (ChestEvent F) ChestCall)
  (earlier : List (Machine.Moment (AChest F) (ChestEvent F) ChestCall))

theorem firings_accepted (accepted : .accepted ∈ moment.calls) :
    firings timer (moment :: earlier) = 0 := by
  simp [firings,accepted]

theorem firings_next (silent : .accepted ∉ moment.calls) (fired : fires timer moment = true) :
    firings timer (moment :: earlier) = firings timer earlier + 1 := by
  simp [firings,silent,fired]

theorem firings_same (silent : .accepted ∉ moment.calls) (quiet : fires timer moment = false) :
    firings timer (moment :: earlier) = firings timer earlier := by
  simp [firings,silent,quiet]

end Firings

theorem Passes.sameSettings [EngineFloat F] {E : Engine F} {chest moved : AChest F}
    {event : ChestEvent F} {calls : List ChestCall} {phase later : ChestPhase}
    (passes : Passes E chest phase event moved calls later) : chest.SameSettings moved := by
  cases passes with
  | hint | accept =>
    rw [hinted_widget]
    exact ⟨rfl,rfl,rfl,rfl⟩
  | ignore | rest | armOpening | armClosing | turn | finishOpening | finishClosing | count | drop
  | requestClosing => exact ⟨rfl,rfl,rfl,rfl⟩

theorem rotate_advances (E : Engine ℚ) (constant : E.ConstantStep) (chest : AChest ℚ) (deltaTime : ℚ)
    (forward : 0 ≤ deltaTime) (positive : 0 ≤ chest.openRotationSpeed) :
    |chest.targetRotation - (chest.rotate E deltaTime).lidPivotPitch| ≤
      max 0 (|chest.targetRotation - chest.lidPivotPitch| - chest.openRotationSpeed*deltaTime) := by
  change |_ - E.relativePitch _| ≤ _
  rw [constant.pitch]
  exact constant.advances _ _ _ _ forward positive

theorem arrived_iff (E : Engine ℚ) (constant : E.ConstantStep) (chest : AChest ℚ) (deltaTime : ℚ) :
    (chest.rotate E deltaTime).arrived E = true ↔
      |chest.targetRotation - (chest.rotate E deltaTime).lidPivotPitch| ≤ 2 :=
  constant.near _ _ _

/-- The counters of the two delays, in step with the phase. -/
def Counted (start : AChest ℚ) (history : List (Machine.Moment (AChest ℚ) (ChestEvent ℚ) ChestCall))
    (chest : AChest ℚ) : ChestPhase → Prop
  | .requested | .opening =>
    firings .ballDropDelayTimer history = 0 ∧ firings .closeLidDelayTimer history = 0
  | .dropDelay => firings .closeLidDelayTimer history = 0 ∧
    Countdown start.ballDropDelayTimerRemainingCalls chest.callTracker
      (firings .ballDropDelayTimer history)
  | .closeDelay => Countdown start.closeLidDelayTimerRemainingCalls chest.callTracker
    (firings .closeLidDelayTimer history)
  | .closeRequested | .closing | .idle => True

/-- What holds of a chest in a phase after a history: how far its lid may still be from its target,
and how often its timers have fired. -/
structure Underway (start : AChest ℚ)
    (history : List (Machine.Moment (AChest ℚ) (ChestEvent ℚ) ChestCall)) (chest : AChest ℚ)
    (phase : ChestPhase) : Prop where
  here : chest.InPhase phase
  settings : start.SameSettings chest
  turning : chest.bTargetValuesSet = true → |chest.targetRotation - chest.lidPivotPitch| ≤
    |start.openRotationOffset| - start.openRotationSpeed*turned history
  counted : Counted start history chest phase
  bounded : ∀ timer, (firings timer history : Int) ≤ max 1 (start.remainingCalls timer).toInt

section Step

variable {E : Engine ℚ} {start chest moved : AChest ℚ} {event : ChestEvent ℚ}
  {calls : List ChestCall} {phase later : ChestPhase}
  {history : List (Machine.Moment (AChest ℚ) (ChestEvent ℚ) ChestCall)}

theorem Underway.same_turning (underway : Underway start history chest phase)
    (same : chest.SameLid moved) (still : event.elapsed = 0) (set : moved.bTargetValuesSet = true) :
    |moved.targetRotation - moved.lidPivotPitch| ≤ |start.openRotationOffset| -
      start.openRotationSpeed*turned (⟨chest,event,calls,moved⟩ :: history) := by
  have before : chest.bTargetValuesSet = true := same.set.symm.trans set
  rw [turned_rotating _ _ before,same.target,same.pitch,still,add_zero]
  exact underway.turning before

theorem Underway.arm_turning (underway : Underway start history chest phase)
    (resting : phase.targeted = false) (direction : ℚ) (unit : |direction| = 1) (state : EChestState) :
    |(chest.arm direction state).targetRotation - (chest.arm direction state).lidPivotPitch| ≤
      |start.openRotationOffset| -
        start.openRotationSpeed*turned (⟨chest,event,calls,chest.arm direction state⟩ :: history) := by
  rw [turned_arming _ _ (underway.here.target.trans resting) rfl,mul_zero,sub_zero]
  change |chest.lidPivotPitch + chest.openRotationOffset*direction - chest.lidPivotPitch| ≤ _
  rw [add_sub_cancel_left,abs_mul,unit,mul_one,underway.settings.offset]

theorem Underway.rotate_left (underway : Underway start history chest phase)
    (constant : E.ConstantStep) (positive : 0 < start.openRotationSpeed) (deltaTime : ℚ)
    (forward : 0 ≤ deltaTime) (set : chest.bTargetValuesSet = true) :
    |chest.targetRotation - (chest.rotate E deltaTime).lidPivotPitch| ≤
      max 0 (|start.openRotationOffset| - start.openRotationSpeed*(turned history + deltaTime)) := by
  have speed := underway.settings.speed
  have left := underway.turning set
  have step := rotate_advances E constant chest deltaTime forward (by rw [speed]; exact positive.le)
  rw [speed] at step
  refine step.trans (max_le_max le_rfl ?_)
  linarith

theorem Passes.turning (passes : Passes E chest phase event moved calls later)
    (underway : Underway start history chest phase) (constant : E.ConstantStep)
    (positive : 0 < start.openRotationSpeed) (forward : chest.Forward event)
    (set : moved.bTargetValuesSet = true) :
    |moved.targetRotation - moved.lidPivotPitch| ≤ |start.openRotationOffset| -
      start.openRotationSpeed*turned (⟨chest,event,calls,moved⟩ :: history) := by
  have there := passes.inPhase underway.here
  have targeted : later.targeted = true := there.target.symm.trans set
  cases passes with
  | accept | finishOpening | finishClosing | drop | requestClosing => contradiction
  | rest deltaTime resting => cases phase <;> contradiction
  | ignore | count => exact underway.same_turning ⟨rfl,rfl,rfl,rfl,rfl,rfl⟩ rfl set
  | hint => exact underway.same_turning (hinted_sameLid chest _) rfl set
  | armOpening => exact underway.arm_turning rfl _ (by simp) _
  | armClosing => exact underway.arm_turning rfl _ (by simp) _
  | turn phase deltaTime turning far =>
    have before : chest.bTargetValuesSet = true := underway.here.target.trans turning
    have left := underway.rotate_left constant positive deltaTime forward before
    have distant : ¬ |chest.targetRotation - (chest.rotate E deltaTime).lidPivotPitch| ≤ 2 := by
      rw [← arrived_iff E constant,far]
      simp
    rw [turned_rotating _ _ before]
    rcases le_max_iff.mp left with none | some
    · exact absurd (none.trans (by norm_num)) distant
    · exact some

theorem Underway.fires_iff (underway : Underway start history chest phase) (timer : ChestTimer) :
    fires timer ⟨chest,.timer,calls,moved⟩ = true ↔ phase.timer = some timer := by
  change (chest.timerHandle == some timer) = true ↔ _
  rw [underway.here.timer,beq_iff_eq]

theorem Underway.firings_timer (underway : Underway start history chest phase) (timer : ChestTimer)
    (silent : .accepted ∉ calls) (running : phase.timer = some timer) :
    firings timer (⟨chest,.timer,calls,moved⟩ :: history) = firings timer history + 1 :=
  firings_next timer _ _ silent ((underway.fires_iff timer).mpr running)

theorem Underway.firings_other (underway : Underway start history chest phase) (timer : ChestTimer)
    (silent : .accepted ∉ calls) (other : phase.timer ≠ some timer) :
    firings timer (⟨chest,.timer,calls,moved⟩ :: history) = firings timer history :=
  firings_same timer _ _ silent (by
    rw [Bool.eq_false_iff]
    exact (underway.fires_iff timer).not.mpr other)

theorem Underway.same_counted (underway : Underway start history chest phase)
    (tracker : moved.callTracker = chest.callTracker)
    (same : ∀ timer, firings timer (⟨chest,event,calls,moved⟩ :: history) = firings timer history) :
    Counted start (⟨chest,event,calls,moved⟩ :: history) moved phase := by
  have counted := underway.counted
  cases phase with
  | requested | opening | dropDelay | closeDelay => simpa only [Counted,tracker,same] using counted
  | idle | closeRequested | closing => trivial

theorem Passes.counted (passes : Passes E chest phase event moved calls later)
    (underway : Underway start history chest phase)
    (large : ∀ timer, start.remainingCalls timer ≠ Int32.minValue) :
    Counted start (⟨chest,event,calls,moved⟩ :: history) moved later := by
  have counted := underway.counted
  cases passes with
  | accept => exact ⟨firings_accepted _ _ _ (by simp),firings_accepted _ _ _ (by simp)⟩
  | ignore | rest | turn => exact underway.same_counted rfl fun timer => rfl
  | hint => exact underway.same_counted (by rw [hinted_widget]) fun timer => rfl
  | armOpening => exact counted
  | armClosing | finishClosing | requestClosing => trivial
  | finishOpening =>
    refine ⟨counted.2,?_⟩
    have fresh : firings .ballDropDelayTimer _ = 0 := counted.1
    change Countdown _ chest.ballDropDelayTimerRemainingCalls (firings .ballDropDelayTimer history)
    rw [fresh,underway.settings.drops]
    exact .start _
  | count phase running on =>
    cases phase with
    | idle | requested | opening | closeRequested | closing =>
      rw [underway.here.timer] at running
      contradiction
    | dropDelay =>
      obtain ⟨fresh,counting⟩ := counted
      refine ⟨?_,?_⟩
      · rw [underway.firings_other _ (by simp) (by simp [ChestPhase.timer])]
        exact fresh
      · rw [underway.firings_timer _ (by simp) rfl]
        exact counting.next (large .ballDropDelayTimer) on
    | closeDelay =>
      change Countdown _ _ _
      rw [underway.firings_timer _ (by simp) rfl]
      exact counted.next (large .closeLidDelayTimer) on
  | drop =>
    change Countdown _ chest.closeLidDelayTimerRemainingCalls _
    rw [underway.firings_other _ (by simp) (by simp [ChestPhase.timer]),counted.1,
      underway.settings.closes]
    exact .start _

theorem Underway.counting (underway : Underway start history chest phase) (timer : ChestTimer)
    (running : phase.timer = some timer) :
    Countdown (start.remainingCalls timer) chest.callTracker (firings timer history) := by
  have counted := underway.counted
  cases phase with
  | idle | requested | opening | closeRequested | closing => contradiction
  | dropDelay =>
    cases running
    exact counted.2
  | closeDelay =>
    cases running
    exact counted

theorem Underway.timer_bounded (underway : Underway start history chest phase)
    (silent : .accepted ∉ calls) (timer : ChestTimer) :
    (firings timer (⟨chest,.timer,calls,moved⟩ :: history) : Int) ≤
      max 1 (start.remainingCalls timer).toInt := by
  by_cases running : phase.timer = some timer
  · rw [underway.firings_timer timer silent running]
    exact (underway.counting timer running).left
  · rw [underway.firings_other timer silent running]
    exact underway.bounded timer

theorem Passes.bounded (passes : Passes E chest phase event moved calls later)
    (underway : Underway start history chest phase) (timer : ChestTimer) :
    (firings timer (⟨chest,event,calls,moved⟩ :: history) : Int) ≤
      max 1 (start.remainingCalls timer).toInt := by
  have before := underway.bounded timer
  cases passes with
  | accept =>
    rw [firings_accepted _ _ _ (by simp)]
    omega
  | ignore | hint | rest | armOpening | armClosing | turn | finishOpening | finishClosing => exact before
  | count | drop | requestClosing => exact underway.timer_bounded (by simp) timer

theorem Passes.underway (passes : Passes E chest phase event moved calls later)
    (underway : Underway start history chest phase) (constant : E.ConstantStep)
    (positive : 0 < start.openRotationSpeed) (forward : chest.Forward event)
    (large : ∀ timer, start.remainingCalls timer ≠ Int32.minValue) :
    Underway start (⟨chest,event,calls,moved⟩ :: history) moved later where
  here := passes.inPhase underway.here
  settings := underway.settings.trans passes.sameSettings
  turning := passes.turning underway constant positive forward
  counted := passes.counted underway large
  bounded := passes.bounded underway

/-- A timer fires for the last time when its count says so. -/
theorem Underway.expires_iff (underway : Underway start history chest phase) (timer : ChestTimer)
    (large : start.remainingCalls timer ≠ Int32.minValue) (silent : .accepted ∉ calls) :
    fires timer ⟨chest,.timer,calls,moved⟩ = true ∧
      (firings timer (⟨chest,.timer,calls,moved⟩ :: history) : Int) =
        max 1 (start.remainingCalls timer).toInt ↔
    phase.timer = some timer ∧ chest.callTracker - 1 ≤ 0 := by
  rw [underway.fires_iff timer]
  refine and_congr_right fun running => ?_
  rw [underway.firings_timer timer silent running,(underway.counting timer running).stops_iff large]

theorem Underway.waits (underway : Underway start history chest phase)
    (blocked : chest.bInteractionHintBlocked = true) :
    chest.bTestBoolRotation = true ∨ chest.timerHandle.isSome = true := by
  rw [underway.here.blocked] at blocked
  rw [underway.here.rotation,underway.here.timer]
  cases phase with
  | idle => contradiction
  | requested | opening | closeRequested | closing => exact .inl rfl
  | dropDelay | closeDelay => exact .inr rfl

theorem Passes.arms {deltaTime : ℚ} (passes : Passes E chest phase (.tick deltaTime) moved calls later)
    (underway : Underway start history chest phase) (requested : chest.bTestBoolRotation = true)
    (unset : chest.bTargetValuesSet = false) :
    moved.bTargetValuesSet = true ∧ moved.currentChestState = chest.currentChestState.succ := by
  rw [underway.here.rotation] at requested
  rw [underway.here.target] at unset
  rw [underway.here.state]
  cases passes with
  | rest phase deltaTime resting => exact absurd requested (by simp [resting])
  | turn phase deltaTime turning => exact absurd turning (by simp [unset])
  | finishOpening | finishClosing => contradiction
  | armOpening | armClosing => exact ⟨rfl,rfl⟩

theorem Passes.finishes {deltaTime : ℚ} (passes : Passes E chest phase (.tick deltaTime) moved calls later)
    (underway : Underway start history chest phase) (constant : E.ConstantStep)
    (positive : 0 < start.openRotationSpeed) (forward : 0 ≤ deltaTime)
    (set : chest.bTargetValuesSet = true) (spent : |start.openRotationOffset|/start.openRotationSpeed ≤
      turned (⟨chest,.tick deltaTime,calls,moved⟩ :: history)) :
    moved.bTargetValuesSet = false ∧ moved.bTestBoolRotation = false ∧
      moved.currentChestState = chest.currentChestState.succ := by
  have targeted : phase.targeted = true := underway.here.target.symm.trans set
  rw [underway.here.state]
  cases passes with
  | rest phase deltaTime resting => cases phase <;> contradiction
  | armOpening | armClosing => contradiction
  | finishOpening | finishClosing => exact ⟨rfl,rfl,rfl⟩
  | turn phase deltaTime turning far =>
    rw [turned_rotating _ _ set] at spent
    have left := underway.rotate_left constant positive deltaTime forward set
    have enough : |start.openRotationOffset| ≤ start.openRotationSpeed*(turned history + deltaTime) := by
      rw [div_le_iff₀ positive,mul_comm] at spent
      exact spent
    rw [max_eq_left (sub_nonpos.mpr enough)] at left
    have near := (arrived_iff E constant chest deltaTime).mpr (left.trans (by norm_num))
    rw [far] at near
    contradiction

theorem Passes.drops (passes : Passes E chest phase event moved calls later)
    (underway : Underway start history chest phase)
    (large : start.remainingCalls .ballDropDelayTimer ≠ Int32.minValue) :
    .dropBall ∈ calls ↔ fires .ballDropDelayTimer ⟨chest,event,calls,moved⟩ = true ∧
      (firings .ballDropDelayTimer (⟨chest,event,calls,moved⟩ :: history) : Int) =
        max 1 (start.remainingCalls .ballDropDelayTimer).toInt := by
  cases passes with
  | accept | ignore | hint | rest | armOpening | armClosing | turn | finishOpening | finishClosing =>
    simp [fires]
  | count phase running on =>
    rw [underway.expires_iff _ large (by simp)]
    simp [on]
  | drop out =>
    rw [underway.expires_iff _ large (by simp)]
    simp [ChestPhase.timer,out]
  | requestClosing out =>
    rw [underway.expires_iff _ large (by simp)]
    simp [ChestPhase.timer]

theorem Passes.requests (passes : Passes E chest phase event moved calls later)
    (underway : Underway start history chest phase)
    (large : start.remainingCalls .closeLidDelayTimer ≠ Int32.minValue) :
    chest.currentChestState = .ecsOpen ∧ chest.bTestBoolRotation = false ∧
      moved.bTestBoolRotation = true ↔
    fires .closeLidDelayTimer ⟨chest,event,calls,moved⟩ = true ∧
      (firings .closeLidDelayTimer (⟨chest,event,calls,moved⟩ :: history) : Int) =
        max 1 (start.remainingCalls .closeLidDelayTimer).toInt := by
  have there := passes.inPhase underway.here
  rw [underway.here.state,underway.here.rotation,there.rotation]
  -- A step that stays in its phase requests nothing.
  have stays : ¬ (phase.state = .ecsOpen ∧ phase.rotating = false ∧ phase.rotating = true) := by
    intro given
    rw [given.2.1] at given
    exact absurd given.2.2 Bool.false_ne_true
  cases passes with
  | accept | armOpening | armClosing | finishOpening | finishClosing =>
    simp [fires,ChestPhase.state,ChestPhase.rotating]
  | ignore | hint | rest | turn => exact iff_of_false stays (by simp [fires])
  | count phase running on =>
    rw [underway.expires_iff _ large (by simp)]
    exact iff_of_false stays fun given => on given.2
  | drop out =>
    rw [underway.expires_iff _ large (by simp)]
    simp [ChestPhase.rotating,ChestPhase.timer]
  | requestClosing out =>
    rw [underway.expires_iff _ large (by simp)]
    exact iff_of_true ⟨rfl,rfl,rfl⟩ ⟨rfl,out⟩

theorem Passes.closes (passes : Passes E chest phase event moved calls later)
    (underway : Underway start history chest phase) (closing : chest.currentChestState = .ecsClosing)
    (unset : moved.bTargetValuesSet = false) :
    moved.currentChestState = .ecsClosed ∧ moved.bInteractionHintBlocked = false := by
  have there := passes.inPhase underway.here
  rw [underway.here.state] at closing
  rw [there.target] at unset
  cases passes with
  | accept | armOpening | armClosing | finishOpening | drop | requestClosing => contradiction
  | finishClosing => exact ⟨rfl,rfl⟩
  | ignore | hint | rest | turn | count => cases phase <;> contradiction

theorem Passes.ignores (passes : Passes E chest phase .interaction moved calls later)
    (blocked : chest.bInteractionHintBlocked = true) : moved = chest ∧ calls = [] := by
  cases passes with
  | ignore => exact ⟨rfl,rfl⟩
  | accept free =>
    rw [free] at blocked
    contradiction

end Step

theorem path_underway (E : Engine ℚ) (constant : E.ConstantStep) {start chest : AChest ℚ}
    (initial : start.Init) (positive : 0 < start.openRotationSpeed)
    (large : ∀ timer, start.remainingCalls timer ≠ Int32.minValue)
    {history : List (Machine.Moment (AChest ℚ) (ChestEvent ℚ) ChestCall)}
    (path : ((machine E).guard Forward).Path start history chest) :
    ∃ phase, Underway start history chest phase := by
  induction path with
  | refl =>
    refine ⟨.idle,init_inPhase start initial,⟨rfl,rfl,rfl,rfl⟩,?_,trivial,?_⟩
    · intro set
      rw [initial.target] at set
      contradiction
    · intro timer
      change (0 : Int) ≤ _
      omega
  | next history source event calls target before step ih =>
    obtain ⟨phase,underway⟩ := ih
    obtain ⟨forward,taken⟩ := step
    obtain ⟨later,passes⟩ := step_passes E source target event calls phase underway.here taken
    exact ⟨later,passes.underway underway constant positive forward large⟩

/-- Every opening cycle ends: its waits are for Ticks and firings only, its rotations end with the time
they need, and its timers fire as often as their presets say and no more. -/
theorem cycle_onTime (E : Engine ℚ) (constant : E.ConstantStep) (start : AChest ℚ)
    (initial : start.Init) (positive : 0 < start.openRotationSpeed)
    (large : ∀ timer, start.remainingCalls timer ≠ Int32.minValue)
    (history : List (Machine.Moment (AChest ℚ) (ChestEvent ℚ) ChestCall)) (chest : AChest ℚ)
    (path : ((machine E).guard Forward).Path start history chest)
    (moment : Machine.Moment (AChest ℚ) (ChestEvent ℚ) ChestCall)
    (earlier : List (Machine.Moment (AChest ℚ) (ChestEvent ℚ) ChestCall))
    (taken : moment :: earlier <:+ history) : OnTime start moment earlier := by
  obtain ⟨before,forward,step⟩ := path.moment moment earlier taken
  obtain ⟨phase,underway⟩ := path_underway E constant initial positive large before
  obtain ⟨source,event,calls,target⟩ := moment
  obtain ⟨later,passes⟩ := step_passes E source target event calls phase underway.here step
  refine ⟨underway.waits,?_,?_,passes.bounded underway,passes.drops underway (large _),
    passes.requests underway (large _),passes.closes underway,?_⟩
  · intro deltaTime ticks requested unset
    cases ticks
    exact passes.arms underway requested unset
  · intro deltaTime ticks set spent
    cases ticks
    exact passes.finishes underway constant positive forward set spent
  · intro presses blocked
    cases presses
    exact passes.ignores blocked

theorem cycle_onTime_opens : ∃ history chest,
    ((machine Engine.exact).guard Forward).Path (new none none) history chest ∧
      history.map (·.event) = [.tick (3/10),.tick 0,.interaction] ∧
      chest.currentChestState = .ecsOpen := by
  have start : ((machine Engine.exact).guard Forward).Path (new none none) [] (new none none) := .refl
  have requested := Machine.Path.next _ _ .interaction _ _ start ⟨by trivial,rfl,rfl⟩
  have opening := Machine.Path.next _ _ (.tick 0) _ _ requested ⟨by norm_num [Forward],rfl,rfl⟩
  have opened := Machine.Path.next _ _ (.tick (3/10)) _ _ opening ⟨by norm_num [Forward],rfl,rfl⟩
  have law := cycle_onTime Engine.exact Engine.exact_constantStep _ (new_init none none)
    (by norm_num [new]) (by intro timer; cases timer <;> decide) _ _ opened _ _ (List.suffix_refl _)
  refine ⟨_,_,opened,rfl,(law.finishes (3/10) rfl rfl ?_).2.2⟩
  rw [turned_rotating _ _ rfl,turned_arming _ _ rfl rfl]
  norm_num [new,ChestEvent.elapsed]

end AChest

end RetrievingAI
