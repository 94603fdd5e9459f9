import RetrievingAI.ChestTime
import Mathlib.Algebra.Order.BigOperators.Group.List

/-! The lid does not depend on the frame rate: Ticks of any lengths do to a chest what one Tick of their
total length does, once the Tick that arms the rotation is past. -/
namespace RetrievingAI

theorem Engine.ConstantStep.interp {E : Engine ℚ} (constant : E.ConstantStep)
    (current target deltaTime interpSpeed : ℚ) (forward : 0 ≤ deltaTime) (positive : 0 ≤ interpSpeed) :
    E.fInterpConstantTo current target deltaTime interpSpeed =
      approach current target (interpSpeed*deltaTime) :=
  Approach.eq_approach current target _ _ (mul_nonneg positive forward)
    (constant.towards _ _ _ _ forward positive) (constant.bounded _ _ _ _ forward positive)
    (constant.advances _ _ _ _ forward positive)

namespace AChest

/-- The Ticks of a number of frames, the first one first. -/
def frames {F : Type} [EngineFloat F] (E : Engine F) (chest : AChest F) (deltaTimes : List F) : AChest F :=
  deltaTimes.foldl (fun chest deltaTime => chest.tick E deltaTime) chest

variable {E : Engine ℚ}

theorem rotate_eq (constant : E.ConstantStep) (chest : AChest ℚ) (deltaTime : ℚ) (forward : 0 ≤ deltaTime)
    (speed : 0 ≤ chest.openRotationSpeed) :
    chest.rotate E deltaTime = {chest with
      lidPivotPitch :=
        approach chest.lidPivotPitch chest.targetRotation (chest.openRotationSpeed*deltaTime)} := by
  rw [rotate,setLidPitch,constant.pitch,constant.interp _ _ _ _ forward speed]

theorem rotate_rotate (constant : E.ConstantStep) (chest : AChest ℚ) (first second : ℚ) (one : 0 ≤ first)
    (two : 0 ≤ second) (speed : 0 ≤ chest.openRotationSpeed) :
    (chest.rotate E first).rotate E second = chest.rotate E (first + second) := by
  have speed' : 0 ≤ (chest.rotate E first).openRotationSpeed := speed
  rw [rotate_eq constant _ second two speed',rotate_eq constant chest first one speed,
    rotate_eq constant chest _ (add_nonneg one two) speed]
  simp only
  rw [Approach.approach_approach _ _ _ _ (mul_nonneg speed one) (mul_nonneg speed two),← mul_add]

/-- The rotation is over exactly when the time covers all but the tolerance of two degrees. -/
theorem arrived_iff_le (constant : E.ConstantStep) (chest : AChest ℚ) (deltaTime : ℚ)
    (forward : 0 ≤ deltaTime) (speed : 0 ≤ chest.openRotationSpeed) :
    (chest.rotate E deltaTime).arrived E = true ↔
      |chest.targetRotation - chest.lidPivotPitch| ≤ chest.openRotationSpeed*deltaTime + 2 := by
  rw [arrived_iff E constant,rotate_eq constant chest deltaTime forward speed]
  simp only
  rw [Approach.abs_sub_approach _ _ _ (mul_nonneg speed forward),max_le_iff]
  constructor
  · intro near
    linarith [near.2]
  · intro enough
    exact ⟨by norm_num,by linarith⟩

theorem arrived_later (constant : E.ConstantStep) (chest : AChest ℚ) (first second : ℚ) (one : 0 ≤ first)
    (two : 0 ≤ second) (speed : 0 ≤ chest.openRotationSpeed)
    (arrived : (chest.rotate E first).arrived E = true) :
    (chest.rotate E (first + second)).arrived E = true := by
  rw [arrived_iff_le constant chest first one speed] at arrived
  rw [arrived_iff_le constant chest _ (add_nonneg one two) speed,mul_add]
  linarith [mul_nonneg speed two]

-- Opening and closing differ only in what their last Tick leaves.
theorem tick_targeted (E : Engine ℚ) (phase : ChestPhase) (targeted : phase.targeted = true) :
    ∃ finish : AChest ℚ → AChest ℚ,
      (∀ chest, (finish chest).bTestBoolRotation = false ∧ (finish chest).bTargetValuesSet = false ∧
        ∀ deltaTime, finish (chest.rotate E deltaTime) = finish chest) ∧
      ∀ (chest : AChest ℚ) deltaTime, chest.InPhase phase → chest.tick E deltaTime =
        if (chest.rotate E deltaTime).arrived E then finish chest else chest.rotate E deltaTime := by
  cases phase with
  | idle | requested | dropDelay | closeDelay | closeRequested => contradiction
  | opening =>
    exact ⟨finishOpening E,fun _ => ⟨rfl,rfl,fun _ => rfl⟩,tick_opening E⟩
  | closing =>
    exact ⟨finishClosing E,fun _ => ⟨rfl,rfl,fun _ => rfl⟩,tick_closing E⟩

theorem tick_tick_targeted (constant : E.ConstantStep) (chest : AChest ℚ) (phase : ChestPhase)
    (targeted : phase.targeted = true) (here : chest.InPhase phase) (speed : 0 ≤ chest.openRotationSpeed)
    (first second : ℚ) (one : 0 ≤ first) (two : 0 ≤ second) :
    (chest.tick E first).tick E second = chest.tick E (first + second) := by
  obtain ⟨finish,finished,turns⟩ := tick_targeted E phase targeted
  rw [turns chest first here,turns chest (first + second) here]
  cases arrived : (chest.rotate E first).arrived E with
  | true =>
    rw [if_pos rfl,if_pos (arrived_later constant chest first second one two speed arrived)]
    exact tick_resting E _ second (finished chest).1
  | false =>
    rw [if_neg Bool.false_ne_true,turns _ second (rotate_inPhase E chest first _ here),
      (finished chest).2.2 first,rotate_rotate constant chest first second one two speed]

/-- Two Ticks in a row are one of their total length, unless the first arms a rotation. -/
theorem tick_tick (constant : E.ConstantStep) (chest : AChest ℚ) (phase : ChestPhase)
    (here : chest.InPhase phase) (speed : 0 ≤ chest.openRotationSpeed)
    (armed : phase.rotating = true → phase.targeted = true) (first second : ℚ) (one : 0 ≤ first)
    (two : 0 ≤ second) : (chest.tick E first).tick E second = chest.tick E (first + second) := by
  cases phase with
  | idle | dropDelay | closeDelay => simp only [tick_resting E chest _ here.rotation]
  | requested | closeRequested => exact absurd (armed rfl) Bool.false_ne_true
  | opening | closing => exact tick_tick_targeted constant chest _ rfl here speed first second one two

theorem frames_cons (constant : E.ConstantStep) (chest : AChest ℚ) (phase : ChestPhase)
    (here : chest.InPhase phase) (speed : 0 ≤ chest.openRotationSpeed)
    (armed : phase.rotating = true → phase.targeted = true) (deltaTime : ℚ) (deltaTimes : List ℚ)
    (forward : 0 ≤ deltaTime) (forwards : ∀ later ∈ deltaTimes, 0 ≤ later) :
    chest.frames E (deltaTime :: deltaTimes) = chest.tick E (deltaTime + deltaTimes.sum) := by
  induction deltaTimes generalizing deltaTime with
  | nil => rw [List.sum_nil,add_zero]; rfl
  | cons next rest ih =>
    obtain ⟨two,later⟩ := List.forall_mem_cons.mp forwards
    have joined := ih (deltaTime + next) (add_nonneg forward two) later
    rw [List.sum_cons,← add_assoc,← joined]
    change rest.foldl _ ((chest.tick E deltaTime).tick E next) = rest.foldl _ (chest.tick E _)
    rw [tick_tick constant chest phase here speed armed deltaTime next forward two]

theorem tick_finished_iff (constant : E.ConstantStep) (chest : AChest ℚ) (phase : ChestPhase)
    (here : chest.InPhase phase) (speed : 0 ≤ chest.openRotationSpeed)
    (turning : chest.bTargetValuesSet = true) (deltaTime : ℚ) (forward : 0 ≤ deltaTime) :
    (chest.tick E deltaTime).bTargetValuesSet = false ↔
      |chest.targetRotation - chest.lidPivotPitch| ≤ chest.openRotationSpeed*deltaTime + 2 := by
  obtain ⟨finish,finished,turns⟩ := tick_targeted E phase (here.target.symm.trans turning)
  rw [← arrived_iff_le constant chest deltaTime forward speed,turns chest deltaTime here]
  cases arrived : (chest.rotate E deltaTime).arrived E with
  | true => exact iff_of_true (finished chest).2.1 rfl
  | false => exact iff_of_false (by simpa [rotate,setLidPitch] using turning) Bool.false_ne_true

/-- However a time is divided into frames, a reachable chest is after them as after one frame of that
time; the frame that arms a rotation counts for nothing, and a rotation ends with exactly the time that
covers all but two degrees of its way. -/
theorem frames_total (constant : E.ConstantStep)
    (history : List (Machine.Moment (AChest ℚ) (ChestEvent ℚ) ChestCall)) (chest : AChest ℚ)
    (run : (machine E).Run history chest) (speed : 0 ≤ chest.openRotationSpeed) (deltaTime : ℚ)
    (deltaTimes : List ℚ) (forward : 0 ≤ deltaTime) (forwards : ∀ later ∈ deltaTimes, 0 ≤ later) :
    ((chest.bTestBoolRotation = true → chest.bTargetValuesSet = true) →
      chest.frames E (deltaTime :: deltaTimes) = chest.tick E (deltaTime + deltaTimes.sum)) ∧
    (chest.bTestBoolRotation = true → chest.bTargetValuesSet = false → ∀ arming,
      chest.frames E (arming :: deltaTime :: deltaTimes) =
        (chest.tick E 0).tick E (deltaTime + deltaTimes.sum)) ∧
    (chest.bTargetValuesSet = true →
      ((chest.frames E (deltaTime :: deltaTimes)).bTargetValuesSet = false ↔
        |chest.targetRotation - chest.lidPivotPitch| ≤
          chest.openRotationSpeed*(deltaTime + deltaTimes.sum) + 2)) := by
  obtain ⟨phase,here,_⟩ := run_inPhase E history chest run
  have total : 0 ≤ deltaTime + deltaTimes.sum := add_nonneg forward (List.sum_nonneg forwards)
  refine ⟨?_,?_,?_⟩
  · intro armed
    rw [here.rotation,here.target] at armed
    exact frames_cons constant chest phase here speed armed deltaTime deltaTimes forward forwards
  · intro requested unset arming
    rw [here.rotation] at requested
    rw [here.target] at unset
    cases phase with
    | idle | opening | dropDelay | closeDelay | closing => contradiction
    | requested =>
      have armed : Passes E chest .requested (.tick 0) _ _ _ := .armOpening 0
      change frames E (chest.tick E arming) _ = _
      rw [tick_requested E chest arming here,tick_requested E chest 0 here]
      exact frames_cons constant _ .opening (armed.inPhase here) speed (fun _ => rfl) deltaTime
        deltaTimes forward forwards
    | closeRequested =>
      have armed : Passes E chest .closeRequested (.tick 0) _ _ _ := .armClosing 0
      change frames E (chest.tick E arming) _ = _
      rw [tick_closeRequested E chest arming here,tick_closeRequested E chest 0 here]
      exact frames_cons constant _ .closing (armed.inPhase here) speed (fun _ => rfl) deltaTime
        deltaTimes forward forwards
  · intro turning
    have armed : phase.rotating = true → phase.targeted = true := fun _ => here.target.symm.trans turning
    rw [frames_cons constant chest phase here speed armed deltaTime deltaTimes forward forwards]
    exact tick_finished_iff constant chest phase here speed turning _ total

theorem frames_total_opening : ∃ history chest, (machine Engine.exact).Run history chest ∧
    history.map (·.event) = [.tick 0,.interaction] ∧
    chest.frames Engine.exact [1/10,1/20,1/20] = chest.tick Engine.exact (1/10 + [1/20,1/20].sum) := by
  have closed : (machine Engine.exact).Run [] (new none none) := .start _ (new_init none none)
  have requested := Machine.Run.next _ _ .interaction _ _ closed ⟨rfl,rfl⟩
  have opening := Machine.Run.next _ _ (.tick 0) _ _ requested ⟨rfl,rfl⟩
  have speed : (0 : ℚ) ≤ ((300 : ℕ) : ℚ) := by norm_num
  have law := frames_total Engine.exact_constantStep _ _ opening speed (1/10) [1/20,1/20]
    (by norm_num) (by norm_num)
  exact ⟨_,_,opening,rfl,law.1 fun _ => rfl⟩

end AChest

end RetrievingAI
