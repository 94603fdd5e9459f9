import RetrievingAI.ChestCycle
import RetrievingAI.Lib.Approach
import Mathlib.Tactic.NormNum
import Mathlib.Tactic.Ring

/-! The lid's angle in exact arithmetic: it stays between the closed and the open position, turns
towards its target only, and rests exactly where it rested before. -/
namespace RetrievingAI

/-- What the documentation promises of the engine's interpolation, comparison and pitch. -/
structure Engine.Documented (E : Engine ℚ) : Prop where
  towards : ∀ current target deltaTime interpSpeed, 0 ≤ deltaTime → 0 ≤ interpSpeed →
    E.fInterpConstantTo current target deltaTime interpSpeed ∈ Set.uIcc current target
  bounded : ∀ current target deltaTime interpSpeed, 0 ≤ deltaTime → 0 ≤ interpSpeed →
    |E.fInterpConstantTo current target deltaTime interpSpeed - current| ≤ interpSpeed*deltaTime
  near : ∀ a b errorTolerance, E.isNearlyEqual a b errorTolerance = true ↔ |a-b| ≤ errorTolerance
  pitch : ∀ pitch, E.relativePitch pitch = pitch

theorem Engine.exact_documented : Engine.exact.Documented where
  towards current target deltaTime interpSpeed forward positive :=
    Approach.approach_mem_uIcc current target _ (mul_nonneg positive forward)
  bounded current target deltaTime interpSpeed forward positive :=
    Approach.abs_approach_sub_le current target _ (mul_nonneg positive forward)
  near a b errorTolerance := by simp [exact]
  pitch pitch := rfl

/-- Where the lid stands in a state of rest, and where it turns to in a state of motion. -/
def EChestState.rest (closed offset : ℚ) : EChestState → ℚ
  | .ecsClosed | .ecsClosing => closed
  | .ecsOpening | .ecsOpen => closed + offset

namespace AChest

/-- The lid as it must be when it started closed at `closed` and opens by `offset`. -/
structure LidTrue (closed offset : ℚ) (chest : AChest ℚ) : Prop where
  opens : chest.openRotationOffset = offset
  speed : 0 ≤ chest.openRotationSpeed
  inside : chest.lidPivotPitch ∈ Set.uIcc closed (closed + offset)
  resting : chest.bTargetValuesSet = false →
    chest.lidPivotPitch = chest.currentChestState.rest closed offset
  turning : chest.bTargetValuesSet = true →
    chest.targetRotation = chest.currentChestState.rest closed offset

structure SameLid {F : Type} (chest moved : AChest F) : Prop where
  pitch : moved.lidPivotPitch = chest.lidPivotPitch
  target : moved.targetRotation = chest.targetRotation
  offset : moved.openRotationOffset = chest.openRotationOffset
  speed : moved.openRotationSpeed = chest.openRotationSpeed
  state : moved.currentChestState = chest.currentChestState
  set : moved.bTargetValuesSet = chest.bTargetValuesSet

theorem LidTrue.same {closed offset : ℚ} {chest moved : AChest ℚ} (lid : chest.LidTrue closed offset)
    (same : chest.SameLid moved) : moved.LidTrue closed offset := by
  refine ⟨same.offset.trans lid.opens,?_,?_,?_,?_⟩
  · rw [same.speed]
    exact lid.speed
  · rw [same.pitch]
    exact lid.inside
  · rw [same.set,same.pitch,same.state]
    exact lid.resting
  · rw [same.set,same.target,same.state]
    exact lid.turning

variable {F : Type}

theorem hinted_sameLid (chest : AChest F) (bIsVisible : Bool) : chest.SameLid (chest.hinted bIsVisible) := by
  rw [hinted_widget]
  exact ⟨rfl,rfl,rfl,rfl,rfl,rfl⟩

/-- How one event may move the lid: towards a target that stays, and only when there is one. -/
structure Turns (chest moved : AChest ℚ) : Prop where
  still : chest.bTargetValuesSet = false → moved.lidPivotPitch = chest.lidPivotPitch
  towards : chest.bTargetValuesSet = true →
    moved.lidPivotPitch ∈ Set.uIcc chest.lidPivotPitch chest.targetRotation ∧
    moved.targetRotation = chest.targetRotation

theorem SameLid.turns {chest moved : AChest ℚ} (same : chest.SameLid moved) : chest.Turns moved where
  still _ := same.pitch
  towards _ := by
    rw [same.pitch]
    exact ⟨Set.left_mem_uIcc,same.target⟩

theorem rotate_turns (E : Engine ℚ) (documented : E.Documented) (chest : AChest ℚ) (deltaTime : ℚ)
    (forward : 0 ≤ deltaTime) (positive : 0 ≤ chest.openRotationSpeed) :
    (chest.rotate E deltaTime).lidPivotPitch ∈ Set.uIcc chest.lidPivotPitch chest.targetRotation := by
  change E.relativePitch _ ∈ _
  rw [documented.pitch]
  exact documented.towards _ _ _ _ forward positive

theorem arm_lidTrue (closed offset : ℚ) (chest : AChest ℚ) (lid : chest.LidTrue closed offset)
    (phase : ChestPhase) (here : chest.InPhase phase) (direction : ℚ) (state : EChestState)
    (resting : phase.targeted = false)
    (other : phase.state.rest closed offset + offset*direction = state.rest closed offset) :
    (chest.arm direction state).LidTrue closed offset := by
  refine ⟨lid.opens,lid.speed,lid.inside,?_,?_⟩
  · intro unset
    contradiction
  · intro _
    have still := lid.resting (here.target.trans resting)
    change chest.lidPivotPitch + chest.openRotationOffset*direction = _
    rw [still,lid.opens,here.state,other]
    rfl

theorem rest_mem_uIcc (closed offset : ℚ) (state : EChestState) :
    state.rest closed offset ∈ Set.uIcc closed (closed + offset) := by
  cases state with
  | ecsClosed | ecsClosing => exact Set.left_mem_uIcc
  | ecsOpening | ecsOpen => exact Set.right_mem_uIcc

theorem arm_turns (chest : AChest ℚ) (direction : ℚ) (state : EChestState)
    (resting : chest.bTargetValuesSet = false) : chest.Turns (chest.arm direction state) where
  still _ := rfl
  towards set := by
    rw [resting] at set
    contradiction

theorem LidTrue.rotate {E : Engine ℚ} (documented : E.Documented) {closed offset : ℚ}
    {chest : AChest ℚ} (lid : chest.LidTrue closed offset) (deltaTime : ℚ) (forward : 0 ≤ deltaTime)
    (set : chest.bTargetValuesSet = true) :
    (chest.rotate E deltaTime).LidTrue closed offset ∧ chest.Turns (chest.rotate E deltaTime) := by
  have between := rotate_turns E documented chest deltaTime forward lid.speed
  have goal : chest.targetRotation ∈ Set.uIcc closed (closed + offset) := by
    rw [lid.turning set]
    exact rest_mem_uIcc closed offset _
  refine ⟨⟨lid.opens,lid.speed,Set.uIcc_subset_uIcc lid.inside goal between,?_,?_⟩,⟨?_,?_⟩⟩
  · intro unset
    exact absurd (unset.symm.trans set) Bool.false_ne_true
  · intro _
    exact lid.turning set
  · intro unset
    exact absurd (unset.symm.trans set) Bool.false_ne_true
  · intro _
    exact ⟨between,rfl⟩

/-- A chest that reached its target rests where it was turning to. -/
theorem LidTrue.finish {closed offset : ℚ} {chest moved : AChest ℚ}
    (lid : chest.LidTrue closed offset) (set : chest.bTargetValuesSet = true)
    (done : moved.bTargetValuesSet = false) (opens : moved.openRotationOffset = chest.openRotationOffset)
    (speed : moved.openRotationSpeed = chest.openRotationSpeed)
    (target : moved.targetRotation = chest.targetRotation)
    (arrived : moved.lidPivotPitch = chest.targetRotation)
    (rests : moved.currentChestState.rest closed offset = chest.currentChestState.rest closed offset) :
    moved.LidTrue closed offset ∧ chest.Turns moved := by
  have aim := lid.turning set
  refine ⟨⟨opens.trans lid.opens,by rw [speed]; exact lid.speed,?_,?_,?_⟩,⟨?_,?_⟩⟩
  · rw [arrived,aim]
    exact rest_mem_uIcc closed offset _
  · intro _
    rw [arrived,aim,rests]
  · intro again
    exact absurd (done.symm.trans again) Bool.false_ne_true
  · intro unset
    exact absurd (unset.symm.trans set) Bool.false_ne_true
  · intro _
    rw [arrived]
    exact ⟨Set.right_mem_uIcc,target⟩

theorem LidTrue.still {closed offset : ℚ} {chest moved : AChest ℚ}
    (lid : chest.LidTrue closed offset) (same : chest.SameLid moved) :
    moved.LidTrue closed offset ∧ chest.Turns moved :=
  ⟨lid.same same,same.turns⟩

def Forward (_ : AChest ℚ) : ChestEvent ℚ → Prop
  | .tick deltaTime => 0 ≤ deltaTime
  | _ => True

theorem Passes.lidTrue {E : Engine ℚ} {chest moved : AChest ℚ} {event : ChestEvent ℚ}
    {calls : List ChestCall} {phase later : ChestPhase}
    (passes : Passes E chest phase event moved calls later) (documented : E.Documented)
    {closed offset : ℚ} (here : chest.InPhase phase) (lid : chest.LidTrue closed offset)
    (forward : chest.Forward event) : moved.LidTrue closed offset ∧ chest.Turns moved := by
  cases passes with
  | ignore | rest | count | drop | requestClosing => exact lid.still ⟨rfl,rfl,rfl,rfl,rfl,rfl⟩
  | hint => exact lid.still (hinted_sameLid chest _)
  | accept =>
    rw [hinted_widget]
    exact lid.still ⟨rfl,rfl,rfl,rfl,rfl,rfl⟩
  | armOpening =>
    refine ⟨arm_lidTrue closed offset chest lid _ here _ _ rfl ?_,chest.arm_turns _ _ here.target⟩
    change closed + offset*1 = closed + offset
    ring
  | armClosing =>
    refine ⟨arm_lidTrue closed offset chest lid _ here _ _ rfl ?_,chest.arm_turns _ _ here.target⟩
    change closed + offset + offset*(-1) = closed
    ring
  | turn phase deltaTime turning =>
    exact lid.rotate documented deltaTime forward (here.target.trans turning)
  | finishOpening | finishClosing =>
    refine lid.finish here.target rfl rfl rfl rfl (documented.pitch _) ?_
    rw [here.state]
    rfl

theorem path_lidTrue (E : Engine ℚ) (documented : E.Documented) (start : AChest ℚ)
    (initial : start.Init) (speed : 0 ≤ start.openRotationSpeed)
    (history : List (Machine.Moment (AChest ℚ) (ChestEvent ℚ) ChestCall)) (chest : AChest ℚ)
    (path : ((machine E).guard Forward).Path start history chest) :
    (∃ phase, chest.InPhase phase) ∧
      chest.LidTrue start.lidPivotPitch start.openRotationOffset := by
  apply path.invariant
  · refine ⟨⟨.idle,init_inPhase start initial⟩,⟨rfl,speed,Set.left_mem_uIcc,?_,?_⟩⟩
    · intro _
      rw [initial.state]
      rfl
    · intro set
      rw [initial.target] at set
      contradiction
  · intro source event calls target given allowed
    obtain ⟨⟨phase,here⟩,lid⟩ := given
    obtain ⟨forward,step⟩ := allowed
    obtain ⟨later,passes⟩ := step_passes E source target event calls phase here step
    exact ⟨⟨later,passes.inPhase here⟩,(passes.lidTrue documented here lid forward).1⟩

/-- The lid neither overshoots nor drifts, over any number of cycles. -/
theorem lid_exact (E : Engine ℚ) (documented : E.Documented) (start : AChest ℚ)
    (initial : start.Init) (speed : 0 ≤ start.openRotationSpeed)
    (history : List (Machine.Moment (AChest ℚ) (ChestEvent ℚ) ChestCall)) (chest : AChest ℚ)
    (path : ((machine E).guard Forward).Path start history chest) :
    let closed := start.lidPivotPitch
    let opened := start.lidPivotPitch + start.openRotationOffset
    chest.lidPivotPitch ∈ Set.uIcc closed opened ∧
    (chest.bTargetValuesSet = true →
      (chest.currentChestState = .ecsOpening → chest.targetRotation = opened) ∧
      (chest.currentChestState = .ecsClosing → chest.targetRotation = closed)) ∧
    (chest.bTargetValuesSet = false →
      (chest.currentChestState = .ecsClosed → chest.lidPivotPitch = closed) ∧
      (chest.currentChestState = .ecsOpen → chest.lidPivotPitch = opened)) ∧
    ∀ moment ∈ history, moment.source.Turns moment.target := by
  obtain ⟨_,lid⟩ := path_lidTrue E documented start initial speed history chest path
  refine ⟨lid.inside,?_,?_,?_⟩
  · intro set
    have aim := lid.turning set
    constructor
    · intro opening
      rw [aim,opening]
      rfl
    · intro closing
      rw [aim,closing]
      rfl
  · intro unset
    have rest := lid.resting unset
    constructor
    · intro shut
      rw [rest,shut]
      rfl
    · intro open_
      rw [rest,open_]
      rfl
  · intro moment member
    obtain ⟨⟨earlier,before⟩,forward,step⟩ := path.step_of_mem moment member
    obtain ⟨⟨phase,here⟩,turned⟩ := path_lidTrue E documented start initial speed earlier _ before
    obtain ⟨later,passes⟩ := step_passes E _ _ _ _ phase here step
    exact (passes.lidTrue documented here turned forward).2

theorem lid_exact_opening : ∃ history chest,
    ((machine Engine.exact).guard Forward).Path (new none none) history chest ∧
      history.map (·.event) = [.tick (1/10),.tick 0,.interaction] ∧
      chest.lidPivotPitch ∈ Set.uIcc 0 (0 + 90) := by
  have start : ((machine Engine.exact).guard Forward).Path (new none none) [] (new none none) := .refl
  have requested := Machine.Path.next _ _ .interaction _ _ start ⟨by trivial,rfl,rfl⟩
  have opening := Machine.Path.next _ _ (.tick 0) _ _ requested ⟨by norm_num [Forward],rfl,rfl⟩
  have turned := Machine.Path.next _ _ (.tick (1/10)) _ _ opening ⟨by norm_num [Forward],rfl,rfl⟩
  have law := lid_exact Engine.exact Engine.exact_documented _ (new_init none none)
    (by norm_num [new]) _ _ turned
  exact ⟨_,_,turned,rfl,law.1⟩

end AChest

end RetrievingAI
