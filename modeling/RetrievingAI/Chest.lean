import RetrievingAI.Lib.Machine
import RetrievingAI.EngineFunctions

/-! `AChest`: the lid, the delays and the one ball of every opening. -/
namespace RetrievingAI
open Fallible

inductive EChestState
  | ecsOpen
  | ecsClosed
  | ecsOpening
  | ecsClosing
  deriving DecidableEq,Repr

inductive ChestTimer
  | ballDropDelayTimer
  | closeLidDelayTimer
  deriving DecidableEq,Repr

structure AChest (F : Type) where
  containerMeshProfile : FName
  lidMeshProfile : FName
  lidPivotPitch : F
  interactionWidgetComponent : Option UWidgetComponent
  actorUpVector : FVector F
  actorForwardVector : FVector F
  currentChestState : EChestState
  openRotationOffset : F
  openRotationSpeed : F
  ballDropDelayTimerRemainingCalls : Int32
  closeLidDelayTimerRemainingCalls : Int32
  ballBPClass : Option BallClass
  ballDropStrength : F
  callTracker : Int32
  timerHandle : Option ChestTimer
  targetRotation : F
  bTestBoolRotation : Bool
  bTargetValuesSet : Bool
  bInteractionHintBlocked : Bool
  rotateDirection : F

/-- A chest as the constructor and the defaults of `Chest.h` leave it. -/
def AChest.new {F : Type} [EngineFloat F] (ballBPClass : Option BallClass)
    (interactionWidgetComponent : Option UWidgetComponent) : AChest F where
  containerMeshProfile := "BlockAllDynamic"
  lidMeshProfile := "BlockAllDynamic"
  lidPivotPitch := ((0 : ℕ) : F)
  interactionWidgetComponent := UWidgetComponent.nativeConstruct interactionWidgetComponent
  actorUpVector := ⟨((0 : ℕ) : F),((0 : ℕ) : F),((1 : ℕ) : F)⟩
  actorForwardVector := ⟨((1 : ℕ) : F),((0 : ℕ) : F),((0 : ℕ) : F)⟩
  currentChestState := .ecsClosed
  openRotationOffset := ((90 : ℕ) : F)
  openRotationSpeed := ((300 : ℕ) : F)
  ballDropDelayTimerRemainingCalls := 2
  closeLidDelayTimerRemainingCalls := 4
  ballBPClass := ballBPClass
  ballDropStrength := ((1000 : ℕ) : F)
  callTracker := 0
  timerHandle := none
  targetRotation := ((0 : ℕ) : F)
  bTestBoolRotation := false
  bTargetValuesSet := false
  bInteractionHintBlocked := false
  rotateDirection := ((0 : ℕ) : F)

/-- What `DropBall` asks of the world: the class to spawn and the arguments of `Drop`. -/
structure DroppedBall (F : Type) where
  ballBPClass : Option BallClass
  dropStrength : F
  direction : FVector F

namespace AChest

variable {F : Type}

def hintVisible (chest : AChest F) : Bool := UWidgetComponent.hintVisible chest.interactionWidgetComponent

def setInteractHintVisibility (chest : AChest F) (bIsVisible : Bool) : Exec (AChest F) :=
  if !chest.bInteractionHintBlocked then do
    let component ← UWidgetComponent.setHintVisibility chest.interactionWidgetComponent bIsVisible
    pure {chest with interactionWidgetComponent := component}
  else pure chest

def hinted (chest : AChest F) (bIsVisible : Bool) : AChest F :=
  if chest.bInteractionHintBlocked then chest
  else {chest with interactionWidgetComponent :=
    UWidgetComponent.hinted chest.interactionWidgetComponent bIsVisible}

theorem setInteractHintVisibility_ok (chest moved : AChest F) (bIsVisible : Bool)
    (ok : chest.setInteractHintVisibility bIsVisible = .ok moved) : moved = chest.hinted bIsVisible := by
  unfold setInteractHintVisibility at ok
  split at ok
  next listens =>
    obtain ⟨component,shown,same⟩ := bind_ok _ _ _ ok
    cases same
    rw [UWidgetComponent.setHintVisibility_ok _ _ _ shown,hinted,if_neg (by simp_all)]
  next ignores =>
    cases ok
    rw [hinted,if_pos (by simpa using ignores)]

def interaction (chest : AChest F) : Exec (AChest F) :=
  if !chest.bInteractionHintBlocked then do
    let chest := {chest with bTestBoolRotation := true}
    let chest ← chest.setInteractHintVisibility false
    pure {chest with bInteractionHintBlocked := true}
  else pure chest

theorem interaction_ok (chest moved : AChest F) (ok : chest.interaction = .ok moved) :
    (chest.bInteractionHintBlocked = true ∧ moved = chest) ∨
    (chest.bInteractionHintBlocked = false ∧ moved =
      {({chest with bTestBoolRotation := true} : AChest F).hinted false with
        bInteractionHintBlocked := true}) := by
  unfold interaction at ok
  split at ok
  next listens =>
    obtain ⟨hinted,shown,same⟩ := bind_ok _ _ _ ok
    cases same
    rw [setInteractHintVisibility_ok _ _ _ shown]
    exact Or.inr ⟨by simpa using listens,rfl⟩
  next ignores =>
    cases ok
    exact Or.inl ⟨by simpa using ignores,rfl⟩

variable [EngineFloat F]

def setLidPitch (E : Engine F) (chest : AChest F) (pitch : F) : AChest F :=
  {chest with lidPivotPitch := E.relativePitch pitch}

def managePivotRotation (E : Engine F) (chest : AChest F) (deltaTime : F) : AChest F :=
  if chest.bTestBoolRotation then
    if !chest.bTargetValuesSet then
      let chest :=
        if chest.currentChestState = .ecsClosed then
          {chest with rotateDirection := ((1 : ℕ) : F),currentChestState := .ecsOpening}
        else if chest.currentChestState = .ecsOpen then
          {chest with rotateDirection := -((1 : ℕ) : F),currentChestState := .ecsClosing}
        else chest
      {chest with
        targetRotation := chest.lidPivotPitch + chest.openRotationOffset * chest.rotateDirection
        bTargetValuesSet := true}
    else
      let chest := chest.setLidPitch E (E.fInterpConstantTo chest.lidPivotPitch
        chest.targetRotation deltaTime chest.openRotationSpeed)
      if E.isNearlyEqual chest.targetRotation chest.lidPivotPitch ((2 : ℕ) : F) then
        let chest := chest.setLidPitch E chest.targetRotation
        let chest :=
          if chest.currentChestState = .ecsClosing then
            {chest with
              currentChestState := .ecsClosed
              bTestBoolRotation := false
              bInteractionHintBlocked := false}
          else if chest.currentChestState = .ecsOpening then
            {chest with
              callTracker := chest.ballDropDelayTimerRemainingCalls
              timerHandle := some .ballDropDelayTimer
              currentChestState := .ecsOpen
              bTestBoolRotation := false}
          else chest
        {chest with bTargetValuesSet := false}
      else chest
  else chest

def tick (E : Engine F) (chest : AChest F) (deltaTime : F) : AChest F :=
  chest.managePivotRotation E deltaTime

def dropBall (chest : AChest F) : AChest F × DroppedBall F :=
  ({chest with containerMeshProfile := "IgnoreBall",lidMeshProfile := "IgnoreBall"},
    ⟨chest.ballBPClass,chest.ballDropStrength,
      chest.actorUpVector + chest.actorForwardVector.divide ((4 : ℕ) : F)⟩)

-- `CallTracker--` wraps as 32-bit two's complement.
def ballDropDelayTimer (chest : AChest F) : AChest F × Option (DroppedBall F) :=
  let chest := {chest with callTracker := chest.callTracker - 1}
  if chest.callTracker ≤ 0 then
    let (chest,dropped) := chest.dropBall
    let chest := {chest with timerHandle := none}
    ({chest with
      callTracker := chest.closeLidDelayTimerRemainingCalls
      timerHandle := some .closeLidDelayTimer},some dropped)
  else (chest,none)

omit [EngineFloat F] in
def closeLidDelayTimer (chest : AChest F) : AChest F :=
  let chest := {chest with callTracker := chest.callTracker - 1}
  if chest.callTracker ≤ 0 then
    {chest with
      containerMeshProfile := "BlockAllDynamic"
      lidMeshProfile := "BlockAllDynamic"
      bTestBoolRotation := true
      timerHandle := none}
  else chest

/-- The timer manager fires the callback that the handle holds; a cleared handle never fires. -/
def fireTimer (chest : AChest F) : AChest F × Option (DroppedBall F) :=
  match chest.timerHandle with
  | some .ballDropDelayTimer => chest.ballDropDelayTimer
  | some .closeLidDelayTimer => (chest.closeLidDelayTimer,none)
  | none => (chest,none)

end AChest

namespace AChest

variable {F : Type}

/-- A hint call touches the widget only. -/
theorem hinted_widget (chest : AChest F) (bIsVisible : Bool) :
    chest.hinted bIsVisible = {chest with
      interactionWidgetComponent := (chest.hinted bIsVisible).interactionWidgetComponent} := by
  unfold hinted
  split <;> rfl

@[simp] theorem hinted_keeps (chest : AChest F) (bIsVisible : Bool) :
    (chest.hinted bIsVisible).bInteractionHintBlocked = chest.bInteractionHintBlocked ∧
    (chest.hinted bIsVisible).ballBPClass = chest.ballBPClass := by
  rw [hinted_widget]
  exact ⟨rfl,rfl⟩

variable [EngineFloat F]

@[simp] theorem tick_keeps (E : Engine F) (chest : AChest F) (deltaTime : F) :
    (chest.tick E deltaTime).interactionWidgetComponent = chest.interactionWidgetComponent ∧
    (chest.tick E deltaTime).ballBPClass = chest.ballBPClass := by
  unfold tick managePivotRotation
  dsimp only
  split_ifs <;> exact ⟨rfl,rfl⟩

theorem tick_blocked (E : Engine F) (chest : AChest F) (deltaTime : F)
    (free : chest.bInteractionHintBlocked = false) :
    (chest.tick E deltaTime).bInteractionHintBlocked = false := by
  unfold tick managePivotRotation
  dsimp only
  split_ifs <;> first | rfl | exact free

@[simp] theorem fireTimer_keeps (chest : AChest F) :
    chest.fireTimer.1.interactionWidgetComponent = chest.interactionWidgetComponent ∧
    chest.fireTimer.1.ballBPClass = chest.ballBPClass ∧
    chest.fireTimer.1.bInteractionHintBlocked = chest.bInteractionHintBlocked := by
  unfold fireTimer ballDropDelayTimer closeLidDelayTimer
  dsimp only
  split
  · split_ifs <;> exact ⟨rfl,rfl,rfl⟩
  · split_ifs <;> exact ⟨rfl,rfl,rfl⟩
  · exact ⟨rfl,rfl,rfl⟩

theorem fireTimer_drops (chest : AChest F) (dropped : DroppedBall F)
    (drops : chest.fireTimer.2 = some dropped) : dropped.ballBPClass = chest.ballBPClass := by
  unfold fireTimer ballDropDelayTimer at drops
  dsimp only at drops
  split at drops
  · split_ifs at drops
    cases drops
    rfl
  · contradiction
  · contradiction

end AChest

/-- The entry points of a chest, the timer being whichever callback its handle holds. -/
inductive ChestEvent (F : Type)
  | interaction
  | setInteractHintVisibility (bIsVisible : Bool)
  | tick (deltaTime : F)
  | timer

inductive ChestCall
  | accepted
  | dropBall
  deriving DecidableEq,Repr

namespace AChest

variable {F : Type}

structure Init (chest : AChest F) : Prop where
  state : chest.currentChestState = .ecsClosed
  rotation : chest.bTestBoolRotation = false
  target : chest.bTargetValuesSet = false
  blocked : chest.bInteractionHintBlocked = false
  timer : chest.timerHandle = none
  container : chest.containerMeshProfile ≠ "IgnoreBall"
  lid : chest.lidMeshProfile ≠ "IgnoreBall"

variable [EngineFloat F]

theorem new_init (ballBPClass : Option BallClass) (interactionWidgetComponent : Option UWidgetComponent) :
    (new ballBPClass interactionWidgetComponent : AChest F).Init :=
  ⟨rfl,rfl,rfl,rfl,rfl,by simp [new],by simp [new]⟩

def enabled (chest : AChest F) : ChestEvent F → Bool
  | .timer => chest.timerHandle.isSome
  | _ => true

def step (E : Engine F) (chest : AChest F) : ChestEvent F → Exec (AChest F × List ChestCall)
  | .interaction => do
    let moved ← chest.interaction
    pure (moved,if chest.bInteractionHintBlocked then [] else [.accepted])
  | .setInteractHintVisibility bIsVisible => do
    pure (← chest.setInteractHintVisibility bIsVisible,[])
  | .tick deltaTime => pure (chest.tick E deltaTime,[])
  | .timer =>
    let (moved,dropped) := chest.fireTimer
    pure (moved,if dropped.isSome then [.dropBall] else [])

def machine (E : Engine F) : Machine (AChest F) (ChestEvent F) ChestCall :=
  .ofFallible Init (fun chest event => chest.enabled event = true) (step E)

end AChest

end RetrievingAI
