import RetrievingAI.Engine

/-! `ABall` and the part of its methods that concerns the ball alone. `SpawnAI` and the player's
side of `Interaction` are completed where the whole world is in scope. -/
namespace RetrievingAI
open Fallible

/-- The only `APlayerCharacter` of the game. -/
inductive PlayerRef
  | player0
  deriving DecidableEq,Repr

structure UClass where
  name : FName
  deriving DecidableEq,Repr

/-- The editor defaults of a ball blueprint. -/
structure BallClass where
  aiCharacterClass : Option UClass
  interactionWidgetComponent : Option UWidgetComponent
  deriving DecidableEq,Repr

structure ABall (F : Type) where
  interactionWidgetComponent : Option UWidgetComponent
  bInteractionHintBlocked : Bool
  bBallThrown : Bool
  ballMesh : UStaticMeshComponent F
  aiCharacterClass : Option UClass
  ballThrower : Option PlayerRef
  aiSpawnVector : FVector F

namespace ABall

variable {F : Type}

/-- Constructor and `BeginPlay`; the pointer left unset by them is null in a new object. -/
def new [EngineFloat F] (ballClass : BallClass) : ABall F where
  interactionWidgetComponent := UWidgetComponent.nativeConstruct ballClass.interactionWidgetComponent
  bInteractionHintBlocked := false
  bBallThrown := false
  ballMesh := ⟨true,none,FVector.zeroVector⟩
  aiCharacterClass := ballClass.aiCharacterClass
  ballThrower := none
  aiSpawnVector := FVector.zeroVector

def hintVisible (ball : ABall F) : Bool := UWidgetComponent.hintVisible ball.interactionWidgetComponent

def setInteractHintVisibility (ball : ABall F) (bIsVisible : Bool) : Exec (ABall F) :=
  if !ball.bInteractionHintBlocked && !ball.bBallThrown then do
    let component ← UWidgetComponent.setHintVisibility ball.interactionWidgetComponent bIsVisible
    pure {ball with interactionWidgetComponent := component}
  else pure ball

-- `Throw` and `Drop` differ only in what `Throw` remembers of the thrower.
def drop [EngineFloat F] (ball : ABall F) (dropStrength : F) (direction : FVector F) : Exec (ABall F) := do
  let ball := {ball with ballMesh := ball.ballMesh.setSimulatePhysics true}
  let ball := {ball with ballMesh := ball.ballMesh.setPhysicsLinearVelocity (direction.scale dropStrength)}
  let ball ← ball.setInteractHintVisibility false
  pure {ball with bInteractionHintBlocked := true,bBallThrown := true}

def throw [EngineFloat F] (ball : ABall F) (throwStrength : F) (direction : FVector F)
    (thrower : Option PlayerRef) (aiSpawnLocation : FVector F) : Exec (ABall F) := do
  let ball := {ball with ballMesh := ball.ballMesh.setSimulatePhysics true}
  let ball := {ball with ballMesh := ball.ballMesh.setPhysicsLinearVelocity (direction.scale throwStrength)}
  let ball ← ball.setInteractHintVisibility false
  let ball := {ball with bInteractionHintBlocked := true,bBallThrown := true}
  pure {ball with ballThrower := thrower,aiSpawnVector := aiSpawnLocation}

def removeBallThrower (ball : ABall F) : ABall F := {ball with ballThrower := none}

/-- `SetSimulatePhysics(false)` and `AttachToComponent(.., "HandSocket")`, which every taker of a
ball performs. -/
def attachTo (ball : ABall F) (hand : HandSocket) : ABall F :=
  {ball with ballMesh := (ball.ballMesh.setSimulatePhysics false).attachToComponent hand}

def hinted (ball : ABall F) (bIsVisible : Bool) : ABall F :=
  if ball.bInteractionHintBlocked || ball.bBallThrown then ball
  else {ball with interactionWidgetComponent :=
    UWidgetComponent.hinted ball.interactionWidgetComponent bIsVisible}

/-- The ball after `Drop`, and up to its thrower after `Throw`. -/
def launched [EngineFloat F] (ball : ABall F) (strength : F) (direction : FVector F) : ABall F :=
  {({ball with ballMesh := ⟨true,none,direction.scale strength⟩} : ABall F).hinted false with
    bInteractionHintBlocked := true
    bBallThrown := true}

def landed (ball : ABall F) (blocked : Bool) : ABall F :=
  {ball with bBallThrown := false,bInteractionHintBlocked := blocked}

@[simp] theorem hinted_keeps (ball : ABall F) (bIsVisible : Bool) :
    (ball.hinted bIsVisible).bInteractionHintBlocked = ball.bInteractionHintBlocked ∧
    (ball.hinted bIsVisible).bBallThrown = ball.bBallThrown ∧
    (ball.hinted bIsVisible).ballMesh = ball.ballMesh ∧
    (ball.hinted bIsVisible).aiCharacterClass = ball.aiCharacterClass ∧
    (ball.hinted bIsVisible).ballThrower = ball.ballThrower := by
  unfold hinted
  split <;> exact ⟨rfl,rfl,rfl,rfl,rfl⟩

theorem setInteractHintVisibility_ok (ball moved : ABall F) (bIsVisible : Bool)
    (ok : ball.setInteractHintVisibility bIsVisible = .ok moved) : moved = ball.hinted bIsVisible := by
  unfold setInteractHintVisibility at ok
  split at ok
  next listens =>
    obtain ⟨component,shown,same⟩ := bind_ok _ _ _ ok
    cases same
    rw [UWidgetComponent.setHintVisibility_ok _ _ _ shown,hinted,if_neg (by simp_all)]
  next ignores =>
    cases ok
    rw [hinted,if_pos (by cases blocked : ball.bInteractionHintBlocked <;> simp_all)]

theorem drop_ok [EngineFloat F] (ball moved : ABall F) (strength : F) (direction : FVector F)
    (ok : ball.drop strength direction = .ok moved) : moved = ball.launched strength direction := by
  obtain ⟨hinted,shown,same⟩ := bind_ok _ _ _ ok
  cases same
  rw [setInteractHintVisibility_ok _ _ _ shown]
  rfl

theorem throw_ok [EngineFloat F] (ball moved : ABall F) (strength : F) (direction : FVector F)
    (thrower : Option PlayerRef) (location : FVector F)
    (ok : ball.throw strength direction thrower location = .ok moved) :
    moved = {ball.launched strength direction with
      ballThrower := thrower
      aiSpawnVector := location} := by
  obtain ⟨hinted,shown,same⟩ := bind_ok _ _ _ ok
  cases same
  rw [setInteractHintVisibility_ok _ _ _ shown]
  rfl

end ABall

end RetrievingAI
