import RetrievingAI.EngineFunctions

/-! `APlayerCharacter`: what it remembers between frames, its throw timer and its preview. -/
namespace RetrievingAI
open Fallible

/-- The actors that implement `IInteractionInterface`. -/
inductive InteractableRef
  | ball (ref : Nat)
  | chest (ref : Nat)
  deriving DecidableEq,Repr

inductive LineTrace
  | noHit
  | hitOther
  | hitInteractable (actor : InteractableRef)
  deriving DecidableEq,Repr

inductive PlayerTimer
  | stopIgnoringBallTimer
  deriving DecidableEq,Repr

structure UNiagaraComponent (F : Type) where
  active : Bool
  positions : List (FVector F)

/-- What the engine shows the player during one frame. -/
structure PlayerView (F : Type) where
  viewCameraForward : FVector F
  viewCameraLocation : FVector F
  handSocketLocation : FVector F
  lineTraceSingleByChannel : (start finish : FVector F) → LineTrace
  predictProjectilePath : (startLocation launchVelocity : FVector F) → List (FVector F)

def PlayerView.tracing {F : Type} [EngineFloat F] (trace : LineTrace) : PlayerView F where
  viewCameraForward := ⟨((1 : ℕ) : F),((0 : ℕ) : F),((0 : ℕ) : F)⟩
  viewCameraLocation := FVector.zeroVector
  handSocketLocation := FVector.zeroVector
  lineTraceSingleByChannel _ _ := trace
  predictProjectilePath _ _ := []

structure APlayerCharacter (F : Type) where
  niagaraComponent : UNiagaraComponent F
  lastHitInteractableActor : Option InteractableRef
  ballInHand : Option Nat
  playerHUD : Option UPlayerHUD
  behaviorTree : Option UBehaviorTree
  interactRange : F
  throwStrength : F
  stopIgnoringBallRemainingCalls : Int32
  playerHudClass : Option UPlayerHUD
  throwEnd : FVector F
  callTracker : Int32
  timerHandle : Option PlayerTimer
  aiSpawnLocation : FVector F
  meshProfile : FName
  capsuleProfile : FName

namespace APlayerCharacter

variable {F : Type}

/-- A player as the constructor and the defaults of `PlayerCharacter.h` leave it. -/
def new [EngineFloat F] (playerHudClass : Option UPlayerHUD) (behaviorTree : Option UBehaviorTree)
    (meshProfile capsuleProfile : FName) : APlayerCharacter F where
  niagaraComponent := ⟨true,[]⟩
  lastHitInteractableActor := none
  ballInHand := none
  playerHUD := none
  behaviorTree := behaviorTree
  interactRange := ((1200 : ℕ) : F)
  throwStrength := ((1000 : ℕ) : F)
  stopIgnoringBallRemainingCalls := 1
  playerHudClass := playerHudClass
  throwEnd := FVector.zeroVector
  callTracker := 0
  timerHandle := none
  aiSpawnLocation := FVector.zeroVector
  meshProfile := meshProfile
  capsuleProfile := capsuleProfile

/-- A player as the level loads it: every pointer of the play session is still null. -/
structure Constructed (player : APlayerCharacter F) : Prop where
  aim : player.lastHitInteractableActor = none
  hand : player.ballInHand = none
  hud : player.playerHUD = none
  timer : player.timerHandle = none

theorem new_constructed [EngineFloat F] (playerHudClass : Option UPlayerHUD)
    (behaviorTree : Option UBehaviorTree) (meshProfile capsuleProfile : FName) :
    (new playerHudClass behaviorTree meshProfile capsuleProfile : APlayerCharacter F).Constructed :=
  ⟨rfl,rfl,rfl,rfl⟩

/-- The platforms are the locations of the actors tagged `Player1AIPlatform`. -/
def beginPlay (player : APlayerCharacter F) (platforms : List (FVector F)) : APlayerCharacter F :=
  let player := {player with niagaraComponent := {player.niagaraComponent with active := false}}
  let player := match player.playerHudClass with
    | none => player
    | some hudClass => {player with playerHUD := some hudClass.nativeConstruct}
  {player with aiSpawnLocation := platforms.foldl (fun _ location => location) player.aiSpawnLocation}

/-- A player when play begins: aiming at nothing, holding nothing, with the HUD of its class. -/
structure Started (player : APlayerCharacter F) : Prop where
  aim : player.lastHitInteractableActor = none
  hand : player.ballInHand = none
  timer : player.timerHandle = none
  hud : player.playerHUD = player.playerHudClass.map (·.nativeConstruct)

theorem beginPlay_started (player : APlayerCharacter F) (platforms : List (FVector F))
    (loaded : player.Constructed) : (player.beginPlay platforms).Started := by
  unfold beginPlay
  cases display : player.playerHudClass with
  | none => exact ⟨loaded.aim,loaded.hand,loaded.timer,by simpa [display] using loaded.hud⟩
  | some hudClass => exact ⟨loaded.aim,loaded.hand,loaded.timer,by simp⟩

def stopIgnoringBallTimer (player : APlayerCharacter F) : APlayerCharacter F :=
  let player := {player with callTracker := player.callTracker - 1}
  if player.callTracker ≤ 0 then
    {player with meshProfile := "CharacterMesh",capsuleProfile := "CharacterMesh",timerHandle := none}
  else player

@[simp] theorem stopIgnoringBallTimer_keeps (player : APlayerCharacter F) :
    player.stopIgnoringBallTimer.ballInHand = player.ballInHand ∧
    player.stopIgnoringBallTimer.lastHitInteractableActor = player.lastHitInteractableActor ∧
    player.stopIgnoringBallTimer.playerHUD = player.playerHUD ∧
    player.stopIgnoringBallTimer.playerHudClass = player.playerHudClass ∧
    player.stopIgnoringBallTimer.behaviorTree = player.behaviorTree := by
  unfold stopIgnoringBallTimer
  dsimp only
  split <;> exact ⟨rfl,rfl,rfl,rfl,rfl⟩

variable [EngineFloat F]

def lineTrace (player : APlayerCharacter F) (view : PlayerView F) : LineTrace :=
  let start := view.viewCameraLocation
  let finish := start + view.viewCameraForward.scale player.interactRange
  view.lineTraceSingleByChannel start finish

def aim (player : APlayerCharacter F) (view : PlayerView F) : APlayerCharacter F :=
  {player with throwEnd := view.viewCameraForward.scale ((9999 : ℕ) : F)}

def throwDirection (E : Engine F) (player : APlayerCharacter F) (handSocketLocation : FVector F) :
    FVector F :=
  E.findLookAtDirection handSocketLocation player.throwEnd

def manageThrowTrajectory (E : Engine F) (player : APlayerCharacter F) (view : PlayerView F) :
    APlayerCharacter F :=
  if player.ballInHand.isSome then
    let start := view.handSocketLocation
    let direction := player.throwDirection E start
    {player with niagaraComponent :=
      ⟨true,view.predictProjectilePath start (direction.scale player.throwStrength)⟩}
  else player

end APlayerCharacter

/-- `ABall::Interaction`, with the player it fetches by `GetPlayerCharacter(GetWorld(), 0)`. -/
def ABall.interaction {F : Type} (ball : ABall F) (self : Nat) (player : APlayerCharacter F) :
    Exec (ABall F × APlayerCharacter F) :=
  if ball.bInteractionHintBlocked then pure (ball,player) else do
    let ball := ball.attachTo .player
    let player := {player with ballInHand := some self}
    let hud ← deref .playerHUD player.playerHUD
    let player := {player with playerHUD := some (hud.updateHUD true)}
    let ball ← ball.setInteractHintVisibility false
    pure (ball,player)

end RetrievingAI
