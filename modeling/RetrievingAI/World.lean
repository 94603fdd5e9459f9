import RetrievingAI.Lib.Machine
import RetrievingAI.Lib.Pool
import RetrievingAI.Chest
import RetrievingAI.PlayerCharacter

/-! The running game: one player, any number of balls, chests and retrievers, and the events by
which the engine calls into the code. -/
namespace RetrievingAI
open Fallible

structure World (F : Type) where
  player : APlayerCharacter F
  balls : Pool (ABall F)
  chests : Pool (AChest F)
  retrievers : Pool AAICharacter

inductive GameCall
  | interaction (actor : InteractableRef)
  | throw (ball : Nat)
  | spawnAI (ball : Nat)
  | deliver (ball : Nat)
  | dropBall (ball : Nat)
  deriving DecidableEq,Repr

/-- What the engine can call next. Distances and spawn outcomes are the engine's to choose. -/
inductive Event (F : Type)
  | tick (view : PlayerView F)
  | interactButtonPressed
  | throwButtonPressed (handSocketLocation : FVector F)
  | stopIgnoringBallTimer
  | onComponentHit (ball : Nat) (spawned : Bool)
  | chestTick (chest : Nat) (deltaTime : F)
  | chestTimer (chest : Nat)
  | chaseBall (retriever : Nat) (task : UBTTaskChaseBall F) (distance : F)
  | giveBallToPlayer (retriever : Nat) (task : UBTTaskGIveBallToPlayer F) (distance : F)

namespace World

variable {F : Type}

def contains (world : World F) : InteractableRef → Bool
  | .ball ref => (world.balls.read ref).isSome
  | .chest ref => (world.chests.read ref).isSome

def character (world : World F) : PlayerRef → APlayerCharacter F
  | .player0 => world.player

def setInteractHintVisibility (world : World F) (bIsVisible : Bool) : InteractableRef → Exec (World F)
  | .ball ref => do
    let ball ← deref .actor (world.balls.read ref)
    let ball ← ball.setInteractHintVisibility bIsVisible
    pure {world with balls := world.balls.write ref ball}
  | .chest ref => do
    let chest ← deref .actor (world.chests.read ref)
    let chest ← chest.setInteractHintVisibility bIsVisible
    pure {world with chests := world.chests.write ref chest}

def interaction (world : World F) : InteractableRef → Exec (World F)
  | .ball ref => do
    let ball ← deref .actor (world.balls.read ref)
    let (ball,player) ← ball.interaction ref world.player
    pure {world with player := player,balls := world.balls.write ref ball}
  | .chest ref => do
    let chest ← deref .actor (world.chests.read ref)
    let chest ← chest.interaction
    pure {world with chests := world.chests.write ref chest}

def interactButtonPressed (world : World F) : Exec (World F × List GameCall) :=
  match world.player.lastHitInteractableActor with
  | none => pure (world,[])
  | some actor => do
    let world ← world.interaction actor
    pure (world,[.interaction actor])

/-- The call `spawnAI` is made where a retriever is spawned, not where `SpawnAI` finds no class to spawn. -/
def spawnAI (E : Engine F) (world : World F) (ref : Nat) (spawned : Bool) :
    Exec (World F × List GameCall) := do
  let ball ← deref .actor (world.balls.read ref)
  match ball.aiCharacterClass with
  | none => pure (world,[])
  | some pawnClass => do
    let thrower ← deref .ballThrower ball.ballThrower
    let tree := (world.character thrower).behaviorTree
    let arguments := ⟨pawnClass,tree,ball.aiSpawnVector,thrower⟩
    let aiRetriever ← deref .aiRetriever
      (if spawned then some (E.spawnAIFromClass arguments) else none)
    let aiRetriever ← aiRetriever.setAICValues (some ref) tree (some thrower)
    let ball := {ball with bInteractionHintBlocked := true}
    pure ({world with
      balls := world.balls.write ref ball
      retrievers := world.retrievers.spawn aiRetriever},[.spawnAI ref])

def onComponentHit (E : Engine F) (world : World F) (ref : Nat) (spawned : Bool) :
    Exec (World F × List GameCall) := do
  let ball ← deref .actor (world.balls.read ref)
  if !ball.bBallThrown then pure (world,[]) else
    let ball := {ball with bBallThrown := false,bInteractionHintBlocked := false}
    let world := {world with balls := world.balls.write ref ball}
    if ball.ballThrower.isSome then world.spawnAI E ref spawned else pure (world,[])

variable [EngineFloat F]

def manageLineTrace (world : World F) (view : PlayerView F) : Exec (World F) :=
  match world.player.lineTrace view with
  | .noHit => pure world
  | .hitInteractable actor =>
    let world := {world with player := {world.player with lastHitInteractableActor := some actor}}
    world.setInteractHintVisibility true actor
  | .hitOther =>
    match world.player.lastHitInteractableActor with
    | none => pure world
    | some actor => do
      let world ← world.setInteractHintVisibility false actor
      pure {world with player := {world.player with lastHitInteractableActor := none}}

def tick (E : Engine F) (world : World F) (view : PlayerView F) : Exec (World F) := do
  let world := {world with player := world.player.aim view}
  let world ← world.manageLineTrace view
  pure {world with player := world.player.manageThrowTrajectory E view}

def throwButtonPressed (E : Engine F) (world : World F) (handSocketLocation : FVector F) :
    Exec (World F × List GameCall) :=
  match world.player.ballInHand with
  | none => pure (world,[])
  | some ref => do
    let player := {world.player with meshProfile := "IgnoreBall",capsuleProfile := "IgnoreBall"}
    let player := {player with
      callTracker := player.stopIgnoringBallRemainingCalls
      timerHandle := some .stopIgnoringBallTimer}
    let direction := player.throwDirection E handSocketLocation
    let ball ← deref .actor (world.balls.read ref)
    let ball ← ball.throw player.throwStrength direction (some .player0) player.aiSpawnLocation
    let hud ← deref .playerHUD player.playerHUD
    let player := {player with
      playerHUD := some (hud.updateHUD false)
      ballInHand := none
      niagaraComponent := {player.niagaraComponent with active := false}}
    pure ({world with player := player,balls := world.balls.write ref ball},[.throw ref])

def chestTick (E : Engine F) (world : World F) (ref : Nat) (deltaTime : F) : Exec (World F) := do
  let chest ← deref .actor (world.chests.read ref)
  pure {world with chests := world.chests.write ref (chest.tick E deltaTime)}

/-- `SpawnActor<ABall>` returns a ball whenever the chest names a class to spawn. -/
def chestTimer (world : World F) (ref : Nat) : Exec (World F × List GameCall) := do
  let chest ← deref .actor (world.chests.read ref)
  let (chest,dropped) := chest.fireTimer
  let world := {world with chests := world.chests.write ref chest}
  match dropped with
  | none => pure (world,[])
  | some dropped => do
    let droppedBall ← deref .droppedBall (dropped.ballBPClass.map ABall.new)
    let droppedBall ← droppedBall.drop dropped.dropStrength dropped.direction
    pure ({world with balls := world.balls.spawn droppedBall},[.dropBall world.balls.fresh])

def chaseBall (world : World F) (task : UBTTaskChaseBall F) (ref : Nat) (distance : F) :
    Exec (World F × EBTNodeResult) := do
  let retriever ← deref .actor (world.retrievers.read ref)
  match retriever.controler with
  | none => pure (world,.failed)
  | some aic => do
    let board ← deref .blackboard aic.blackboard
    let ballToRetrieve ← deref .ballToRetrieve
      ((board.getValueAsObject ballToRetrieveKeyName).bind (·.castBall))
    let ball ← deref .actor (world.balls.read ballToRetrieve)
    if EngineFloat.lessOrEqual distance task.acceptanceRadius then
      let ball := ball.attachTo (.retriever ref)
      let aic ← aic.setStateAsGiveBallToPlayer
      pure ({world with
        balls := world.balls.write ballToRetrieve ball
        retrievers := world.retrievers.write ref {retriever with controler := some aic}},.succeeded)
    else pure (world,.failed)

def giveBallToPlayer (world : World F) (task : UBTTaskGIveBallToPlayer F) (ref : Nat) (distance : F) :
    Exec (World F × EBTNodeResult × List GameCall) := do
  let retriever ← deref .actor (world.retrievers.read ref)
  match retriever.controler with
  | none => pure (world,.failed,[])
  | some aic => do
    let board ← deref .blackboard aic.blackboard
    let ballToDrop := (board.getValueAsObject ballToRetrieveKeyName).bind (·.castBall)
    let _ ← deref .ballThrower ((board.getValueAsObject ballThrowerKeyName).bind (·.castPlayer))
    if EngineFloat.lessOrEqual distance task.acceptanceRadius then
      let ballToDrop ← deref .ballToRetrieve ballToDrop
      let ball ← deref .actor (world.balls.read ballToDrop)
      let ball ← ball.drop ((1 : ℕ) : F) FVector.zeroVector
      let aic ← aic.setStateAsDefault
      let retriever := retriever.destroy
      let aic := aic.destroy
      let ball := ball.removeBallThrower
      pure ({world with
        balls := world.balls.write ballToDrop ball
        retrievers := world.retrievers.write ref {retriever with controler := some aic}},
        .succeeded,[.deliver ballToDrop])
    else pure (world,.failed,[])

/-- The behaviour-tree asset runs a task only on a live controller in the task's own state. -/
def runsTask (world : World F) (ref : Nat) (state : EAIState) : Bool :=
  (world.retrievers.read ref).any fun retriever => retriever.live.any fun controler =>
    controler.behaviorTree.isSome && controler.aiState == some state.toUInt8

/-- When the engine can make a call: on actors that exist, timers that are set, tasks that run. -/
def enabled (world : World F) : Event F → Bool
  | .tick view => match world.player.lineTrace view with
    | .hitInteractable actor => world.contains actor
    | _ => true
  | .interactButtonPressed => true
  | .throwButtonPressed _ => true
  | .stopIgnoringBallTimer => world.player.timerHandle.isSome
  | .onComponentHit ball _ => (world.balls.read ball).isSome
  | .chestTick chest _ => (world.chests.read chest).isSome
  | .chestTimer chest => (world.chests.read chest).any (·.timerHandle.isSome)
  | .chaseBall retriever _ _ => world.runsTask retriever .easChaseBall
  | .giveBallToPlayer retriever _ _ => world.runsTask retriever .easGiveBallToPlayer

def step (E : Engine F) (world : World F) : Event F → Exec (World F × List GameCall)
  | .tick view => do pure (← world.tick E view,[])
  | .interactButtonPressed => world.interactButtonPressed
  | .throwButtonPressed handSocketLocation => world.throwButtonPressed E handSocketLocation
  | .stopIgnoringBallTimer => pure ({world with player := world.player.stopIgnoringBallTimer},[])
  | .onComponentHit ball spawned => world.onComponentHit E ball spawned
  | .chestTick chest deltaTime => do pure (← world.chestTick E chest deltaTime,[])
  | .chestTimer chest => world.chestTimer chest
  | .chaseBall retriever task distance => do
    let (world,_) ← world.chaseBall task retriever distance
    pure (world,[])
  | .giveBallToPlayer retriever task distance => do
    let (world,_,calls) ← world.giveBallToPlayer task retriever distance
    pure (world,calls)

/-- Every ball, placed or still in a chest, calls a retriever that has a tree to run. -/
structure Staffed (world : World F) : Prop where
  tree : world.player.behaviorTree.isSome = true
  balls : world.balls.All fun ball => ball.aiCharacterClass.isSome = true
  chests : world.chests.All fun chest => chest.ballBPClass.all (·.aiCharacterClass.isSome) = true

/-- The references a playable level sets: those of the retrievers, the HUD and its text. -/
structure Configured (world : World F) : Prop extends Staffed world where
  hud : world.player.playerHudClass.any (·.isBallInHandTextBlock.isSome) = true

/-- A level at the start of play, after every `BeginPlay`. -/
structure Init (world : World F) : Prop where
  player : ∃ player platforms, APlayerCharacter.Constructed player ∧
    world.player = player.beginPlay platforms
  balls : world.balls.All fun ball => ∃ ballClass, ball = ABall.new ballClass
  chests : world.chests.All fun chest => chest.Init ∧ chest.hintVisible = false
  retrievers : world.retrievers = Pool.empty

def level (player : APlayerCharacter F) (platforms : List (FVector F)) (balls : List BallClass)
    (chests : List (AChest F)) : World F :=
  ⟨player.beginPlay platforms,⟨balls.map ABall.new⟩,⟨chests⟩,Pool.empty⟩

theorem level_init (player : APlayerCharacter F) (platforms : List (FVector F))
    (balls : List BallClass) (chests : List (AChest F)) (loaded : player.Constructed)
    (ready : ∀ chest ∈ chests, chest.Init ∧ chest.hintVisible = false) :
    (level player platforms balls chests).Init where
  player := ⟨player,platforms,loaded,rfl⟩
  balls ref ball found := by
    obtain ⟨ballClass,_,same⟩ := List.mem_map.mp (List.mem_of_getElem? found)
    exact ⟨ballClass,same.symm⟩
  chests ref chest found := ready chest (List.mem_of_getElem? found)
  retrievers := rfl

omit [EngineFloat F] in
theorem start_player (world : World F) (start : ∃ player platforms,
    APlayerCharacter.Constructed player ∧ world.player = player.beginPlay platforms) :
    world.player.Started := by
  obtain ⟨player,platforms,loaded,same⟩ := start
  rw [same]
  exact player.beginPlay_started platforms loaded

def machine (E : Engine F) : Machine (World F) (Event F) GameCall :=
  .ofFallible Init (fun world event => world.enabled event = true) (step E)

def ballLevel (balls : Nat) : World ℚ :=
  level (.new (some ⟨some ⟨"",.white,.visible⟩⟩) (some ⟨"BT_AI"⟩) "CharacterMesh" "Pawn") []
    (List.replicate balls ⟨some ⟨"BP_AI"⟩,some ⟨some ⟨some ⟨"",.white,.visible⟩⟩⟩⟩) []

theorem ballLevel_all (balls : Nat) {P : ABall ℚ → Prop}
    (holds : P (.new ⟨some ⟨"BP_AI"⟩,some ⟨some ⟨some ⟨"",.white,.visible⟩⟩⟩⟩)) :
    (ballLevel balls).balls.All P := by
  intro ref ball found
  obtain ⟨ballClass,inside,same⟩ := List.mem_map.mp (List.mem_of_getElem? found)
  rwa [← same,List.eq_of_mem_replicate inside]

theorem ballLevel_init (balls : Nat) :
    ((machine Engine.exact).starting Configured).Init (ballLevel balls) := by
  refine ⟨level_init _ _ _ _ (APlayerCharacter.new_constructed _ _ _ _) (by simp),
    ⟨⟨rfl,ballLevel_all balls rfl,?_⟩,rfl⟩⟩
  intro ref chest found
  contradiction

end World

end RetrievingAI
