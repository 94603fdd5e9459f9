import RetrievingAI.Ball

/-! Retrievers: `AAICharacter`, `AAICharacterControler`, the blackboard of a controller and the two
behaviour-tree tasks' own data. -/
namespace RetrievingAI
open Fallible

inductive EAIState
  | easDefault
  | easChaseBall
  | easGiveBallToPlayer
  deriving DecidableEq,Repr

def EAIState.toUInt8 : EAIState → UInt8
  | .easDefault => 0
  | .easChaseBall => 1
  | .easGiveBallToPlayer => 2

/-- The objects that a blackboard key of object type can point to. -/
inductive UObject
  | ball (ref : Nat)
  | player (ref : PlayerRef)
  deriving DecidableEq,Repr

def UObject.castBall : UObject → Option Nat
  | .ball ref => some ref
  | .player _ => none

def UObject.castPlayer : UObject → Option PlayerRef
  | .ball _ => none
  | .player ref => some ref

structure UBehaviorTree where
  name : FName
  deriving DecidableEq,Repr

structure UBlackboardComponent where
  objects : FName → Option UObject
  enums : FName → UInt8

namespace UBlackboardComponent

def new : UBlackboardComponent := ⟨fun _ => none,fun _ => 0⟩

def setValueAsObject (board : UBlackboardComponent) (key : FName) (value : Option UObject) :
    UBlackboardComponent :=
  {board with objects := fun other => if other = key then value else board.objects other}

def getValueAsObject (board : UBlackboardComponent) (key : FName) : Option UObject := board.objects key

def setValueAsEnum (board : UBlackboardComponent) (key : FName) (value : UInt8) : UBlackboardComponent :=
  {board with enums := fun other => if other = key then value else board.enums other}

def getValueAsEnum (board : UBlackboardComponent) (key : FName) : UInt8 := board.enums key

@[simp] theorem get_setValueAsObject (board : UBlackboardComponent) (key other : FName)
    (value : Option UObject) : (board.setValueAsObject key value).getValueAsObject other =
      if other = key then value else board.getValueAsObject other := rfl

@[simp] theorem get_setValueAsEnum (board : UBlackboardComponent) (key other : FName) (value : UInt8) :
    (board.setValueAsEnum key value).getValueAsEnum other =
      if other = key then value else board.getValueAsEnum other := rfl

@[simp] theorem object_setValueAsEnum (board : UBlackboardComponent) (key other : FName)
    (value : UInt8) : (board.setValueAsEnum key value).getValueAsObject other =
      board.getValueAsObject other := rfl

end UBlackboardComponent

def aiStateKeyName : FName := "AIState"

def ballToRetrieveKeyName : FName := "BallToRetrieve"

def ballThrowerKeyName : FName := "BallThrower"

@[simp] theorem ballToRetrieveKeyName_ne : ballToRetrieveKeyName ≠ ballThrowerKeyName := by decide

structure AAICharacterControler where
  ballToRetrieve : Option Nat
  blackboard : Option UBlackboardComponent
  behaviorTree : Option UBehaviorTree
  bActorIsBeingDestroyed : Bool

namespace AAICharacterControler

def setState (controler : AAICharacterControler) (state : EAIState) : Exec AAICharacterControler := do
  let board ← deref .blackboard controler.blackboard
  pure {controler with blackboard := some (board.setValueAsEnum aiStateKeyName state.toUInt8)}

def setStateAsChaseBall (controler : AAICharacterControler) : Exec AAICharacterControler :=
  controler.setState .easChaseBall

def setStateAsGiveBallToPlayer (controler : AAICharacterControler) : Exec AAICharacterControler :=
  controler.setState .easGiveBallToPlayer

def setStateAsDefault (controler : AAICharacterControler) : Exec AAICharacterControler :=
  controler.setState .easDefault

-- `UseBlackboard` hands out a blackboard of the tree's asset, every key at its default.
def initializeAIC (controler : AAICharacterControler) (ball : Nat) (tree : UBehaviorTree)
    (ballThrower : Option PlayerRef) : Exec AAICharacterControler := do
  let controler := {controler with blackboard := some .new}
  let controler := {controler with behaviorTree := some tree}
  let controler := {controler with ballToRetrieve := some ball}
  let board ← deref .blackboard controler.blackboard
  let board := board.setValueAsObject ballToRetrieveKeyName (some (.ball ball))
  let board := board.setValueAsObject ballThrowerKeyName (ballThrower.map .player)
  let controler := {controler with blackboard := some board}
  controler.setStateAsChaseBall

def destroy (controler : AAICharacterControler) : AAICharacterControler :=
  {controler with bActorIsBeingDestroyed := true}

/-- The ball and the thrower that the blackboard names, and the state it records. -/
def ballKey (controler : AAICharacterControler) : Option Nat :=
  controler.blackboard.bind fun board => (board.getValueAsObject ballToRetrieveKeyName).bind (·.castBall)

def throwerKey (controler : AAICharacterControler) : Option PlayerRef :=
  controler.blackboard.bind fun board => (board.getValueAsObject ballThrowerKeyName).bind (·.castPlayer)

def aiState (controler : AAICharacterControler) : Option UInt8 :=
  controler.blackboard.map (·.getValueAsEnum aiStateKeyName)

end AAICharacterControler

namespace AAICharacterControler

def inState (controler : AAICharacterControler) (state : EAIState) : AAICharacterControler :=
  {controler with blackboard :=
    controler.blackboard.map (·.setValueAsEnum aiStateKeyName state.toUInt8)}

theorem setState_ok (controler moved : AAICharacterControler) (state : EAIState)
    (ok : controler.setState state = .ok moved) : moved = controler.inState state := by
  obtain ⟨board,found,same⟩ := bind_ok _ _ _ ok
  rw [deref_ok] at found
  cases same
  simp [inState,found]

@[simp] theorem ballKey_inState (controler : AAICharacterControler) (state : EAIState) :
    (controler.inState state).ballKey = controler.ballKey := by
  cases board : controler.blackboard <;> simp [ballKey,inState,board]

@[simp] theorem throwerKey_inState (controler : AAICharacterControler) (state : EAIState) :
    (controler.inState state).throwerKey = controler.throwerKey := by
  cases board : controler.blackboard <;> simp [throwerKey,inState,board]

@[simp] theorem destroyed_inState (controler : AAICharacterControler) (state : EAIState) :
    (controler.inState state).bActorIsBeingDestroyed = controler.bActorIsBeingDestroyed := rfl

theorem aiState_inState (controler : AAICharacterControler) (state : EAIState)
    (board : controler.blackboard.isSome = true) :
    (controler.inState state).aiState = some state.toUInt8 := by
  obtain ⟨value,found⟩ := Option.isSome_iff_exists.mp board
  simp [aiState,inState,found]

/-- The controller works for the ball as `InitializeAIC` leaves it. -/
structure Initialized (controler : AAICharacterControler) (ref : Nat) (thrower : Option PlayerRef) :
    Prop where
  ballKey : controler.ballKey = some ref
  throwerKey : controler.throwerKey = thrower
  state : controler.aiState = some EAIState.easChaseBall.toUInt8
  tree : controler.behaviorTree.isSome = true

theorem initializeAIC_ok (controler : AAICharacterControler) (ball : Nat) (tree : UBehaviorTree)
    (ballThrower : Option PlayerRef) :
    ∃ ready, controler.initializeAIC ball tree ballThrower = .ok ready ∧
      ready.Initialized ball ballThrower ∧
      ready.bActorIsBeingDestroyed = controler.bActorIsBeingDestroyed := by
  refine ⟨_,rfl,⟨?_,?_,?_,rfl⟩,rfl⟩
  · simp [ballKey,ballToRetrieveKeyName_ne,UObject.castBall]
  · cases ballThrower <;> simp [throwerKey,UObject.castPlayer]
  · simp [aiState]

end AAICharacterControler

structure AAICharacter where
  controler : Option AAICharacterControler
  bActorIsBeingDestroyed : Bool

namespace AAICharacter

/-- What the code relies on in a pawn spawned for a tree: an `AAICharacterControler` possesses it, which
has no blackboard where there is no tree. -/
structure Spawned (character : AAICharacter) (behaviorTree : Option UBehaviorTree) : Prop where
  controler : character.controler.isSome = true
  young : ∀ controler, character.controler = some controler → controler.bActorIsBeingDestroyed = false
  blank : behaviorTree = none → ∀ controler, character.controler = some controler →
    controler.blackboard = none

def setAICValues (character : AAICharacter) (ballToRetrieve : Option Nat)
    (behaviorTree : Option UBehaviorTree) (ballThrower : Option PlayerRef) : Exec AAICharacter :=
  match ballToRetrieve,behaviorTree with
  | some ball,some tree => do
    let controler ← deref .aiCharacterControler character.controler
    let controler ← controler.initializeAIC ball tree ballThrower
    pure {character with controler := some controler}
  | _,_ => pure character

def destroy (character : AAICharacter) : AAICharacter := {character with bActorIsBeingDestroyed := true}

/-- The controller of a retriever that has not been destroyed. -/
def live (character : AAICharacter) : Option AAICharacterControler :=
  character.controler.filter fun controler => !controler.bActorIsBeingDestroyed

def retrieves (ball : Nat) (character : AAICharacter) : Bool :=
  character.live.any fun controler => controler.ballKey == some ball

theorem live_mk (controler : AAICharacterControler) (dying : Bool) :
    (AAICharacter.mk (some controler) dying).live =
      if controler.bActorIsBeingDestroyed then none else some controler := by
  unfold live
  cases gone : controler.bActorIsBeingDestroyed <;> simp [Option.filter,gone]

theorem live_controler (retriever : AAICharacter) (controler : AAICharacterControler)
    (alive : retriever.live = some controler) :
    retriever.controler = some controler ∧ controler.bActorIsBeingDestroyed = false := by
  simpa [live,Option.filter_eq_some_iff] using alive

theorem retrieves_iff (retriever : AAICharacter) (ref : Nat) :
    retriever.retrieves ref = true ↔
      ∃ controler, retriever.live = some controler ∧ controler.ballKey = some ref := by
  simp [retrieves,Option.any_eq_true]

theorem Spawned.initialized {character retriever : AAICharacter} {tree : UBehaviorTree}
    (spawned : character.Spawned (some tree)) (ref : Nat) (thrower : Option PlayerRef)
    (ready : character.setAICValues (some ref) (some tree) thrower = .ok retriever) :
    ∃ controler, retriever.live = some controler ∧ controler.Initialized ref thrower := by
  obtain ⟨controler,possessing⟩ := Option.isSome_iff_exists.mp spawned.controler
  obtain ⟨started,done,initialized,young⟩ :=
    AAICharacterControler.initializeAIC_ok controler ref tree thrower
  unfold setAICValues at ready
  simp only [possessing,Fallible.deref_some,Fallible.ok_bind,done] at ready
  cases ready
  refine ⟨started,?_,initialized⟩
  rw [live_mk,young,spawned.young controler possessing]
  rfl

theorem Spawned.setAICValues_returns {character : AAICharacter} {tree : Option UBehaviorTree}
    (spawned : character.Spawned tree) (ref : Nat) (thrower : Option PlayerRef) :
    Returns (character.setAICValues (some ref) tree thrower) := by
  cases tree with
  | none => exact ⟨_,rfl⟩
  | some tree =>
    obtain ⟨controler,possessing⟩ := Option.isSome_iff_exists.mp spawned.controler
    obtain ⟨started,done,_⟩ := AAICharacterControler.initializeAIC_ok controler ref tree thrower
    refine ⟨{character with controler := some started},?_⟩
    simp only [setAICValues,possessing,Fallible.deref_some,Fallible.ok_bind,done]
    rfl

/-- A pawn spawned without a tree knows of no ball and is in no state. -/
theorem Spawned.unled {character : AAICharacter} (spawned : character.Spawned none)
    {controler : AAICharacterControler} (alive : character.live = some controler) :
    controler.ballKey = none ∧ controler.aiState = none := by
  have blank := spawned.blank rfl controler (character.live_controler controler alive).1
  simp [AAICharacterControler.ballKey,AAICharacterControler.aiState,blank]

theorem Spawned.retrieves_nothing {character : AAICharacter} (spawned : character.Spawned none)
    {ref : Nat} : character.retrieves ref = false := by
  rw [Bool.eq_false_iff]
  intro retrieves
  obtain ⟨controler,alive,named⟩ := (character.retrieves_iff ref).mp retrieves
  simp [(spawned.unled alive).1] at named

end AAICharacter

inductive EBTNodeResult
  | succeeded
  | failed
  deriving DecidableEq,Repr

structure UBTTaskChaseBall (F : Type) where
  acceptanceRadius : F

structure UBTTaskGIveBallToPlayer (F : Type) where
  acceptanceRadius : F

def UBTTaskChaseBall.new {F : Type} [EngineFloat F] : UBTTaskChaseBall F := ⟨((100 : ℕ) : F)⟩

def UBTTaskGIveBallToPlayer.new {F : Type} [EngineFloat F] : UBTTaskGIveBallToPlayer F := ⟨((100 : ℕ) : F)⟩

end RetrievingAI
