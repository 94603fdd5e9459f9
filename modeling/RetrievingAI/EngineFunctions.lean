import RetrievingAI.AICharacter

/-! The engine functions that the game calls and the repository does not contain, as the parameters
gathered in `Engine`. -/
namespace RetrievingAI

/-- What `SpawnAI` passes to `SpawnAIFromClass`. -/
structure SpawnAIArguments (F : Type) where
  pawnClass : UClass
  behaviorTree : Option UBehaviorTree
  location : FVector F
  owner : PlayerRef

structure Engine (F : Type) where
  fInterpConstantTo : (current target deltaTime interpSpeed : F) → F
  isNearlyEqual : (a b errorTolerance : F) → Bool
  /-- What `GetRelativeRotation().Pitch` reads back after `SetRelativeRotation(FRotator(pitch,0,0))`. -/
  relativePitch : F → F
  /-- `FindLookAtRotation(start, target).Vector()` -/
  findLookAtDirection : (start target : FVector F) → FVector F
  /-- `SpawnAIFromClass` where it finds room for the pawn. -/
  spawnAIFromClass : SpawnAIArguments F → AAICharacter
  spawned : ∀ arguments, (spawnAIFromClass arguments).Spawned arguments.behaviorTree

/-- The engine functions in exact arithmetic, as their documentation gives them. -/
def Engine.exact : Engine ℚ where
  fInterpConstantTo current target deltaTime interpSpeed :=
    current + max (-(interpSpeed*deltaTime)) (min (target-current) (interpSpeed*deltaTime))
  isNearlyEqual a b errorTolerance := decide (|a-b| ≤ errorTolerance)
  relativePitch pitch := pitch
  findLookAtDirection start target := ⟨target.x-start.x,target.y-start.y,target.z-start.z⟩
  spawnAIFromClass arguments :=
    ⟨some ⟨none,arguments.behaviorTree.map fun _ => .new,arguments.behaviorTree,false⟩,false⟩
  spawned arguments := by
    refine ⟨rfl,?_,?_⟩
    · intro controler possessing
      cases possessing
      rfl
    · intro treeless controler possessing
      cases possessing
      rw [treeless]
      rfl

end RetrievingAI
