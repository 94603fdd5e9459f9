import RetrievingAI.Effect
import RetrievingAI.Lib.Direction
import Mathlib.Algebra.Module.Prod

/-! Where a throw goes. The point that `Tick` stores for it is the forward vector of the camera taken
from the origin of the level, so the launch depends on where in the level the player stands. -/
namespace RetrievingAI

/-- Exact arithmetic: the operations of an ordered field. -/
instance (priority := low) EngineFloat.ofField (K : Type) [Field K] [LinearOrder K] :
    EngineFloat K where
  lessOrEqual a b := decide (a ≤ b)

variable {F : Type}

def FVector.coords (vector : FVector F) : F × F × F := (vector.x,vector.y,vector.z)

/-- The camera and the hand socket are both moved by `shift`, and look the same way. -/
structure PlayerView.ShiftedBy [EngineFloat F] (view : PlayerView F) (shift : FVector F)
    (moved : PlayerView F) : Prop where
  forward : moved.viewCameraForward = view.viewCameraForward
  camera : moved.viewCameraLocation = view.viewCameraLocation + shift
  socket : moved.handSocketLocation = view.handSocketLocation + shift

theorem APlayerCharacter.looked_aims [EngineFloat F] (E : Engine F) (player : APlayerCharacter F)
    (view : PlayerView F) (last : Option InteractableRef) (location : FVector F) :
    (player.looked E view last).throwDirection E location =
      (player.aim view).throwDirection E location ∧
    (player.looked E view last).throwStrength = player.throwStrength := by
  unfold looked manageThrowTrajectory
  split <;> exact ⟨rfl,rfl⟩

theorem APlayerCharacter.looked_previews [EngineFloat F] (E : Engine F) (player : APlayerCharacter F)
    (view : PlayerView F) (last : Option InteractableRef) (hand : player.ballInHand.isSome = true) :
    (player.looked E view last).niagaraComponent.positions =
      view.predictProjectilePath view.handSocketLocation
        (((player.aim view).throwDirection E view.handSocketLocation).scale player.throwStrength) := by
  unfold looked manageThrowTrajectory
  split
  next held => rfl
  next empty => exact absurd hand empty

namespace World

variable [EngineFloat F]

/-- Tick, then ThrowButtonPressed: the velocity that the thrown ball is given. -/
def Throws (E : Engine F) (world : World F) (view : PlayerView F) (launch : FVector F) : Prop :=
  ∃ aimed after ref ball, (machine E).Step world (.tick view) [] aimed ∧
    (machine E).Step aimed (.throwButtonPressed view.handSocketLocation) [.throw ref] after ∧
    after.balls.read ref = some ball ∧ ball.ballMesh.physicsLinearVelocity = launch

/-- Tick, then the preview: the velocity whose path the engine is asked to predict. -/
def Previews (E : Engine F) (world : World F) (view : PlayerView F) (launch : FVector F) : Prop :=
  ∀ predict, ∃ aimed,
    (machine E).Step world (.tick {view with predictProjectilePath := predict}) [] aimed ∧
    aimed.player.niagaraComponent.positions = predict view.handSocketLocation launch

/-- The velocity that both the preview and the throw take from a view. -/
def launchVelocity (E : Engine F) (world : World F) (view : PlayerView F) : FVector F :=
  ((world.player.aim view).throwDirection E view.handSocketLocation).scale world.player.throwStrength

theorem tick_player (E : Engine F) (world target : World F) (view : PlayerView F)
    (calls : List GameCall) (step : (machine E).Step world (.tick view) calls target) :
    ∃ last, target.player = world.player.looked E view last := by
  cases step_effect E _ _ _ _ step with
  | lookBall | lookChest | leaveBall | leaveChest | lookOn => exact ⟨_,rfl⟩

theorem throws_launch (E : Engine F) (world : World F) (view : PlayerView F) (launch : FVector F)
    (thrown : world.Throws E view launch) : launch = world.launchVelocity E view := by
  obtain ⟨aimed,after,ref,ball,ticked,pressed,found,rfl⟩ := thrown
  obtain ⟨last,player⟩ := tick_player E world aimed view [] ticked
  obtain ⟨direction,strength⟩ := world.player.looked_aims E view last view.handSocketLocation
  cases step_effect E _ _ _ _ pressed with
  | throw location ref held hud hand there display =>
    rw [Pool.read_write_self _ _ _ _ there] at found
    cases found
    simp [ABall.launched,launchVelocity,player,direction,strength]

theorem previews_launch (E : Engine F) (world : World F) (view : PlayerView F) (launch : FVector F)
    (hand : world.player.ballInHand.isSome = true) (previewed : world.Previews E view launch) :
    launch = world.launchVelocity E view := by
  obtain ⟨aimed,ticked,positions⟩ := previewed fun _ velocity => [velocity]
  obtain ⟨last,player⟩ := tick_player E world aimed _ [] ticked
  rw [player,world.player.looked_previews E _ last hand] at positions
  exact (List.cons.inj positions).1.symm

/-- A frame into the sky always previews. -/
theorem sky_previews (E : Engine F) (world : World F) (view : PlayerView F)
    (hand : world.player.ballInHand.isSome = true)
    (sky : ∀ start finish, view.lineTraceSingleByChannel start finish = .noHit) :
    world.Previews E view (world.launchVelocity E view) := by
  intro predict
  let frame : PlayerView F := {view with predictProjectilePath := predict}
  have missed : world.player.lineTrace frame = .noHit := sky _ _
  have aims : (world.player.aim frame).lineTrace frame = .noHit := sky _ _
  refine ⟨{world with player := (world.player.aim frame).manageThrowTrajectory E frame},⟨?_,?_⟩,?_⟩
  · simp [enabled,frame,missed]
  · simp [step,tick,manageLineTrace,aims,frame,pure,Except.pure]
  · exact world.player.looked_previews E frame world.player.lastHitInteractableActor hand

end World

section ExactArithmetic

variable {K : Type} [Field K] [LinearOrder K]

@[simp] theorem FVector.coords_add (a b : FVector K) : (a + b).coords = a.coords + b.coords := rfl

@[simp] theorem FVector.coords_scale (vector : FVector K) (s : K) :
    (vector.scale s).coords = s • vector.coords := by
  simp [coords,scale,mul_comm]

/-- `FindLookAtRotation(a,b).Vector()` is the direction of `b - a`. -/
def Engine.LooksAt (E : Engine K) : Prop :=
  ∀ start target : FVector K, start ≠ target →
    SameDirection K (target.coords - start.coords) (E.findLookAtDirection start target).coords

/-- The way from the hand socket to 9999 camera forward vectors from the origin of the level. -/
def PlayerView.sight (view : PlayerView K) : K × K × K :=
  (9999 : K) • view.viewCameraForward.coords - view.handSocketLocation.coords

theorem PlayerView.ShiftedBy.sight {view moved : PlayerView K} {shift : FVector K}
    (shifted : view.ShiftedBy shift moved) : moved.sight = view.sight - shift.coords := by
  simp [PlayerView.sight,shifted.forward,shifted.socket,sub_sub]

namespace World

theorem launchVelocity_coords (E : Engine K) (looks : E.LooksAt) (world : World K)
    (view : PlayerView K) (apart : view.sight ≠ 0) :
    ∃ k : K, 0 < k ∧
      (world.launchVelocity E view).coords = world.player.throwStrength • k • view.sight := by
  have different : view.handSocketLocation ≠ (world.player.aim view).throwEnd := by
    intro same
    apply apart
    rw [PlayerView.sight,same]
    simp [APlayerCharacter.aim]
  obtain ⟨k,positive,towards⟩ := looks _ _ different
  refine ⟨k,positive,?_⟩
  rw [launchVelocity,FVector.coords_scale,APlayerCharacter.throwDirection,towards]
  simp [APlayerCharacter.aim,PlayerView.sight]

/-- Moving camera and hand keeps the launch direction exactly when they move along the way to the
stored point and stop short of it, or when there is no strength to launch with. -/
theorem launch_shift [IsStrictOrderedRing K] (E : Engine K) (looks : E.LooksAt) (world : World K)
    (hand : world.player.ballInHand.isSome = true) (view moved : PlayerView K) (shift : FVector K)
    (shifted : view.ShiftedBy shift moved) (apart : view.sight ≠ 0) (still : moved.sight ≠ 0)
    (thrown thrown' previewed previewed' : FVector K)
    (throws : world.Throws E view thrown) (throws' : world.Throws E moved thrown')
    (previews : world.Previews E view previewed) (previews' : world.Previews E moved previewed') :
    SameDirection K thrown.coords thrown'.coords ∧
        SameDirection K previewed.coords previewed'.coords ↔
      world.player.throwStrength = 0 ∨ ∃ t : K, t < 1 ∧ shift.coords = t • view.sight := by
  rw [throws_launch E world view thrown throws,throws_launch E world moved thrown' throws',
    previews_launch E world view previewed hand previews,
    previews_launch E world moved previewed' hand previews',and_self_iff]
  obtain ⟨k,positive,launch⟩ := launchVelocity_coords E looks world view apart
  obtain ⟨k',positive',launch'⟩ := launchVelocity_coords E looks world moved still
  rw [launch,launch']
  by_cases strength : world.player.throwStrength = 0
  · rw [strength,zero_smul,zero_smul]
    exact iff_of_true (.refl 0) (.inl rfl)
  · rw [SameDirection.smul_iff _ strength,SameDirection.smul_left_iff k positive,
      SameDirection.smul_right_iff k' positive',shifted.sight,SameDirection.sub_iff,
      or_iff_right strength]

end World

end ExactArithmetic

theorem Engine.exact_looksAt : Engine.exact.LooksAt := by
  intro start target _
  exact .refl _

/-- A player at a place, with camera and hand there, who looks along the first axis. -/
def PlayerView.standing (location : FVector ℚ) : PlayerView ℚ :=
  {tracing .noHit with viewCameraLocation := location,handSocketLocation := location}

theorem PlayerView.standing_sight (location : FVector ℚ) :
    (standing location).sight = (9999 - location.x,-location.y,-location.z) := by
  simp [sight,standing,tracing,FVector.coords]

theorem PlayerView.standing_shiftedBy (location : FVector ℚ) :
    (standing .zeroVector).ShiftedBy location (standing location) := by
  have moved : location = FVector.zeroVector + location := by
    change location = ⟨0 + location.x,0 + location.y,0 + location.z⟩
    rw [zero_add,zero_add,zero_add]
  exact ⟨rfl,moved,moved⟩

namespace World

theorem launch_shift_back : ∃ history world thrown thrown', (machine Engine.exact).Run history world ∧
    history.map (·.event) = [.interactButtonPressed,.tick (.tracing (.hitInteractable (.ball 0)))] ∧
    (PlayerView.standing .zeroVector).ShiftedBy ⟨-1,0,0⟩ (.standing ⟨-1,0,0⟩) ∧
    world.Throws Engine.exact (.standing .zeroVector) thrown ∧
    world.Throws Engine.exact (.standing ⟨-1,0,0⟩) thrown' ∧
    SameDirection ℚ thrown.coords thrown'.coords := by
  have start := Machine.Run.start (M := machine Engine.exact) _ (ballLevel_init 1).1
  have aimed := Machine.Run.next _ _ (.tick (.tracing (.hitInteractable (.ball 0)))) _ _ start ⟨rfl,rfl⟩
  have pressed := Machine.Run.next _ _ .interactButtonPressed _ _ aimed ⟨rfl,rfl⟩
  have law := fun history world (_ : (machine Engine.exact).Run history world) =>
    launch_shift Engine.exact Engine.exact_looksAt world
  have kept := law _ _ pressed rfl (.standing .zeroVector) (.standing ⟨-1,0,0⟩) ⟨-1,0,0⟩
    (PlayerView.standing_shiftedBy _) (by simp [PlayerView.standing_sight,FVector.zeroVector])
    (by norm_num [PlayerView.standing_sight]) _ _ _ _
    ⟨_,_,_,_,⟨rfl,rfl⟩,⟨rfl,rfl⟩,rfl,rfl⟩ ⟨_,_,_,_,⟨rfl,rfl⟩,⟨rfl,rfl⟩,rfl,rfl⟩
    (sky_previews _ _ _ rfl fun _ _ => rfl) (sky_previews _ _ _ rfl fun _ _ => rfl)
  refine ⟨_,_,_,_,pressed,rfl,PlayerView.standing_shiftedBy _,⟨_,_,_,_,⟨rfl,rfl⟩,⟨rfl,rfl⟩,rfl,rfl⟩,
    ⟨_,_,_,_,⟨rfl,rfl⟩,⟨rfl,rfl⟩,rfl,rfl⟩,?_⟩
  exact (kept.mpr (.inr ⟨-1/9999,by norm_num,by
    simp [PlayerView.standing_sight,FVector.coords,FVector.zeroVector]⟩)).1

/-- A step to the side turns the throw by 45 degrees. -/
theorem sidestep_turns : ∃ history world thrown thrown', (machine Engine.exact).Run history world ∧
    history.map (·.event) = [.interactButtonPressed,.tick (.tracing (.hitInteractable (.ball 0)))] ∧
    (PlayerView.standing .zeroVector).ShiftedBy ⟨0,9999,0⟩ (.standing ⟨0,9999,0⟩) ∧
    world.Throws Engine.exact (.standing .zeroVector) thrown ∧
    world.Throws Engine.exact (.standing ⟨0,9999,0⟩) thrown' ∧
    ¬ SameDirection ℚ thrown.coords thrown'.coords := by
  have start := Machine.Run.start (M := machine Engine.exact) _ (ballLevel_init 1).1
  have aimed := Machine.Run.next _ _ (.tick (.tracing (.hitInteractable (.ball 0)))) _ _ start ⟨rfl,rfl⟩
  have pressed := Machine.Run.next _ _ .interactButtonPressed _ _ aimed ⟨rfl,rfl⟩
  refine ⟨_,_,_,_,pressed,rfl,PlayerView.standing_shiftedBy _,⟨_,_,_,_,⟨rfl,rfl⟩,⟨rfl,rfl⟩,rfl,rfl⟩,
    ⟨_,_,_,_,⟨rfl,rfl⟩,⟨rfl,rfl⟩,rfl,rfl⟩,?_⟩
  intro same
  obtain ⟨k,positive,turned⟩ := same
  have side : (((0 : ℕ) : ℚ)*((9999 : ℕ) : ℚ) - 9999)*((1000 : ℕ) : ℚ) =
      k*((((0 : ℕ) : ℚ)*((9999 : ℕ) : ℚ) - ((0 : ℕ) : ℚ))*((1000 : ℕ) : ℚ)) :=
    congrArg (fun vector => vector.2.1) turned
  norm_num at side

end World

end RetrievingAI
