import RetrievingAI.ChestsInGame
import RetrievingAI.Collision

/-! What a ball bounces off, by the collision profiles of the configuration. A chest that has dropped one
lets balls pass only until the lid is to close; a player who has thrown once never stops a ball again. -/
namespace RetrievingAI

inductive ECollisionEnabled
  | noCollision
  | queryOnly
  | queryAndPhysics
  deriving DecidableEq,Repr

inductive ECollisionResponse
  | ignore
  | block
  deriving DecidableEq,Repr

/-- A profile, as far as it concerns a ball. -/
structure FCollisionResponseTemplate where
  name : FName
  collisionEnabled : ECollisionEnabled
  ball : ECollisionResponse
  deriving DecidableEq,Repr

/-- The profiles of `DefaultEngine.ini`. The channel `Ball` is blocked where a profile names no response
of its own to it. -/
def collisionProfiles : List FCollisionResponseTemplate :=
  [⟨"NoCollision",.noCollision,.block⟩,⟨"BlockAll",.queryAndPhysics,.block⟩,
    ⟨"OverlapAll",.queryOnly,.block⟩,⟨"BlockAllDynamic",.queryAndPhysics,.block⟩,
    ⟨"OverlapAllDynamic",.queryOnly,.block⟩,⟨"IgnoreOnlyPawn",.queryOnly,.block⟩,
    ⟨"OverlapOnlyPawn",.queryOnly,.block⟩,⟨"Pawn",.queryAndPhysics,.block⟩,
    ⟨"Spectator",.queryOnly,.block⟩,⟨"CharacterMesh",.queryOnly,.block⟩,
    ⟨"PhysicsActor",.queryAndPhysics,.block⟩,⟨"Destructible",.queryAndPhysics,.block⟩,
    ⟨"InvisibleWall",.queryAndPhysics,.block⟩,⟨"InvisibleWallDynamic",.queryAndPhysics,.block⟩,
    ⟨"Trigger",.queryOnly,.block⟩,⟨"Ragdoll",.queryAndPhysics,.block⟩,
    ⟨"Vehicle",.queryAndPhysics,.block⟩,⟨"UI",.queryOnly,.block⟩,
    ⟨"IgnoreBall",.queryAndPhysics,.ignore⟩,⟨"Ball",.queryAndPhysics,.block⟩]

/-- A ball is a simulated body, so that only a body with physics that blocks its channel stops it. -/
def stopsBall (profile : FName) : Bool :=
  (collisionProfiles.find? (·.name == profile)).any fun template =>
    template.collisionEnabled == .queryAndPhysics && template.ball == .block

@[simp] theorem stopsBall_ignoreBall : stopsBall "IgnoreBall" = false := by decide

@[simp] theorem stopsBall_blockAllDynamic : stopsBall "BlockAllDynamic" = true := by decide

@[simp] theorem stopsBall_characterMesh : stopsBall "CharacterMesh" = false := by decide

/-- A mesh that ignores balls or stops them stops them exactly when it does not ignore them. -/
theorem stopsBall_eq (profile : FName) (ignores : Bool) (told : profile = "IgnoreBall" ↔ ignores = true)
    (solid : profile = "IgnoreBall" ∨ stopsBall profile = true) : stopsBall profile = !ignores := by
  cases ignores with
  | true =>
    rw [told.mpr rfl]
    exact stopsBall_ignoreBall
  | false =>
    rcases solid with ignoring | stops
    · exact absurd (told.mp ignoring) Bool.false_ne_true
    · exact stops

variable {F : Type}

namespace AChest

/-- A chest that has dropped no ball has the profiles it began with. Afterwards each of its meshes stops
balls or ignores them. -/
def Shields (start : AChest F) (dropped : Bool) (phase : ChestPhase) (chest : AChest F) : Prop :=
  match dropped with
  | false => chest.containerMeshProfile = start.containerMeshProfile ∧
    chest.lidMeshProfile = start.lidMeshProfile ∧ phase.ignoresBall = false
  | true => (chest.containerMeshProfile = "IgnoreBall" ∨ stopsBall chest.containerMeshProfile = true) ∧
    (chest.lidMeshProfile = "IgnoreBall" ∨ stopsBall chest.lidMeshProfile = true)

theorem InPhase.stopsBall {start chest : AChest F} {dropped : Bool} {phase : ChestPhase}
    (here : chest.InPhase phase) (shields : Shields start dropped phase chest) :
    RetrievingAI.stopsBall chest.containerMeshProfile =
      (if dropped then chest.timerHandle != some .closeLidDelayTimer
        else RetrievingAI.stopsBall start.containerMeshProfile) ∧
    RetrievingAI.stopsBall chest.lidMeshProfile =
      (if dropped then chest.timerHandle != some .closeLidDelayTimer
        else RetrievingAI.stopsBall start.lidMeshProfile) := by
  cases dropped with
  | false => exact ⟨congrArg _ shields.1,congrArg _ shields.2.1⟩
  | true =>
    have waits : (chest.timerHandle != some .closeLidDelayTimer) = !phase.ignoresBall := by
      rw [here.timer]
      cases phase <;> rfl
    rw [if_pos rfl,waits,if_pos rfl]
    exact ⟨stopsBall_eq _ _ here.container shields.1,stopsBall_eq _ _ here.lid shields.2⟩

variable [EngineFloat F]

/-- Only the drop and the timer that ends the wait after it change a profile. -/
theorem Passes.shields {E : Engine F} {start chest moved : AChest F} {event : ChestEvent F}
    {calls : List ChestCall} {phase later : ChestPhase} {dropped : Bool}
    (passes : Passes E chest phase event moved calls later) (shields : Shields start dropped phase chest) :
    Shields start (calls.contains .dropBall || dropped) later moved := by
  cases passes with
  | accept | hint =>
    rw [hinted_widget]
    cases dropped <;> exact shields
  | drop => exact ⟨Or.inl rfl,Or.inl rfl⟩
  | requestClosing =>
    cases dropped with
    | false =>
      obtain ⟨_,_,shut⟩ := shields
      contradiction
    | true => exact ⟨Or.inr stopsBall_blockAllDynamic,Or.inr stopsBall_blockAllDynamic⟩
  | ignore | rest | armOpening | armClosing | turn | finishOpening | finishClosing | count =>
    cases dropped <;> exact shields

theorem path_shields (E : Engine F) {start chest : AChest F}
    {history : List (Machine.Moment (AChest F) (ChestEvent F) ChestCall)}
    (begins : start.InPhase .idle) (path : (machine E).Path start history chest) :
    ∃ phase, chest.InPhase phase ∧
      Shields start ((Machine.calls history).contains .dropBall) phase chest := by
  induction path with
  | refl => exact ⟨.idle,begins,rfl,rfl,rfl⟩
  | next history source event calls target before step ih =>
    obtain ⟨phase,here,shields⟩ := ih
    obtain ⟨later,passes⟩ := step_passes E source target event calls phase here step
    rw [Machine.calls_cons,List.contains_append]
    exact ⟨later,passes.inPhase here,passes.shields shields⟩

end AChest

namespace World

variable [EngineFloat F]

/-- A player who has not thrown is as at the start; one who has stops no ball. -/
def Passable (start : APlayerCharacter F) (thrown : Bool) (player : APlayerCharacter F) : Prop :=
  match thrown with
  | false => player.meshProfile = start.meshProfile ∧ player.capsuleProfile = start.capsuleProfile ∧
    player.timerHandle = none
  | true => stopsBall player.meshProfile = false ∧ stopsBall player.capsuleProfile = false

theorem effect_passable (E : Engine F) (world target : World F) (event : Event F) (calls : List GameCall)
    (effect : Effect E world event target calls) (start : APlayerCharacter F) (thrown : Bool)
    (passable : Passable start thrown world.player) :
    Passable start (calls.any GameCall.isThrow || thrown) target.player := by
  rcases effect_collision E world target event calls effect with
    ⟨same,silent,_⟩ | ⟨_,ref,hud,rfl,threw⟩ | ⟨_,rfl,running,fired⟩
  · rw [silent,Bool.false_or]
    cases thrown with
    | false =>
      obtain ⟨mesh,capsule,idle⟩ := passable
      exact ⟨same.mesh.trans mesh,same.capsule.trans capsule,same.timer.trans idle⟩
    | true =>
      rw [Passable,same.mesh,same.capsule]
      exact passable
  · rw [threw]
    exact ⟨stopsBall_ignoreBall,stopsBall_ignoreBall⟩
  · cases thrown with
    | false =>
      obtain ⟨_,_,idle⟩ := passable
      rw [idle] at running
      contradiction
    | true =>
      rw [fired]
      by_cases out : world.player.callTracker - 1 ≤ 0
      · rw [world.player.stopIgnoringBallTimer_out out]
        exact ⟨stopsBall_characterMesh,stopsBall_characterMesh⟩
      · rw [world.player.stopIgnoringBallTimer_on out]
        exact passable

theorem path_passable (E : Engine F) {start world : World F} (begins : start.Init)
    {history : List (Machine.Moment (World F) (Event F) GameCall)}
    (path : (machine E).Path start history world) :
    Passable start.player ((Machine.calls history).any GameCall.isThrow) world.player := by
  induction path with
  | refl => exact ⟨rfl,rfl,(start_player start begins.player).timer⟩
  | next history source event calls target before step ih =>
    rw [Machine.calls_cons,List.any_append]
    exact effect_passable E source target event calls (step_effect E _ _ _ _ step) _ _ ih

/-- What a ball bounces off in any run. Mesh and capsule of the player stop it as at the start of play
until the first throw, and never again: what the timer puts back, on the capsule as on the mesh, is a
profile without physics. The meshes of a chest stop it as at the start until the chest's first drop, and
then always, except while its timer waits to close the lid. -/
theorem ball_obstacles (E : Engine F) (start : World F) (begins : start.Init)
    (history : List (Machine.Moment (World F) (Event F) GameCall)) (world : World F)
    (path : (machine E).Path start history world) :
    (stopsBall world.player.meshProfile =
      (stopsBall start.player.meshProfile && !(Machine.calls history).any GameCall.isThrow) ∧
    stopsBall world.player.capsuleProfile =
      (stopsBall start.player.capsuleProfile && !(Machine.calls history).any GameCall.isThrow)) ∧
    ∀ ref chest, start.chests.read ref = some chest → ∃ now, world.chests.read ref = some now ∧
      stopsBall now.containerMeshProfile =
        (if (Machine.calls (history.filterMap (chestMoment ref))).contains .dropBall then
          now.timerHandle != some .closeLidDelayTimer else stopsBall chest.containerMeshProfile) ∧
      stopsBall now.lidMeshProfile =
        (if (Machine.calls (history.filterMap (chestMoment ref))).contains .dropBall then
          now.timerHandle != some .closeLidDelayTimer else stopsBall chest.lidMeshProfile) := by
  constructor
  · have passable := path_passable E begins path
    cases thrown : (Machine.calls history).any GameCall.isThrow with
    | false =>
      rw [thrown] at passable
      rw [passable.1,passable.2.1,Bool.not_false,Bool.and_true,Bool.and_true]
      exact ⟨rfl,rfl⟩
    | true =>
      rw [thrown] at passable
      rw [Bool.not_true,Bool.and_false,Bool.and_false]
      exact passable
  · intro ref chest found
    obtain ⟨now,there,own⟩ := (chestComponent E ref).path path chest found
    obtain ⟨phase,here,shields⟩ :=
      AChest.path_shields E (chest.init_inPhase (begins.chests ref chest found).1) own
    exact ⟨now,there,here.stopsBall shields⟩

/-- A level with one ball and one chest that drops at the first firing of its timer. -/
def obstacleLevel : World ℚ :=
  level (.new (some ⟨some ⟨"",.white,.visible⟩⟩) (some ⟨"BT_AI"⟩) "CharacterMesh" "Pawn") []
    [⟨some ⟨"BP_AI"⟩,none⟩]
    [{(.new (some ⟨some ⟨"BP_AI"⟩,none⟩) none : AChest ℚ) with ballDropDelayTimerRemainingCalls := 1}]

theorem obstacleLevel_init : obstacleLevel.Init := by
  apply level_init _ _ _ _ (APlayerCharacter.new_constructed _ _ _ _)
  intro chest inside
  rw [List.mem_singleton.mp inside]
  exact ⟨⟨rfl,rfl,rfl,rfl,rfl,by simp [AChest.new],by simp [AChest.new]⟩,rfl⟩

theorem ball_obstacles_thrown : ∃ history world chest now,
    (machine Engine.exact).Path obstacleLevel history world ∧
    history.map (·.event) = [.chestTimer 0,.chestTick 0 1000,.chestTick 0 1,.interactButtonPressed,
      .tick (.tracing (.hitInteractable (.chest 0))),.throwButtonPressed .zeroVector,
      .interactButtonPressed,.tick (.tracing (.hitInteractable (.ball 0)))] ∧
    stopsBall obstacleLevel.player.capsuleProfile = true ∧
    stopsBall world.player.capsuleProfile = false ∧
    obstacleLevel.chests.read 0 = some chest ∧ stopsBall chest.lidMeshProfile = true ∧
    world.chests.read 0 = some now ∧ stopsBall now.lidMeshProfile = false := by
  have start : (machine Engine.exact).Path obstacleLevel [] obstacleLevel := .refl
  have aimed := Machine.Path.next _ _ (.tick (.tracing (.hitInteractable (.ball 0)))) _ _ start ⟨rfl,rfl⟩
  have picked := Machine.Path.next _ _ .interactButtonPressed _ _ aimed ⟨rfl,rfl⟩
  have thrown := Machine.Path.next _ _ (.throwButtonPressed .zeroVector) _ _ picked ⟨rfl,rfl⟩
  have turned := Machine.Path.next _ _ (.tick (.tracing (.hitInteractable (.chest 0)))) _ _ thrown ⟨rfl,rfl⟩
  have pressed := Machine.Path.next _ _ .interactButtonPressed _ _ turned ⟨rfl,rfl⟩
  have armed := Machine.Path.next _ _ (.chestTick 0 1) _ _ pressed ⟨rfl,rfl⟩
  have opened := Machine.Path.next _ _ (.chestTick 0 1000) _ _ armed ⟨rfl,rfl⟩
  have dropped := Machine.Path.next _ _ (.chestTimer 0) _ _ opened
    (by with_unfolding_all exact ⟨rfl,rfl⟩)
  have law := ball_obstacles Engine.exact _ obstacleLevel_init _ _ dropped
  obtain ⟨now,there,_,lid⟩ := law.2 0 _ rfl
  have waits : (now.timerHandle != some .closeLidDelayTimer) = false := by
    cases there
    with_unfolding_all rfl
  exact ⟨_,_,_,now,dropped,rfl,by decide,law.1.2.trans (Bool.and_false _),rfl,by decide,there,
    lid.trans ((if_pos rfl).trans waits)⟩

end World

end RetrievingAI
