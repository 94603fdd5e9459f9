import RetrievingAI.Changes
import RetrievingAI.Defaults

/-! Where retrievers come from. The platform that `BeginPlay` of the player finds gets to every spawn, by
way of the throw and of the ball thrown. -/
namespace RetrievingAI

variable {F : Type}

theorem APlayerCharacter.beginPlay_post (player : APlayerCharacter F) (platforms : List (FVector F)) :
    (player.beginPlay platforms).aiSpawnLocation = platforms.getLastD player.aiSpawnLocation ∧
    (player.beginPlay platforms).behaviorTree = player.behaviorTree := by
  have last : ∀ (location : FVector F) (platforms : List (FVector F)),
      platforms.foldl (fun _ location => location) location = platforms.getLastD location := by
    intro location platforms
    induction platforms generalizing location with
    | nil => rfl
    | cons platform rest ih => rw [List.foldl_cons,ih,List.getLastD_cons]
  unfold beginPlay
  cases player.playerHudClass with
  | none => exact ⟨last _ _,rfl⟩
  | some hudClass => exact ⟨last _ _,rfl⟩

/-- A thrown ball remembers the location of its thrower. -/
def ABall.PostedAt (ball : ABall F) (location : FVector F) : Prop :=
  ball.ballThrower.isSome = true → ball.aiSpawnVector = location

theorem ABall.hinted_aiSpawnVector (ball : ABall F) (bIsVisible : Bool) :
    (ball.hinted bIsVisible).aiSpawnVector = ball.aiSpawnVector := by
  unfold hinted
  split <;> rfl

namespace World

def spawnAIArguments (world : World F) (ref : Nat) : Option (SpawnAIArguments F) := do
  let ball ← world.balls.read ref
  let pawnClass ← ball.aiCharacterClass
  let thrower ← ball.ballThrower
  pure ⟨pawnClass,(world.character thrower).behaviorTree,ball.aiSpawnVector,thrower⟩

/-- Player and balls still agree with what the level was loaded with. -/
structure Posted (location : FVector F) (tree : Option UBehaviorTree) (world : World F) : Prop where
  player : world.player.aiSpawnLocation = location
  tree : world.player.behaviorTree = tree
  balls : world.balls.All (·.PostedAt location)

variable [EngineFloat F]

theorem BallChange.postedAt {world : World F} {ref : Nat} {ball after : ABall F} {event : Event F}
    {calls : List GameCall} (change : BallChange world ref ball event calls after)
    {location : FVector F} (player : world.player.aiSpawnLocation = location) (posted : ball.PostedAt location) :
    after.PostedAt location := by
  intro thrown
  cases change with
  | same | land | answer | reach => exact posted thrown
  | hint bIsVisible =>
    rw [ABall.hinted_aiSpawnVector]
    exact posted (by simpa using thrown)
  | take free =>
    rw [ABall.hinted_aiSpawnVector]
    exact posted (by simpa [ABall.attachTo] using thrown)
  | throw direction hand made => exact player
  | deliver => contradiction

theorem effect_posted (E : Engine F) (world target : World F) (event : Event F) (calls : List GameCall)
    (effect : Effect E world event target calls) (location : FVector F) (tree : Option UBehaviorTree)
    (posted : world.Posted location tree) : target.Posted location tree := by
  obtain ⟨same,runs,_⟩ := (effect_playerChange E world target event calls effect).defaults
  refine ⟨same.trans posted.player,runs.trans posted.tree,?_⟩
  intro ref after now
  rcases effect_ballOrigin E world target event calls effect ref after now with
    ⟨ball,found,change⟩ | ⟨ballClass,strength,direction,rfl⟩
  · exact change.postedAt posted.player (posted.balls ref ball found)
  · intro thrown
    simp [ABall.launched,ABall.new] at thrown

theorem init_posted (world : World F) (begins : world.Init) :
    world.Posted world.player.aiSpawnLocation world.player.behaviorTree := by
  refine ⟨rfl,rfl,?_⟩
  intro ref ball found
  obtain ⟨ballClass,rfl⟩ := begins.balls ref ball found
  intro thrown
  contradiction

theorem effect_spawnAI (E : Engine F) (world target : World F) (event : Event F) (calls : List GameCall)
    (effect : Effect E world event target calls) (ref : Nat) (made : .spawnAI ref ∈ calls) :
    ∃ ball thrower pawnClass retriever, world.balls.read ref = some ball ∧
      ball.ballThrower = some thrower ∧ ball.aiCharacterClass = some pawnClass ∧
      (E.spawnAIFromClass ⟨pawnClass,world.player.behaviorTree,ball.aiSpawnVector,thrower⟩).setAICValues
        (some ref) world.player.behaviorTree (some thrower) = .ok retriever ∧
      target.retrievers = world.retrievers.spawn retriever := by
  cases effect with
  | answer other ball thrower tree retriever found thrown by_ class_ runs ready =>
    cases List.mem_singleton.mp made
    rw [← runs] at ready
    exact ⟨ball,thrower,_,retriever,found,by_,(Option.some_get class_).symm,ready,rfl⟩
  | strand other ball thrower found thrown by_ class_ idle =>
    cases List.mem_singleton.mp made
    refine ⟨ball,thrower,_,_,found,by_,(Option.some_get class_).symm,?_,rfl⟩
    rw [idle]
    rfl
  | lookBall | lookChest | leaveBall | leaveChest | lookOn | pressNothing | pressBlocked | pickUp
  | pressChest | throwNothing | throw | stopIgnoring | hitNothing | land | chestTick | chestWait
  | chestDrop | chaseOn | reach | carryOn | deliver => simp at made

/-- Every retriever of every run is spawned for a player's throw, with the player's tree, and on the last
of the platforms that `BeginPlay` found, or where the player was loaded to post it if there were none. -/
theorem spawn_posted (E : Engine F) (player : APlayerCharacter F) (platforms : List (FVector F))
    (start : World F) (begins : start.Init) (loaded : start.player = player.beginPlay platforms)
    (history : List (Machine.Moment (World F) (Event F) GameCall)) (world : World F)
    (path : (machine E).Path start history world) :
    ∀ moment ∈ history, ∀ ref, .spawnAI ref ∈ moment.calls → ∃ pawnClass retriever,
      moment.source.spawnAIArguments ref = some ⟨pawnClass,player.behaviorTree,
        platforms.getLastD player.aiSpawnLocation,.player0⟩ ∧
      (E.spawnAIFromClass ⟨pawnClass,player.behaviorTree,platforms.getLastD player.aiSpawnLocation,
        .player0⟩).setAICValues (some ref) player.behaviorTree (some .player0) = .ok retriever ∧
      moment.target.retrievers = moment.source.retrievers.spawn retriever := by
  intro moment member ref made
  obtain ⟨⟨earlier,before⟩,step⟩ := path.step_of_mem moment member
  obtain ⟨location,tree⟩ := player.beginPlay_post platforms
  have posted := before.invariant (init_posted start begins) fun source event calls target posted step =>
    effect_posted E source target event calls (step_effect E _ _ _ _ step) _ _ posted
  rw [loaded,location,tree] at posted
  obtain ⟨ball,thrower,pawnClass,retriever,found,by_,class_,ready,spawned⟩ :=
    effect_spawnAI E _ _ _ _ (step_effect E _ _ _ _ step) ref made
  have there := posted.balls ref ball found (by rw [by_]; rfl)
  cases thrower
  rw [posted.tree,there] at ready
  refine ⟨pawnClass,retriever,?_,ready,spawned⟩
  simp [spawnAIArguments,found,class_,by_,character,posted.tree,there]

/-- A level with two platforms. -/
def platformLevel (player : APlayerCharacter ℚ) : World ℚ :=
  level player [⟨1,2,3⟩,⟨4,5,6⟩] [⟨some ⟨"BP_AI"⟩,none⟩] []

theorem spawn_posted_last : ∃ player history world,
    (machine Engine.exact).Path (platformLevel player) history world ∧
    history.map (·.event) = [.onComponentHit 0 true,.throwButtonPressed .zeroVector,.interactButtonPressed,
      .tick (.tracing (.hitInteractable (.ball 0)))] ∧
    ∃ moment ∈ history, ∃ pawnClass retriever,
      moment.source.spawnAIArguments 0 = some ⟨pawnClass,some ⟨"BT_AI"⟩,⟨4,5,6⟩,.player0⟩ ∧
      (Engine.exact.spawnAIFromClass ⟨pawnClass,some ⟨"BT_AI"⟩,⟨4,5,6⟩,.player0⟩).setAICValues (some 0)
        (some ⟨"BT_AI"⟩) (some .player0) = .ok retriever ∧
      moment.target.retrievers = moment.source.retrievers.spawn retriever := by
  let player : APlayerCharacter ℚ := .new (some ⟨none⟩) (some ⟨"BT_AI"⟩) "CharacterMesh" "Pawn"
  have begins : (platformLevel player).Init :=
    level_init _ _ _ _ (APlayerCharacter.new_constructed _ _ _ _) (by simp)
  have start : (machine Engine.exact).Path (platformLevel player) [] (platformLevel player) := .refl
  have aimed := Machine.Path.next _ _ (.tick (.tracing (.hitInteractable (.ball 0)))) _ _ start ⟨rfl,rfl⟩
  have picked := Machine.Path.next _ _ .interactButtonPressed _ _ aimed ⟨rfl,rfl⟩
  have thrown := Machine.Path.next _ _ (.throwButtonPressed .zeroVector) _ _ picked ⟨rfl,rfl⟩
  have landed := Machine.Path.next _ _ (.onComponentHit 0 true) _ _ thrown ⟨rfl,rfl⟩
  exact ⟨player,_,_,landed,rfl,_,List.mem_cons_self,spawn_posted Engine.exact player _ _ begins rfl _ _ landed
    _ List.mem_cons_self 0 List.mem_cons_self⟩

end World

end RetrievingAI
