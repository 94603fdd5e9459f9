import RetrievingAI.Effect

/-! What one event of the game can do to the player, and what to one ball. -/
namespace RetrievingAI

variable {F : Type}

theorem APlayerCharacter.stopIgnoringBallTimer_aims (player : APlayerCharacter F) :
    player.stopIgnoringBallTimer.niagaraComponent = player.niagaraComponent ∧
    player.stopIgnoringBallTimer.throwEnd = player.throwEnd ∧
    player.stopIgnoringBallTimer.throwStrength = player.throwStrength ∧
    player.stopIgnoringBallTimer.aiSpawnLocation = player.aiSpawnLocation := by
  unfold stopIgnoringBallTimer
  dsimp only
  split <;> exact ⟨rfl,rfl,rfl,rfl⟩

def Event.Hits (ref : Nat) (event : Event F) : Prop := ∃ spawned, event = .onComponentHit ref spawned

/-- What a Tick of the player sees. -/
def Event.view : Event F → Option (PlayerView F)
  | .tick view => some view
  | _ => none

variable [EngineFloat F]

namespace APlayerCharacter

/-- What one event can do to the player. -/
inductive Change (E : Engine F) (player : APlayerCharacter F) : Event F → APlayerCharacter F → Prop
  | look (view last) : Change E player (.tick view) (player.looked E view last)
  | take (ref hud) (display : player.playerHUD = some hud) :
      Change E player .interactButtonPressed {player with
        ballInHand := some ref
        playerHUD := some (hud.updateHUD true)}
  | throw (location hud) (held : player.ballInHand.isSome = true) (display : player.playerHUD = some hud) :
      Change E player (.throwButtonPressed location) (player.threw hud)
  | stopIgnoring : Change E player .stopIgnoringBallTimer player.stopIgnoringBallTimer
  | same (event) (unseen : event.view = none) : Change E player event player

theorem looked_empty (E : Engine F) (player : APlayerCharacter F) (view : PlayerView F)
    (last : Option InteractableRef) (empty : player.ballInHand = none) :
    (player.looked E view last).niagaraComponent = player.niagaraComponent := by
  unfold looked manageThrowTrajectory aim
  simp [empty]

theorem looked_held (E : Engine F) (player : APlayerCharacter F) (view : PlayerView F)
    (last : Option InteractableRef) (held : player.ballInHand.isSome = true) :
    (player.looked E view last).niagaraComponent.active = true ∧
    (player.looked E view last).throwEnd = view.viewCameraForward.scale ((9999 : ℕ) : F) ∧
    (player.looked E view last).throwStrength = player.throwStrength := by
  unfold looked manageThrowTrajectory aim
  simp [held]

/-- No event sets what the editor and `BeginPlay` have set. -/
theorem Change.defaults {E : Engine F} {player after : APlayerCharacter F} {event : Event F}
    (change : player.Change E event after) :
    after.aiSpawnLocation = player.aiSpawnLocation ∧ after.behaviorTree = player.behaviorTree ∧
    after.playerHudClass = player.playerHudClass := by
  cases change with
  | look view last =>
    unfold looked manageThrowTrajectory
    split <;> exact ⟨rfl,rfl,rfl⟩
  | stopIgnoring =>
    obtain ⟨_,_,_,hudClass,tree⟩ := player.stopIgnoringBallTimer_keeps
    exact ⟨player.stopIgnoringBallTimer_aims.2.2.2,tree,hudClass⟩
  | take | throw | same => exact ⟨rfl,rfl,rfl⟩

end APlayerCharacter

namespace World

theorem effect_playerChange (E : Engine F) (world target : World F) (event : Event F)
    (calls : List GameCall) (effect : Effect E world event target calls) :
    world.player.Change E event target.player := by
  cases effect with
  | lookBall | lookChest | leaveBall | leaveChest | lookOn => exact .look _ _
  | pickUp ref ball hud last found free display => exact .take ref hud display
  | throw location ref ball hud hand found display =>
    exact .throw location hud (Option.isSome_iff_exists.mpr ⟨ref,hand⟩) display
  | stopIgnoring => exact .stopIgnoring
  | pressNothing | pressBlocked | pressChest | throwNothing | hitNothing | land | answer | strand
  | chestTick | chestWait | chestDrop | chaseOn | reach | carryOn | deliver =>
    exact .same _ rfl

/-- The changes of a ball, path by path through the code. -/
inductive BallChange (world : World F) (ref : Nat) (ball : ABall F) (event : Event F)
    (calls : List GameCall) : ABall F → Prop
  | same : BallChange world ref ball event calls ball
  | hint (bIsVisible) : BallChange world ref ball event calls (ball.hinted bIsVisible)
  | take (free : ball.bInteractionHintBlocked = false) :
      BallChange world ref ball event calls ((ball.attachTo .player).hinted false)
  | throw (direction) (hand : world.player.ballInHand = some ref) (made : .throw ref ∈ calls) :
      BallChange world ref ball event calls {ball.launched world.player.throwStrength direction with
        ballThrower := some .player0
        aiSpawnVector := world.player.aiSpawnLocation}
  | land (hits : event.Hits ref) (thrown : ball.bBallThrown = true)
      (unanswered : ball.ballThrower = none ∨ ball.aiCharacterClass = none) :
      BallChange world ref ball event calls (ball.landed false)
  | answer (hits : event.Hits ref) (thrown : ball.bBallThrown = true)
      (by_ : ball.ballThrower.isSome = true) (class_ : ball.aiCharacterClass.isSome = true) :
      BallChange world ref ball event calls (ball.landed true)
  | reach (index retriever controler) (listed : world.retrievers.read index = some retriever)
      (alive : retriever.live = some controler) (named : controler.ballKey = some ref) :
      BallChange world ref ball event calls (ball.attachTo (.retriever index))
  | deliver (index retriever controler) (listed : world.retrievers.read index = some retriever)
      (alive : retriever.live = some controler) (named : controler.ballKey = some ref) :
      BallChange world ref ball event calls
        (ball.launched ((1 : ℕ) : F) FVector.zeroVector).removeBallThrower

theorem changes_write (world : World F) (ref other : Nat) (ball old new : ABall F) (event : Event F)
    (calls : List GameCall) (found : world.balls.read ref = some ball)
    (there : world.balls.read other = some old)
    (change : other = ref → BallChange world ref old event calls new) :
    ∃ after, (world.balls.write other new).read ref = some after ∧
      BallChange world ref ball event calls after := by
  by_cases same : other = ref
  · subst same
    rw [found] at there
    cases there
    exact ⟨new,Pool.read_write_self _ _ _ _ found,change rfl⟩
  · exact ⟨ball,(Pool.read_write_of_ne _ _ _ _ same).trans found,.same⟩

/-- A ball stays in the world, changed by one of these paths. -/
theorem effect_ballChange (E : Engine F) (world target : World F) (event : Event F)
    (calls : List GameCall) (effect : Effect E world event target calls) (ref : Nat) (ball : ABall F)
    (found : world.balls.read ref = some ball) :
    ∃ after, target.balls.read ref = some after ∧ BallChange world ref ball event calls after := by
  cases effect with
  | lookChest | leaveChest | lookOn | pressNothing | pressBlocked | pressChest | throwNothing
  | stopIgnoring | hitNothing | chestTick | chestWait | chaseOn | carryOn => exact ⟨ball,found,.same⟩
  | lookBall view other old traced there | leaveBall view other old traced last there =>
    exact changes_write world ref other ball old _ _ _ found there fun _ => .hint _
  | pickUp other old hud last there free =>
    exact changes_write world ref other ball old _ _ _ found there fun _ => .take free
  | throw location other old hud hand there =>
    refine changes_write world ref other ball old _ _ _ found there ?_
    intro same
    subst same
    exact .throw _ hand List.mem_cons_self
  | land other spawned old there thrown unanswered =>
    exact changes_write world ref other ball old _ _ _ found there
      fun same => .land ⟨spawned,by rw [same]⟩ thrown unanswered
  | answer other old thrower tree retriever there thrown by_ class_ =>
    exact changes_write world ref other ball old _ _ _ found there
      fun same => .answer ⟨true,by rw [same]⟩ thrown (by simp [by_]) class_
  | strand other old thrower there thrown by_ class_ =>
    exact changes_write world ref other ball old _ _ _ found there
      fun same => .answer ⟨true,by rw [same]⟩ thrown (by simp [by_]) class_
  | chestDrop => exact ⟨ball,Pool.read_spawn_of_found _ _ _ _ found,.same⟩
  | reach index task distance retriever controler other old listed alive state named there =>
    refine changes_write world ref other ball old _ _ _ found there ?_
    intro same
    subst same
    exact .reach index retriever controler listed alive named
  | deliver index task distance retriever controler other old listed alive state named there =>
    refine changes_write world ref other ball old _ _ _ found there ?_
    intro same
    subst same
    exact .deliver index retriever controler listed alive named

/-- A ball of the world was there before, or has just dropped out of a chest. -/
theorem effect_ballOrigin (E : Engine F) (world target : World F) (event : Event F)
    (calls : List GameCall) (effect : Effect E world event target calls) (ref : Nat) (after : ABall F)
    (now : target.balls.read ref = some after) :
    (∃ ball, world.balls.read ref = some ball ∧ BallChange world ref ball event calls after) ∨
    ∃ ballClass strength direction, after = (ABall.new ballClass).launched strength direction := by
  cases found : world.balls.read ref with
  | some ball =>
    obtain ⟨moved,there,change⟩ := effect_ballChange E world target event calls effect ref ball found
    rw [now] at there
    cases there
    exact Or.inl ⟨ball,rfl,change⟩
  | none =>
    cases effect with
    | chestDrop chest old dropped ballClass there running drops class_ =>
      rw [Pool.read_spawn,found] at now
      split at now
      · cases now
        exact Or.inr ⟨ballClass,_,_,rfl⟩
      · contradiction
    | lookBall | lookChest | leaveBall | leaveChest | lookOn | pressNothing | pressBlocked | pickUp
    | pressChest | throwNothing | throw | stopIgnoring | hitNothing | land | answer | strand
    | chestTick | chestWait | chaseOn | reach | carryOn | deliver =>
      have absent := congrArg Option.isSome now
      simp [found] at absent

theorem BallChange.aiCharacterClass {world : World F} {ref : Nat} {ball after : ABall F}
    {event : Event F} {calls : List GameCall} (change : BallChange world ref ball event calls after) :
    after.aiCharacterClass = ball.aiCharacterClass := by
  cases change with
  | same | land | answer | reach => rfl
  | hint | take | throw | deliver => simp [ABall.attachTo,ABall.launched,ABall.removeBallThrower]

end World

end RetrievingAI
