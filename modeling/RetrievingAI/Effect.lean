import RetrievingAI.World

/-! What one event of the game can do, path by path through the code. Every invariant of the
running game is proved from this inversion and never unfolds the event handlers again. -/
namespace RetrievingAI
open Fallible

variable {F : Type}

theorem ABall.interaction_ok (ball moved : ABall F) (self : Nat) (player after : APlayerCharacter F)
    (ok : ball.interaction self player = .ok (moved,after)) :
    (ball.bInteractionHintBlocked = true ∧ moved = ball ∧ after = player) ∨
    (ball.bInteractionHintBlocked = false ∧ moved = (ball.attachTo .player).hinted false ∧
      ∃ hud, player.playerHUD = some hud ∧ after = {player with
        ballInHand := some self
        playerHUD := some (hud.updateHUD true)}) := by
  unfold ABall.interaction at ok
  split at ok
  next blocked =>
    cases ok
    exact Or.inl ⟨blocked,rfl,rfl⟩
  next free =>
    obtain ⟨hud,found,ok⟩ := bind_ok _ _ _ ok
    obtain ⟨hinted,shown,same⟩ := bind_ok _ _ _ ok
    rw [deref_ok] at found
    cases same
    exact Or.inr ⟨by simpa using free,ABall.setInteractHintVisibility_ok _ _ _ shown,hud,found,rfl⟩

variable [EngineFloat F]

/-- The player after a frame that leaves `LastHitInteractableActor` at `last`. -/
def APlayerCharacter.looked (E : Engine F) (player : APlayerCharacter F) (view : PlayerView F)
    (last : Option InteractableRef) : APlayerCharacter F :=
  ({player.aim view with lastHitInteractableActor := last} : APlayerCharacter F).manageThrowTrajectory
    E view

@[simp] theorem APlayerCharacter.looked_keeps (E : Engine F) (player : APlayerCharacter F)
    (view : PlayerView F) (last : Option InteractableRef) :
    (player.looked E view last).lastHitInteractableActor = last ∧
    (player.looked E view last).ballInHand = player.ballInHand ∧
    (player.looked E view last).playerHUD = player.playerHUD ∧
    (player.looked E view last).playerHudClass = player.playerHudClass ∧
    (player.looked E view last).behaviorTree = player.behaviorTree := by
  unfold looked manageThrowTrajectory
  split <;> exact ⟨rfl,rfl,rfl,rfl,rfl⟩

def APlayerCharacter.threw (player : APlayerCharacter F) (hud : UPlayerHUD) : APlayerCharacter F :=
  {player with
    meshProfile := "IgnoreBall"
    capsuleProfile := "IgnoreBall"
    callTracker := player.stopIgnoringBallRemainingCalls
    timerHandle := some .stopIgnoringBallTimer
    playerHUD := some (hud.updateHUD false)
    ballInHand := none
    niagaraComponent := {player.niagaraComponent with active := false}}

namespace World

inductive Effect (E : Engine F) (world : World F) : Event F → World F → List GameCall → Prop
  | lookBall (view ref ball) (traced : world.player.lineTrace view = .hitInteractable (.ball ref))
      (found : world.balls.read ref = some ball) :
      Effect E world (.tick view) {world with
        player := world.player.looked E view (some (.ball ref))
        balls := world.balls.write ref (ball.hinted true)} []
  | lookChest (view ref chest) (traced : world.player.lineTrace view = .hitInteractable (.chest ref))
      (found : world.chests.read ref = some chest)
      (shown : chest.setInteractHintVisibility true = .ok (chest.hinted true)) :
      Effect E world (.tick view) {world with
        player := world.player.looked E view (some (.chest ref))
        chests := world.chests.write ref (chest.hinted true)} []
  | leaveBall (view ref ball) (traced : world.player.lineTrace view = .hitOther)
      (last : world.player.lastHitInteractableActor = some (.ball ref))
      (found : world.balls.read ref = some ball) :
      Effect E world (.tick view) {world with
        player := world.player.looked E view none
        balls := world.balls.write ref (ball.hinted false)} []
  | leaveChest (view ref chest) (traced : world.player.lineTrace view = .hitOther)
      (last : world.player.lastHitInteractableActor = some (.chest ref))
      (found : world.chests.read ref = some chest)
      (shown : chest.setInteractHintVisibility false = .ok (chest.hinted false)) :
      Effect E world (.tick view) {world with
        player := world.player.looked E view none
        chests := world.chests.write ref (chest.hinted false)} []
  | lookOn (view) (traced : world.player.lineTrace view = .noHit ∨
      world.player.lineTrace view = .hitOther ∧ world.player.lastHitInteractableActor = none) :
      Effect E world (.tick view) {world with
        player := world.player.looked E view world.player.lastHitInteractableActor} []
  | pressNothing (last : world.player.lastHitInteractableActor = none) :
      Effect E world .interactButtonPressed world []
  | pressBlocked (ref ball) (last : world.player.lastHitInteractableActor = some (.ball ref))
      (found : world.balls.read ref = some ball) (blocked : ball.bInteractionHintBlocked = true) :
      Effect E world .interactButtonPressed world [.interaction (.ball ref)]
  | pickUp (ref ball hud) (last : world.player.lastHitInteractableActor = some (.ball ref))
      (found : world.balls.read ref = some ball) (free : ball.bInteractionHintBlocked = false)
      (display : world.player.playerHUD = some hud) :
      Effect E world .interactButtonPressed {world with
        player := {world.player with
          ballInHand := some ref
          playerHUD := some (hud.updateHUD true)}
        balls := world.balls.write ref ((ball.attachTo .player).hinted false)}
        [.interaction (.ball ref)]
  | pressChest (ref chest moved) (last : world.player.lastHitInteractableActor = some (.chest ref))
      (found : world.chests.read ref = some chest) (taken : chest.interaction = .ok moved) :
      Effect E world .interactButtonPressed {world with
        chests := world.chests.write ref moved} [.interaction (.chest ref)]
  | throwNothing (location) (hand : world.player.ballInHand = none) :
      Effect E world (.throwButtonPressed location) world []
  | throw (location ref ball hud) (hand : world.player.ballInHand = some ref)
      (found : world.balls.read ref = some ball) (display : world.player.playerHUD = some hud) :
      Effect E world (.throwButtonPressed location) {world with
        player := world.player.threw hud
        balls := world.balls.write ref {ball.launched world.player.throwStrength
          (world.player.throwDirection E location) with
          ballThrower := some .player0
          aiSpawnVector := world.player.aiSpawnLocation}} [.throw ref]
  | stopIgnoring (running : world.player.timerHandle.isSome = true) :
      Effect E world .stopIgnoringBallTimer {world with
        player := world.player.stopIgnoringBallTimer} []
  | hitNothing (ref spawned ball) (found : world.balls.read ref = some ball)
      (still : ball.bBallThrown = false) : Effect E world (.onComponentHit ref spawned) world []
  | land (ref spawned ball) (found : world.balls.read ref = some ball)
      (thrown : ball.bBallThrown = true)
      (unanswered : ball.ballThrower = none ∨ ball.aiCharacterClass = none) :
      Effect E world (.onComponentHit ref spawned) {world with
        balls := world.balls.write ref (ball.landed false)} []
  | answer (ref ball thrower tree retriever) (found : world.balls.read ref = some ball)
      (thrown : ball.bBallThrown = true) (by_ : ball.ballThrower = some thrower)
      (class_ : ball.aiCharacterClass.isSome = true) (runs : world.player.behaviorTree = some tree)
      (ready : (E.spawnAIFromClass ⟨ball.aiCharacterClass.get class_,some tree,ball.aiSpawnVector,
        thrower⟩).setAICValues (some ref) (some tree) (some thrower) = .ok retriever) :
      Effect E world (.onComponentHit ref true) {world with
        balls := world.balls.write ref (ball.landed true)
        retrievers := world.retrievers.spawn retriever} [.spawnAI ref]
  | strand (ref ball thrower) (found : world.balls.read ref = some ball)
      (thrown : ball.bBallThrown = true) (by_ : ball.ballThrower = some thrower)
      (class_ : ball.aiCharacterClass.isSome = true) (idle : world.player.behaviorTree = none) :
      Effect E world (.onComponentHit ref true) {world with
        balls := world.balls.write ref (ball.landed true)
        retrievers := world.retrievers.spawn (E.spawnAIFromClass
          ⟨ball.aiCharacterClass.get class_,none,ball.aiSpawnVector,thrower⟩)} [.spawnAI ref]
  | chestTick (ref chest deltaTime) (found : world.chests.read ref = some chest) :
      Effect E world (.chestTick ref deltaTime) {world with
        chests := world.chests.write ref (chest.tick E deltaTime)} []
  | chestWait (ref chest) (found : world.chests.read ref = some chest)
      (running : chest.timerHandle.isSome = true) (quiet : chest.fireTimer.2 = none) :
      Effect E world (.chestTimer ref) {world with
        chests := world.chests.write ref chest.fireTimer.1} []
  | chestDrop (ref chest dropped ballClass) (found : world.chests.read ref = some chest)
      (running : chest.timerHandle.isSome = true) (drops : chest.fireTimer.2 = some dropped)
      (class_ : dropped.ballBPClass = some ballClass) :
      Effect E world (.chestTimer ref) {world with
        chests := world.chests.write ref chest.fireTimer.1
        balls := world.balls.spawn
          ((ABall.new ballClass).launched dropped.dropStrength dropped.direction)}
        [.dropBall world.balls.fresh]
  | chaseOn (ref task distance) (runs : world.runsTask ref .easChaseBall = true) :
      Effect E world (.chaseBall ref task distance) world []
  | reach (ref task distance retriever controler key ball)
      (found : world.retrievers.read ref = some retriever)
      (alive : retriever.live = some controler)
      (state : controler.aiState = some EAIState.easChaseBall.toUInt8)
      (named : controler.ballKey = some key) (there : world.balls.read key = some ball) :
      Effect E world (.chaseBall ref task distance) {world with
        balls := world.balls.write key (ball.attachTo (.retriever ref))
        retrievers := world.retrievers.write ref
          {retriever with controler := some (controler.inState .easGiveBallToPlayer)}} []
  | carryOn (ref task distance) (runs : world.runsTask ref .easGiveBallToPlayer = true) :
      Effect E world (.giveBallToPlayer ref task distance) world []
  | deliver (ref task distance retriever controler key ball)
      (found : world.retrievers.read ref = some retriever)
      (alive : retriever.live = some controler)
      (state : controler.aiState = some EAIState.easGiveBallToPlayer.toUInt8)
      (named : controler.ballKey = some key) (there : world.balls.read key = some ball) :
      Effect E world (.giveBallToPlayer ref task distance) {world with
        balls := world.balls.write key
          (ball.launched ((1 : ℕ) : F) FVector.zeroVector).removeBallThrower
        retrievers := world.retrievers.write ref
          {retriever.destroy with controler := some (controler.inState .easDefault).destroy}}
        [.deliver key]

private theorem tick_effect (E : Engine F) (world target : World F) (view : PlayerView F)
    (ok : world.tick E view = .ok target) : Effect E world (.tick view) target [] := by
  obtain ⟨traced,managed,same⟩ := bind_ok _ _ _ ok
  cases same
  unfold manageLineTrace at managed
  split at managed
  next missed =>
    cases managed
    exact .lookOn view (.inl missed)
  next actor hit =>
    cases actor with
    | ball ref =>
      obtain ⟨ball,found,managed⟩ := bind_ok _ _ _ managed
      obtain ⟨hinted,shown,same⟩ := bind_ok _ _ _ managed
      rw [deref_ok] at found
      cases same
      rw [ABall.setInteractHintVisibility_ok _ _ _ shown]
      exact .lookBall view ref ball hit found
    | chest ref =>
      obtain ⟨chest,found,managed⟩ := bind_ok _ _ _ managed
      obtain ⟨hinted,shown,same⟩ := bind_ok _ _ _ managed
      rw [deref_ok] at found
      cases same
      have kept := AChest.setInteractHintVisibility_ok _ _ _ shown
      subst kept
      exact .lookChest view ref chest hit found shown
  next other =>
    split at managed
    next none =>
      cases managed
      have unmoved : Effect E world (.tick view) _ [] := .lookOn view (.inr ⟨other,none⟩)
      exact unmoved
    next actor last =>
      obtain ⟨left,hidden,same⟩ := bind_ok _ _ _ managed
      cases same
      cases actor with
      | ball ref =>
        obtain ⟨ball,found,hidden⟩ := bind_ok _ _ _ hidden
        obtain ⟨hinted,shown,same⟩ := bind_ok _ _ _ hidden
        rw [deref_ok] at found
        cases same
        rw [ABall.setInteractHintVisibility_ok _ _ _ shown]
        exact .leaveBall view ref ball other last found
      | chest ref =>
        obtain ⟨chest,found,hidden⟩ := bind_ok _ _ _ hidden
        obtain ⟨hinted,shown,same⟩ := bind_ok _ _ _ hidden
        rw [deref_ok] at found
        cases same
        have kept := AChest.setInteractHintVisibility_ok _ _ _ shown
        subst kept
        exact .leaveChest view ref chest other last found shown

private theorem press_effect (E : Engine F) (world target : World F) (calls : List GameCall)
    (ok : world.interactButtonPressed = .ok (target,calls)) :
    Effect E world .interactButtonPressed target calls := by
  unfold interactButtonPressed at ok
  split at ok
  next last =>
    cases ok
    exact .pressNothing last
  next actor last =>
    obtain ⟨moved,taken,same⟩ := bind_ok _ _ _ ok
    cases same
    cases actor with
    | ball ref =>
      obtain ⟨ball,found,taken⟩ := bind_ok _ _ _ taken
      obtain ⟨⟨hinted,player⟩,picked,same⟩ := bind_ok _ _ _ taken
      rw [deref_ok] at found
      cases same
      rcases ABall.interaction_ok _ _ _ _ _ picked with
        ⟨blocked,rfl,rfl⟩ | ⟨free,rfl,hud,display,rfl⟩
      · have nothing := Effect.pressBlocked (E := E) ref hinted last found blocked
        rwa [Pool.write_read _ _ _ found]
      · exact .pickUp ref ball hud last found free display
    | chest ref =>
      obtain ⟨chest,found,taken⟩ := bind_ok _ _ _ taken
      obtain ⟨opened,accepted,same⟩ := bind_ok _ _ _ taken
      rw [deref_ok] at found
      cases same
      exact .pressChest ref chest opened last found accepted

private theorem throw_effect (E : Engine F) (world target : World F) (calls : List GameCall)
    (location : FVector F) (ok : world.throwButtonPressed E location = .ok (target,calls)) :
    Effect E world (.throwButtonPressed location) target calls := by
  unfold throwButtonPressed at ok
  split at ok
  next hand =>
    cases ok
    exact .throwNothing location hand
  next ref hand =>
    obtain ⟨ball,found,ok⟩ := bind_ok _ _ _ ok
    obtain ⟨flying,thrown,ok⟩ := bind_ok _ _ _ ok
    obtain ⟨hud,display,same⟩ := bind_ok _ _ _ ok
    rw [deref_ok] at found display
    cases same
    rw [ABall.throw_ok _ _ _ _ _ _ thrown]
    exact .throw location ref ball hud hand found display

omit [EngineFloat F] in
private theorem spawnAI_ok (E : Engine F) (world target : World F) (calls : List GameCall) (ref : Nat)
    (spawned : Bool) (ball : ABall F) (found : world.balls.read ref = some ball)
    (ok : world.spawnAI E ref spawned = .ok (target,calls)) :
    (ball.aiCharacterClass = none ∧ target = world ∧ calls = []) ∨
    ∃ pawnClass thrower retriever, ball.aiCharacterClass = some pawnClass ∧
      ball.ballThrower = some thrower ∧ spawned = true ∧
      (E.spawnAIFromClass ⟨pawnClass,world.player.behaviorTree,ball.aiSpawnVector,thrower⟩).setAICValues
        (some ref) world.player.behaviorTree (some thrower) = .ok retriever ∧
      target = {world with
        balls := world.balls.write ref {ball with bInteractionHintBlocked := true}
        retrievers := world.retrievers.spawn retriever} ∧ calls = [.spawnAI ref] := by
  obtain ⟨there,read,ok⟩ := bind_ok _ _ _ ok
  rw [deref_ok,found] at read
  cases read
  split at ok
  next classless =>
    cases ok
    exact Or.inl ⟨classless,rfl,rfl⟩
  next pawnClass class_ =>
    obtain ⟨thrower,by_,ok⟩ := bind_ok _ _ _ ok
    obtain ⟨fresh,landed,ok⟩ := bind_ok _ _ _ ok
    obtain ⟨ready,values,same⟩ := bind_ok _ _ _ ok
    rw [deref_ok] at by_ landed
    cases same
    cases spawned with
    | false => simp at landed
    | true =>
      cases landed
      exact Or.inr ⟨pawnClass,thrower,ready,class_,by_,rfl,values,rfl,rfl⟩

private theorem hit_effect (E : Engine F) (world target : World F) (calls : List GameCall)
    (ref : Nat) (spawned : Bool) (ok : world.onComponentHit E ref spawned = .ok (target,calls)) :
    Effect E world (.onComponentHit ref spawned) target calls := by
  obtain ⟨ball,found,ok⟩ := bind_ok _ _ _ ok
  rw [deref_ok] at found
  split at ok
  next still =>
    cases ok
    exact .hitNothing ref spawned ball found (by simpa using still)
  next thrown =>
    have flying : ball.bBallThrown = true := by simpa using thrown
    dsimp only at ok
    split at ok
    next answered =>
      have reread := Pool.read_write_self world.balls ref ball (ball.landed false) found
      rcases spawnAI_ok _ _ _ _ _ _ (ball.landed false) reread ok with
        ⟨classless,rfl,rfl⟩ | ⟨pawnClass,thrower,retriever,class_,by_,rfl,values,rfl,rfl⟩
      · exact .land ref spawned ball found flying (.inr classless)
      · simp only [Pool.write_write]
        have named : ball.aiCharacterClass = some pawnClass := class_
        have some_ : ball.aiCharacterClass.isSome = true := by rw [named]; rfl
        obtain rfl : ball.aiCharacterClass.get some_ = pawnClass := by simp [named]
        cases runs : world.player.behaviorTree with
        | none =>
          simp only [runs] at values
          cases values
          exact .strand ref ball thrower found flying by_ some_ runs
        | some tree =>
          simp only [runs] at values
          exact .answer ref ball thrower tree retriever found flying by_ some_ runs values
    next silent =>
      cases ok
      exact .land ref spawned ball found flying (.inl (by simpa using silent))

private theorem chestTimer_effect (E : Engine F) (world target : World F) (calls : List GameCall)
    (ref : Nat) (running : (world.chests.read ref).any (·.timerHandle.isSome) = true)
    (ok : world.chestTimer ref = .ok (target,calls)) :
    Effect E world (.chestTimer ref) target calls := by
  obtain ⟨chest,found,ok⟩ := bind_ok _ _ _ ok
  rw [deref_ok] at found
  simp only [found,Option.any_some] at running
  dsimp only at ok
  split at ok
  next quiet =>
    cases ok
    exact .chestWait ref chest found running quiet
  next dropped drops =>
    obtain ⟨ball,spawned,ok⟩ := bind_ok _ _ _ ok
    obtain ⟨flying,launched,same⟩ := bind_ok _ _ _ ok
    rw [deref_ok] at spawned
    obtain ⟨ballClass,class_,rfl⟩ := Option.map_eq_some_iff.mp spawned
    cases same
    rw [ABall.drop_ok _ _ _ _ launched]
    exact .chestDrop ref chest dropped ballClass found running drops class_

omit [EngineFloat F] in
theorem runsTask_cases (world : World F) (ref : Nat) (state : EAIState)
    (runs : world.runsTask ref state = true) : ∃ retriever controler,
      world.retrievers.read ref = some retriever ∧ retriever.live = some controler ∧
      controler.aiState = some state.toUInt8 := by
  obtain ⟨retriever,found,runs⟩ := Option.any_eq_true _ _ |>.mp runs
  obtain ⟨controler,alive,runs⟩ := Option.any_eq_true _ _ |>.mp runs
  simp only [Bool.and_eq_true,beq_iff_eq] at runs
  exact ⟨retriever,controler,found,alive,runs.2⟩

private theorem chase_effect (E : Engine F) (world target : World F) (ref : Nat)
    (task : UBTTaskChaseBall F) (distance : F) (result : EBTNodeResult)
    (runs : world.runsTask ref .easChaseBall = true)
    (ok : world.chaseBall task ref distance = .ok (target,result)) :
    Effect E world (.chaseBall ref task distance) target [] := by
  obtain ⟨retriever,controler,found,alive,state⟩ := runsTask_cases world ref _ runs
  obtain ⟨there,read,ok⟩ := bind_ok _ _ _ ok
  rw [deref_ok,found] at read
  cases read
  have possessed := (Option.filter_eq_some_iff.mp alive).1
  rw [possessed] at ok
  obtain ⟨board,blackboard,ok⟩ := bind_ok _ _ _ ok
  obtain ⟨key,named,ok⟩ := bind_ok _ _ _ ok
  obtain ⟨ball,there,ok⟩ := bind_ok _ _ _ ok
  rw [deref_ok] at blackboard named there
  split at ok
  next near =>
    obtain ⟨moved,given,same⟩ := bind_ok _ _ _ ok
    cases same
    rw [AAICharacterControler.setState_ok _ _ _ given]
    exact .reach ref task distance retriever controler key ball found alive state
      (by simp [AAICharacterControler.ballKey,blackboard,named]) there
  next far =>
    cases ok
    exact .chaseOn ref task distance runs

private theorem give_effect (E : Engine F) (world target : World F) (ref : Nat)
    (task : UBTTaskGIveBallToPlayer F) (distance : F) (result : EBTNodeResult) (calls : List GameCall)
    (runs : world.runsTask ref .easGiveBallToPlayer = true)
    (ok : world.giveBallToPlayer task ref distance = .ok (target,result,calls)) :
    Effect E world (.giveBallToPlayer ref task distance) target calls := by
  obtain ⟨retriever,controler,found,alive,state⟩ := runsTask_cases world ref _ runs
  obtain ⟨there,read,ok⟩ := bind_ok _ _ _ ok
  rw [deref_ok,found] at read
  cases read
  have possessed := (Option.filter_eq_some_iff.mp alive).1
  rw [possessed] at ok
  obtain ⟨board,blackboard,ok⟩ := bind_ok _ _ _ ok
  obtain ⟨thrower,_,ok⟩ := bind_ok _ _ _ ok
  rw [deref_ok] at blackboard
  split at ok
  next near =>
    obtain ⟨key,named,ok⟩ := bind_ok _ _ _ ok
    obtain ⟨ball,there,ok⟩ := bind_ok _ _ _ ok
    obtain ⟨dropped,launched,ok⟩ := bind_ok _ _ _ ok
    obtain ⟨moved,given,same⟩ := bind_ok _ _ _ ok
    rw [deref_ok] at named there
    cases same
    rw [AAICharacterControler.setState_ok _ _ _ given,ABall.drop_ok _ _ _ _ launched]
    exact .deliver ref task distance retriever controler key ball found alive state
      (by simp [AAICharacterControler.ballKey,blackboard,named]) there
  next far =>
    cases ok
    exact .carryOn ref task distance runs

/-- Every step of the game takes one of the paths of `Effect`. -/
theorem step_effect (E : Engine F) (world target : World F) (event : Event F) (calls : List GameCall)
    (step : (machine E).Step world event calls target) : Effect E world event target calls := by
  obtain ⟨enabled,ok⟩ := step
  cases event with
  | tick view =>
    obtain ⟨moved,looked,same⟩ := bind_ok _ _ _ ok
    cases same
    exact tick_effect E world target view looked
  | interactButtonPressed => exact press_effect E world target calls ok
  | throwButtonPressed location => exact throw_effect E world target calls location ok
  | stopIgnoringBallTimer =>
    cases ok
    exact .stopIgnoring enabled
  | onComponentHit ball spawned => exact hit_effect E world target calls ball spawned ok
  | chestTick chest deltaTime =>
    obtain ⟨moved,ticked,same⟩ := bind_ok _ _ _ ok
    obtain ⟨here,found,ticked⟩ := bind_ok _ _ _ ticked
    rw [deref_ok] at found
    cases ticked
    cases same
    exact .chestTick chest here deltaTime found
  | chestTimer chest => exact chestTimer_effect E world target calls chest enabled ok
  | chaseBall retriever task distance =>
    obtain ⟨⟨moved,result⟩,chased,same⟩ := bind_ok _ _ _ ok
    cases same
    exact chase_effect E world target retriever task distance result enabled chased
  | giveBallToPlayer retriever task distance =>
    obtain ⟨⟨moved,result,made⟩,given,same⟩ := bind_ok _ _ _ ok
    cases same
    exact give_effect E world target retriever task distance result calls enabled given

theorem Effect.thrown_hit {E : Engine F} {world target : World F} {calls : List GameCall} {ref : Nat}
    {spawned : Bool} (effect : Effect E world (.onComponentHit ref spawned) target calls)
    (ball : ABall F) (found : world.balls.read ref = some ball) (thrown : ball.bBallThrown = true)
    (by_ : ball.ballThrower.isSome = true) :
    (ball.aiCharacterClass = none ∧
      target = {world with balls := world.balls.write ref (ball.landed false)}) ∨
    spawned = true ∧ ball.aiCharacterClass.isSome = true ∧
    ∃ retriever, target = {world with
        balls := world.balls.write ref (ball.landed true)
        retrievers := world.retrievers.spawn retriever} ∧
      ((∃ tree controler, world.player.behaviorTree = some tree ∧
        retriever.live = some controler ∧ controler.Initialized ref ball.ballThrower) ∨
      (world.player.behaviorTree = none ∧ retriever.Spawned none)) := by
  cases effect with
  | hitNothing _ _ object there still =>
    rw [found] at there
    cases there
    simp [thrown] at still
  | land _ _ object there _ unanswered =>
    rw [found] at there
    cases there
    rcases unanswered with dropped | classless
    · simp [dropped] at by_
    · exact Or.inl ⟨classless,rfl⟩
  | answer _ object thrower tree retriever there _ named class_ runs ready =>
    rw [found] at there
    cases there
    obtain ⟨controler,alive,initialized⟩ := (E.spawned _).initialized ref _ ready
    rw [← named] at initialized
    exact Or.inr ⟨rfl,class_,retriever,rfl,Or.inl ⟨tree,controler,runs,alive,initialized⟩⟩
  | strand _ object thrower there _ _ class_ idle =>
    rw [found] at there
    cases there
    exact Or.inr ⟨rfl,class_,_,rfl,Or.inr ⟨idle,E.spawned _⟩⟩

end World

end RetrievingAI
