import RetrievingAI.Defaults
import RetrievingAI.Retrieval

/-! Null safety. Every pointer the code reads through is set in every reachable world, but for the
HUD of a player whose HUD class is not. -/
namespace RetrievingAI
open Fallible

variable {F : Type}

namespace UWidgetComponent

theorem setHintVisibility_returns (component : Option UWidgetComponent) (bIsVisible : Bool)
    (shown : Shown component) : Returns (setHintVisibility component bIsVisible) := by
  cases component with
  | none => exact returns_pure _
  | some component =>
    apply Returns.bind ((deref_returns _ _).mpr (shown component rfl))
    intro widget found
    exact returns_pure _

end UWidgetComponent

namespace ABall

theorem hint_returns (ball : ABall F) (bIsVisible : Bool)
    (shown : UWidgetComponent.Shown ball.interactionWidgetComponent) :
    Returns (ball.setInteractHintVisibility bIsVisible) := by
  unfold setInteractHintVisibility
  split
  · apply Returns.bind (UWidgetComponent.setHintVisibility_returns _ bIsVisible shown)
    intro component done
    exact returns_pure _
  · exact returns_pure _

theorem drop_returns [EngineFloat F] (ball : ABall F) (strength : F) (direction : FVector F)
    (shown : UWidgetComponent.Shown ball.interactionWidgetComponent) :
    Returns (ball.drop strength direction) := by
  refine Returns.bind (hint_returns _ false (by exact shown)) ?_
  intro hinted done
  exact returns_pure _

theorem throw_returns [EngineFloat F] (ball : ABall F) (strength : F) (direction : FVector F)
    (thrower : Option PlayerRef) (location : FVector F)
    (shown : UWidgetComponent.Shown ball.interactionWidgetComponent) :
    Returns (ball.throw strength direction thrower location) := by
  refine Returns.bind (hint_returns _ false (by exact shown)) ?_
  intro hinted done
  exact returns_pure _

theorem interaction_returns (ball : ABall F) (self : Nat) (player : APlayerCharacter F)
    (shown : UWidgetComponent.Shown ball.interactionWidgetComponent) :
    Returns (ball.interaction self player) ↔
      (ball.bInteractionHintBlocked = false → player.playerHUD.isSome = true) := by
  unfold interaction
  split
  next blocked => simp [blocked]
  next free =>
    constructor
    · intro returns _
      obtain ⟨hud,found,_⟩ := (returns_bind _ _).mp returns
      exact (deref_returns _ _).mp ⟨hud,found⟩
    · intro display
      apply Returns.bind ((deref_returns _ _).mpr (display (by simpa using free)))
      intro hud found
      refine Returns.bind (hint_returns _ false (by exact shown)) ?_
      intro hinted done
      exact returns_pure _

end ABall

namespace AChest

theorem hint_returns (chest : AChest F) (bIsVisible : Bool)
    (shown : UWidgetComponent.Shown chest.interactionWidgetComponent) :
    Returns (chest.setInteractHintVisibility bIsVisible) := by
  unfold setInteractHintVisibility
  split
  · apply Returns.bind (UWidgetComponent.setHintVisibility_returns _ bIsVisible shown)
    intro component done
    exact returns_pure _
  · exact returns_pure _

theorem interaction_returns (chest : AChest F)
    (shown : UWidgetComponent.Shown chest.interactionWidgetComponent) : Returns chest.interaction := by
  unfold interaction
  split
  · refine Returns.bind (hint_returns _ false (by exact shown)) ?_
    intro hinted done
    exact returns_pure _
  · exact returns_pure _

end AChest

namespace World

/-- The references that no function checks are set: a set widget component shows a widget, and
every chest names a class of balls. -/
structure Wired (world : World F) : Prop where
  balls : world.balls.All fun ball => UWidgetComponent.Shown ball.interactionWidgetComponent
  chests : world.chests.All fun chest => UWidgetComponent.Shown chest.interactionWidgetComponent
  classes : world.chests.All fun chest => ∃ ballClass, chest.ballBPClass = some ballClass ∧
    UWidgetComponent.Shown ballClass.interactionWidgetComponent

/-- A retriever at work names a ball of the world and a thrower. -/
def Keyed (world : World F) : Prop :=
  ∀ index retriever controler, world.retrievers.read index = some retriever →
    retriever.live = some controler → (controler.aiState = some EAIState.easChaseBall.toUInt8 ∨
      controler.aiState = some EAIState.easGiveBallToPlayer.toUInt8) →
    ∃ key, controler.ballKey = some key ∧ (world.balls.read key).isSome = true ∧
      controler.throwerKey.isSome = true

/-- Every pointer that is remembered from one event to a later one is still good. -/
structure Sound (world : World F) : Prop extends Wired world where
  aimed : ∀ actor, world.player.lastHitInteractableActor = some actor → world.contains actor = true
  display : world.player.playerHUD.isSome = world.player.playerHudClass.isSome
  hand : ∀ ref, world.player.ballInHand = some ref →
    (world.balls.read ref).isSome = true ∧ world.player.playerHUD.isSome = true
  keyed : world.Keyed

variable [EngineFloat F]

theorem init_sound (world : World F) (initial : world.Init) (wired : world.Wired) : world.Sound := by
  have started := start_player world initial.player
  refine ⟨wired,?_,?_,?_,?_⟩
  · intro actor last
    rw [started.aim] at last
    contradiction
  · rw [started.hud]
    simp
  · intro ref hand
    rw [started.hand] at hand
    contradiction
  · intro index retriever controler listed
    rw [initial.retrievers] at listed
    simp at listed

theorem effect_wired (E : Engine F) (world target : World F) (event : Event F)
    (calls : List GameCall) (effect : Effect E world event target calls) (wired : world.Wired) :
    target.Wired := by
  have kept := effect_keepsDefaults E world target event calls effect
  refine ⟨?_,?_,?_⟩
  · apply kept.balls_all (P := fun _ component => UWidgetComponent.Shown component)
    · intro aiCharacterClass earlier later alike holds
      exact alike.shown.mpr holds
    · exact wired.balls
    · intro ref chest found ballClass named
      obtain ⟨there,same,shown⟩ := wired.classes ref chest found
      rw [named] at same
      cases same
      exact shown
  · apply kept.chests_all (P := fun _ component => UWidgetComponent.Shown component)
    · intro ballBPClass earlier later alike holds
      exact alike.shown.mpr holds
    · exact wired.chests
  · apply kept.chests_all (P := fun ballBPClass _ => ∃ ballClass, ballBPClass = some ballClass ∧
      UWidgetComponent.Shown ballClass.interactionWidgetComponent)
    · intro ballBPClass earlier later alike holds
      exact holds
    · exact wired.classes

theorem effect_contains (E : Engine F) (world target : World F) (event : Event F)
    (calls : List GameCall) (effect : Effect E world event target calls) (actor : InteractableRef)
    (there : world.contains actor = true) : target.contains actor = true := by
  cases effect with
  | chestDrop =>
    cases actor with
    | ball ref => exact Pool.isSome_read_spawn _ _ _ there
    | chest ref => simpa [contains] using there
  | lookBall | lookChest | leaveBall | leaveChest | lookOn | pressNothing | pressBlocked | pickUp
  | pressChest | throwNothing | throw | stopIgnoring | hitNothing | land | answer | strand
  | chestTick | chestWait | chaseOn | reach | carryOn | deliver =>
    cases actor <;> simpa [contains] using there

theorem effect_keyed (E : Engine F) (world target : World F) (event : Event F)
    (calls : List GameCall) (effect : Effect E world event target calls) (keyed : world.Keyed) :
    target.Keyed := by
  have old : ∀ index retriever controler, world.retrievers.read index = some retriever →
      retriever.live = some controler → (controler.aiState = some EAIState.easChaseBall.toUInt8 ∨
        controler.aiState = some EAIState.easGiveBallToPlayer.toUInt8) →
      ∃ key, controler.ballKey = some key ∧ (target.balls.read key).isSome = true ∧
        controler.throwerKey.isSome = true := by
    intro index retriever controler listed alive works
    obtain ⟨key,named,there,thrower⟩ := keyed index retriever controler listed alive works
    exact ⟨key,named,effect_contains E world target event calls effect (.ball key) there,thrower⟩
  cases effect with
  | answer ref ball thrower tree retriever found thrown by_ class_ runs ready =>
    intro index object controler listed alive works
    rw [Pool.read_spawn] at listed
    split at listed
    · cases listed
      obtain ⟨started,awake,initialized⟩ := (E.spawned _).initialized ref _ ready
      rw [alive] at awake
      cases awake
      exact ⟨ref,initialized.ballKey,by simp [found],by simp [initialized.throwerKey]⟩
    · exact old index object controler listed alive works
  | strand ref ball thrower found thrown by_ class_ idle =>
    intro index object controler listed alive works
    rw [Pool.read_spawn] at listed
    split at listed
    · cases listed
      obtain ⟨_,stateless⟩ := (E.spawned _).unled alive
      rcases works with chasing | giving
      · simp [stateless] at chasing
      · simp [stateless] at giving
    · exact old index object controler listed alive works
  | reach ref task distance retriever controler key ball found alive state named there =>
    intro index object acting listed awake works
    rcases Pool.write_cases _ _ _ _ _ listed with ⟨rfl,rfl⟩ | ⟨_,listed⟩
    · obtain ⟨_,young⟩ := retriever.live_controler controler alive
      rw [AAICharacter.live_mk,AAICharacterControler.destroyed_inState,young] at awake
      cases awake
      obtain ⟨kept,again,present,thrower⟩ := old ref retriever controler found alive (Or.inl state)
      exact ⟨kept,by simpa using again,present,by simpa using thrower⟩
    · exact old index object acting listed awake works
  | deliver ref task distance retriever controler key ball found alive state named there =>
    intro index object acting listed awake works
    rcases Pool.write_cases _ _ _ _ _ listed with ⟨rfl,rfl⟩ | ⟨_,listed⟩
    · simp [AAICharacter.destroy,AAICharacter.live_mk,AAICharacterControler.destroy] at awake
    · exact old index object acting listed awake works
  | lookBall | lookChest | leaveBall | leaveChest | lookOn | pressNothing | pressBlocked | pickUp
  | pressChest | throwNothing | throw | stopIgnoring | hitNothing | land | chestTick | chestWait
  | chestDrop | chaseOn | carryOn => exact old

theorem effect_sound (E : Engine F) (world target : World F) (event : Event F)
    (calls : List GameCall) (effect : Effect E world event target calls) (sound : world.Sound) :
    target.Sound := by
  have wired := effect_wired E world target event calls effect sound.toWired
  have keyed := effect_keyed E world target event calls effect sound.keyed
  have kept := effect_contains E world target event calls effect
  have aimed : ∀ actor, world.player.lastHitInteractableActor = some actor →
      target.contains actor = true := fun actor last => kept actor (sound.aimed actor last)
  have hand : ∀ ref, world.player.ballInHand = some ref → (target.balls.read ref).isSome = true :=
    fun ref held => kept (.ball ref) (sound.hand ref held).1
  have shown : ∀ ref, world.player.ballInHand = some ref → world.player.playerHUD.isSome = true :=
    fun ref held => (sound.hand ref held).2
  have display := sound.display
  cases effect with
  | lookBall view ref ball traced found =>
    refine ⟨wired,?_,by simpa using display,?_,keyed⟩
    · intro actor last
      simp only [APlayerCharacter.looked_keeps] at last
      cases last
      simp [contains,found]
    · intro other held
      simp only [APlayerCharacter.looked_keeps] at held
      exact ⟨hand other held,by simpa using shown other held⟩
  | lookChest view ref chest traced found _ =>
    refine ⟨wired,?_,by simpa using display,?_,keyed⟩
    · intro actor last
      simp only [APlayerCharacter.looked_keeps] at last
      cases last
      simp [contains,found]
    · intro other held
      simp only [APlayerCharacter.looked_keeps] at held
      exact ⟨hand other held,by simpa using shown other held⟩
  | leaveBall | leaveChest =>
    refine ⟨wired,?_,by simpa using display,?_,keyed⟩
    · intro actor last
      simp at last
    · intro other held
      simp only [APlayerCharacter.looked_keeps] at held
      exact ⟨hand other held,by simpa using shown other held⟩
  | lookOn | stopIgnoring =>
    refine ⟨wired,?_,by simpa using display,?_,keyed⟩
    · intro actor last
      exact aimed actor (by simpa using last)
    · intro other held
      have before : world.player.ballInHand = some other := by simpa using held
      exact ⟨hand other before,by simpa using shown other before⟩
  | pickUp ref ball hud last found free displayed =>
    refine ⟨wired,aimed,?_,?_,keyed⟩
    · rw [displayed] at display
      exact display
    · intro other held
      cases held
      exact ⟨by simp [found],rfl⟩
  | throw location ref ball hud held found displayed =>
    refine ⟨wired,aimed,?_,?_,keyed⟩
    · rw [displayed] at display
      exact display
    · intro other held
      contradiction
  | pressNothing | pressBlocked | pressChest | throwNothing | hitNothing | land | answer | strand
  | chestTick | chestWait | chestDrop | chaseOn | reach | carryOn | deliver =>
    exact ⟨wired,aimed,display,fun ref held => ⟨hand ref held,shown ref held⟩,keyed⟩

omit [EngineFloat F] in
theorem hint_returns (world : World F) (actor : InteractableRef) (bIsVisible : Bool)
    (wired : world.Wired) (there : world.contains actor = true) :
    Returns (world.setInteractHintVisibility bIsVisible actor) := by
  cases actor with
  | ball ref =>
    refine Returns.bind ((deref_returns _ _).mpr there) ?_
    intro ball found
    rw [deref_ok] at found
    refine Returns.bind (ball.hint_returns bIsVisible (wired.balls ref ball found)) ?_
    intro hinted done
    exact returns_pure _
  | chest ref =>
    refine Returns.bind ((deref_returns _ _).mpr there) ?_
    intro chest found
    rw [deref_ok] at found
    refine Returns.bind (chest.hint_returns bIsVisible (wired.chests ref chest found)) ?_
    intro hinted done
    exact returns_pure _

theorem tick_returns (E : Engine F) (world : World F) (view : PlayerView F) (sound : world.Sound)
    (enabled : world.enabled (.tick view) = true) : Returns (world.tick E view) := by
  refine Returns.bind ?_ (fun _ _ => returns_pure _)
  unfold manageLineTrace
  split
  next missed => exact returns_pure _
  next actor hit =>
    have there : world.contains actor = true := by
      have traced : world.player.lineTrace view = .hitInteractable actor := hit
      simpa [World.enabled,traced] using enabled
    exact hint_returns _ actor true ⟨sound.balls,sound.chests,sound.classes⟩ there
  next other =>
    split
    next none => exact returns_pure _
    next actor last =>
      refine Returns.bind (hint_returns _ actor false ⟨sound.balls,sound.chests,sound.classes⟩
        (sound.aimed actor last)) ?_
      intro moved done
      exact returns_pure _

/-- A press takes a ball in hand although there is no HUD to update. -/
def PicksUpUnseen (world : World F) : Event F → Prop
  | .interactButtonPressed => world.player.playerHudClass = none ∧ ∃ ref ball,
    world.player.lastHitInteractableActor = some (.ball ref) ∧
    world.balls.read ref = some ball ∧ ball.bInteractionHintBlocked = false
  | _ => False

omit [EngineFloat F] in
theorem press_returns (world : World F) (sound : world.Sound) :
    Returns world.interactButtonPressed ↔ ¬ world.PicksUpUnseen .interactButtonPressed := by
  unfold interactButtonPressed
  split
  next last => simp [PicksUpUnseen,last]
  next actor last =>
    rw [returns_bind]
    cases actor with
    | chest ref =>
      obtain ⟨chest,found⟩ := Option.isSome_iff_exists.mp (sound.aimed _ last)
      obtain ⟨moved,taken⟩ := chest.interaction_returns (sound.chests ref chest found)
      apply iff_of_true
      · refine ⟨{world with chests := world.chests.write ref moved},?_,returns_pure _⟩
        simp [interaction,found,taken]
      · simp [PicksUpUnseen,last]
    | ball ref =>
      obtain ⟨ball,found⟩ := Option.isSome_iff_exists.mp (sound.aimed _ last)
      have decided := ball.interaction_returns ref world.player (sound.balls ref ball found)
      have unseen : world.PicksUpUnseen .interactButtonPressed ↔
          world.player.playerHudClass = none ∧ ball.bInteractionHintBlocked = false := by
        simp [PicksUpUnseen,last,found]
      have display := sound.display
      rw [unseen,not_and']
      constructor
      · intro returns free absent
        obtain ⟨moved,taken,_⟩ := returns
        obtain ⟨there,read,taken⟩ := bind_ok _ _ _ taken
        rw [deref_ok,found] at read
        cases read
        obtain ⟨result,picked,_⟩ := bind_ok _ _ _ taken
        have needed := decided.mp ⟨result,picked⟩ free
        simp [display,absent] at needed
      · intro shown
        have returns : Returns (world.interaction (.ball ref)) := by
          refine Returns.bind ((deref_returns _ _).mpr (by simp [found])) ?_
          intro there read
          rw [deref_ok,found] at read
          cases read
          refine Returns.bind (decided.mpr ?_) (fun _ _ => returns_pure _)
          intro free
          rw [display]
          exact Option.isSome_iff_ne_none.mpr (shown free)
        obtain ⟨moved,taken⟩ := returns
        exact ⟨moved,taken,returns_pure _⟩

theorem throw_returns (E : Engine F) (world : World F) (location : FVector F) (sound : world.Sound) :
    Returns (world.throwButtonPressed E location) := by
  unfold throwButtonPressed
  split
  next hand => exact returns_pure _
  next ref hand =>
    obtain ⟨there,display⟩ := sound.hand ref hand
    refine Returns.bind ((deref_returns _ _).mpr there) ?_
    intro ball found
    rw [deref_ok] at found
    refine Returns.bind (ball.throw_returns _ _ _ _ (sound.balls ref ball found)) ?_
    intro thrown done
    exact Returns.bind ((deref_returns _ _).mpr display) (fun _ _ => returns_pure _)

theorem chestTimer_returns (world : World F) (ref : Nat) (sound : world.Sound)
    (there : (world.chests.read ref).isSome = true) : Returns (world.chestTimer ref) := by
  refine Returns.bind ((deref_returns _ _).mpr there) ?_
  intro chest found
  rw [deref_ok] at found
  dsimp only
  split
  next quiet => exact returns_pure _
  next dropped drops =>
    obtain ⟨ballClass,named,shown⟩ := sound.classes ref chest found
    rw [← chest.fireTimer_drops dropped drops] at named
    rw [named,Option.map_some,deref_some,ok_bind]
    have falling := (ABall.new ballClass).drop_returns dropped.dropStrength dropped.direction
      (by simpa [ABall.new] using shown)
    exact Returns.bind falling (fun _ _ => returns_pure _)

omit [EngineFloat F] in
theorem runsTask_reads (world : World F) (ref : Nat) (state : EAIState)
    (runs : world.runsTask ref state = true) (sound : world.Sound)
    (working : state = .easChaseBall ∨ state = .easGiveBallToPlayer) :
    ∃ retriever controler board key ball, world.retrievers.read ref = some retriever ∧
      retriever.controler = some controler ∧ controler.blackboard = some board ∧
      ((board.getValueAsObject ballToRetrieveKeyName).bind (·.castBall)) = some key ∧
      world.balls.read key = some ball ∧
      ((board.getValueAsObject ballThrowerKeyName).bind (·.castPlayer)).isSome = true := by
  obtain ⟨retriever,controler,found,alive,held⟩ := runsTask_cases world ref state runs
  have works : controler.aiState = some EAIState.easChaseBall.toUInt8 ∨
      controler.aiState = some EAIState.easGiveBallToPlayer.toUInt8 := by
    rcases working with rfl | rfl
    · exact Or.inl held
    · exact Or.inr held
  obtain ⟨key,named,there,thrower⟩ := sound.keyed ref retriever controler found alive works
  obtain ⟨ball,present⟩ := Option.isSome_iff_exists.mp there
  unfold AAICharacterControler.ballKey at named
  obtain ⟨board,board_,named⟩ := Option.bind_eq_some_iff.mp named
  unfold AAICharacterControler.throwerKey at thrower
  rw [board_,Option.bind_some] at thrower
  exact ⟨retriever,controler,board,key,ball,found,(retriever.live_controler controler alive).1,board_,
    named,present,thrower⟩

omit [EngineFloat F] in
theorem setState_returns (controler : AAICharacterControler) (state : EAIState)
    (board : controler.blackboard.isSome = true) : Returns (controler.setState state) :=
  Returns.bind ((deref_returns _ _).mpr board) (fun _ _ => returns_pure _)

theorem chaseBall_returns (world : World F) (task : UBTTaskChaseBall F) (ref : Nat) (distance : F)
    (sound : world.Sound) (runs : world.runsTask ref .easChaseBall = true) :
    Returns (world.chaseBall task ref distance) := by
  obtain ⟨retriever,controler,board,key,ball,found,possessed,there,named,present,_⟩ :=
    runsTask_reads world ref _ runs sound (Or.inl rfl)
  unfold chaseBall
  rw [found,deref_some,ok_bind,possessed]
  dsimp only
  rw [there,deref_some,ok_bind,named,deref_some,ok_bind,present,deref_some,ok_bind]
  split
  · exact Returns.bind (setState_returns _ _ (by simp [there])) (fun _ _ => returns_pure _)
  · exact returns_pure _

theorem giveBallToPlayer_returns (world : World F) (task : UBTTaskGIveBallToPlayer F) (ref : Nat)
    (distance : F) (sound : world.Sound) (runs : world.runsTask ref .easGiveBallToPlayer = true) :
    Returns (world.giveBallToPlayer task ref distance) := by
  obtain ⟨retriever,controler,board,key,ball,found,possessed,there,named,present,thrower⟩ :=
    runsTask_reads world ref _ runs sound (Or.inr rfl)
  unfold giveBallToPlayer
  rw [found,deref_some,ok_bind,possessed]
  dsimp only
  rw [there,deref_some,ok_bind]
  refine Returns.bind ((deref_returns _ _).mpr thrower) ?_
  intro player read
  split
  · rw [named,deref_some,ok_bind,present,deref_some,ok_bind]
    refine Returns.bind (ball.drop_returns _ _ (sound.balls key ball present)) ?_
    intro dropped done
    exact Returns.bind (setState_returns _ _ (by simp [there])) (fun _ _ => returns_pure _)
  · exact returns_pure _

/-- The engine finds room for every actor the code spawns. -/
def Event.SpawnSucceeds : Event F → Prop
  | .onComponentHit _ spawned => spawned = true
  | _ => True

theorem step_returns (E : Engine F) (world : World F) (event : Event F) (sound : world.Sound)
    (enabled : world.enabled event = true) (succeeds : Event.SpawnSucceeds event) :
    Returns (world.step E event) ↔ ¬ world.PicksUpUnseen event := by
  cases event with
  | interactButtonPressed => exact press_returns world sound
  | tick view =>
    exact iff_of_true (Returns.bind (tick_returns E world view sound enabled)
      (fun _ _ => returns_pure _)) id
  | throwButtonPressed location => exact iff_of_true (throw_returns E world location sound) id
  | stopIgnoringBallTimer => exact iff_of_true (returns_pure _) id
  | onComponentHit ref spawned =>
    obtain ⟨ball,found⟩ := Option.isSome_iff_exists.mp enabled
    exact iff_of_true (hit_returns E world ref spawned ball found (fun _ _ _ => succeeds)) id
  | chestTick ref deltaTime =>
    refine iff_of_true (Returns.bind ?_ (fun _ _ => returns_pure _)) id
    exact Returns.bind ((deref_returns _ _).mpr enabled) (fun _ _ => returns_pure _)
  | chestTimer ref =>
    obtain ⟨chest,found,_⟩ := Option.any_eq_true _ _ |>.mp enabled
    exact iff_of_true (chestTimer_returns world ref sound (by simp [found])) id
  | chaseBall ref task distance =>
    exact iff_of_true (Returns.bind (chaseBall_returns world task ref distance sound enabled)
      (fun _ _ => returns_pure _)) id
  | giveBallToPlayer ref task distance =>
    exact iff_of_true (Returns.bind (giveBallToPlayer_returns world task ref distance sound enabled)
      (fun _ _ => returns_pure _)) id

/-- In every reachable world every event is handled without reading through a null pointer, but for
a press that takes a ball in hand while the player's HUD class is unset. -/
theorem null_safety (E : Engine F) (history : List (Machine.Moment (World F) (Event F) GameCall))
    (world : World F) (run : ((machine E).starting Wired).Run history world) (event : Event F)
    (enabled : world.enabled event = true) (succeeds : Event.SpawnSucceeds event) :
    Returns (world.step E event) ↔ ¬ world.PicksUpUnseen event := by
  apply step_returns E world event ?_ enabled succeeds
  apply run.invariant
  · intro start initial
    exact init_sound start initial.1 initial.2
  · intro source event calls target sound step
    exact effect_sound E source target event calls (step_effect E _ _ _ _ step) sound

theorem level_wired (player : APlayerCharacter F) (platforms : List (FVector F))
    (balls : List BallClass)
    (shown : ∀ ballClass ∈ balls, UWidgetComponent.Shown ballClass.interactionWidgetComponent) :
    (level player platforms balls []).Wired := by
  refine ⟨?_,?_,?_⟩
  · intro ref ball found
    obtain ⟨ballClass,inside,same⟩ := List.mem_map.mp (List.mem_of_getElem? found)
    rw [← same]
    simpa [ABall.new] using shown ballClass inside
  · intro ref chest found
    simp [level,Pool.read] at found
  · intro ref chest found
    simp [level,Pool.read] at found

theorem null_safety_press : ∃ history world,
    ((machine Engine.exact).starting Wired).Run history world ∧
      history.map (·.event) = [.tick (.tracing (.hitInteractable (.ball 0)))] ∧
      world.player.playerHudClass.isSome = true ∧
      Returns (world.step Engine.exact .interactButtonPressed) := by
  have start := Machine.Run.start (M := (machine Engine.exact).starting Wired) (ballLevel 1)
    ⟨(ballLevel_init 1).1,level_wired _ _ _ (by simp [UWidgetComponent.Shown])⟩
  have aimed := Machine.Run.next _ _ (.tick (.tracing (.hitInteractable (.ball 0)))) _ _ start ⟨rfl,rfl⟩
  have law := null_safety Engine.exact _ _ aimed .interactButtonPressed rfl trivial
  refine ⟨_,_,aimed,rfl,rfl,law.mpr ?_⟩
  intro unseen
  exact Option.some_ne_none _ unseen.1

/-- Without a HUD class the first ball picked up reads through the null HUD. -/
theorem hudlessPickUp_faults : ∃ history world,
    ((machine Engine.exact).starting Wired).Run history world ∧
      history.map (·.event) = [.tick (.tracing (.hitInteractable (.ball 0)))] ∧
      world.enabled .interactButtonPressed = true ∧
      world.step Engine.exact .interactButtonPressed = .error .playerHUD := by
  have start := Machine.Run.start (M := (machine Engine.exact).starting Wired)
    (level (.new none none "CharacterMesh" "Pawn") [] [⟨none,none⟩] [])
    ⟨level_init _ _ _ _ (APlayerCharacter.new_constructed _ _ _ _) (by simp),
      level_wired _ _ _ (by simp [UWidgetComponent.Shown])⟩
  have aimed := Machine.Run.next _ _ (.tick (.tracing (.hitInteractable (.ball 0)))) _ _ start ⟨rfl,rfl⟩
  exact ⟨_,_,aimed,rfl,rfl,rfl⟩

end World

end RetrievingAI
