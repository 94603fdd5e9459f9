import RetrievingAI.Ownership

/-! What a hit makes of a thrown ball. It comes back unless the spawn fails or the player has no
behaviour tree: then nobody will ever unlock it. -/
namespace RetrievingAI
open Fallible

variable {F : Type}

namespace World

/-- The hit returns, and the ball is interactable or has an initialised live retriever. -/
def Released (E : Engine F) (world : World F) (ref : Nat) (spawned : Bool) : Prop :=
  ∃ target calls ball, world.onComponentHit E ref spawned = .ok (target,calls) ∧
    target.balls.read ref = some ball ∧
    (ball.bInteractionHintBlocked = false ∨ ∃ index retriever controler,
      target.retrievers.read index = some retriever ∧ retriever.live = some controler ∧
      controler.Initialized ref ball.ballThrower)

/-- The ball calls no retriever, or one is spawned and has a tree to run. -/
def Retrievable (world : World F) (ball : ABall F) (spawned : Bool) : Prop :=
  ball.aiCharacterClass = none ∨ spawned = true ∧ world.player.behaviorTree.isSome = true

def HitsRetrievable (world : World F) : Event F → Prop
  | .onComponentHit ref spawned => ∀ ball, world.balls.read ref = some ball →
    ball.bBallThrown = true → ball.ballThrower.isSome = true → world.Retrievable ball spawned
  | _ => True

/-- Every locked ball on the ground has a live retriever that can still release it. -/
def NoneLocked (world : World F) : Prop :=
  ∀ ref ball, world.balls.read ref = some ball → ball.bInteractionHintBlocked = true →
    ball.bBallThrown = false → ∃ index retriever controler,
      world.retrievers.read index = some retriever ∧ retriever.live = some controler ∧
      controler.ballKey = some ref ∧ (controler.aiState = some EAIState.easChaseBall.toUInt8 ∨
        controler.aiState = some EAIState.easGiveBallToPlayer.toUInt8)

theorem not_released_of_fault (E : Engine F) (world : World F) (ref : Nat) (spawned : Bool)
    (fault : NullPointer) (faulted : world.onComponentHit E ref spawned = .error fault) :
    ¬ world.Released E ref spawned := by
  intro given
  obtain ⟨target,calls,ball,ok,_⟩ := given
  rw [faulted] at ok
  contradiction

theorem spawnAI_returns (E : Engine F) (world : World F) (ref : Nat) (spawned : Bool) (ball : ABall F)
    (found : world.balls.read ref = some ball) (answered : ball.ballThrower.isSome = true)
    (succeeds : ball.aiCharacterClass.isSome = true → spawned = true) :
    Returns (world.spawnAI E ref spawned) := by
  unfold spawnAI
  rw [found,deref_some,ok_bind]
  split
  · simp
  next class_ =>
    have landed : spawned = true := succeeds (by simp [class_])
    apply Returns.bind ((deref_returns _ _).mpr answered)
    intro thrower by_
    simp only [landed,if_true,deref_some,ok_bind]
    apply Returns.bind ((E.spawned _).setAICValues_returns ref (some thrower))
    intro ready values
    simp

/-- A hit faults only where a retriever should have been spawned and was not. -/
theorem hit_returns (E : Engine F) (world : World F) (ref : Nat) (spawned : Bool) (ball : ABall F)
    (found : world.balls.read ref = some ball)
    (succeeds : ball.bBallThrown = true → ball.ballThrower.isSome = true →
      ball.aiCharacterClass.isSome = true → spawned = true) :
    Returns (world.onComponentHit E ref spawned) := by
  unfold onComponentHit
  rw [found,deref_some,ok_bind]
  split
  · simp
  next thrown =>
    dsimp only
    split
    next answered =>
      have flying : ball.bBallThrown = true := by simpa using thrown
      exact spawnAI_returns E _ ref spawned _ (Pool.read_write_self _ _ _ _ found) answered
        (succeeds flying answered)
    next silent => simp

theorem move_stranded (event : FetchEvent) (source : FetchPhase)
    (moved : event.move source = some .stranded) : ∃ ref, event = .strand ref := by
  unfold FetchEvent.move at moved
  split at moved <;> simp_all

theorem Represents.noneLocked_iff {world : World F} {phases : Nat → FetchPhase}
    (rep : world.Represents phases) : world.NoneLocked ↔ ∀ ref, phases ref ≠ .stranded := by
  constructor
  · intro safe ref stranded
    cases found : world.balls.read ref with
    | none =>
      rw [rep.absent ref found] at stranded
      contradiction
    | some ball =>
      have here := rep.inFetch ref ball found
      rw [stranded] at here
      obtain ⟨index,retriever,controler,listed,alive,named,_⟩ := safe ref ball found here.blocked here.thrown
      have worked := (Represents.owned rep ref index retriever controler listed alive named).1
      rw [stranded] at worked
      contradiction
  · intro safe ref ball found blocked landed
    have here := rep.inFetch ref ball found
    have busy : ∃ index, (phases ref).retriever = some index := by
      have shut := here.blocked.symm.trans blocked
      have down := here.thrown.symm.trans landed
      have free := safe ref
      generalize phases ref = phase at shut down free
      cases phase <;> simp_all [FetchPhase.blocked,FetchPhase.thrown,FetchPhase.retriever]
    obtain ⟨index,worked⟩ := busy
    obtain ⟨retriever,controler,listed,alive,fetches⟩ := rep.retrieved ref index ball worked found
    obtain ⟨_,owned⟩ := Represents.owned rep ref index retriever controler listed alive fetches.ballKey
    obtain ⟨_,_,owned⟩ := owned
    exact ⟨index,retriever,controler,listed,alive,fetches.ballKey,owned.state⟩

theorem Represents.unclaimed {world : World F} {phases : Nat → FetchPhase}
    (rep : world.Represents phases) (ref : Nat) (ball : ABall F)
    (found : world.balls.read ref = some ball) (thrown : ball.bBallThrown = true)
    {newcomer : AAICharacter} (treeless : newcomer.Spawned none)
    (index : Nat) (retriever : AAICharacter) (controler : AAICharacterControler)
    (listed : (world.retrievers.spawn newcomer).read index = some retriever)
    (alive : retriever.live = some controler) : controler.ballKey ≠ some ref := by
  intro named
  rw [Pool.read_spawn] at listed
  split at listed
  · cases listed
    simp [(treeless.unled alive).1] at named
  · have worked := (Represents.owned rep ref index retriever controler listed alive named).1
    have here := rep.inFetch ref ball found
    obtain ⟨flown,flying⟩ := FetchPhase.flying_of_thrown _ (here.thrown.symm.trans thrown)
    rw [flying] at worked
    contradiction

variable [EngineFloat F]

theorem Represents.released_iff (E : Engine F) {world : World F} {phases : Nat → FetchPhase}
    (rep : world.Represents phases) (ref : Nat) (spawned : Bool) (ball : ABall F)
    (found : world.balls.read ref = some ball) (thrown : ball.bBallThrown = true)
    (by_ : ball.ballThrower.isSome = true) :
    world.Released E ref spawned ↔ world.Retrievable ball spawned := by
  have hit : ∀ target calls, world.onComponentHit E ref spawned = .ok (target,calls) →
      Effect E world (.onComponentHit ref spawned) target calls := by
    intro target calls ok
    exact step_effect E world target _ calls ⟨by simp [enabled,found],ok⟩
  constructor
  · intro given
    obtain ⟨target,calls,moved,ok,read,outcome⟩ := given
    rcases (hit target calls ok).thrown_hit ball found thrown by_ with
      ⟨classless,_⟩ | ⟨succeeds,_,_,rfl,⟨tree,_,runs,_⟩ | ⟨_,treeless⟩⟩
    · exact Or.inl classless
    · exact Or.inr ⟨succeeds,by simp [runs]⟩
    · rw [Pool.read_write_self _ _ _ _ found] at read
      cases read
      rcases outcome with free | ⟨index,retriever,controler,listed,alive,initialized⟩
      · simp [ABall.landed] at free
      · exact absurd initialized.ballKey
          (Represents.unclaimed rep ref ball found thrown treeless index retriever controler listed alive)
  · intro retrievable
    have returns : Fallible.Returns (world.onComponentHit E ref spawned) := by
      apply hit_returns E world ref spawned ball found
      intro _ _ class_
      rcases retrievable with classless | ⟨succeeds,_⟩
      · simp [classless] at class_
      · exact succeeds
    obtain ⟨⟨target,calls⟩,ok⟩ := returns
    rcases (hit target calls ok).thrown_hit ball found thrown by_ with
      ⟨_,rfl⟩ | ⟨_,class_,retriever,rfl,⟨tree,started,runs,alive,initialized⟩ | ⟨idle,_⟩⟩
    · exact ⟨_,calls,_,ok,Pool.read_write_self _ _ _ _ found,Or.inl rfl⟩
    · refine ⟨_,calls,_,ok,Pool.read_write_self _ _ _ _ found,Or.inr ?_⟩
      exact ⟨world.retrievers.fresh,retriever,started,Pool.read_spawn_fresh _ _,alive,initialized⟩
    · rcases retrievable with classless | ⟨_,runs⟩
      · simp [classless] at class_
      · simp [idle] at runs

theorem effect_noneLocked (E : Engine F) (world target : World F) (event : Event F)
    (calls : List GameCall) (phases : Nat → FetchPhase) (rep : world.Represents phases)
    (effect : Effect E world event target calls) (safe : world.NoneLocked) :
    target.NoneLocked ↔ world.HitsRetrievable event := by
  constructor
  · intro after
    cases event with
    | onComponentHit ref spawned =>
      intro ball found thrown by_
      rcases effect.thrown_hit ball found thrown by_ with
        ⟨classless,_⟩ | ⟨succeeds,_,_,rfl,⟨tree,_,runs,_⟩ | ⟨_,treeless⟩⟩
      · exact Or.inl classless
      · exact Or.inr ⟨succeeds,by simp [runs]⟩
      · obtain ⟨index,retriever,controler,listed,alive,named,_⟩ :=
          after ref _ (Pool.read_write_self _ _ _ _ found) rfl rfl
        exact absurd named
          (Represents.unclaimed rep ref ball found thrown treeless index retriever controler listed alive)
    | tick | interactButtonPressed | throwButtonPressed | stopIgnoringBallTimer | chestTick
    | chestTimer | chaseBall | giveBallToPlayer => trivial
  · intro retrievable
    have none := (Represents.noneLocked_iff rep).mp safe
    rcases effect_moves E world target event calls phases rep effect with
      ⟨kept,_⟩ | ⟨move,phase,moved,after,_,explained⟩
    · exact (Represents.noneLocked_iff kept).mpr none
    · apply (Represents.noneLocked_iff after).mpr
      intro ref
      by_cases same : ref = move.ball
      · subst same
        rw [Function.update_self]
        intro stuck
        rw [stuck] at moved
        obtain ⟨ref,rfl⟩ := move_stranded move _ moved
        obtain ⟨rfl,idle,ball,found,thrown,by_,class_⟩ := explained
        rcases retrievable ball found thrown by_ with classless | ⟨_,runs⟩
        · simp [classless] at class_
        · simp [idle] at runs
      · rw [Function.update_of_ne same]
        exact none ref

/-- A hit releases a thrown ball, and a run locks no ball, exactly where the ball calls no retriever
or the spawn succeeds and the player has a tree. -/
theorem retrieval_run (E : Engine F)
    (history : List (Machine.Moment (World F) (Event F) GameCall)) (world : World F)
    (run : (machine E).Run history world) :
    (∀ ref ball spawned, world.balls.read ref = some ball → ball.bBallThrown = true →
      ball.ballThrower.isSome = true →
      (world.Released E ref spawned ↔ world.Retrievable ball spawned)) ∧
    (Machine.Throughout NoneLocked history world ↔
      ∀ moment ∈ history, moment.source.HitsRetrievable moment.event) := by
  constructor
  · intro ref ball spawned found thrown by_
    obtain ⟨phases,rep⟩ := run_represents E run
    exact Represents.released_iff E rep ref spawned ball found thrown by_
  · apply run.exact (I := fun world => ∃ phases, world.Represents phases)
    · intro state reachable
      obtain ⟨earlier,reached⟩ := reachable
      exact run_represents E reached
    · intro start initial
      apply (Represents.noneLocked_iff (init_represents start initial)).mpr
      intro ref
      unfold startPhases
      split <;> simp
    · intro source event calls target kept safe step
      obtain ⟨phases,rep⟩ := kept
      exact effect_noneLocked E source target event calls phases rep
        (step_effect E source target event calls step) safe

theorem retrieval_run_answered : ∃ history world,
    (machine Engine.exact).Run history world ∧ world.Released Engine.exact 0 true ∧
      Machine.Throughout NoneLocked history world := by
  have start := Machine.Run.start (M := machine Engine.exact) _ (ballLevel_init 1).1
  have aimed := Machine.Run.next _ _ (.tick (.tracing (.hitInteractable (.ball 0)))) _ _ start ⟨rfl,rfl⟩
  have picked := Machine.Run.next _ _ .interactButtonPressed _ _ aimed ⟨rfl,rfl⟩
  have thrown := Machine.Run.next _ _ (.throwButtonPressed .zeroVector) _ _ picked ⟨rfl,rfl⟩
  obtain ⟨released,safe⟩ := retrieval_run Engine.exact _ _ thrown
  refine ⟨_,_,thrown,(released 0 _ true rfl rfl rfl).mpr (Or.inr ⟨rfl,rfl⟩),safe.mpr ?_⟩
  intro moment member
  simp only [List.mem_cons,List.not_mem_nil,or_false] at member
  rcases member with rfl | rfl | rfl <;> trivial

/-- A level whose player has no tree for the retrievers that its ball calls. -/
def treelessLevel : World ℚ :=
  level (.new (some ⟨none⟩) none "CharacterMesh" "Pawn") [] [⟨some ⟨"BP_AI"⟩,none⟩] []

theorem treelessLevel_init : treelessLevel.Init :=
  level_init _ _ _ _ (APlayerCharacter.new_constructed _ _ _ _) (by simp)

/-- A failed spawn is called through a null pointer; a player without a tree spawns a retriever that
leaves the ball locked. -/
theorem failedSpawn_locks :
    (∃ history world, (machine Engine.exact).Run history world ∧
      history.map (·.event) = [.throwButtonPressed .zeroVector,.interactButtonPressed,
        .tick (.tracing (.hitInteractable (.ball 0)))] ∧
      world.onComponentHit Engine.exact 0 false = .error .aiRetriever ∧
      ¬ world.Released Engine.exact 0 false) ∧
    ∃ history world, (machine Engine.exact).Run history world ∧
      history.map (·.event) = [.onComponentHit 0 true,.throwButtonPressed .zeroVector,
        .interactButtonPressed,.tick (.tracing (.hitInteractable (.ball 0)))] ∧
      ¬ Machine.Throughout NoneLocked history world := by
  constructor
  · have start := Machine.Run.start (M := machine Engine.exact) _ (ballLevel_init 1).1
    have aimed := Machine.Run.next _ _ (.tick (.tracing (.hitInteractable (.ball 0)))) _ _ start ⟨rfl,rfl⟩
    have picked := Machine.Run.next _ _ .interactButtonPressed _ _ aimed ⟨rfl,rfl⟩
    have thrown := Machine.Run.next _ _ (.throwButtonPressed .zeroVector) _ _ picked ⟨rfl,rfl⟩
    exact ⟨_,_,thrown,rfl,rfl,not_released_of_fault _ _ 0 false .aiRetriever rfl⟩
  · have start := Machine.Run.start (M := machine Engine.exact) _ treelessLevel_init
    have aimed := Machine.Run.next _ _ (.tick (.tracing (.hitInteractable (.ball 0)))) _ _ start ⟨rfl,rfl⟩
    have picked := Machine.Run.next _ _ .interactButtonPressed _ _ aimed ⟨rfl,rfl⟩
    have thrown := Machine.Run.next _ _ (.throwButtonPressed .zeroVector) _ _ picked ⟨rfl,rfl⟩
    have landed := Machine.Run.next _ _ (.onComponentHit 0 true) _ _ thrown ⟨rfl,rfl⟩
    refine ⟨_,_,landed,rfl,?_⟩
    intro safe
    obtain ⟨index,retriever,controler,listed,alive,named,_⟩ := safe.1 0 _ rfl rfl rfl
    cases index with
    | zero =>
      cases listed
      cases alive
      contradiction
    | succ index => simp [Pool.read,Pool.spawn,treelessLevel,level,Pool.empty] at listed

end World

end RetrievingAI
