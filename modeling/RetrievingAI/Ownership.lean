import RetrievingAI.FetchRefinement

/-! Who owns a ball: at most one live retriever fetches it, and ball, player and blackboard agree
on that. -/
namespace RetrievingAI

variable {F : Type}

/-- What a live retriever of a ball and the rest of the game agree on. -/
structure World.Owned (world : World F) (ref index : Nat) (controler : AAICharacterControler)
    (ball : ABall F) : Prop where
  blocked : ball.bInteractionHintBlocked = true
  landed : ball.bBallThrown = false
  hand : world.player.ballInHand ≠ some ref
  thrower : ball.ballThrower.isSome = true
  throwerKey : ball.ballThrower = controler.throwerKey
  state : controler.aiState = some EAIState.easChaseBall.toUInt8 ∨
    controler.aiState = some EAIState.easGiveBallToPlayer.toUInt8
  physics : ball.ballMesh.bSimulatePhysics = false ↔
    controler.aiState = some EAIState.easGiveBallToPlayer.toUInt8
  attached : ball.ballMesh.attachParent = some (.retriever index) ↔
    controler.aiState = some EAIState.easGiveBallToPlayer.toUInt8

theorem FetchPhase.of_retriever (phase : FetchPhase) (index : Nat)
    (worked : phase.retriever = some index) : phase = .chased index ∨ phase = .carried index := by
  cases phase <;> simp_all [FetchPhase.retriever]

theorem BallsInFetch.present {balls : Pool (ABall F)} {phases : Nat → FetchPhase}
    (rep : BallsInFetch balls phases) (ref index : Nat) (worked : (phases ref).retriever = some index) :
    ∃ ball, balls.read ref = some ball := by
  cases found : balls.read ref with
  | some ball => exact ⟨ball,rfl⟩
  | none =>
    rw [rep.absent ref found] at worked
    contradiction

namespace World

theorem Represents.owned {world : World F} {phases : Nat → FetchPhase} (rep : world.Represents phases)
    (ref index : Nat) (retriever : AAICharacter) (controler : AAICharacterControler)
    (listed : world.retrievers.read index = some retriever) (alive : retriever.live = some controler)
    (named : controler.ballKey = some ref) :
    (phases ref).retriever = some index ∧
      ∃ ball, world.balls.read ref = some ball ∧ world.Owned ref index controler ball := by
  have works := (retriever.retrieves_iff ref).mpr ⟨controler,alive,named⟩
  have worked := rep.owner ref index retriever listed works
  obtain ⟨ball,found⟩ := rep.present ref index worked
  have fetches := (rep.working ref index ball retriever controler found listed alive named).2
  have here := rep.inFetch ref ball found
  have state := fetches.state
  refine ⟨worked,ball,found,?_⟩
  have hand : world.player.ballInHand ≠ some ref := by
    intro holds
    rw [rep.hand ref holds] at worked
    contradiction
  rcases FetchPhase.of_retriever _ index worked with chased | carried
  · rw [chased] at here state
    refine ⟨here.blocked,here.thrown,hand,fetches.thrower,fetches.throwerKey.symm,Or.inl state,?_,?_⟩
    · rw [here.simulating,state]
      simp [FetchPhase.simulating,FetchPhase.aiState,EAIState.toUInt8]
    · rw [here.attached,state]
      simp [FetchPhase.attached,FetchPhase.aiState,EAIState.toUInt8]
  · rw [carried] at here state
    refine ⟨here.blocked,here.thrown,hand,fetches.thrower,fetches.throwerKey.symm,Or.inr state,?_,?_⟩
    · rw [here.simulating,state]
      simp [FetchPhase.simulating,FetchPhase.aiState]
    · rw [here.attached,state]
      simp [FetchPhase.attached,FetchPhase.aiState]

theorem Represents.count_retrievers {world : World F} {phases : Nat → FetchPhase}
    (rep : world.Represents phases) (ref : Nat) :
    world.retrievers.count (AAICharacter.retrieves ref) = (phases ref).fetching := by
  unfold FetchPhase.fetching
  cases worked : (phases ref).retriever with
  | none =>
    apply Pool.count_eq_zero
    intro index retriever listed
    cases works : retriever.retrieves ref with
    | false => rfl
    | true =>
      rw [rep.owner ref index retriever listed works] at worked
      contradiction
  | some index =>
    obtain ⟨ball,found⟩ := rep.present ref index worked
    obtain ⟨retriever,controler,listed,alive,fetches⟩ := rep.retrieved ref index ball worked found
    have works := (retriever.retrieves_iff ref).mpr ⟨controler,alive,fetches.ballKey⟩
    apply Pool.count_eq_one _ _ index retriever listed works
    intro other another read also
    have owned := rep.owner ref other another read also
    rw [worked] at owned
    exact (Option.some.inj owned).symm

variable [EngineFloat F]

/-- A ball has at most one live retriever, and while it has one it is out of everyone else's
reach: locked, landed, not in the player's hand, and held exactly when it is being given back. -/
theorem exclusive_ownership (E : Engine F)
    (history : List (Machine.Moment (World F) (Event F) GameCall)) (world : World F)
    (run : (machine E).Run history world) (ref : Nat) :
    world.retrievers.count (AAICharacter.retrieves ref) ≤ 1 ∧
    ∀ index retriever controler, world.retrievers.read index = some retriever →
      retriever.live = some controler → controler.ballKey = some ref →
      ∃ ball, world.balls.read ref = some ball ∧ world.Owned ref index controler ball := by
  obtain ⟨phases,rep⟩ := run_represents E run
  constructor
  · rw [Represents.count_retrievers rep ref]
    unfold FetchPhase.fetching
    split <;> simp
  · intro index retriever controler listed alive named
    exact (Represents.owned rep ref index retriever controler listed alive named).2

theorem exclusive_ownership_answered : ∃ history world controler ball,
    (machine Engine.exact).Run history world ∧ world.balls.read 0 = some ball ∧
      world.Owned 0 0 controler ball := by
  have start := Machine.Run.start (M := machine Engine.exact)
    (level (.new (some ⟨none⟩) (some ⟨"BT_AI"⟩) "CharacterMesh" "Pawn") [] [⟨some ⟨"BP_AI"⟩,none⟩] [])
    (level_init _ _ _ _ (APlayerCharacter.new_constructed _ _ _ _) (by simp))
  have aimed := Machine.Run.next _ _ (.tick (.tracing (.hitInteractable (.ball 0)))) _ _ start ⟨rfl,rfl⟩
  have picked := Machine.Run.next _ _ .interactButtonPressed _ _ aimed ⟨rfl,rfl⟩
  have thrown := Machine.Run.next _ _ (.throwButtonPressed .zeroVector) _ _ picked ⟨rfl,rfl⟩
  have answered := Machine.Run.next _ _ (.onComponentHit 0 true) _ _ thrown ⟨rfl,rfl⟩
  obtain ⟨ball,found,owned⟩ := (exclusive_ownership Engine.exact _ _ answered 0).2 0 _ _ rfl rfl rfl
  exact ⟨_,_,_,ball,answered,found,owned⟩

end World

end RetrievingAI
