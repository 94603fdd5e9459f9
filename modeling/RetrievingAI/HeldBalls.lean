import RetrievingAI.Ownership

/-! Balls in hands. A ball taken while another is held leaves the other in the player's hand with
nobody holding it; apart from that every ball that hangs from a hand has exactly one holder. -/
namespace RetrievingAI

variable {F : Type}

namespace World

/-- Who holds a ball: the player by `BallInHand`, a live retriever that is giving it back. -/
def Holds (world : World F) (ref : Nat) : HandSocket → Prop
  | .player => world.player.ballInHand = some ref
  | .retriever index => ∃ retriever controler, world.retrievers.read index = some retriever ∧
    retriever.live = some controler ∧ controler.ballKey = some ref ∧
    controler.aiState = some EAIState.easGiveBallToPlayer.toUInt8

def Attached (world : World F) (ref : Nat) : Prop :=
  ∃ ball, world.balls.read ref = some ball ∧ ball.ballMesh.attachParent = some .player

structure NoStranded (world : World F) : Prop where
  holder : ∀ ref ball, world.balls.read ref = some ball → ball.ballMesh.bSimulatePhysics = false →
    ∃! hand, world.Holds ref hand
  single : ∀ first second, world.Attached first → world.Attached second → first = second
  inHand : ∀ ref, world.Attached ref → world.player.ballInHand = some ref
  display : world.player.playerHUD.any (·.saysBallInHand) = true ↔ ∃ ref, world.Attached ref

/-- A ball is picked up with an empty hand, or with that very ball in it. -/
def PicksUpFreeHanded (world : World F) : Event F → Prop
  | .interactButtonPressed => ∀ ref ball, world.player.lastHitInteractableActor = some (.ball ref) →
    world.balls.read ref = some ball → ball.bInteractionHintBlocked = false →
    world.player.ballInHand = none ∨ world.player.ballInHand = some ref
  | _ => True

/-- The HUD has a text block, and it follows `BallInHand`. -/
structure HudTells (world : World F) : Prop where
  bound : world.player.playerHUD.any (·.isBallInHandTextBlock.isSome) = true
  told : world.player.playerHUD.any (·.saysBallInHand) = world.player.ballInHand.isSome

def HandHonest (world : World F) : Prop :=
  ∀ ref, world.Attached ref → world.player.ballInHand = some ref

theorem Represents.attached_iff {world : World F} {phases : Nat → FetchPhase}
    (rep : world.Represents phases) (ref : Nat) : world.Attached ref ↔ phases ref = .inHand := by
  constructor
  · intro given
    obtain ⟨ball,found,attached⟩ := given
    have here := rep.inFetch ref ball found
    have same := here.attached.symm.trans attached
    generalize phases ref = phase at same
    cases phase <;> simp_all [FetchPhase.attached]
  · intro held
    cases found : world.balls.read ref with
    | none =>
      rw [rep.absent ref found] at held
      contradiction
    | some ball =>
      have here := rep.inFetch ref ball found
      refine ⟨ball,found,?_⟩
      rw [here.attached,held]
      rfl

theorem Represents.holder {world : World F} {phases : Nat → FetchPhase}
    (rep : world.Represents phases) (honest : world.HandHonest) (ref : Nat) (ball : ABall F)
    (found : world.balls.read ref = some ball) (still : ball.ballMesh.bSimulatePhysics = false) :
    ∃! hand, world.Holds ref hand := by
  have here := rep.inFetch ref ball found
  have phase : phases ref = .inHand ∨ ∃ index, phases ref = .carried index := by
    have same := here.simulating.symm.trans still
    have present := here.present
    generalize phases ref = phase at same present
    cases phase <;> simp_all [FetchPhase.simulating]
  rcases phase with held | ⟨index,carried⟩
  · have attached := (Represents.attached_iff rep ref).mpr held
    refine ⟨.player,honest ref attached,?_⟩
    intro hand holds
    cases hand with
    | player => rfl
    | retriever index =>
      obtain ⟨retriever,controler,listed,alive,named,_⟩ := holds
      have worked := (Represents.owned rep ref index retriever controler listed alive named).1
      rw [held] at worked
      contradiction
  · have worked : (phases ref).retriever = some index := by rw [carried]; rfl
    obtain ⟨retriever,controler,listed,alive,fetches⟩ := rep.retrieved ref index ball worked found
    have giving := fetches.state
    rw [carried] at giving
    refine ⟨.retriever index,⟨retriever,controler,listed,alive,fetches.ballKey,giving⟩,?_⟩
    intro hand holds
    cases hand with
    | player =>
      rw [rep.hand ref holds] at worked
      contradiction
    | retriever other =>
      obtain ⟨another,acting,read,awake,named,_⟩ := holds
      have owned := (Represents.owned rep ref other another acting read awake named).1
      rw [worked] at owned
      rw [Option.some.inj owned]

/-- Given the fetch phases and an honest HUD, only the player's own bookkeeping can go wrong. -/
theorem Represents.noStranded_iff {world : World F} {phases : Nat → FetchPhase}
    (rep : world.Represents phases) (hud : world.HudTells) : world.NoStranded ↔ world.HandHonest := by
  constructor
  · intro safe
    exact safe.inHand
  · intro honest
    refine ⟨Represents.holder rep honest,?_,honest,?_⟩
    · intro first second one other
      have same := (honest first one).symm.trans (honest second other)
      exact Option.some.inj same
    · rw [hud.told,Option.isSome_iff_exists]
      constructor
      · intro held
        obtain ⟨ref,holds⟩ := held
        exact ⟨ref,(Represents.attached_iff rep ref).mpr (rep.hand ref holds)⟩
      · intro hangs
        obtain ⟨ref,attached⟩ := hangs
        exact ⟨ref,honest ref attached⟩

theorem HandHonest.write {world target : World F} (honest : world.HandHonest) (ref : Nat)
    (old new : ABall F) (found : world.balls.read ref = some old)
    (written : target.balls = world.balls.write ref new)
    (kept : new.ballMesh.attachParent = some .player → old.ballMesh.attachParent = some .player)
    (hand : target.player.ballInHand = world.player.ballInHand) : target.HandHonest := by
  intro other given
  obtain ⟨ball,read,attached⟩ := given
  rw [hand]
  rw [written] at read
  rcases Pool.write_cases _ _ _ _ _ read with ⟨rfl,rfl⟩ | ⟨_,read⟩
  · exact honest ref ⟨old,found,kept attached⟩
  · exact honest other ⟨ball,read,attached⟩

theorem HandHonest.unmoved {world target : World F} (honest : world.HandHonest)
    (balls : target.balls = world.balls)
    (hand : target.player.ballInHand = world.player.ballInHand) : target.HandHonest := by
  intro ref given
  obtain ⟨ball,read,attached⟩ := given
  rw [hand]
  exact honest ref ⟨ball,by rwa [← balls],attached⟩

/-- Taking a ball keeps the hand honest exactly when no other ball hangs from it. -/
theorem HandHonest.takes_iff {world target : World F} (honest : world.HandHonest) (ref : Nat)
    (new : ABall F) (held : ∀ ref, world.player.ballInHand = some ref → world.Attached ref)
    (written : target.balls = world.balls.write ref new)
    (hand : target.player.ballInHand = some ref) : target.HandHonest ↔
      world.player.ballInHand = none ∨ world.player.ballInHand = some ref := by
  constructor
  · intro after
    cases holding : world.player.ballInHand with
    | none => exact Or.inl rfl
    | some taken =>
      by_cases same : ref = taken
      · exact Or.inr (by rw [same])
      · obtain ⟨kept,there,attached⟩ := held taken holding
        have read : target.balls.read taken = some kept := by
          rw [written,Pool.read_write_of_ne _ _ _ _ same,there]
        have owned := after taken ⟨kept,read,attached⟩
        rw [hand] at owned
        exact absurd (Option.some.inj owned) same
  · intro free other given
    obtain ⟨object,read,attached⟩ := given
    rw [hand]
    rw [written] at read
    rcases Pool.write_cases _ _ _ _ _ read with ⟨rfl,_⟩ | ⟨same,read⟩
    · rfl
    · have own := honest other ⟨object,read,attached⟩
      rcases free with none | mine
      · rw [none] at own
        contradiction
      · rwa [mine] at own

theorem HandHonest.lets_go {world target : World F} (honest : world.HandHonest) (ref : Nat)
    (new : ABall F) (hand : world.player.ballInHand = some ref)
    (written : target.balls = world.balls.write ref new) (loose : new.ballMesh.attachParent = none) :
    target.HandHonest := by
  intro other given
  obtain ⟨object,read,attached⟩ := given
  rw [written] at read
  rcases Pool.write_cases _ _ _ _ _ read with ⟨rfl,rfl⟩ | ⟨same,read⟩
  · rw [loose] at attached
    contradiction
  · have own := honest other ⟨object,read,attached⟩
    rw [hand] at own
    exact absurd (Option.some.inj own) same

variable [EngineFloat F]

theorem effect_handHonest (E : Engine F) (world target : World F) (event : Event F)
    (calls : List GameCall) (effect : Effect E world event target calls) (honest : world.HandHonest)
    (held : ∀ ref, world.player.ballInHand = some ref → world.Attached ref) :
    target.HandHonest ↔ world.PicksUpFreeHanded event := by
  cases effect with
  | lookBall view ref ball traced found =>
    exact iff_of_true (honest.write ref ball _ found rfl (by simp) (by simp)) trivial
  | leaveBall view ref ball traced last found =>
    exact iff_of_true (honest.write ref ball _ found rfl (by simp) (by simp)) trivial
  | lookChest | leaveChest | lookOn | stopIgnoring | throwNothing | hitNothing | chestTick | chestWait
  | chaseOn | carryOn =>
    exact iff_of_true (honest.unmoved rfl (by simp)) trivial
  | pressNothing last => exact iff_of_true honest (by simp [PicksUpFreeHanded,last])
  | pressBlocked ref ball last found blocked =>
    refine iff_of_true honest ?_
    intro other object aimed read free
    rw [last] at aimed
    cases aimed
    rw [found] at read
    cases read
    simp [blocked] at free
  | pressChest ref chest moved last found taken =>
    exact iff_of_true (honest.unmoved rfl rfl) (by simp [PicksUpFreeHanded,last])
  | pickUp ref ball hud last found free display =>
    rw [honest.takes_iff ref _ held (by rfl) (by rfl)]
    constructor
    · intro empty other object aimed read unblocked
      rw [last] at aimed
      cases aimed
      exact empty
    · intro free_handed
      exact free_handed ref ball last found free
  | throw location ref ball hud hand found display =>
    exact iff_of_true (honest.lets_go ref _ hand rfl (by simp [ABall.launched])) trivial
  | land ref spawned ball found thrown unanswered =>
    exact iff_of_true (honest.write ref ball _ found rfl (by simp [ABall.landed]) rfl) trivial
  | answer ref ball thrower tree retriever found thrown by_ class_ runs ready =>
    exact iff_of_true (honest.write ref ball _ found rfl (by simp [ABall.landed]) rfl) trivial
  | strand ref ball thrower found thrown by_ class_ idle =>
    exact iff_of_true (honest.write ref ball _ found rfl (by simp [ABall.landed]) rfl) trivial
  | chestDrop ref chest dropped ballClass found running drops class_ =>
    refine iff_of_true ?_ trivial
    intro other given
    obtain ⟨object,read,attached⟩ := given
    rw [Pool.read_spawn] at read
    split at read
    · cases read
      simp [ABall.launched] at attached
    · exact honest other ⟨object,read,attached⟩
  | reach ref task distance retriever controler key ball found alive state named there =>
    exact iff_of_true (honest.write key ball _ there rfl
      (by simp [ABall.attachTo,UStaticMeshComponent.attachToComponent]) rfl) trivial
  | deliver ref task distance retriever controler key ball found alive state named there =>
    exact iff_of_true (honest.write key ball _ there rfl
      (by simp [ABall.launched,ABall.removeBallThrower]) rfl) trivial

omit [EngineFloat F] in
theorem start_hudTells (world : World F) (started : world.player.Started)
    (configured : world.Configured) : world.HudTells := by
  obtain ⟨hud,display,bound⟩ := Option.any_eq_true _ _ |>.mp configured.hud
  refine ⟨?_,?_⟩
  · rw [started.hud,display]
    simpa [UPlayerHUD.nativeConstruct] using bound
  · rw [started.hud,display,started.hand]
    simp [UPlayerHUD.nativeConstruct]

theorem effect_hudTells (E : Engine F) (world target : World F) (event : Event F)
    (calls : List GameCall) (effect : Effect E world event target calls) (tells : world.HudTells) :
    target.HudTells := by
  obtain ⟨bound,told⟩ := tells
  cases effect with
  | pickUp ref ball hud last found free display =>
    rw [display] at bound
    exact ⟨by simpa using bound,by simpa using bound⟩
  | throw location ref ball hud hand found display =>
    rw [display] at bound
    exact ⟨by simpa [APlayerCharacter.threw] using bound,by simp [APlayerCharacter.threw]⟩
  | lookBall | lookChest | leaveBall | leaveChest | lookOn | stopIgnoring =>
    exact ⟨by simpa using bound,by simpa using told⟩
  | pressNothing | pressBlocked | pressChest | throwNothing | hitNothing | land | answer | strand
  | chestTick | chestWait | chestDrop | chaseOn | reach | carryOn | deliver => exact ⟨bound,told⟩

theorem run_tells (E : Engine F) {history : List (Machine.Moment (World F) (Event F) GameCall)}
    {world : World F} (run : ((machine E).starting Configured).Run history world) :
    (∃ phases, world.Represents phases) ∧ world.HudTells := by
  refine ⟨run_represents E run.of_starting,?_⟩
  apply run.invariant
  · intro start begins
    obtain ⟨initial,configured⟩ := begins
    exact start_hudTells start (start_player start initial.player) configured
  · intro source event calls target tells step
    exact effect_hudTells E source target event calls (step_effect E _ _ _ _ step) tells

/-- In a configured game no ball is stranded in a hand exactly as long as every ball is picked up
with a free hand. -/
theorem noStranded_run (E : Engine F)
    (history : List (Machine.Moment (World F) (Event F) GameCall)) (world : World F)
    (run : ((machine E).starting Configured).Run history world) :
    Machine.Throughout NoStranded history world ↔
      ∀ moment ∈ history, moment.source.PicksUpFreeHanded moment.event := by
  apply run.exact (I := fun world => (∃ phases, world.Represents phases) ∧ world.HudTells)
  · intro state reachable
    obtain ⟨earlier,reached⟩ := reachable
    exact run_tells E reached
  · intro start begins
    obtain ⟨initial,configured⟩ := begins
    have rep := init_represents start initial
    have tells := start_hudTells start (start_player start initial.player) configured
    apply (Represents.noStranded_iff rep tells).mpr
    intro ref attached
    rw [Represents.attached_iff rep] at attached
    unfold startPhases at attached
    split at attached <;> contradiction
  · intro source event calls target kept safe step
    obtain ⟨⟨phases,rep⟩,tells⟩ := kept
    have effect := step_effect E source target event calls step
    obtain ⟨moved,after⟩ := step_represents E source target event calls step ⟨phases,rep⟩
    have display := effect_hudTells E source target event calls effect tells
    rw [Represents.noStranded_iff after display]
    have honest := (Represents.noStranded_iff rep tells).mp safe
    apply effect_handHonest E source target event calls effect honest
    intro ref hand
    exact (Represents.attached_iff rep ref).mpr (rep.hand ref hand)

theorem noStranded_run_pickUp : ∃ history world,
    ((machine Engine.exact).starting Configured).Run history world ∧
      world.player.ballInHand = some 0 ∧ Machine.Throughout NoStranded history world := by
  have start := Machine.Run.start (M := (machine Engine.exact).starting Configured) _ (ballLevel_init 1)
  have aimed := Machine.Run.next _ _ (.tick (.tracing (.hitInteractable (.ball 0)))) _ _ start ⟨rfl,rfl⟩
  have picked := Machine.Run.next _ _ .interactButtonPressed _ _ aimed ⟨rfl,rfl⟩
  refine ⟨_,_,picked,rfl,(noStranded_run Engine.exact _ _ picked).mpr ?_⟩
  intro moment member
  simp only [List.mem_cons,List.not_mem_nil,or_false] at member
  rcases member with rfl | rfl
  · exact fun ref ball aim read free => Or.inl rfl
  · trivial

/-- Picking up a second ball: the first stays attached to the hand, and nobody holds it. -/
theorem secondPickUp_strands : ∃ history world,
    ((machine Engine.exact).starting Configured).Run history world ∧
      history.map (·.event) = [.interactButtonPressed,.tick (.tracing (.hitInteractable (.ball 1))),
        .interactButtonPressed,.tick (.tracing (.hitInteractable (.ball 0)))] ∧
      ¬ Machine.Throughout NoStranded history world := by
  have start := Machine.Run.start (M := (machine Engine.exact).starting Configured) _ (ballLevel_init 2)
  have aimed := Machine.Run.next _ _ (.tick (.tracing (.hitInteractable (.ball 0)))) _ _ start ⟨rfl,rfl⟩
  have picked := Machine.Run.next _ _ .interactButtonPressed _ _ aimed ⟨rfl,rfl⟩
  have turned := Machine.Run.next _ _ (.tick (.tracing (.hitInteractable (.ball 1)))) _ _ picked ⟨rfl,rfl⟩
  have again := Machine.Run.next _ _ .interactButtonPressed _ _ turned ⟨rfl,rfl⟩
  refine ⟨_,_,again,rfl,?_⟩
  intro safe
  have held := safe.1.inHand 0 ⟨_,rfl,rfl⟩
  contradiction

end World

end RetrievingAI
