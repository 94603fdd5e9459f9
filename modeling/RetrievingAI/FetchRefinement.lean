import RetrievingAI.Effect
import RetrievingAI.Fetch

/-! The running game refines the fetch game: flags, meshes and blackboards always agree with one
assignment of phases to balls, and every step moves at most one ball by one move. -/
namespace RetrievingAI

variable {F : Type}

structure ABall.InFetch (ball : ABall F) (phase : FetchPhase) : Prop where
  present : phase ≠ .absent
  blocked : ball.bInteractionHintBlocked = phase.blocked
  thrown : ball.bBallThrown = phase.thrown
  simulating : ball.ballMesh.bSimulatePhysics = phase.simulating
  attached : ball.ballMesh.attachParent = phase.attached
  thrower : ∀ flown, phase = .flying flown → ball.ballThrower.isSome = flown

/-- The controller works on the ball: its keys name ball and thrower, its state is the phase's. -/
structure AAICharacterControler.Fetches (controler : AAICharacterControler) (ref : Nat) (ball : ABall F)
    (phase : FetchPhase) : Prop where
  ballKey : controler.ballKey = some ref
  state : controler.aiState = some phase.aiState.toUInt8
  throwerKey : controler.throwerKey = ball.ballThrower
  thrower : ball.ballThrower.isSome = true

structure BallsInFetch (balls : Pool (ABall F)) (phases : Nat → FetchPhase) : Prop where
  absent : ∀ ref, balls.read ref = none → phases ref = .absent
  inFetch : ∀ ref ball, balls.read ref = some ball → ball.InFetch (phases ref)

/-- Balls, retrievers and the player's `BallInHand` agree with one phase for each ball. -/
structure Represents (balls : Pool (ABall F)) (retrievers : Pool AAICharacter) (hand : Option Nat)
    (phases : Nat → FetchPhase) : Prop extends BallsInFetch balls phases where
  owner : ∀ ref index retriever, retrievers.read index = some retriever →
    retriever.retrieves ref = true → (phases ref).retriever = some index
  retrieved : ∀ ref index ball, (phases ref).retriever = some index → balls.read ref = some ball →
    ∃ retriever controler, retrievers.read index = some retriever ∧
      retriever.live = some controler ∧ controler.Fetches ref ball (phases ref)
  hand : ∀ ref, hand = some ref → phases ref = .inHand

theorem ABall.hinted_inFetch (ball : ABall F) (bIsVisible : Bool) (phase : FetchPhase)
    (here : ball.InFetch phase) : (ball.hinted bIsVisible).InFetch phase := by
  unfold ABall.hinted
  split
  · exact here
  · exact ⟨here.present,here.blocked,here.thrown,here.simulating,here.attached,here.thrower⟩

theorem BallsInFetch.write {balls : Pool (ABall F)} {phases : Nat → FetchPhase}
    (rep : BallsInFetch balls phases) (ref : Nat) (old new : ABall F) (phase : FetchPhase)
    (found : balls.read ref = some old) (moved : new.InFetch phase) :
    BallsInFetch (balls.write ref new) (Function.update phases ref phase) where
  absent other missing := by
    have different : other ≠ ref := by
      intro same
      subst same
      rw [Pool.read_write_self _ _ _ _ found] at missing
      contradiction
    rw [Function.update_of_ne different]
    rw [Pool.read_write_of_ne _ _ _ _ different.symm] at missing
    exact rep.absent other missing
  inFetch other ball read := by
    rcases Pool.write_cases _ _ _ _ _ read with ⟨rfl,rfl⟩ | ⟨different,read⟩
    · rwa [Function.update_self]
    · rw [Function.update_of_ne different.symm]
      exact rep.inFetch other ball read

namespace Represents

variable {balls : Pool (ABall F)} {retrievers : Pool AAICharacter} {hand : Option Nat}
  {phases : Nat → FetchPhase}

/-- One ball is rewritten and keeps its retriever, if it has one. -/
theorem rewrite (rep : Represents balls retrievers hand phases) (ref : Nat) (old new : ABall F)
    (phase : FetchPhase) (held : Option Nat) (found : balls.read ref = some old)
    (moved : new.InFetch phase) (sameRetriever : phase.retriever = (phases ref).retriever)
    (sameState : phase.aiState = (phases ref).aiState)
    (sameThrower : (phases ref).retriever.isSome = true → new.ballThrower = old.ballThrower)
    (here : held = some ref → phase = .inHand)
    (elsewhere : ∀ other, other ≠ ref → held = some other → hand = some other) :
    Represents (balls.write ref new) retrievers held (Function.update phases ref phase) where
  toBallsInFetch := rep.toBallsInFetch.write ref old new phase found moved
  owner other index retriever read works := by
    have owned := rep.owner other index retriever read works
    by_cases same : other = ref
    · subst same
      rw [Function.update_self,sameRetriever,owned]
    · rwa [Function.update_of_ne same]
  retrieved other index ball works read := by
    rcases Pool.write_cases _ _ _ _ _ read with ⟨rfl,rfl⟩ | ⟨different,read⟩
    · rw [Function.update_self] at works ⊢
      rw [sameRetriever] at works
      obtain ⟨retriever,controler,listed,alive,fetches⟩ := rep.retrieved ref index old works found
      have thrower := sameThrower (by rw [works]; rfl)
      refine ⟨retriever,controler,listed,alive,fetches.ballKey,?_,?_,?_⟩
      · rw [sameState]
        exact fetches.state
      · rw [thrower]
        exact fetches.throwerKey
      · rw [thrower]
        exact fetches.thrower
    · rw [Function.update_of_ne different.symm] at works ⊢
      exact rep.retrieved other index ball works read
  hand other holds := by
    by_cases same : other = ref
    · subst same
      rw [Function.update_self]
      exact here holds
    · rw [Function.update_of_ne same]
      exact rep.hand other (elsewhere other same holds)

theorem hint (rep : Represents balls retrievers hand phases) (ref : Nat) (ball : ABall F)
    (bIsVisible : Bool) (found : balls.read ref = some ball) :
    Represents (balls.write ref (ball.hinted bIsVisible)) retrievers hand phases := by
  have kept := rep.rewrite ref ball (ball.hinted bIsVisible) (phases ref) hand found
    (ball.hinted_inFetch bIsVisible _ (rep.inFetch ref ball found)) rfl rfl (fun _ => by simp)
    (rep.hand ref) (fun _ _ holds => holds)
  rwa [Function.update_eq_self] at kept

theorem idle (rep : Represents balls retrievers hand phases) (retriever : AAICharacter)
    (useless : ∀ ref, retriever.retrieves ref = false) :
    Represents balls (retrievers.spawn retriever) hand phases where
  toBallsInFetch := rep.toBallsInFetch
  owner ref index object read works := by
    rw [Pool.read_spawn] at read
    split at read
    · cases read
      simp [useless ref] at works
    · exact rep.owner ref index object read works
  retrieved ref index ball works read := by
    obtain ⟨object,controler,listed,alive,fetches⟩ := rep.retrieved ref index ball works read
    exact ⟨object,controler,Pool.read_spawn_of_found _ _ _ _ listed,alive,fetches⟩
  hand := rep.hand

theorem join (rep : Represents balls retrievers hand phases) (ball : ABall F) (phase : FetchPhase)
    (moved : ball.InFetch phase) (alone : phase.retriever = none) :
    Represents (balls.spawn ball) retrievers hand (Function.update phases balls.fresh phase) where
  absent ref missing := by
    rw [Pool.read_spawn] at missing
    split at missing
    · contradiction
    next old =>
      rw [Function.update_of_ne old]
      exact rep.absent ref missing
  inFetch ref object read := by
    rw [Pool.read_spawn] at read
    split at read
    next new =>
      cases read
      rwa [new,Function.update_self]
    next old =>
      rw [Function.update_of_ne old]
      exact rep.inFetch ref object read
  owner ref index retriever read works := by
    have owned := rep.owner ref index retriever read works
    have different : ref ≠ balls.fresh := by
      intro same
      subst same
      rw [rep.absent _ (Pool.read_fresh balls)] at owned
      contradiction
    rwa [Function.update_of_ne different]
  retrieved ref index object works read := by
    by_cases new : ref = balls.fresh
    · rw [new,Function.update_self,alone] at works
      contradiction
    · rw [Function.update_of_ne new] at works ⊢
      rw [Pool.read_spawn,if_neg new] at read
      exact rep.retrieved ref index object works read
  hand ref holds := by
    have carried := rep.hand ref holds
    have different : ref ≠ balls.fresh := by
      intro same
      subst same
      rw [rep.absent _ (Pool.read_fresh balls)] at carried
      contradiction
    rwa [Function.update_of_ne different]

/-- A ball in flight is assigned to the retriever spawned for it. -/
theorem enlist (rep : Represents balls retrievers hand phases) (ref : Nat) (old new : ABall F)
    (phase : FetchPhase) (worker : AAICharacter) (controler : AAICharacterControler)
    (found : balls.read ref = some old) (moved : new.InFetch phase) (flying : phases ref = .flying true)
    (assigned : phase.retriever = some retrievers.fresh) (alive : worker.live = some controler)
    (fetches : controler.Fetches ref new phase) :
    Represents (balls.write ref new) (retrievers.spawn worker) hand
      (Function.update phases ref phase) where
  toBallsInFetch := rep.toBallsInFetch.write ref old new phase found moved
  owner other index retriever read works := by
    rw [Pool.read_spawn] at read
    split at read
    next new =>
      cases read
      obtain ⟨acting,there,named⟩ := (AAICharacter.retrieves_iff worker other).mp works
      have same : other = ref := by
        rw [alive] at there
        cases there
        rw [fetches.ballKey] at named
        exact (Option.some.inj named).symm
      rw [same,Function.update_self,assigned,new]
    next old =>
      have owned := rep.owner other index retriever read works
      have different : other ≠ ref := by
        intro same
        subst same
        rw [flying] at owned
        contradiction
      rwa [Function.update_of_ne different]
  retrieved other index ball works read := by
    rcases Pool.write_cases _ _ _ _ _ read with ⟨rfl,rfl⟩ | ⟨different,read⟩
    · rw [Function.update_self] at works ⊢
      rw [assigned] at works
      cases works
      exact ⟨worker,controler,Pool.read_spawn_fresh _ _,alive,fetches⟩
    · rw [Function.update_of_ne different.symm] at works ⊢
      obtain ⟨retriever,acting,listed,there,busy⟩ := rep.retrieved other index ball works read
      exact ⟨retriever,acting,Pool.read_spawn_of_found _ _ _ _ listed,there,busy⟩
  hand other holds := by
    have carried := rep.hand other holds
    have different : other ≠ ref := by
      intro same
      subst same
      rw [flying] at carried
      contradiction
    rwa [Function.update_of_ne different]

/-- A retriever moves its own ball on, and either keeps fetching it or fetches nothing any more. -/
theorem advance (rep : Represents balls retrievers hand phases) (ref index : Nat) (old new : ABall F)
    (phase : FetchPhase) (object worker : AAICharacter) (found : balls.read ref = some old)
    (listed : retrievers.read index = some object) (worked : (phases ref).retriever = some index)
    (moved : new.InFetch phase)
    (duty : ∀ other, worker.retrieves other = true → other = ref ∧ phase.retriever = some index)
    (busy : ∀ other, phase.retriever = some other → other = index ∧
      ∃ controler, worker.live = some controler ∧ controler.Fetches ref new phase) :
    Represents (balls.write ref new) (retrievers.write index worker) hand
      (Function.update phases ref phase) where
  toBallsInFetch := rep.toBallsInFetch.write ref old new phase found moved
  owner other place retriever read works := by
    rcases Pool.write_cases _ _ _ _ _ read with ⟨rfl,rfl⟩ | ⟨here,read⟩
    · obtain ⟨rfl,assigned⟩ := duty other works
      rwa [Function.update_self]
    · have owned := rep.owner other place retriever read works
      have different : other ≠ ref := by
        intro same
        subst same
        rw [worked] at owned
        exact here (Option.some.inj owned)
      rwa [Function.update_of_ne different]
  retrieved other place ball works read := by
    rcases Pool.write_cases _ _ _ _ _ read with ⟨rfl,rfl⟩ | ⟨different,read⟩
    · rw [Function.update_self] at works ⊢
      obtain ⟨rfl,controler,alive,fetches⟩ := busy place works
      exact ⟨worker,controler,Pool.read_write_self _ _ _ _ listed,alive,fetches⟩
    · rw [Function.update_of_ne different.symm] at works ⊢
      obtain ⟨retriever,acting,there,alive,fetches⟩ := rep.retrieved other place ball works read
      have elsewhere : index ≠ place := by
        intro same
        subst same
        obtain ⟨twin,second,again,awake,works'⟩ := rep.retrieved ref index old worked found
        have sameKey := works'.ballKey
        rw [there] at again
        cases again
        rw [alive] at awake
        cases awake
        rw [fetches.ballKey] at sameKey
        exact different (Option.some.inj sameKey).symm
      exact ⟨retriever,acting,by rwa [Pool.read_write_of_ne _ _ _ _ elsewhere],alive,fetches⟩
  hand other holds := by
    have carried := rep.hand other holds
    have different : other ≠ ref := by
      intro same
      subst same
      rw [carried] at worked
      contradiction
    rwa [Function.update_of_ne different]

end Represents

theorem ABall.attachTo_inFetch (ball : ABall F) (phase moved : FetchPhase) (hand : HandSocket)
    (here : ball.InFetch phase) (present : moved ≠ .absent) (blocked : moved.blocked = phase.blocked)
    (thrown : moved.thrown = phase.thrown) (still : moved.simulating = false)
    (attached : moved.attached = some hand) (grounded : ∀ flown, moved ≠ .flying flown) :
    (ball.attachTo hand).InFetch moved :=
  ⟨present,here.blocked.trans blocked.symm,here.thrown.trans thrown.symm,still.symm,attached.symm,
    fun flown same => absurd same (grounded flown)⟩

theorem ABall.landed_inFetch (ball : ABall F) (flown : Bool) (moved : FetchPhase) (blocked : Bool)
    (here : ball.InFetch (.flying flown)) (present : moved ≠ .absent) (shut : moved.blocked = blocked)
    (down : moved.thrown = false) (loose : moved.simulating = true) (free : moved.attached = none)
    (grounded : ∀ flown, moved ≠ .flying flown) : (ball.landed blocked).InFetch moved :=
  ⟨present,shut.symm,down.symm,here.simulating.trans loose.symm,here.attached.trans free.symm,
    fun flown same => absurd same (grounded flown)⟩

theorem FetchPhase.flying_of_thrown (phase : FetchPhase) (thrown : phase.thrown = true) :
    ∃ flown, phase = .flying flown := by
  cases phase <;> simp_all [FetchPhase.thrown]

theorem FetchPhase.chased_of_state (phase : FetchPhase) (index : Nat)
    (worked : phase.retriever = some index) (state : phase.aiState = .easChaseBall) :
    phase = .chased index := by
  cases phase <;> simp_all [FetchPhase.retriever,FetchPhase.aiState]

theorem FetchPhase.carried_of_state (phase : FetchPhase) (index : Nat)
    (worked : phase.retriever = some index) (state : phase.aiState = .easGiveBallToPlayer) :
    phase = .carried index := by
  cases phase <;> simp_all [FetchPhase.retriever,FetchPhase.aiState]

theorem EAIState.toUInt8_injective (first second : EAIState) (same : first.toUInt8 = second.toUInt8) :
    first = second := by
  cases first <;> cases second <;> simp_all [EAIState.toUInt8]

theorem Represents.working {balls : Pool (ABall F)} {retrievers : Pool AAICharacter}
    {hand : Option Nat} {phases : Nat → FetchPhase} (rep : Represents balls retrievers hand phases)
    (ref index : Nat) (ball : ABall F) (retriever : AAICharacter) (controler : AAICharacterControler)
    (found : balls.read ref = some ball) (listed : retrievers.read index = some retriever)
    (alive : retriever.live = some controler) (named : controler.ballKey = some ref) :
    (phases ref).retriever = some index ∧ controler.Fetches ref ball (phases ref) := by
  have works := (retriever.retrieves_iff ref).mpr ⟨controler,alive,named⟩
  have owned := rep.owner ref index retriever listed works
  obtain ⟨same,acting,there,awake,fetches⟩ := rep.retrieved ref index ball owned found
  rw [listed] at there
  cases there
  rw [alive] at awake
  cases awake
  exact ⟨owned,fetches⟩

/-- Why the game lets a thrown ball land unanswered or stranded. -/
def World.Explains (world : World F) (event : Event F) (phases : Nat → FetchPhase) : FetchEvent → Prop
  | .land ref => phases ref = .flying true →
    ∃ ball, world.balls.read ref = some ball ∧ ball.aiCharacterClass = none
  | .strand ref => event = .onComponentHit ref true ∧ world.player.behaviorTree = none ∧
    ∃ ball, world.balls.read ref = some ball ∧ ball.bBallThrown = true ∧
      ball.ballThrower.isSome = true ∧ ball.aiCharacterClass.isSome = true
  | _ => True

def World.Represents (world : World F) (phases : Nat → FetchPhase) : Prop :=
  RetrievingAI.Represents world.balls world.retrievers world.player.ballInHand phases

variable [EngineFloat F]

theorem ABall.launched_inFetch (ball moved : ABall F) (strength : F) (direction : FVector F)
    (blocked : moved.bInteractionHintBlocked = true) (thrown : moved.bBallThrown = true)
    (mesh : moved.ballMesh = (ball.launched strength direction).ballMesh) :
    moved.InFetch (.flying moved.ballThrower.isSome) := by
  refine ⟨by simp,blocked,thrown,?_,?_,?_⟩
  · rw [mesh]
    simp [ABall.launched,FetchPhase.simulating]
  · rw [mesh]
    simp [ABall.launched,FetchPhase.attached]
  · intro flown same
    exact FetchPhase.flying.inj same

namespace World

/-- Each path through the code is at most one move of the fetch game. -/
theorem effect_moves (E : Engine F) (world target : World F) (event : Event F)
    (calls : List GameCall) (phases : Nat → FetchPhase) (rep : world.Represents phases)
    (effect : Effect E world event target calls) :
    (target.Represents phases ∧ calls.filterMap GameCall.observed = []) ∨
    ∃ move phase, FetchEvent.move move (phases move.ball) = some phase ∧
      target.Represents (Function.update phases move.ball phase) ∧
      calls.filterMap GameCall.observed = move.calls ∧ world.Explains event phases move := by
  unfold World.Represents at rep
  cases effect with
  | lookBall view ref ball traced found =>
    have kept := rep.hint ref ball true found
    exact Or.inl ⟨by simpa [World.Represents] using kept,rfl⟩
  | leaveBall view ref ball traced last found =>
    have kept := rep.hint ref ball false found
    exact Or.inl ⟨by simpa [World.Represents] using kept,rfl⟩
  | lookChest | leaveChest | lookOn | stopIgnoring =>
    exact Or.inl ⟨by simpa [World.Represents] using rep,rfl⟩
  | pressNothing | pressBlocked | pressChest | throwNothing | hitNothing | chestTick | chestWait
  | chaseOn | carryOn => exact Or.inl ⟨rep,rfl⟩
  | pickUp ref ball hud last found free display =>
    have here := rep.inFetch ref ball found
    have movable : FetchEvent.move (.pickUp ref) (phases ref) = some .inHand ∧
        (phases ref).retriever = none ∧ (phases ref).aiState = .easDefault ∧
        (phases ref).blocked = false ∧ (phases ref).thrown = false := by
      have unblocked := here.blocked.symm.trans free
      have present := here.present
      generalize phases ref = phase at unblocked present ⊢
      cases phase <;> simp_all [FetchPhase.blocked,FetchPhase.retriever,FetchPhase.aiState,
        FetchPhase.thrown,FetchEvent.move]
    obtain ⟨move,alone,state,blocked,thrown⟩ := movable
    refine Or.inr ⟨.pickUp ref,.inHand,move,?_,rfl,trivial⟩
    have attached := ball.attachTo_inFetch (phases ref) .inHand .player here (by simp)
      blocked.symm thrown.symm rfl rfl (by simp)
    exact rep.rewrite ref ball _ .inHand (some ref) found
      ((ball.attachTo .player).hinted_inFetch false _ attached) alone.symm state.symm
      (fun busy => by simp [alone] at busy) (fun _ => rfl)
      (fun other different holds => absurd (Option.some.inj holds).symm different)
  | throw location ref ball hud hand found display =>
    have holding := rep.hand ref hand
    refine Or.inr ⟨.throw ref,.flying true,?_,?_,rfl,trivial⟩
    · simp [FetchEvent.ball,holding,FetchEvent.move]
    · have flying := ball.launched_inFetch {ball.launched world.player.throwStrength
        (world.player.throwDirection E location) with
        ballThrower := some .player0
        aiSpawnVector := world.player.aiSpawnLocation} _ _ rfl rfl rfl
      exact rep.rewrite ref ball _ (.flying true) none found flying (by rw [holding]; rfl)
        (by rw [holding]; rfl) (fun busy => by simp [holding,FetchPhase.retriever] at busy)
        (fun holds => by contradiction) (fun _ _ holds => by contradiction)
  | land ref spawned ball found thrown unanswered =>
    have here := rep.inFetch ref ball found
    obtain ⟨flown,flying⟩ := FetchPhase.flying_of_thrown _ (here.thrown.symm.trans thrown)
    refine Or.inr ⟨.land ref,.resting,?_,?_,rfl,?_⟩
    · simp [FetchEvent.ball,flying,FetchEvent.move]
    · have down := ball.landed_inFetch flown .resting false (flying ▸ here) (by simp) rfl rfl rfl rfl
        (by simp)
      exact rep.rewrite ref ball _ .resting _ found down (by rw [flying]; rfl) (by rw [flying]; rfl)
        (fun busy => by simp [flying,FetchPhase.retriever] at busy)
        (fun holds => by have held := rep.hand ref holds; rw [flying] at held; contradiction)
        (fun _ _ holds => holds)
    · intro awaited
      rcases unanswered with dropped | classless
      · have answered := here.thrower true awaited
        simp [dropped] at answered
      · exact ⟨ball,found,classless⟩
  | answer ref ball thrower tree retriever found thrown by_ class_ runs ready =>
    have here := rep.inFetch ref ball found
    obtain ⟨flown,flying⟩ := FetchPhase.flying_of_thrown _ (here.thrown.symm.trans thrown)
    have awaited : flown = true := by simpa [by_] using (here.thrower flown flying).symm
    subst awaited
    obtain ⟨started,alive,initialized⟩ := (E.spawned _).initialized ref _ ready
    refine Or.inr ⟨.answer ref world.retrievers.fresh,.chased world.retrievers.fresh,?_,?_,rfl,trivial⟩
    · simp [FetchEvent.ball,flying,FetchEvent.move]
    · have down := ball.landed_inFetch true (.chased world.retrievers.fresh) true (flying ▸ here)
        (by simp) rfl rfl rfl rfl (by simp)
      exact rep.enlist ref ball _ _ retriever started found down flying rfl alive
        ⟨initialized.ballKey,initialized.state,initialized.throwerKey.trans by_.symm,
          by simp [ABall.landed,by_]⟩
  | strand ref ball thrower found thrown by_ class_ idle =>
    have here := rep.inFetch ref ball found
    obtain ⟨flown,flying⟩ := FetchPhase.flying_of_thrown _ (here.thrown.symm.trans thrown)
    have awaited : flown = true := by simpa [by_] using (here.thrower flown flying).symm
    subst awaited
    refine Or.inr ⟨.strand ref,.stranded,?_,?_,rfl,rfl,idle,ball,found,thrown,by simp [by_],class_⟩
    · simp [FetchEvent.ball,flying,FetchEvent.move]
    · have down := ball.landed_inFetch true .stranded true (flying ▸ here) (by simp) rfl rfl rfl rfl
        (by simp)
      have stuck := rep.rewrite ref ball _ .stranded _ found down (by rw [flying]; rfl)
        (by rw [flying]; rfl) (fun busy => by simp [flying,FetchPhase.retriever] at busy)
        (fun holds => by have held := rep.hand ref holds; rw [flying] at held; contradiction)
        (fun _ _ holds => holds)
      exact stuck.idle _ fun _ => (E.spawned _).retrieves_nothing
  | chestDrop ref chest dropped ballClass found running drops class_ =>
    have absent := rep.absent _ (Pool.read_fresh world.balls)
    refine Or.inr ⟨.drop world.balls.fresh,.flying false,?_,?_,rfl,trivial⟩
    · simp [FetchEvent.ball,absent,FetchEvent.move]
    · have falling := (ABall.new ballClass).launched_inFetch
        ((ABall.new ballClass).launched dropped.dropStrength dropped.direction) dropped.dropStrength
        dropped.direction rfl rfl rfl
      exact rep.join _ (.flying false) (by simpa [ABall.launched,ABall.new] using falling) rfl
  | reach ref task distance retriever controler key ball found alive state named there =>
    obtain ⟨owned,fetches⟩ := rep.working key ref ball retriever controler there found alive named
    have chased : phases key = .chased ref := by
      have same := EAIState.toUInt8_injective _ _ (Option.some.inj (state.symm.trans fetches.state))
      exact FetchPhase.chased_of_state _ ref owned same.symm
    have here := rep.inFetch key ball there
    rw [chased] at here
    obtain ⟨_,young⟩ := retriever.live_controler controler alive
    have awake : (AAICharacter.mk (some (controler.inState .easGiveBallToPlayer))
        retriever.bActorIsBeingDestroyed).live = some (controler.inState .easGiveBallToPlayer) := by
      simp [AAICharacter.live_mk,young]
    have board : controler.blackboard.isSome = true := by
      have keyed := fetches.ballKey
      unfold AAICharacterControler.ballKey at keyed
      cases board : controler.blackboard <;> simp_all
    refine Or.inr ⟨.reach key,.carried ref,?_,?_,rfl,trivial⟩
    · simp [FetchEvent.ball,chased,FetchEvent.move]
    · have taken := ball.attachTo_inFetch _ (.carried ref) (.retriever ref) here (by simp) rfl rfl rfl
        rfl (by simp)
      refine rep.advance key ref ball _ (.carried ref) retriever _ there found owned taken ?_ ?_
      · intro other works
        obtain ⟨acting,same,keyed⟩ := (AAICharacter.retrieves_iff _ other).mp works
        rw [awake] at same
        cases same
        rw [AAICharacterControler.ballKey_inState,named] at keyed
        exact ⟨(Option.some.inj keyed).symm,rfl⟩
      · intro other works
        refine ⟨(Option.some.inj works).symm,_,awake,by simp [named],?_,?_,fetches.thrower⟩
        · exact controler.aiState_inState _ board
        · simpa [ABall.attachTo] using fetches.throwerKey
  | deliver ref task distance retriever controler key ball found alive state named there =>
    obtain ⟨owned,fetches⟩ := rep.working key ref ball retriever controler there found alive named
    have carried : phases key = .carried ref := by
      have same := EAIState.toUInt8_injective _ _ (Option.some.inj (state.symm.trans fetches.state))
      exact FetchPhase.carried_of_state _ ref owned same.symm
    refine Or.inr ⟨.deliver key,.flying false,?_,?_,rfl,trivial⟩
    · simp [FetchEvent.ball,carried,FetchEvent.move]
    · have falling := ball.launched_inFetch
        (ball.launched ((1 : ℕ) : F) FVector.zeroVector).removeBallThrower ((1 : ℕ) : F)
        FVector.zeroVector rfl rfl rfl
      refine rep.advance key ref ball _ (.flying false) retriever _ there found owned falling ?_ ?_
      · intro other works
        obtain ⟨acting,same,_⟩ := (AAICharacter.retrieves_iff _ other).mp works
        simp [AAICharacter.destroy,AAICharacter.live_mk,AAICharacterControler.destroy] at same
      · intro other works
        contradiction

def startPhases (world : World F) (ref : Nat) : FetchPhase :=
  if (world.balls.read ref).isSome then .resting else .absent

theorem init_represents (world : World F) (initial : world.Init) :
    world.Represents world.startPhases where
  absent ref missing := by simp [startPhases,missing]
  inFetch ref ball found := by
    obtain ⟨ballClass,rfl⟩ := initial.balls ref ball found
    have resting : world.startPhases ref = .resting := by simp [startPhases,found]
    rw [resting]
    exact ⟨by simp,rfl,rfl,rfl,rfl,by simp⟩
  owner ref index retriever read works := by
    rw [initial.retrievers] at read
    simp at read
  retrieved ref index ball works found := by
    simp [startPhases,found,FetchPhase.retriever] at works
  hand ref holds := by
    rw [(start_player world initial.player).hand] at holds
    contradiction

theorem step_represents (E : Engine F) (world target : World F) (event : Event F)
    (calls : List GameCall) (step : (machine E).Step world event calls target)
    (rep : ∃ phases, world.Represents phases) : ∃ phases, target.Represents phases := by
  obtain ⟨phases,rep⟩ := rep
  have effect := step_effect E world target event calls step
  rcases effect_moves E world target event calls phases rep effect with ⟨kept,_⟩ | ⟨_,_,_,moved,_⟩
  · exact ⟨phases,kept⟩
  · exact ⟨_,moved⟩

/-- Every reachable world is one assignment of phases to balls. -/
theorem run_represents (E : Engine F)
    {history : List (Machine.Moment (World F) (Event F) GameCall)} {world : World F}
    (run : (machine E).Run history world) : ∃ phases, world.Represents phases := by
  apply run.invariant (P := fun world => ∃ phases, world.Represents phases)
  · intro start initial
    exact ⟨_,init_represents start initial⟩
  · intro source event calls target rep step
    exact step_represents E source target event calls step rep

end World

end RetrievingAI
