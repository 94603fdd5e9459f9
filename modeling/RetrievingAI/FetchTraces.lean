import RetrievingAI.Accounting
import RetrievingAI.ChestSupply

/-! The fetch game leaves nothing out and adds nothing: what a level can be seen to do with its balls
is what the fetch game allows, from every world that play can reach. -/
namespace RetrievingAI

namespace FetchPhase

/-- The phase without the number of its retriever. -/
def unnamed : FetchPhase → FetchPhase
  | chased _ => chased 0
  | carried _ => carried 0
  | phase => phase

theorem unnamed_alone (own phase : FetchPhase) (same : own.unnamed = phase.unnamed)
    (alone : phase.retriever = none) : own = phase := by
  cases own <;> cases phase <;> simp_all [unnamed,retriever]

theorem unnamed_chased (own : FetchPhase) (index : Nat) (same : own.unnamed = (chased index).unnamed) :
    ∃ other, own = .chased other := by
  cases own <;> simp_all [unnamed]

theorem unnamed_carried (own : FetchPhase) (index : Nat) (same : own.unnamed = (carried index).unnamed) :
    ∃ other, own = .carried other := by
  cases own <;> simp_all [unnamed]

theorem of_attached (phase : FetchPhase) (hand : HandSocket) (held : phase.attached = some hand) :
    phase = match hand with
      | .player => .inHand
      | .retriever index => .carried index := by
  cases phase with
  | inHand | carried index =>
    cases Option.some.inj held
    rfl
  | absent | resting | flying | chased | stranded => contradiction

end FetchPhase

/-- Chests, if there are any, drop balls in the order of their numbers. -/
def FetchEvent.InOrder (supplied : Prop) (phases : Nat → FetchPhase) : FetchEvent → Prop
  | .drop ball => supplied ∧ ∀ other < ball, phases other ≠ .absent
  | _ => True

/-- The fetch game of a staffed level, with chests or without. -/
def fetchLevel (supplied : Prop) : Machine (Nat → FetchPhase) FetchEvent GameCall :=
  fetchGame.guard fun phases event => event.Answered phases ∧ event.InOrder supplied phases

variable {F : Type}

/-- A ball that looks the same after a move has not moved. -/
theorem ABall.InFetch.unmoved {ball : ABall F} {phase moved : FetchPhase} (here : ball.InFetch phase)
    (there : ball.InFetch moved) (move : FetchEvent) (made : move.move phase = some moved) :
    moved = phase := by
  have blocked := here.blocked.symm.trans there.blocked
  have thrown := here.thrown.symm.trans there.thrown
  have attached := here.attached.symm.trans there.attached
  cases move with
  | pickUp | throw | land | reach | deliver | drop =>
    cases phase <;> simp_all [FetchEvent.move]
    subst moved
    simp_all [FetchPhase.thrown,FetchPhase.attached,FetchPhase.blocked]
  | answer | strand =>
    cases phase with
    | flying flown =>
      cases flown <;> simp_all [FetchEvent.move]
      subst moved
      simp [FetchPhase.thrown] at thrown
    | absent | resting | inHand | chased | carried | stranded => simp [FetchEvent.move] at made

theorem ABall.InFetch.free_unique {ball : ABall F} {phase other : FetchPhase} (here : ball.InFetch phase)
    (there : ball.InFetch other) (free : ball.bInteractionHintBlocked = false) : phase = other := by
  have blocked := here.blocked.symm.trans free
  have unblocked := there.blocked.symm.trans free
  have present := here.present
  have existing := there.present
  have attached := here.attached.symm.trans there.attached
  cases phase <;> cases other <;> simp_all [FetchPhase.blocked,FetchPhase.attached]

theorem ABall.InFetch.flying {ball : ABall F} {phase : FetchPhase} (here : ball.InFetch phase)
    (thrown : ball.bBallThrown = true) : phase = .flying ball.ballThrower.isSome := by
  obtain ⟨flown,flying⟩ := FetchPhase.flying_of_thrown phase (here.thrown.symm.trans thrown)
  rw [flying,here.thrower flown flying]

theorem BallsInFetch.absent_iff {balls : Pool (ABall F)} {phases : Nat → FetchPhase}
    (rep : BallsInFetch balls phases) (ref : Nat) : phases ref = .absent ↔ balls.fresh ≤ ref := by
  rw [← balls.read_eq_none_iff ref]
  constructor
  · intro absent
    cases found : balls.read ref with
    | none => rfl
    | some ball => exact absurd absent (rep.inFetch ref ball found).present
  · exact rep.absent ref

namespace World

def HasChest (world : World F) : Prop := ∃ ref, (world.chests.read ref).isSome = true

/-- The world stands as the fetch game does, whatever numbers the retrievers have. -/
def Stands (phases : Nat → FetchPhase) (world : World F) : Prop :=
  ∃ own, world.Represents own ∧ ∀ ref, (own ref).unnamed = (phases ref).unnamed

theorem Stands.found {phases : Nat → FetchPhase} {world : World F} (stands : world.Stands phases)
    (ref : Nat) (present : phases ref ≠ .absent) :
    ∃ own ball, world.Represents own ∧ world.balls.read ref = some ball ∧ ball.InFetch (own ref) ∧
      (own ref).unnamed = (phases ref).unnamed := by
  obtain ⟨own,rep,alike⟩ := stands
  cases found : world.balls.read ref with
  | some ball => exact ⟨own,ball,rep,rfl,rep.inFetch ref ball found,alike ref⟩
  | none =>
    have same := alike ref
    rw [rep.absent ref found] at same
    exact absurd (FetchPhase.unnamed_alone _ .absent same.symm rfl) present

variable [EngineFloat F]

theorem effect_hasChest (E : Engine F) (world target : World F) (event : Event F)
    (calls : List GameCall) (effect : Effect E world event target calls) :
    target.HasChest ↔ world.HasChest := by
  unfold HasChest
  simp [effect_chestPresent E world target event calls effect]

theorem effect_drops (E : Engine F) (world target : World F) (event : Event F)
    (calls : List GameCall) (effect : Effect E world event target calls) (ball : Nat)
    (made : calls.filterMap GameCall.observed = [.dropBall ball]) : world.HasChest := by
  cases effect with
  | chestDrop ref chest dropped ballClass found => exact ⟨ref,by simp [found]⟩
  | throw | answer | strand | deliver => exact GameCall.noConfusion (List.cons.inj made).1
  | lookBall | lookChest | leaveBall | leaveChest | lookOn | pressNothing | pressBlocked | pickUp
  | pressChest | throwNothing | stopIgnoring | hitNothing | land | chestTick | chestWait | chaseOn | reach
  | carryOn => contradiction

/-- The staffed game refines the fetch game of its level: nothing happens that the fetch game rules
out. -/
def levels (E : Engine F) (supplied : Prop) : Machine.Simulation
    ((machine E).starting fun world => world.Staffed ∧ (world.HasChest → supplied))
    (fetchLevel supplied) GameCall.observed where
  R world phases := world.Represents phases ∧ world.Staffed ∧ (world.HasChest → supplied)
  init world begins := by
    refine ⟨world.startPhases,?_,init_represents world begins.1,begins.2⟩
    intro ref
    unfold startPhases
    split
    · exact Or.inr rfl
    · exact Or.inl rfl
  step source event calls target phases related step := by
    obtain ⟨rep,staffed,stocked⟩ := related
    have effect := step_effect E source target event calls step
    have kept := effect_staffed E source target event calls effect staffed
    have still : target.HasChest → supplied :=
      fun has => stocked ((effect_hasChest E source target event calls effect).mp has)
    rcases effect_moves E source target event calls phases rep effect with
      ⟨same,silent⟩ | ⟨move,phase,moved,after,made,explained⟩
    · exact ⟨[],phases,.refl,⟨same,kept,still⟩,silent.symm⟩
    · have answered := staffed.answered event phases move phase moved explained
      have ordered : move.InOrder supplied phases := by
        cases move with
        | drop ball =>
          refine ⟨stocked (effect_drops E source target event calls effect ball made),?_⟩
          intro other below absent
          have missing := after.absent_iff other
          simp only [FetchEvent.ball] at moved missing
          rw [Function.update_of_ne below.ne] at missing
          have gone := (after.absent_iff ball).mpr ((missing.mp absent).trans below.le)
          simp only [FetchEvent.ball,Function.update_self] at gone
          subst gone
          generalize phases ball = source at moved
          cases source <;> simp [FetchEvent.move] at moved
        | pickUp | throw | land | answer | strand | reach | deliver => trivial
      exact ⟨_,_,.single ⟨⟨answered,ordered⟩,phase,moved,rfl,rfl⟩,⟨after,kept,still⟩,by simp [made]⟩

/-- Where a step rewrites one ball, only that ball can have moved. -/
theorem Stands.rewrite {E : Engine F} {world target : World F} {event : Event F}
    {calls : List GameCall} {ref : Nat} {ball : ABall F} {phases : Nat → FetchPhase}
    (stands : world.Stands phases) (turn : Rewrites E world event calls ref ball target)
    (phase : FetchPhase)
    (fits : ∀ own, target.Represents own → (own ref).unnamed = phase.unnamed) :
    target.Stands (Function.update phases ref phase) := by
  obtain ⟨own,rep,alike⟩ := stands
  have effect := step_effect E world target event calls turn.step
  rcases effect_moves E world target event calls own rep effect with
    ⟨kept,_⟩ | ⟨move,moved,made,after,_⟩
  · refine ⟨own,kept,?_⟩
    intro other
    by_cases same : other = ref
    · subst same
      rw [Function.update_self]
      exact fits own kept
    · rw [Function.update_of_ne same]
      exact alike other
  · refine ⟨_,after,?_⟩
    intro other
    by_cases same : other = ref
    · subst same
      rw [Function.update_self]
      exact fits _ after
    · rw [Function.update_of_ne same]
      by_cases acts : other = move.ball
      · subst acts
        rw [Function.update_self,← alike move.ball]
        have read := turn.elsewhere move.ball same
        cases found : world.balls.read move.ball with
        | none =>
          have gone := after.absent move.ball (read.trans found)
          rw [Function.update_self] at gone
          rw [gone,rep.absent move.ball found]
        | some object =>
          have there := after.inFetch move.ball object (read.trans found)
          rw [Function.update_self] at there
          rw [(rep.inFetch move.ball object found).unmoved there move made]
      · rw [Function.update_of_ne acts]
        exact alike other

section Moves

variable {world : World F} {phases : Nat → FetchPhase}

/-- A ball at rest or in a hand is looked at and picked up, and no call of a fetch is made. -/
theorem Stands.takes (E : Engine F) (stands : world.Stands phases) (ready : world.Ready) (ref : Nat)
    (free : phases ref = .resting ∨ phases ref = .inHand) :
    (machine E).Makes GameCall.observed [] (fun target => target.Ready ∧
      target.player.ballInHand = some ref ∧
      target.Stands (Function.update phases ref .inHand)) world := by
  obtain ⟨own,ball,rep,found,here,same⟩ := stands.found ref (by rcases free with rest | held <;> simp_all)
  have phase : own ref = phases ref :=
    FetchPhase.unnamed_alone _ _ same (by rcases free with rest | held <;> simp_all [FetchPhase.retriever])
  have open_ : ball.bInteractionHintBlocked = false := by
    rw [here.blocked,phase]
    rcases free with rest | held <;> simp_all [FetchPhase.blocked]
  obtain ⟨aimed,last,look⟩ := ready.looks E found
  have there := look.there found
  have looked : aimed.Stands phases := by
    have kept := stands.rewrite look (phases ref) (by
      intro after rep'
      have before := ball.hinted_inFetch true _ here
      rw [(rep'.inFetch ref _ there).free_unique before (by simpa using open_)]
      exact same)
    rwa [Function.update_eq_self] at kept
  obtain ⟨taken,hand,pick⟩ := look.ready.picks E there (by simpa using open_) last
  refine .silent look.step rfl (.silent pick.step rfl (.now ⟨pick.ready,hand,looked.rewrite pick _ ?_⟩))
  intro after rep'
  have attached := (rep'.inFetch ref _ (pick.there there)).attached
  rw [FetchPhase.of_attached (after ref) .player
    (by rw [← attached]; simp [ABall.attachTo,UStaticMeshComponent.attachToComponent])]

theorem Stands.throws (E : Engine F) (stands : world.Stands phases) (ready : world.Ready) (ref : Nat)
    (held : phases ref = .inHand) :
    (machine E).Makes GameCall.observed [.throw ref]
      (Stands (Function.update phases ref (.flying true))) world := by
  refine (stands.takes E ready ref (.inr held)).after ?_
  intro middle given
  obtain ⟨ready,hand,stands⟩ := given
  obtain ⟨own,ball,rep,found,here,same⟩ := stands.found ref (by simp)
  obtain ⟨target,throw⟩ := ready.throws E found hand FVector.zeroVector
  have thrown := stands.rewrite throw (.flying true) (by
    intro after rep'
    rw [(rep'.inFetch ref _ (throw.there found)).flying rfl]
    rfl)
  rw [Function.update_idem] at thrown
  exact .step throw.step (.now thrown)

theorem Stands.lands (E : Engine F) (stands : world.Stands phases) (ready : world.Ready) (ref : Nat)
    (flies : phases ref = .flying false) :
    (machine E).Makes GameCall.observed [] (Stands (Function.update phases ref .resting)) world := by
  obtain ⟨own,ball,rep,found,here,same⟩ := stands.found ref (by simp [flies])
  rw [FetchPhase.unnamed_alone _ _ same (by rw [flies]; rfl),flies] at here
  have unthrown : ball.ballThrower = none := by simpa using here.thrower false rfl
  obtain ⟨target,hit⟩ := ready.lands E found here.thrown (.inl unthrown)
  refine .silent hit.step rfl (.now (stands.rewrite hit _ ?_))
  intro after rep'
  have down := ball.landed_inFetch false .resting false here (by simp) rfl rfl rfl rfl (by simp)
  rw [(rep'.inFetch ref _ (hit.there found)).free_unique down rfl]

theorem Stands.answers (E : Engine F) (stands : world.Stands phases) (ready : world.Ready)
    (staffed : world.Staffed) (ref index : Nat) (flies : phases ref = .flying true) :
    (machine E).Makes GameCall.observed [.spawnAI ref]
      (Stands (Function.update phases ref (.chased index))) world := by
  obtain ⟨own,ball,rep,found,here,same⟩ := stands.found ref (by simp [flies])
  rw [FetchPhase.unnamed_alone _ _ same (by rw [flies]; rfl),flies] at here
  obtain ⟨target,hit,worker,retriever,controler,listed,alive,named⟩ := ready.answers E found here.thrown
    (here.thrower true rfl) (staffed.balls ref ball found) staffed.tree
  refine .step hit.step (.now (stands.rewrite hit _ ?_))
  intro after rep'
  have there := rep'.inFetch ref _ (hit.there found)
  have worked := (Represents.owned rep' ref worker retriever controler listed alive named).1
  rcases FetchPhase.of_retriever _ worker worked with chased | carried
  · rw [chased]
    rfl
  · have attached := there.attached
    rw [carried] at attached
    simp [ABall.landed,FetchPhase.attached,here.attached] at attached

theorem Stands.reaches (E : Engine F) (stands : world.Stands phases) (ready : world.Ready)
    (treed : world.Treed) (distance radius : F)
    (near : EngineFloat.lessOrEqual distance radius = true) (ref index : Nat)
    (chased : phases ref = .chased index) :
    (machine E).Makes GameCall.observed [] (Stands (Function.update phases ref (.carried index)))
      world := by
  obtain ⟨own,ball,rep,found,here,same⟩ := stands.found ref (by simp [chased])
  rw [chased] at same
  obtain ⟨worker,owned⟩ := FetchPhase.unnamed_chased _ index same
  obtain ⟨target,reach⟩ := ready.reaches E treed rep distance radius near worker found owned
  refine .silent reach.step rfl (.now (stands.rewrite reach _ ?_))
  intro after rep'
  have attached := (rep'.inFetch ref _ (reach.there found)).attached
  rw [FetchPhase.of_attached (after ref) (.retriever worker)
    (by rw [← attached]; simp [ABall.attachTo,UStaticMeshComponent.attachToComponent])]
  rfl

theorem Stands.gives (E : Engine F) (stands : world.Stands phases) (ready : world.Ready)
    (treed : world.Treed) (distance radius : F)
    (near : EngineFloat.lessOrEqual distance radius = true) (ref index : Nat)
    (carried : phases ref = .carried index) :
    (machine E).Makes GameCall.observed [.deliver ref]
      (Stands (Function.update phases ref (.flying false))) world := by
  obtain ⟨own,ball,rep,found,here,same⟩ := stands.found ref (by simp [carried])
  rw [carried] at same
  obtain ⟨worker,owned⟩ := FetchPhase.unnamed_carried _ index same
  obtain ⟨target,give⟩ := ready.gives E treed rep distance radius near worker found owned
  refine .step give.step (.now (stands.rewrite give _ ?_))
  intro after rep'
  rw [(rep'.inFetch ref _ (give.there found)).flying rfl]
  rfl

end Moves

/-- A level in which everything that a fetch needs is set, and whose chests turn. -/
structure Stocked (world : World ℚ) : Prop where
  playable : world.Playable
  staffed : world.Staffed
  turns : world.chests.All fun chest => 0 < chest.openRotationSpeed

/-- A world that play can reach in such a level. -/
structure Offers (world : World ℚ) : Prop where
  ready : world.Ready
  staffed : world.Staffed
  treed : world.Treed
  chests : world.chests.All fun chest => (∃ phase, chest.InPhase phase) ∧ 0 < chest.openRotationSpeed

theorem Offers.kept {E : Engine ℚ} {world target : World ℚ} {event : Event ℚ} {calls : List GameCall}
    (offers : world.Offers) (step : (machine E).Step world event calls target) : target.Offers := by
  have effect := step_effect E world target event calls step
  refine ⟨offers.ready.kept step,effect_staffed E _ _ _ _ effect offers.staffed,
    effect_treed E _ _ _ _ effect offers.treed,?_⟩
  refine effect_chests E world target event calls effect ?_ offers.chests
  intro chest own made moved given taken
  obtain ⟨⟨phase,here⟩,turns⟩ := given
  obtain ⟨later,passes⟩ := AChest.step_passes E chest moved own made phase here taken
  refine ⟨⟨later,passes.inPhase here⟩,?_⟩
  rw [passes.sameSettings.speed]
  exact turns

theorem run_offers (E : Engine ℚ) {history : List (Machine.Moment (World ℚ) (Event ℚ) GameCall)}
    {world : World ℚ} (run : ((machine E).starting Stocked).Run history world) : world.Offers := by
  apply run.invariant
  · intro start begins
    obtain ⟨initial,stocked⟩ := begins
    refine ⟨⟨init_sound start initial stocked.playable.toWired,stocked.playable.hud⟩,stocked.staffed,?_,?_⟩
    · intro index retriever controler listed
      rw [initial.retrievers] at listed
      simp at listed
    · intro ref chest found
      exact ⟨⟨.idle,chest.init_inPhase (initial.chests ref chest found).1⟩,stocked.turns ref chest found⟩
  · intro source event calls target offers step
    exact offers.kept (E := E) step

/-- A chest is brought to drop the next ball. -/
theorem Stands.drops {E : Engine ℚ} (constant : E.ConstantStep) {world : World ℚ}
    {phases : Nat → FetchPhase} (stands : world.Stands phases) (offers : world.Offers)
    (has : world.HasChest) (ref : Nat) (absent : phases ref = .absent)
    (next : ∀ other < ref, phases other ≠ .absent) :
    (machine E).Makes GameCall.observed [.dropBall ref]
      (Stands (Function.update phases ref (.flying false))) world := by
  obtain ⟨own,rep,alike⟩ := stands
  have missing : ∀ other, phases other = .absent ↔ world.balls.fresh ≤ other := by
    intro other
    rw [← rep.absent_iff other]
    constructor
    · intro gone
      exact FetchPhase.unnamed_alone _ _ ((alike other).trans (by rw [gone])) rfl
    · intro gone
      exact FetchPhase.unnamed_alone _ _ ((alike other).symm.trans (by rw [gone])) rfl
  have number : ref = world.balls.fresh := by
    have above := (missing ref).mp absent
    by_contra different
    exact next world.balls.fresh (by omega) ((missing _).mpr le_rfl)
  subst number
  obtain ⟨index,present⟩ := has
  obtain ⟨chest,found⟩ := Option.isSome_iff_exists.mp present
  obtain ⟨⟨phase,here⟩,turns⟩ := offers.chests index chest found
  have stage : Stage world world index phase :=
    ⟨offers.ready,⟨rfl,rfl,rfl⟩,chest,found,here,turns⟩
  refine (stage.drops constant).mono ?_
  intro target dropped
  obtain ⟨ball,flying,balls⟩ := dropped.balls
  refine ⟨Function.update own world.balls.fresh (.flying false),?_,?_⟩
  · unfold World.Represents
    rw [balls,dropped.retrievers,dropped.hand]
    exact rep.join ball _ flying rfl
  · intro other
    by_cases same : other = world.balls.fresh
    · rw [same,Function.update_self,Function.update_self]
    · rw [Function.update_of_ne same,Function.update_of_ne same]
      exact alike other

/-- Every move that the fetch game offers is played by the code. -/
theorem Offers.makes {E : Engine ℚ} (constant : E.ConstantStep) {world : World ℚ}
    {phases : Nat → FetchPhase} (offers : world.Offers) (stands : world.Stands phases) {supplied : Prop}
    (has : supplied → world.HasChest) (move : FetchEvent) (phase : FetchPhase)
    (moved : move.move (phases move.ball) = some phase) (answered : move.Answered phases)
    (ordered : move.InOrder supplied phases) :
    (machine E).Makes GameCall.observed move.calls
      (Stands (Function.update phases move.ball phase)) world := by
  have near : EngineFloat.lessOrEqual (0 : ℚ) 0 = true := by decide
  cases move with
  | strand ball => exact answered.elim
  | land ball =>
    simp only [FetchEvent.Answered,FetchEvent.ball] at answered moved ⊢
    rw [answered] at moved
    cases Option.some.inj moved
    exact stands.lands E offers.ready ball answered
  | pickUp ball =>
    simp only [FetchEvent.ball] at moved ⊢
    have take : ∀ free : phases ball = .resting ∨ phases ball = .inHand,
        (machine E).Makes GameCall.observed [] (Stands (Function.update phases ball .inHand)) world := by
      intro free
      exact (stands.takes E offers.ready ball free).mono fun _ taken => taken.2.2
    cases here : phases ball with
    | resting | inHand =>
      rw [here] at moved
      cases Option.some.inj moved
      exact take (by simp [here])
    | absent | flying | chased | carried | stranded =>
      rw [here] at moved
      contradiction
  | throw ball =>
    simp only [FetchEvent.ball] at moved ⊢
    cases here : phases ball with
    | inHand =>
      rw [here] at moved
      cases Option.some.inj moved
      exact stands.throws E offers.ready ball here
    | absent | resting | flying | chased | carried | stranded =>
      rw [here] at moved
      contradiction
  | answer ball index =>
    simp only [FetchEvent.ball] at moved ⊢
    cases here : phases ball with
    | flying flown =>
      rw [here] at moved
      cases flown with
      | true =>
        cases Option.some.inj moved
        exact stands.answers E offers.ready offers.staffed ball index here
      | false => contradiction
    | absent | resting | inHand | chased | carried | stranded =>
      rw [here] at moved
      contradiction
  | reach ball =>
    simp only [FetchEvent.ball] at moved ⊢
    cases here : phases ball with
    | chased index =>
      rw [here] at moved
      cases Option.some.inj moved
      exact stands.reaches E offers.ready offers.treed 0 0 near ball index here
    | absent | resting | inHand | flying | carried | stranded =>
      rw [here] at moved
      contradiction
  | deliver ball =>
    simp only [FetchEvent.ball] at moved ⊢
    cases here : phases ball with
    | carried index =>
      rw [here] at moved
      cases Option.some.inj moved
      exact stands.gives E offers.ready offers.treed 0 0 near ball index here
    | absent | resting | inHand | flying | chased | stranded =>
      rw [here] at moved
      contradiction
  | drop ball =>
    simp only [FetchEvent.ball] at moved ⊢
    obtain ⟨stocked,next⟩ := ordered
    cases here : phases ball with
    | absent =>
      rw [here] at moved
      cases Option.some.inj moved
      exact stands.drops constant offers (has stocked) ball here next
    | resting | inHand | flying | chased | carried | stranded =>
      rw [here] at moved
      contradiction

/-- The code plays every game that the fetch game of the level allows. -/
def realises (E : Engine ℚ) (constant : E.ConstantStep) (supplied : Prop) :
    Machine.Realisation (fetchLevel supplied) (machine E) GameCall.observed where
  R phases world := (world.Offers ∧ (supplied → world.HasChest)) ∧ world.Stands phases
  step phases event calls target world related step := by
    obtain ⟨⟨offers,has⟩,stands⟩ := related
    obtain ⟨⟨answered,ordered⟩,phase,moved,rfl,rfl⟩ := step
    refine (offers.makes constant stands has event phase moved answered ordered).keeping
      (I := fun world => world.Offers ∧ (supplied → world.HasChest)) ⟨offers,has⟩ ?_
    intro source own made after given step
    have effect := step_effect E source after own made step
    exact ⟨given.1.kept step,fun stocked =>
      (effect_hasChest E source after own made effect).mpr (given.2 stocked)⟩

/-- From every world that a stocked level can reach, the throws, answers, deliveries and drops that can
still follow are, in every order and number, exactly those of the fetch game. -/
theorem fetch_traces (E : Engine ℚ) (constant : E.ConstantStep)
    (history : List (Machine.Moment (World ℚ) (Event ℚ) GameCall)) (world : World ℚ)
    (run : ((machine E).starting Stocked).Run history world) (phases : Nat → FetchPhase)
    (rep : world.Represents phases) :
    (machine E).traces GameCall.observed world = (fetchLevel world.HasChest).traces some phases := by
  have offers := run_offers E run
  have related : (levels E world.HasChest).R world phases := ⟨rep,offers.staffed,id⟩
  have realised : (realises E constant world.HasChest).R phases world :=
    ⟨⟨offers,id⟩,phases,rep,fun _ => rfl⟩
  apply Set.Subset.antisymm
  · rw [← Machine.traces_starting]
    exact (levels E world.HasChest).traces_subset related
  · exact (realises E constant world.HasChest).traces_subset realised

theorem chestLevel_stocked : chestLevel.Stocked := by
  refine ⟨chestLevel_playable,⟨rfl,?_,?_⟩,?_⟩
  · intro ref ball found
    contradiction
  · intro ref chest found
    rw [List.mem_singleton.mp (List.mem_of_getElem? found)]
    rfl
  · intro ref chest found
    rw [List.mem_singleton.mp (List.mem_of_getElem? found)]
    norm_num [AChest.new]

theorem fetch_traces_delivered :
    ((machine Engine.exact).starting Stocked).Run [] chestLevel ∧
      [.deliver 0,.spawnAI 0,.throw 0,.dropBall 0] ∈
        (machine Engine.exact).traces GameCall.observed chestLevel := by
  have start := Machine.Run.start (M := (machine Engine.exact).starting Stocked) chestLevel
    ⟨chestLevel_init,chestLevel_stocked⟩
  have law := fetch_traces Engine.exact Engine.exact_constantStep _ _ start chestLevel.startPhases
    (init_represents _ chestLevel_init)
  have begins : (fetchLevel chestLevel.HasChest).Path chestLevel.startPhases [] _ := .refl
  have dropped := Machine.Path.next _ _ (FetchEvent.drop 0) _ _ begins
    ⟨⟨trivial,⟨0,rfl⟩,by simp⟩,_,rfl,rfl,rfl⟩
  have landed := Machine.Path.next _ _ (FetchEvent.land 0) _ _ dropped ⟨⟨rfl,trivial⟩,_,rfl,rfl,rfl⟩
  have picked := Machine.Path.next _ _ (FetchEvent.pickUp 0) _ _ landed ⟨⟨trivial,trivial⟩,_,rfl,rfl,rfl⟩
  have thrown := Machine.Path.next _ _ (FetchEvent.throw 0) _ _ picked ⟨⟨trivial,trivial⟩,_,rfl,rfl,rfl⟩
  have answered := Machine.Path.next _ _ (FetchEvent.answer 0 0) _ _ thrown ⟨⟨trivial,trivial⟩,_,rfl,rfl,rfl⟩
  have reached := Machine.Path.next _ _ (FetchEvent.reach 0) _ _ answered ⟨⟨trivial,trivial⟩,_,rfl,rfl,rfl⟩
  have delivered := Machine.Path.next _ _ (FetchEvent.deliver 0) _ _ reached ⟨⟨trivial,trivial⟩,_,rfl,rfl,rfl⟩
  refine ⟨start,?_⟩
  rw [law]
  exact ⟨_,_,delivered,rfl,trivial⟩

end World

end RetrievingAI
