import RetrievingAI.BallScript
import RetrievingAI.Changes
import RetrievingAI.Retrievers
import RetrievingAI.Lib.Behaviour

/-! Every throw comes back. Balls that fly come down some time and retrievers get where they are going;
then a thrown ball is answered and delivered, whatever else goes on. -/
namespace RetrievingAI

variable {F : Type}

namespace World

/-- The ball is in the phase. -/
def Shows (ref : Nat) (phase : FetchPhase) (world : World F) : Prop :=
  ∃ phases, world.Represents phases ∧ phases ref = phase

/-- The retriever of a ball is on the trip that the ball's phase tells of. -/
theorem Represents.trip {world : World F} {phases : Nat → FetchPhase} (rep : world.Represents phases)
    (ref index : Nat) (worked : (phases ref).retriever = some index) :
    ∃ thrower, (phases ref = .chased index → world.trip index = .chasing ⟨ref,thrower⟩) ∧
      (phases ref = .carried index → world.trip index = .giving ⟨ref,thrower⟩) := by
  obtain ⟨ball,found⟩ := rep.present ref index worked
  obtain ⟨retriever,controler,listed,alive,fetches⟩ := rep.retrieved ref index ball worked found
  have state := fetches.state
  refine ⟨controler.throwerKey,?_,?_⟩
  · intro chased
    rw [chased] at state
    rw [World.trip,tripOf,listed,Option.elim_some]
    exact (retriever.trip_reached controler ref alive fetches.ballKey state).1
  · intro carried
    rw [carried] at state
    rw [World.trip,tripOf,listed,Option.elim_some]
    exact (retriever.trip_delivered controler ref alive fetches.ballKey state).1

variable [EngineFloat F]

omit [EngineFloat F] in
theorem Shows.thrown_ball {world : World F} {ref : Nat} {thrown : Bool}
    (seen : world.Shows ref (.flying thrown)) :
    ∃ ball, world.balls.read ref = some ball ∧ ball.bBallThrown = true := by
  obtain ⟨phases,rep,flies⟩ := seen
  cases found : world.balls.read ref with
  | none =>
    rw [rep.absent ref found] at flies
    contradiction
  | some ball =>
    have here := rep.inFetch ref ball found
    rw [flies] at here
    exact ⟨ball,rfl,here.thrown⟩

theorem BallChange.keepsFlying {world : World F} {ref : Nat} {ball after : ABall F} {event : Event F}
    {calls : List GameCall} (change : BallChange world ref ball event calls after)
    {phases : Nat → FetchPhase} (rep : world.Represents phases)
    (found : world.balls.read ref = some ball) (thrown : ball.bBallThrown = true)
    (unhit : ¬ event.Hits ref) : after.bBallThrown = true := by
  have here := rep.inFetch ref ball found
  obtain ⟨flown,flying⟩ := FetchPhase.flying_of_thrown _ (here.thrown.symm.trans thrown)
  rw [flying] at here
  cases change with
  | same => exact thrown
  | hint => simpa using thrown
  | take free => exact Bool.noConfusion (free.symm.trans here.blocked)
  | throw => rfl
  | land hits | answer hits => exact absurd hits unhit
  | reach index retriever controler listed alive named =>
    have worked := (Represents.owned rep ref index retriever controler listed alive named).1
    rw [flying] at worked
    contradiction
  | deliver => rfl

theorem effect_hit_lands (E : Engine F) (world target : World F) (event : Event F)
    (calls : List GameCall) (effect : Effect E world event target calls) (ref : Nat)
    (hits : event.Hits ref) (ball : ABall F) (found : world.balls.read ref = some ball) :
    ∃ after, target.balls.read ref = some after ∧ after.bBallThrown = false := by
  obtain ⟨spawned,rfl⟩ := hits
  cases effect with
  | hitNothing _ _ object read still => exact ⟨object,read,still⟩
  | land | answer | strand => exact ⟨_,Pool.read_write_self _ _ _ _ found,rfl⟩

section Staffed

variable {E : Engine F} {source target : World F} {event : Event F} {calls : List GameCall} {ref : Nat}

/-- A step leaves a ball in its phase and makes no call about it, or is a move of it. -/
theorem Shows.next {phase : FetchPhase} (seen : source.Shows ref phase) (staffed : source.Staffed)
    (step : (machine E).Step source event calls target) :
    ∃ after, target.Shows ref after ∧ (after = phase ∧ ballLog ref calls = [] ∨
      ∃ (move : FetchEvent) (phases : Nat → FetchPhase), move.ball = ref ∧ phases ref = phase ∧
        move.move phase = some after ∧ move.Answered phases ∧ ballLog ref calls = move.calls) := by
  obtain ⟨phases,rep,rfl⟩ := seen
  rcases effect_moves E source target event calls phases rep (step_effect E _ _ _ _ step) with
    ⟨kept,silent⟩ | ⟨move,after,moved,rep',made,explained⟩
  · refine ⟨phases ref,⟨phases,kept,rfl⟩,.inl ⟨rfl,?_⟩⟩
    rw [← ballLog_observed,silent]
    rfl
  · have log : ballLog ref calls = if move.ball = ref then move.calls else [] := by
      rw [← ballLog_observed,made,move.ballLog_calls]
    refine ⟨_,⟨_,rep',rfl⟩,?_⟩
    by_cases same : move.ball = ref
    · subst same
      rw [Function.update_self]
      exact .inr ⟨move,phases,rfl,rfl,moved,staffed.answered event phases move after moved explained,
        by simpa using log⟩
    · rw [Function.update_of_ne (Ne.symm same)]
      exact .inl ⟨rfl,by simpa [same] using log⟩

/-- A thrown ball flies until it hits something, and then a retriever is after it. -/
theorem Shows.flies (seen : source.Shows ref (.flying true)) (staffed : source.Staffed)
    (step : (machine E).Step source event calls target) :
    (event.Hits ref ∧ ballLog ref calls = [.spawnAI ref] ∧ ∃ index, target.Shows ref (.chased index)) ∨
    (¬ event.Hits ref ∧ ballLog ref calls = [] ∧ target.Shows ref (.flying true)) := by
  have effect := step_effect E source target event calls step
  obtain ⟨ball,found,thrown⟩ := seen.thrown_ball
  obtain ⟨after,there,came⟩ := seen.next staffed step
  have on : (after = .flying true ∧ ballLog ref calls = []) ∨
      ∃ index, after = .chased index ∧ ballLog ref calls = [.spawnAI ref] := by
    rcases came with still | ⟨move,phases,same,here,moved,answered,made⟩
    · exact .inl still
    · cases move with
      | answer other index =>
        change other = ref at same
        subst same
        cases Option.some.inj moved
        exact .inr ⟨index,rfl,made⟩
      | land other =>
        subst same
        rw [FetchEvent.ball,answered] at here
        contradiction
      | strand other => exact answered.elim
      | pickUp | throw | reach | deliver | drop => contradiction
  obtain ⟨later,rep',same⟩ := there
  by_cases hits : event.Hits ref
  · obtain ⟨landed,read,down⟩ := effect_hit_lands E source target event calls effect ref hits ball found
    rcases on with ⟨rfl,_⟩ | ⟨index,rfl,made⟩
    · have flown := (rep'.inFetch ref landed read).thrown
      rw [same,down] at flown
      contradiction
    · exact .inl ⟨hits,made,index,later,rep',same⟩
  · obtain ⟨phases,rep,_⟩ := seen
    obtain ⟨now,read,change⟩ := effect_ballChange E source target event calls effect ref ball found
    have flown := (rep'.inFetch ref now read).thrown
    rw [change.keepsFlying rep found thrown hits,same] at flown
    rcases on with ⟨rfl,quiet⟩ | ⟨index,rfl,_⟩
    · exact .inr ⟨hits,quiet,later,rep',same⟩
    · contradiction

/-- A chased ball is reached as soon as its retriever is near. -/
theorem Shows.chases {index : Nat} (seen : source.Shows ref (.chased index)) (staffed : source.Staffed)
    (step : (machine E).Step source event calls target) : ballLog ref calls = [] ∧
      target.Shows ref (if nearTask index event then .carried index else .chased index) := by
  obtain ⟨phases,rep,chased⟩ := seen
  obtain ⟨thrower,chasing,_⟩ := Represents.trip rep ref index (by rw [chased]; rfl)
  have before := chasing chased
  have onward := step_onward E source target event calls step index (by simp [before])
  obtain ⟨after,there,came⟩ := Shows.next ⟨phases,rep,chased⟩ staffed step
  have ended : ballLog ref calls = [] ∧ (after = .chased index ∨ after = .carried index) := by
    rcases came with ⟨same,quiet⟩ | ⟨move,_,ball,_,moved,_,made⟩
    · exact ⟨quiet,.inl same⟩
    · cases move with
      | reach other =>
        cases Option.some.inj moved
        exact ⟨made,.inr rfl⟩
      | pickUp | throw | land | answer | strand | deliver | drop => contradiction
  refine ⟨ended.1,?_⟩
  obtain ⟨later,rep',same⟩ := there
  have moves := effect_trip E _ _ _ _ (step_effect E _ _ _ _ step) index
  rcases ended.2 with rfl | rfl
  · obtain ⟨other,chasing,_⟩ := Represents.trip rep' ref index (by rw [same]; rfl)
    have now := chasing same
    have still : target.trip index = source.trip index := by
      rcases moves with still | ⟨own,_,moves⟩
      · exact still
      · rw [before,now] at moves
        cases moves
    rw [if_neg (by simpa using onward.mp still)]
    exact ⟨later,rep',same⟩
  · obtain ⟨other,_,giving⟩ := Represents.trip rep' ref index (by rw [same]; rfl)
    have now := giving same
    have moved : ¬ nearTask index event = false := by
      rw [← onward,before,now]
      exact Trip.noConfusion
    rw [if_pos (by simpa using moved)]
    exact ⟨later,rep',same⟩

/-- A carried ball is delivered as soon as its retriever is near. -/
theorem Shows.carries {index : Nat} (seen : source.Shows ref (.carried index)) (staffed : source.Staffed)
    (step : (machine E).Step source event calls target) :
    (nearTask index event = true ∧ .deliver ref ∈ calls) ∨
    (nearTask index event = false ∧ ballLog ref calls = [] ∧ target.Shows ref (.carried index)) := by
  have effect := step_effect E source target event calls step
  obtain ⟨phases,rep,carried⟩ := seen
  obtain ⟨thrower,_,giving⟩ := Represents.trip rep ref index (by rw [carried]; rfl)
  have before := giving carried
  have onward := step_onward E source target event calls step index (by simp [before])
  cases near : nearTask index event with
  | true =>
    refine .inl ⟨rfl,?_⟩
    rcases effect_trip E source target event calls effect index with still | ⟨own,_,moves⟩
    · simp [onward.mp still] at near
    · rw [before] at moves
      generalize target.trip index = now at moves
      cases moves with
      | deliver => exact List.mem_singleton_self _
  | false =>
    refine .inr ⟨rfl,?_⟩
    have still := onward.mpr near
    obtain ⟨after,there,⟨rfl,quiet⟩ | ⟨move,_,ball,_,moved,_,made⟩⟩ :=
      Shows.next ⟨phases,rep,carried⟩ staffed step
    · exact ⟨quiet,there⟩
    · cases move with
      | deliver other =>
        change other = ref at ball
        subst ball
        have called : .deliver other ∈ ballLog other calls := by
          rw [made]
          exact List.mem_singleton_self _
        have delivered := List.mem_of_mem_filter (List.mem_reverse.mp called)
        cases effect with
        | deliver place task distance retriever controler key old found alive state named =>
          cases List.mem_singleton.mp delivered
          have worked := (Represents.owned rep other place retriever controler found alive named).1
          rw [carried] at worked
          cases worked
          have gone := (retriever.trip_delivered controler other alive named state).2
          rw [World.trip,tripOf,Pool.read_write_self _ _ _ _ found,Option.elim_some,gone,before] at still
          contradiction
        | lookBall | lookChest | leaveBall | leaveChest | lookOn | pressNothing | pressBlocked | pickUp
        | pressChest | throwNothing | throw | stopIgnoring | hitNothing | land | answer | strand
        | chestTick | chestWait | chestDrop | chaseOn | reach | carryOn => simp at delivered
      | pickUp | throw | land | answer | strand | reach | drop => contradiction

theorem Shows.thrown (rep : ∃ phases, source.Represents phases) (staffed : source.Staffed)
    (step : (machine E).Step source event calls target) (made : .throw ref ∈ calls) :
    target.Shows ref (.flying true) := by
  obtain ⟨phases,rep⟩ := rep
  have called : .throw ref ∈ ballLog ref calls :=
    List.mem_reverse.mpr (List.mem_filter.mpr ⟨made,by simp [GameCall.ball]⟩)
  obtain ⟨after,there,⟨_,quiet⟩ | ⟨move,_,ball,_,moved,_,log⟩⟩ := Shows.next ⟨phases,rep,rfl⟩ staffed step
  · rw [quiet] at called
    contradiction
  · rw [log] at called
    cases move with
    | throw other =>
      generalize phases ref = phase at moved
      cases phase with
      | inHand =>
        cases Option.some.inj moved
        exact there
      | absent | resting | flying | chased | carried | stranded => contradiction
    | pickUp | land | reach => contradiction
    | answer | strand | deliver | drop => cases List.mem_singleton.mp called

end Staffed

/-- What flies comes down some time, and a retriever on its way gets there some time. -/
structure Fair {E : Engine F} (B : (machine E).Behaviour) : Prop where
  lands : ∀ n ref ball, (B.state n).balls.read ref = some ball → ball.bBallThrown = true →
    ∃ later ≥ n, (B.moment later).event.Hits ref
  arrives : ∀ n index errand,
    (B.state n).trip index = .chasing errand ∨ (B.state n).trip index = .giving errand →
    ∃ later ≥ n, nearTask index (B.moment later).event = true

namespace Fair

variable {E : Engine F} {B : (machine E).Behaviour} {ref n : Nat}

theorem lands_shown (fair : Fair B) (seen : (B.state n).Shows ref (.flying true)) :
    ∃ later ≥ n, (B.moment later).event.Hits ref := by
  obtain ⟨ball,found,thrown⟩ := seen.thrown_ball
  exact fair.lands n ref ball found thrown

theorem reaches_shown (fair : Fair B) {index : Nat} (seen : (B.state n).Shows ref (.chased index)) :
    ∃ later ≥ n, nearTask index (B.moment later).event = true := by
  obtain ⟨phases,rep,chased⟩ := seen
  obtain ⟨thrower,chasing,_⟩ := Represents.trip rep ref index (by rw [chased]; rfl)
  exact fair.arrives n index _ (.inl (chasing chased))

theorem gives_shown (fair : Fair B) {index : Nat} (seen : (B.state n).Shows ref (.carried index)) :
    ∃ later ≥ n, nearTask index (B.moment later).event = true := by
  obtain ⟨phases,rep,carried⟩ := seen
  obtain ⟨thrower,_,giving⟩ := Represents.trip rep ref index (by rw [carried]; rfl)
  exact fair.arrives n index _ (.inr (giving carried))

end Fair

/-- No ball flies and no retriever is on its way. -/
structure AtRest (world : World F) : Prop where
  balls : world.balls.All fun ball => ball.bBallThrown = false
  retrievers : ∀ index errand, world.trip index ≠ .chasing errand ∧ world.trip index ≠ .giving errand

/-- Fairness is asked of games that stay in motion only. -/
theorem fair_of_atRest (E : Engine F) (B : (machine E).Behaviour)
    (begins : (machine E).Init (B.state 0)) (last : Nat)
    (rests : ∀ n ≥ last, (B.state n).AtRest) : Fair B := by
  constructor
  · intro n ref ball found thrown
    by_contra never
    have flies : ∀ later ≥ n, ∃ ball, (B.state later).balls.read ref = some ball ∧
        ball.bBallThrown = true := by
      intro later after
      induction later,after using Nat.le_induction with
      | base => exact ⟨ball,found,thrown⟩
      | succ later after ih =>
        obtain ⟨ball,found,thrown⟩ := ih
        obtain ⟨history,path⟩ := B.path later
        obtain ⟨phases,rep⟩ := run_represents E ((Machine.Run.start _ begins).extend path)
        have effect := step_effect E _ _ _ _ (B.step_state later)
        obtain ⟨moved,read,change⟩ := effect_ballChange E _ _ _ _ effect ref ball found
        exact ⟨moved,read,change.keepsFlying rep found thrown fun hits => never ⟨later,after,hits⟩⟩
    obtain ⟨aloft,read,flying⟩ := flies (max n last) (le_max_left _ _)
    have down := (rests (max n last) (le_max_right _ _)).balls ref aloft read
    simp [flying] at down
  · intro n index errand way
    by_contra never
    have stays : ∀ later ≥ n, (B.state later).trip index = .chasing errand ∨
        (B.state later).trip index = .giving errand := by
      intro later after
      induction later,after using Nat.le_induction with
      | base => exact way
      | succ later after ih =>
        have far : nearTask index (B.moment later).event = false := by
          simpa using fun near => never ⟨later,after,near⟩
        have born : (B.state later).trip index ≠ .unborn := by
          rcases ih with chasing | giving <;> simp [*]
        rw [(step_onward E _ _ _ _ (B.step_state later) index born).mpr far]
        exact ih
    have still := (rests (max n last) (le_max_right _ _)).retrievers index errand
    rcases stays (max n last) (le_max_left _ _) with chasing | giving
    · exact still.1 chasing
    · exact still.2 giving

/-- Under a fair engine every throw of a staffed game is answered by one `SpawnAI` and then delivered.
Until the delivery the ball is not thrown, answered or dropped otherwise, however the game goes on. -/
theorem throws_delivered (E : Engine F) (B : (machine E).Behaviour)
    (begins : ((machine E).starting Staffed).Init (B.state 0)) (fair : Fair B) (n ref : Nat)
    (thrown : .throw ref ∈ (B.moment n).calls) :
    ∃ answered delivered, n < answered ∧ answered < delivered ∧
      ballLog ref (B.moment answered).calls = [.spawnAI ref] ∧
      .deliver ref ∈ (B.moment delivered).calls ∧
      ∀ between, n < between → between < delivered → between ≠ answered →
        ballLog ref (B.moment between).calls = [] := by
  have staffed : ∀ n, (B.state n).Staffed := by
    intro n
    obtain ⟨history,path⟩ := B.path n
    apply path.invariant begins.2
    intro source event calls target staffed step
    exact effect_staffed E source target event calls (step_effect E _ _ _ _ step) staffed
  have represented : ∃ phases, (B.state n).Represents phases := by
    obtain ⟨history,path⟩ := B.path n
    exact run_represents E ((Machine.Run.start _ begins.1).extend path)
  have flying := Shows.thrown represented (staffed n) (B.step_state n) thrown
  obtain ⟨answered,after,hits,aloft,flew⟩ := B.waits (P := Shows ref (.flying true))
    (H := fun moment => moment.event.Hits ref) (fun n seen unhit => by
      rcases seen.flies (staffed n) (B.step_state n) with ⟨hits,_⟩ | ⟨_,_,still⟩
      · exact absurd hits unhit
      · exact still)
    (fun n seen => fair.lands_shown seen) (n + 1) flying
  obtain ⟨called,index,chased⟩ : ballLog ref (B.moment answered).calls = [.spawnAI ref] ∧
      ∃ index, (B.state (answered + 1)).Shows ref (.chased index) := by
    rcases aloft.flies (staffed answered) (B.step_state answered) with ⟨_,called⟩ | ⟨unhit,_⟩
    · exact called
    · exact absurd hits unhit
  obtain ⟨reached,past,near,chasing,chases⟩ := B.waits (P := Shows ref (.chased index))
    (H := fun moment => nearTask index moment.event = true) (fun n seen far => by
      have still := (seen.chases (staffed n) (B.step_state n)).2
      rwa [if_neg far] at still)
    (fun n seen => fair.reaches_shown seen) (answered + 1) chased
  have carried := (chasing.chases (staffed reached) (B.step_state reached)).2
  rw [if_pos near] at carried
  obtain ⟨delivered,beyond,there,giving,gives⟩ := B.waits (P := Shows ref (.carried index))
    (H := fun moment => nearTask index moment.event = true) (fun n seen far => by
      rcases seen.carries (staffed n) (B.step_state n) with ⟨near,_⟩ | ⟨_,_,still⟩
      · exact absurd near far
      · exact still)
    (fun n seen => fair.gives_shown seen) (reached + 1) carried
  refine ⟨answered,delivered,after,by omega,called,?_,?_⟩
  · rcases giving.carries (staffed delivered) (B.step_state delivered) with ⟨_,made⟩ | ⟨far,_⟩
    · exact made
    · simp [far] at there
  · intro between above below other
    by_cases up : between < answered
    · obtain ⟨seen,unhit⟩ := flew between above up
      rcases seen.flies (staffed between) (B.step_state between) with ⟨hits,_⟩ | ⟨_,quiet,_⟩
      · exact absurd hits unhit
      · exact quiet
    by_cases away : between ≤ reached
    · have seen : (B.state between).Shows ref (.chased index) := by
        rcases Nat.lt_or_eq_of_le away with early | rfl
        · exact (chases between (by omega) early).1
        · exact chasing
      exact (seen.chases (staffed between) (B.step_state between)).1
    · obtain ⟨seen,far⟩ := gives between (by omega) below
      rcases seen.carries (staffed between) (B.step_state between) with ⟨near,_⟩ | ⟨_,quiet,_⟩
      · exact absurd near far
      · exact quiet

theorem throws_delivered_fetched : ∃ B : (machine Engine.exact).Behaviour, Fair B ∧
    ∃ answered delivered, 2 < answered ∧ answered < delivered ∧
      ballLog 0 (B.moment answered).calls = [.spawnAI 0] ∧
      .deliver 0 ∈ (B.moment delivered).calls ∧
      ∀ between, 2 < between → between < delivered → between ≠ answered →
        ballLog 0 (B.moment between).calls = [] := by
  have start : (machine Engine.exact).Path (ballLevel 1) [] (ballLevel 1) := .refl
  have aimed := Machine.Path.next _ _ (.tick (.tracing (.hitInteractable (.ball 0)))) _ _ start ⟨rfl,rfl⟩
  have picked := Machine.Path.next _ _ .interactButtonPressed _ _ aimed ⟨rfl,rfl⟩
  have thrown := Machine.Path.next _ _ (.throwButtonPressed .zeroVector) _ _ picked ⟨rfl,rfl⟩
  have landed := Machine.Path.next _ _ (.onComponentHit 0 true) _ _ thrown ⟨rfl,rfl⟩
  have reached := Machine.Path.next _ _ (.chaseBall 0 .new 0) _ _ landed ⟨rfl,rfl⟩
  have delivered := Machine.Path.next _ _ (.giveBallToPlayer 0 .new 0) _ _ reached ⟨rfl,rfl⟩
  have fallen := Machine.Path.next _ _ (.onComponentHit 0 true) _ _ delivered ⟨rfl,rfl⟩
  have begins : ((machine Engine.exact).starting Staffed).Init (ballLevel 1) :=
    ⟨(ballLevel_init 1).1,(ballLevel_init 1).2.toStaffed⟩
  let B := fallen.behaviour (.throwButtonPressed .zeroVector) ⟨rfl,rfl⟩
  have fair : Fair B := by
    refine fair_of_atRest Engine.exact B begins.1 7 ?_
    intro n late
    have rest : B.state n = _ := fallen.behaviour_state _ _ n late
    rw [rest]
    constructor
    · intro ref ball found
      cases ref with
      | zero =>
        cases found
        rfl
      | succ ref => contradiction
    · intro index errand
      cases index with
      | zero => exact ⟨Trip.noConfusion,Trip.noConfusion⟩
      | succ index => exact ⟨Trip.noConfusion,Trip.noConfusion⟩
  exact ⟨B,fair,throws_delivered Engine.exact B begins fair 2 0 (List.mem_singleton_self _)⟩

end World

end RetrievingAI
