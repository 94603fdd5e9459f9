import RetrievingAI.Effect
import RetrievingAI.Lib.Component

/-! The life of a retriever. It is spawned for one ball, reaches that ball once, gives it back once and
is gone; one that was spawned without a tree never does anything. -/
namespace RetrievingAI
open Fallible

/-- The ball to fetch, and who gets it. -/
structure Errand where
  ball : Nat
  thrower : Option PlayerRef
  deriving DecidableEq,Repr

inductive Trip
  | unborn
  | idle
  | chasing (errand : Errand)
  | giving (errand : Errand)
  | gone (errand : Errand)
  deriving DecidableEq,Repr

inductive TripEvent
  | hit (ball : Nat)
  | chaseBall
  | giveBallToPlayer
  deriving DecidableEq,Repr

namespace Trip

inductive Step : Trip → TripEvent → List GameCall → Trip → Prop
  | start (errand) : Step .unborn (.hit errand.ball) [.spawnAI errand.ball] (.chasing errand)
  | strand (ball) : Step .unborn (.hit ball) [.spawnAI ball] .idle
  | reach (errand) : Step (.chasing errand) .chaseBall [] (.giving errand)
  | deliver (errand) : Step (.giving errand) .giveBallToPlayer [.deliver errand.ball] (.gone errand)

/-- Where the trip is after so many tasks within the radius. -/
def after (errand : Errand) : Nat → Trip
  | 0 => .chasing errand
  | 1 => .giving errand
  | _ => .gone errand

theorem after_ne_unborn (errand : Errand) (n : Nat) : after errand n ≠ .unborn := by
  unfold after
  split <;> exact Trip.noConfusion

theorem Step.hit {before later : Trip} {ball : Nat} {calls : List GameCall}
    (step : Step before (.hit ball) calls later) : before = .unborn := by
  cases step with
  | start | strand => rfl

theorem Step.after {errand : Errand} {n : Nat} {own : TripEvent} {calls : List GameCall} {later : Trip}
    (step : Step (after errand n) own calls later) :
    n < 2 ∧ later = Trip.after errand (n + 1) ∧ (n = 1 → .deliver errand.ball ∈ calls) := by
  match n with
  | 0 =>
    cases step with
    | reach => exact ⟨Nat.zero_lt_two,rfl,Nat.noConfusion⟩
  | 1 =>
    cases step with
    | deliver => exact ⟨Nat.one_lt_two,rfl,fun _ => List.mem_cons_self⟩
  | n + 2 => cases step

def machine : Machine Trip TripEvent GameCall := ⟨(· = .unborn),Step⟩

/-- All that a retriever has done so far, the most recent first. -/
def Lived : Trip → List (TripEvent × List GameCall) → Prop
  | .unborn,labels => labels = []
  | .idle,labels => ∃ ball, labels = [(.hit ball,[.spawnAI ball])]
  | .chasing errand,labels => labels = [(.hit errand.ball,[.spawnAI errand.ball])]
  | .giving errand,labels => labels = [(.chaseBall,[]),(.hit errand.ball,[.spawnAI errand.ball])]
  | .gone errand,labels => labels =
    [(.giveBallToPlayer,[.deliver errand.ball]),(.chaseBall,[]),(.hit errand.ball,[.spawnAI errand.ball])]

theorem path_lived {history : List (Machine.Moment Trip TripEvent GameCall)} {trip : Trip}
    (path : machine.Path .unborn history trip) : trip.Lived (history.map (·.label)) := by
  induction path with
  | refl => rfl
  | next history source event calls target before step ih =>
    cases step with
    | start errand => exact congrArg (List.cons (.hit errand.ball,[.spawnAI errand.ball])) ih
    | strand ball =>
      refine ⟨ball,?_⟩
      exact congrArg (List.cons (TripEvent.hit ball,[GameCall.spawnAI ball])) ih
    | reach errand => exact congrArg (List.cons (.chaseBall,[])) ih
    | deliver errand => exact congrArg (List.cons (.giveBallToPlayer,[.deliver errand.ball])) ih

end Trip

namespace AAICharacterControler

def trip (controler : AAICharacterControler) : Trip :=
  match controler.ballKey with
  | none => .idle
  | some ball =>
    if controler.bActorIsBeingDestroyed then .gone ⟨ball,controler.throwerKey⟩
    else if controler.aiState = some EAIState.easGiveBallToPlayer.toUInt8 then
      .giving ⟨ball,controler.throwerKey⟩
    else .chasing ⟨ball,controler.throwerKey⟩

theorem trip_chasing (controler : AAICharacterControler) (key : Nat) (named : controler.ballKey = some key)
    (alive : controler.bActorIsBeingDestroyed = false)
    (state : controler.aiState = some EAIState.easChaseBall.toUInt8) :
    controler.trip = .chasing ⟨key,controler.throwerKey⟩ := by
  simp [trip,named,alive,state,EAIState.toUInt8]

theorem trip_giving (controler : AAICharacterControler) (key : Nat) (named : controler.ballKey = some key)
    (alive : controler.bActorIsBeingDestroyed = false)
    (state : controler.aiState = some EAIState.easGiveBallToPlayer.toUInt8) :
    controler.trip = .giving ⟨key,controler.throwerKey⟩ := by
  simp [trip,named,alive,state]

theorem trip_gone (controler : AAICharacterControler) (key : Nat) (named : controler.ballKey = some key)
    (gone : controler.bActorIsBeingDestroyed = true) :
    controler.trip = .gone ⟨key,controler.throwerKey⟩ := by
  simp [trip,named,gone]

end AAICharacterControler

namespace AAICharacter

def trip (retriever : AAICharacter) : Trip := retriever.controler.elim .idle (·.trip)

theorem trip_ne_unborn (retriever : AAICharacter) : retriever.trip ≠ .unborn := by
  unfold trip
  cases retriever.controler with
  | none => exact Trip.noConfusion
  | some controler =>
    simp only [Option.elim_some,AAICharacterControler.trip]
    split
    · exact Trip.noConfusion
    · split
      · exact Trip.noConfusion
      · split <;> exact Trip.noConfusion

theorem trip_live (retriever : AAICharacter) (controler : AAICharacterControler)
    (alive : retriever.live = some controler) : retriever.trip = controler.trip := by
  rw [trip,(retriever.live_controler controler alive).1]
  rfl

/-- The retriever that a `SpawnAI` with a tree leaves. -/
theorem trip_started {character retriever : AAICharacter} {tree : UBehaviorTree}
    (spawned : character.Spawned (some tree)) (ref : Nat) (thrower : Option PlayerRef)
    (ready : character.setAICValues (some ref) (some tree) thrower = .ok retriever) :
    retriever.trip = .chasing ⟨ref,thrower⟩ := by
  obtain ⟨controler,alive,started⟩ := spawned.initialized ref thrower ready
  rw [retriever.trip_live controler alive,controler.trip_chasing ref started.ballKey
    (retriever.live_controler controler alive).2 started.state,started.throwerKey]

theorem trip_unled {character : AAICharacter} (spawned : character.Spawned none) :
    character.trip = .idle := by
  obtain ⟨controler,possessing⟩ := Option.isSome_iff_exists.mp spawned.controler
  simp [trip,possessing,AAICharacterControler.trip,AAICharacterControler.ballKey,
    spawned.blank rfl controler possessing]

theorem trip_reached (retriever : AAICharacter) (controler : AAICharacterControler) (key : Nat)
    (alive : retriever.live = some controler) (named : controler.ballKey = some key)
    (state : controler.aiState = some EAIState.easChaseBall.toUInt8) :
    retriever.trip = .chasing ⟨key,controler.throwerKey⟩ ∧
    ({retriever with controler := some (controler.inState .easGiveBallToPlayer)} : AAICharacter).trip =
      .giving ⟨key,controler.throwerKey⟩ := by
  have young := (retriever.live_controler controler alive).2
  have board : controler.blackboard.isSome = true := by
    cases missing : controler.blackboard with
    | some board => rfl
    | none => simp [AAICharacterControler.aiState,missing] at state
  have gives := (controler.inState .easGiveBallToPlayer).trip_giving key
    ((controler.ballKey_inState _).trans named) young (controler.aiState_inState _ board)
  rw [controler.throwerKey_inState] at gives
  rw [retriever.trip_live controler alive,controler.trip_chasing key named young state]
  exact ⟨rfl,gives⟩

theorem trip_delivered (retriever : AAICharacter) (controler : AAICharacterControler) (key : Nat)
    (alive : retriever.live = some controler) (named : controler.ballKey = some key)
    (state : controler.aiState = some EAIState.easGiveBallToPlayer.toUInt8) :
    retriever.trip = .giving ⟨key,controler.throwerKey⟩ ∧
    ({retriever.destroy with controler := some (controler.inState .easDefault).destroy} : AAICharacter).trip =
      .gone ⟨key,controler.throwerKey⟩ := by
  have young := (retriever.live_controler controler alive).2
  have gone := (controler.inState .easDefault).destroy.trip_gone key
    ((controler.ballKey_inState .easDefault).trans named) rfl
  have kept : (controler.inState .easDefault).destroy.throwerKey = controler.throwerKey :=
    controler.throwerKey_inState .easDefault
  rw [kept] at gone
  rw [retriever.trip_live controler alive,controler.trip_giving key named young state]
  exact ⟨rfl,gone⟩

end AAICharacter

/-- How far the retriever of an index is. -/
def tripOf (retrievers : Pool AAICharacter) (index : Nat) : Trip :=
  (retrievers.read index).elim .unborn (·.trip)

theorem tripOf_unborn_iff (retrievers : Pool AAICharacter) (index : Nat) :
    tripOf retrievers index = .unborn ↔ retrievers.fresh ≤ index := by
  rw [← Pool.read_eq_none_iff,tripOf]
  cases retrievers.read index with
  | none => exact iff_of_true rfl rfl
  | some retriever => exact iff_of_false retriever.trip_ne_unborn (Option.some_ne_none retriever)

theorem tripOf_spawn (retrievers : Pool AAICharacter) (retriever : AAICharacter) (index : Nat) :
    (retrievers.fresh = index ∧ tripOf retrievers index = .unborn ∧
      tripOf (retrievers.spawn retriever) index = retriever.trip) ∨
    tripOf (retrievers.spawn retriever) index = tripOf retrievers index := by
  by_cases born : retrievers.fresh = index
  · subst born
    exact Or.inl ⟨rfl,by simp [tripOf],by simp [tripOf]⟩
  · refine Or.inr ?_
    rw [tripOf,Pool.read_spawn,if_neg (Ne.symm born)]
    rfl

theorem tripOf_write (retrievers : Pool AAICharacter) (other index : Nat) (old retriever : AAICharacter)
    (found : retrievers.read other = some old) :
    (other = index ∧ tripOf retrievers index = old.trip ∧
      tripOf (retrievers.write other retriever) index = retriever.trip) ∨
    tripOf (retrievers.write other retriever) index = tripOf retrievers index := by
  by_cases same : other = index
  · subst same
    exact Or.inl ⟨rfl,by simp [tripOf,found],by simp [tripOf,Pool.read_write_self _ _ _ _ found]⟩
  · refine Or.inr ?_
    rw [tripOf,Pool.read_write_of_ne _ _ _ _ same]
    rfl

variable {F : Type}

def Event.tripEvent (index : Nat) : Event F → Option TripEvent
  | .onComponentHit ball _ => some (.hit ball)
  | .chaseBall other _ _ => if other = index then some .chaseBall else none
  | .giveBallToPlayer other _ _ => if other = index then some .giveBallToPlayer else none
  | _ => none

def GameCall.isSpawnAI : GameCall → Bool
  | .spawnAI _ => true
  | _ => false

namespace World

def trip (world : World F) (index : Nat) : Trip := tripOf world.retrievers index

/-- The moment of a retriever inside a moment of the game: one that changes how far it is. -/
def tripMoment (index : Nat) (moment : Machine.Moment (World F) (Event F) GameCall) :
    Option (Machine.Moment Trip TripEvent GameCall) :=
  if moment.target.trip index = moment.source.trip index then none
  else (moment.event.tripEvent index).map fun event =>
    ⟨moment.source.trip index,event,moment.calls,moment.target.trip index⟩

variable [EngineFloat F]

/-- An event leaves a retriever as far as it is, or takes it one step on. -/
theorem effect_trip (E : Engine F) (world target : World F) (event : Event F) (calls : List GameCall)
    (effect : Effect E world event target calls) (index : Nat) :
    target.trip index = world.trip index ∨ ∃ own, event.tripEvent index = some own ∧
      Trip.Step (world.trip index) own calls (target.trip index) := by
  cases effect with
  | lookBall | lookChest | leaveBall | leaveChest | lookOn | pressNothing | pressBlocked | pickUp
  | pressChest | throwNothing | throw | stopIgnoring | hitNothing | land | chestTick | chestWait
  | chestDrop | chaseOn | carryOn => exact Or.inl rfl
  | answer ref ball thrower tree retriever found thrown by_ class_ runs ready =>
    rcases tripOf_spawn world.retrievers retriever index with ⟨_,before,after⟩ | still
    · refine Or.inr ⟨.hit ref,rfl,?_⟩
      rw [trip,trip,before,after,AAICharacter.trip_started (E.spawned _) ref (some thrower) ready]
      exact .start ⟨ref,some thrower⟩
    · exact Or.inl still
  | strand ref ball thrower found thrown by_ class_ =>
    rcases tripOf_spawn world.retrievers (E.spawnAIFromClass
      ⟨ball.aiCharacterClass.get class_,none,ball.aiSpawnVector,thrower⟩) index with ⟨_,before,after⟩ | still
    · refine Or.inr ⟨.hit ref,rfl,?_⟩
      rw [trip,trip,before,after,AAICharacter.trip_unled (E.spawned _)]
      exact .strand ref
    · exact Or.inl still
  | reach other task distance retriever controler key ball found alive state named there =>
    obtain ⟨chases,gives⟩ := retriever.trip_reached controler key alive named state
    rcases tripOf_write world.retrievers other index retriever
      {retriever with controler := some (controler.inState .easGiveBallToPlayer)} found with
      ⟨same,before,after⟩ | still
    · refine Or.inr ⟨.chaseBall,if_pos same,?_⟩
      rw [trip,trip,before,after,chases,gives]
      exact .reach ⟨key,controler.throwerKey⟩
    · exact Or.inl still
  | deliver other task distance retriever controler key ball found alive state named there =>
    obtain ⟨gives,gone⟩ := retriever.trip_delivered controler key alive named state
    rcases tripOf_write world.retrievers other index retriever
      {retriever.destroy with controler := some (controler.inState .easDefault).destroy} found with
      ⟨same,before,after⟩ | still
    · refine Or.inr ⟨.giveBallToPlayer,if_pos same,?_⟩
      rw [trip,trip,before,after,gives,gone]
      exact .deliver ⟨key,controler.throwerKey⟩
    · exact Or.inl still

/-- A retriever of the game, or the place of one to come, as a component of it. -/
def retrieverComponent (E : Engine F) (index : Nat) : Machine.Component (machine E) Trip.machine where
  part world := some (world.trip index)
  own := tripMoment index
  still moment trip step here unseen := by
    by_cases same : moment.target.trip index = moment.source.trip index
    · rw [same]
      exact here
    · rcases effect_trip E _ _ _ _ (step_effect E _ _ _ _ step) index with still | ⟨own,told,_⟩
      · exact absurd still same
      · rw [tripMoment,if_neg same,told] at unseen
        contradiction
  moves moment trip taken step here seen := by
    cases here
    by_cases same : moment.target.trip index = moment.source.trip index
    · rw [tripMoment,if_pos same] at seen
      contradiction
    · rcases effect_trip E _ _ _ _ (step_effect E _ _ _ _ step) index with still | ⟨own,told,moves⟩
      · exact absurd still same
      · rw [tripMoment,if_neg same,told] at seen
        cases seen
        exact ⟨rfl,moves,rfl⟩

/-- A retriever is spawned for every `SpawnAI`, and by nothing else. -/
theorem effect_fresh (E : Engine F) (world target : World F) (event : Event F) (calls : List GameCall)
    (effect : Effect E world event target calls) :
    target.retrievers.fresh = world.retrievers.fresh + calls.countP GameCall.isSpawnAI := by
  cases effect with
  | answer | strand => exact Pool.fresh_spawn _ _
  | reach | deliver => exact Pool.fresh_write _ _ _
  | lookBall | lookChest | leaveBall | leaveChest | lookOn | pressNothing | pressBlocked | pickUp
  | pressChest | throwNothing | throw | stopIgnoring | hitNothing | land | chestTick | chestWait
  | chestDrop | chaseOn | carryOn => rfl

/-- Every delivery is the end of one retriever's errand. -/
theorem effect_deliver (E : Engine F) (world target : World F) (event : Event F) (calls : List GameCall)
    (effect : Effect E world event target calls) (ball : Nat) (made : .deliver ball ∈ calls) :
    ∃ index errand, errand.ball = ball ∧ tripMoment index ⟨world,event,calls,target⟩ =
      some ⟨.giving errand,.giveBallToPlayer,calls,.gone errand⟩ := by
  cases effect with
  | deliver index task distance retriever controler key old found alive state named there =>
    cases List.mem_singleton.mp made
    obtain ⟨gives,gone⟩ := retriever.trip_delivered controler ball alive named state
    have before : tripOf world.retrievers index = .giving ⟨ball,controler.throwerKey⟩ := by
      rw [tripOf,found]
      exact gives
    have after : tripOf (world.retrievers.write index
        {retriever.destroy with controler := some (controler.inState .easDefault).destroy}) index =
        .gone ⟨ball,controler.throwerKey⟩ := by
      rw [tripOf,Pool.read_write_self _ _ _ _ found]
      exact gone
    refine ⟨index,⟨ball,controler.throwerKey⟩,rfl,?_⟩
    rw [tripMoment,trip,trip,before,after,if_neg (by simp)]
    simp [Event.tripEvent]
  | answer | strand | reach | lookBall | lookChest | leaveBall | leaveChest | lookOn | pressNothing
  | pressBlocked | pickUp | pressChest | throwNothing | throw | stopIgnoring | hitNothing | land
  | chestTick | chestWait | chestDrop | chaseOn | carryOn => simp at made

/-- A task is run within its acceptance radius. -/
def nearTask (index : Nat) : Event F → Bool
  | .chaseBall other task distance =>
    other == index && EngineFloat.lessOrEqual distance task.acceptanceRadius
  | .giveBallToPlayer other task distance =>
    other == index && EngineFloat.lessOrEqual distance task.acceptanceRadius
  | _ => false

theorem chase_trip (E : Engine F) (world target : World F) (index : Nat) (task : UBTTaskChaseBall F)
    (distance : F) (calls : List GameCall)
    (step : (machine E).Step world (.chaseBall index task distance) calls target) :
    target.trip index = world.trip index ↔
      EngineFloat.lessOrEqual distance task.acceptanceRadius = false := by
  obtain ⟨runs,ok⟩ := step
  obtain ⟨⟨moved,result⟩,taken,same⟩ := bind_ok _ _ _ ok
  cases same
  obtain ⟨retriever,controler,found,alive,state⟩ := runsTask_cases world index _ runs
  obtain ⟨there,read,ok⟩ := bind_ok _ _ _ taken
  rw [deref_ok,found] at read
  cases read
  rw [(retriever.live_controler controler alive).1] at ok
  obtain ⟨board,blackboard,ok⟩ := bind_ok _ _ _ ok
  obtain ⟨key,named,ok⟩ := bind_ok _ _ _ ok
  obtain ⟨ball,there,ok⟩ := bind_ok _ _ _ ok
  rw [deref_ok] at blackboard named
  split at ok
  next near =>
    obtain ⟨given,set,same⟩ := bind_ok _ _ _ ok
    cases same
    rw [AAICharacterControler.setState_ok _ _ _ set]
    have key : controler.ballKey = some key := by simp [AAICharacterControler.ballKey,blackboard,named]
    obtain ⟨chases,gives⟩ := retriever.trip_reached controler _ alive key state
    have before : world.trip index = retriever.trip := by rw [trip,tripOf,found]; rfl
    rw [before,chases,trip,tripOf,Pool.read_write_self _ _ _ _ found,Option.elim_some,gives,near]
    exact iff_of_false Trip.noConfusion Bool.noConfusion
  next far =>
    cases ok
    exact iff_of_true rfl (by simpa using far)

theorem give_trip (E : Engine F) (world target : World F) (index : Nat) (task : UBTTaskGIveBallToPlayer F)
    (distance : F) (calls : List GameCall)
    (step : (machine E).Step world (.giveBallToPlayer index task distance) calls target) :
    target.trip index = world.trip index ↔
      EngineFloat.lessOrEqual distance task.acceptanceRadius = false := by
  obtain ⟨runs,ok⟩ := step
  obtain ⟨⟨moved,result,made⟩,taken,same⟩ := bind_ok _ _ _ ok
  cases same
  obtain ⟨retriever,controler,found,alive,state⟩ := runsTask_cases world index _ runs
  obtain ⟨there,read,ok⟩ := bind_ok _ _ _ taken
  rw [deref_ok,found] at read
  cases read
  rw [(retriever.live_controler controler alive).1] at ok
  obtain ⟨board,blackboard,ok⟩ := bind_ok _ _ _ ok
  obtain ⟨thrower,_,ok⟩ := bind_ok _ _ _ ok
  rw [deref_ok] at blackboard
  split at ok
  next near =>
    obtain ⟨key,named,ok⟩ := bind_ok _ _ _ ok
    obtain ⟨ball,there,ok⟩ := bind_ok _ _ _ ok
    obtain ⟨dropped,launched,ok⟩ := bind_ok _ _ _ ok
    obtain ⟨given,set,same⟩ := bind_ok _ _ _ ok
    rw [deref_ok] at named
    cases same
    rw [AAICharacterControler.setState_ok _ _ _ set]
    have key : controler.ballKey = some key := by simp [AAICharacterControler.ballKey,blackboard,named]
    obtain ⟨gives,gone⟩ := retriever.trip_delivered controler _ alive key state
    have before : world.trip index = retriever.trip := by rw [trip,tripOf,found]; rfl
    rw [before,gives,trip,tripOf,Pool.read_write_self _ _ _ _ found,Option.elim_some,gone,near]
    exact iff_of_false Trip.noConfusion Bool.noConfusion
  next far =>
    cases ok
    exact iff_of_true rfl (by simpa using far)

/-- A retriever on its way goes one step on at every task within the radius, and at nothing else. -/
theorem step_onward (E : Engine F) (world target : World F) (event : Event F) (calls : List GameCall)
    (step : (machine E).Step world event calls target) (index : Nat)
    (born : world.trip index ≠ .unborn) :
    target.trip index = world.trip index ↔ nearTask index event = false := by
  have untouched : (∀ own, event.tripEvent index = some own → ∃ ball, own = .hit ball) →
      target.trip index = world.trip index := by
    intro onlyHit
    rcases effect_trip E _ _ _ _ (step_effect E _ _ _ _ step) index with still | ⟨own,told,moves⟩
    · exact still
    · obtain ⟨ball,rfl⟩ := onlyHit own told
      exact absurd moves.hit born
  cases event with
  | chaseBall other task distance =>
    by_cases same : other = index
    · subst same
      simpa [nearTask] using chase_trip E world target other task distance calls step
    · exact iff_of_true (untouched (by simp [Event.tripEvent,same])) (by simp [nearTask,same])
  | giveBallToPlayer other task distance =>
    by_cases same : other = index
    · subst same
      simpa [nearTask] using give_trip E world target other task distance calls step
    · exact iff_of_true (untouched (by simp [Event.tripEvent,same])) (by simp [nearTask,same])
  | onComponentHit ball spawned =>
    refine iff_of_true (untouched ?_) rfl
    intro own told
    exact ⟨ball,(Option.some.inj told).symm⟩
  | tick | interactButtonPressed | throwButtonPressed | stopIgnoringBallTimer | chestTick | chestTimer =>
    exact iff_of_true (untouched (by simp [Event.tripEvent])) rfl

/-- Nothing in the game keeps a retriever from its errand or hurries it: from the moment it chases, the
number of its tasks that were run within their radius, which is at most two, is exactly how far it is. -/
theorem errand_progress (E : Engine F) (start world : World F)
    (history : List (Machine.Moment (World F) (Event F) GameCall))
    (path : (machine E).Path start history world) (index : Nat) (errand : Errand)
    (chasing : start.trip index = .chasing errand) :
    (history.map (·.event)).countP (nearTask index) ≤ 2 ∧
    world.trip index = .after errand ((history.map (·.event)).countP (nearTask index)) ∧
    ((history.map (·.event)).countP (nearTask index) = 2 →
      .deliver errand.ball ∈ Machine.calls history) := by
  induction path with
  | refl => exact ⟨Nat.zero_le 2,chasing,fun two => absurd two (by simp)⟩
  | next history source event calls target before step ih =>
    obtain ⟨bounded,here,delivered⟩ := ih
    have born : source.trip index ≠ .unborn := by
      rw [here]
      exact Trip.after_ne_unborn errand _
    have onward := step_onward E source target event calls step index born
    rw [List.map_cons,Machine.calls_cons]
    cases near : nearTask index event with
    | false =>
      rw [List.countP_cons_of_neg (by simp [near]),onward.mpr near]
      refine ⟨bounded,here,?_⟩
      intro two
      exact List.mem_append_right _ (delivered two)
    | true =>
      have moved : target.trip index ≠ source.trip index := by simp [onward,near]
      rw [List.countP_cons_of_pos near]
      rcases effect_trip E _ _ _ _ (step_effect E _ _ _ _ step) index with still | ⟨own,_,moves⟩
      · exact absurd still moved
      · rw [here] at moves
        obtain ⟨before,later,made⟩ := moves.after
        refine ⟨before,later,?_⟩
        intro two
        exact List.mem_append_left _ (made (Nat.succ.inj two))

/-- A retriever that has just been sent for the only ball of a level. -/
def chasedLevel : World ℚ :=
  let board := UBlackboardComponent.new.setValueAsObject ballToRetrieveKeyName (some (.ball 0))
  let board := board.setValueAsObject ballThrowerKeyName (some (.player .player0))
  let board := board.setValueAsEnum aiStateKeyName EAIState.easChaseBall.toUInt8
  {ballLevel 1 with retrievers := Pool.empty.spawn ⟨some ⟨some 0,some board,some ⟨"BT_AI"⟩,false⟩,false⟩}

theorem errand_progress_far : ∃ history world, (machine Engine.exact).Path chasedLevel history world ∧
    history.map (·.event) = [.giveBallToPlayer 0 .new 1,.giveBallToPlayer 0 .new 101,.chaseBall 0 .new 100,
      .interactButtonPressed,.chaseBall 0 .new 300] ∧ world.trip 0 = .gone ⟨0,some .player0⟩ := by
  have start : (machine Engine.exact).Path chasedLevel [] chasedLevel := .refl
  have far := Machine.Path.next _ _ (.chaseBall 0 .new 300) _ _ start ⟨rfl,rfl⟩
  have pressed := Machine.Path.next _ _ .interactButtonPressed _ _ far ⟨rfl,rfl⟩
  have near := Machine.Path.next _ _ (.chaseBall 0 .new 100) _ _ pressed ⟨rfl,rfl⟩
  have outside := Machine.Path.next _ _ (.giveBallToPlayer 0 .new 101) _ _ near ⟨rfl,rfl⟩
  have given := Machine.Path.next _ _ (.giveBallToPlayer 0 .new 1) _ _ outside ⟨rfl,rfl⟩
  exact ⟨_,_,given,rfl,(errand_progress Engine.exact _ _ _ given 0 ⟨0,some .player0⟩ rfl).2.1⟩

theorem run_fresh (E : Engine F) {history : List (Machine.Moment (World F) (Event F) GameCall)}
    {world : World F} (run : (machine E).Run history world) :
    world.retrievers.fresh = (Machine.calls history).countP GameCall.isSpawnAI := by
  induction run with
  | start world begins =>
    rw [begins.retrievers]
    rfl
  | next history source event calls target run step ih =>
    rw [effect_fresh E _ _ _ _ (step_effect E _ _ _ _ step),ih,Machine.calls_cons,List.countP_append,
      Nat.add_comm]

/-- In every run each retriever makes one trip. The spawned ones are as many as the `SpawnAI` calls; each
has done exactly the beginning of its own trip that its blackboard tells of, from the `SpawnAI` of one
ball by way of reaching that ball to giving that ball back; and every delivery ends one of these trips. -/
theorem retriever_life (E : Engine F) (history : List (Machine.Moment (World F) (Event F) GameCall))
    (world : World F) (run : (machine E).Run history world) :
    world.retrievers.fresh = (Machine.calls history).countP GameCall.isSpawnAI ∧
    (∀ index, world.trip index = .unborn ↔ world.retrievers.fresh ≤ index) ∧
    (∀ index, (world.trip index).Lived ((history.filterMap (tripMoment index)).map (·.label))) ∧
    ∀ moment ∈ history, ∀ ball, .deliver ball ∈ moment.calls → ∃ index errand, errand.ball = ball ∧
      tripMoment index moment = some ⟨.giving errand,.giveBallToPlayer,moment.calls,.gone errand⟩ := by
  refine ⟨run_fresh E run,tripOf_unborn_iff world.retrievers,?_,?_⟩
  · intro index
    obtain ⟨start,begins,path⟩ := run.path
    have unborn : start.trip index = .unborn := by
      rw [trip,begins.retrievers]
      rfl
    obtain ⟨now,here,own⟩ := (retrieverComponent E index).path path (start.trip index) rfl
    cases here
    rw [unborn] at own
    exact Trip.path_lived own
  · intro moment member ball made
    obtain ⟨_,step⟩ := run.step_of_mem moment member
    exact effect_deliver E _ _ _ _ (step_effect E _ _ _ _ step) ball made

theorem retriever_life_delivered : ∃ history world, (machine Engine.exact).Run history world ∧
    world.trip 0 = .gone ⟨0,some .player0⟩ ∧
    (history.filterMap (tripMoment 0)).map (·.label) =
      [(.giveBallToPlayer,[.deliver 0]),(.chaseBall,[]),(.hit 0,[.spawnAI 0])] := by
  have start := Machine.Run.start (M := machine Engine.exact) _ (ballLevel_init 1).1
  have aimed := Machine.Run.next _ _ (.tick (.tracing (.hitInteractable (.ball 0)))) _ _ start ⟨rfl,rfl⟩
  have picked := Machine.Run.next _ _ .interactButtonPressed _ _ aimed ⟨rfl,rfl⟩
  have thrown := Machine.Run.next _ _ (.throwButtonPressed .zeroVector) _ _ picked ⟨rfl,rfl⟩
  have landed := Machine.Run.next _ _ (.onComponentHit 0 true) _ _ thrown ⟨rfl,rfl⟩
  have reached := Machine.Run.next _ _ (.chaseBall 0 .new 0) _ _ landed ⟨rfl,rfl⟩
  have delivered := Machine.Run.next _ _ (.giveBallToPlayer 0 .new 0) _ _ reached ⟨rfl,rfl⟩
  exact ⟨_,_,delivered,rfl,(retriever_life Engine.exact _ _ delivered).2.2.1 0⟩

end World

end RetrievingAI
