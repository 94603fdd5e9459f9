import RetrievingAI.Changes
import RetrievingAI.Faults
import RetrievingAI.HeldBalls

/-! Playing on in a level that can be played: the steps that the code can be made to take next, each
of which rewrites one ball. -/
namespace RetrievingAI
open Fallible

variable {F : Type}

namespace World

/-- Every reference that the code reads through unchecked is set. -/
structure Playable (world : World F) : Prop extends Wired world where
  hud : world.player.playerHudClass.isSome = true

/-- A world that play can reach in such a level. -/
structure Ready (world : World F) : Prop extends Sound world where
  hud : world.player.playerHudClass.isSome = true

def Held (ref : Nat) (world : World F) : Prop :=
  world.player.ballInHand = some ref ∧ world.Attached ref

variable [EngineFloat F]

@[simp] theorem lineTrace_tracing (player : APlayerCharacter F) (trace : LineTrace) :
    player.lineTrace (.tracing trace) = trace := rfl

theorem Ready.kept {E : Engine F} {world target : World F} {event : Event F} {calls : List GameCall}
    (ready : world.Ready) (step : (machine E).Step world event calls target) : target.Ready := by
  have effect := step_effect E world target event calls step
  refine ⟨effect_sound E world target event calls effect ready.toSound,?_⟩
  rw [(effect_playerChange E world target event calls effect).defaults.2.2]
  exact ready.hud

theorem run_ready (E : Engine F) {history : List (Machine.Moment (World F) (Event F) GameCall)}
    {world : World F} (run : ((machine E).starting Playable).Run history world) : world.Ready := by
  apply run.invariant
  · intro start begins
    exact ⟨init_sound start begins.1 begins.2.toWired,begins.2.hud⟩
  · intro source event calls target ready step
    exact ready.kept (E := E) step

/-- What the engine may do in a ready world is done, and leaves a ready world. -/
theorem Ready.step (E : Engine F) {world : World F} (ready : world.Ready) (event : Event F)
    (enabled : world.enabled event = true) (succeeds : Event.SpawnSucceeds event) :
    ∃ target calls, (machine E).Step world event calls target ∧
      Effect E world event target calls ∧ target.Ready := by
  have seen : ¬ world.PicksUpUnseen event := by
    intro unseen
    cases event with
    | interactButtonPressed =>
      have hud := ready.hud
      simp [unseen.1] at hud
    | tick | throwButtonPressed | stopIgnoringBallTimer | onComponentHit | chestTick | chestTimer
    | chaseBall | giveBallToPlayer => exact unseen
  obtain ⟨⟨target,calls⟩,ok⟩ := (step_returns E world event ready.toSound enabled succeeds).mpr seen
  have step : (machine E).Step world event calls target := ⟨enabled,ok⟩
  exact ⟨target,calls,step,step_effect E world target event calls step,ready.kept step⟩

omit [EngineFloat F] in
/-- A live retriever that names a ball runs a tree. -/
def Treed (world : World F) : Prop :=
  ∀ index retriever controler, world.retrievers.read index = some retriever →
    retriever.live = some controler → controler.ballKey.isSome = true →
    controler.behaviorTree.isSome = true

theorem effect_treed (E : Engine F) (world target : World F) (event : Event F)
    (calls : List GameCall) (effect : Effect E world event target calls) (treed : world.Treed) :
    target.Treed := by
  cases effect with
  | answer ref ball thrower tree retriever found thrown by_ class_ runs ready =>
    intro index object controler listed alive named
    rw [Pool.read_spawn] at listed
    split at listed
    · cases listed
      obtain ⟨started,awake,initialized⟩ := (E.spawned _).initialized ref _ ready
      rw [alive] at awake
      cases awake
      exact initialized.tree
    · exact treed index object controler listed alive named
  | strand ref ball thrower found thrown by_ class_ idle =>
    intro index object controler listed alive named
    rw [Pool.read_spawn] at listed
    split at listed
    · cases listed
      obtain ⟨keyless,_⟩ := (E.spawned _).unled alive
      simp [keyless] at named
    · exact treed index object controler listed alive named
  | reach ref task distance retriever controler key ball found alive state keyed there =>
    intro index object acting listed awake named
    rcases Pool.write_cases _ _ _ _ _ listed with ⟨rfl,rfl⟩ | ⟨_,listed⟩
    · obtain ⟨_,young⟩ := retriever.live_controler controler alive
      rw [AAICharacter.live_mk,AAICharacterControler.destroyed_inState,young] at awake
      cases awake
      exact treed ref retriever controler found alive (by simp [keyed])
    · exact treed index object acting listed awake named
  | deliver ref task distance retriever controler key ball found alive state keyed there =>
    intro index object acting listed awake named
    rcases Pool.write_cases _ _ _ _ _ listed with ⟨rfl,rfl⟩ | ⟨_,listed⟩
    · simp [AAICharacter.destroy,AAICharacter.live_mk,AAICharacterControler.destroy] at awake
    · exact treed index object acting listed awake named
  | lookBall | lookChest | leaveBall | leaveChest | lookOn | pressNothing | pressBlocked | pickUp
  | pressChest | throwNothing | throw | stopIgnoring | hitNothing | land | chestTick | chestWait
  | chestDrop | chaseOn | carryOn => exact treed

theorem run_treed (E : Engine F) {history : List (Machine.Moment (World F) (Event F) GameCall)}
    {world : World F} (run : (machine E).Run history world) : world.Treed := by
  apply run.invariant
  · intro start initial index retriever controler listed
    rw [initial.retrievers] at listed
    simp at listed
  · intro source event calls target treed step
    exact effect_treed E source target event calls (step_effect E _ _ _ _ step) treed

omit [EngineFloat F] in
theorem Treed.works {world : World F} (treed : world.Treed) (index ref : Nat)
    (retriever : AAICharacter) (controler : AAICharacterControler) (state : EAIState)
    (listed : world.retrievers.read index = some retriever) (alive : retriever.live = some controler)
    (named : controler.ballKey = some ref) (acting : controler.aiState = some state.toUInt8) :
    world.runsTask index state = true := by
  have tree := treed index retriever controler listed alive (by simp [named])
  simp [runsTask,listed,alive,tree,acting]

/-- A step that rewrites one ball and leaves the other balls alone. -/
structure Rewrites (E : Engine F) (world : World F) (event : Event F) (calls : List GameCall)
    (ref : Nat) (ball : ABall F) (target : World F) : Prop where
  step : (machine E).Step world event calls target
  ready : target.Ready
  balls : target.balls = world.balls.write ref ball

theorem Rewrites.there {E : Engine F} {world target : World F} {event : Event F}
    {calls : List GameCall} {ref : Nat} {old ball : ABall F}
    (turn : Rewrites E world event calls ref ball target) (found : world.balls.read ref = some old) :
    target.balls.read ref = some ball := by
  rw [turn.balls]
  exact Pool.read_write_self _ _ _ _ found

theorem Rewrites.elsewhere {E : Engine F} {world target : World F} {event : Event F}
    {calls : List GameCall} {ref : Nat} {ball : ABall F}
    (turn : Rewrites E world event calls ref ball target) (other : Nat) (different : other ≠ ref) :
    target.balls.read other = world.balls.read other := by
  rw [turn.balls]
  exact Pool.read_write_of_ne _ _ _ _ different.symm

section Steps

variable {world : World F} {phases : Nat → FetchPhase} {ref : Nat} {ball : ABall F}

theorem Ready.looks (E : Engine F) (ready : world.Ready) (found : world.balls.read ref = some ball) :
    ∃ target, target.player.lastHitInteractableActor = some (.ball ref) ∧
      Rewrites E world (.tick (.tracing (.hitInteractable (.ball ref)))) [] ref (ball.hinted true)
        target := by
  obtain ⟨target,calls,step,effect,kept⟩ :=
    ready.step E (.tick (.tracing (.hitInteractable (.ball ref)))) (by simp [enabled,contains,found]) trivial
  cases effect with
  | lookBall _ other there traced read =>
    cases traced
    rw [found] at read
    cases read
    exact ⟨_,by simp,step,kept,rfl⟩
  | lookChest _ other there traced => cases traced
  | leaveBall _ other there traced => cases traced
  | leaveChest _ other there traced => cases traced
  | lookOn _ traced => simp at traced

theorem Ready.picks (E : Engine F) (ready : world.Ready) (found : world.balls.read ref = some ball)
    (free : ball.bInteractionHintBlocked = false)
    (last : world.player.lastHitInteractableActor = some (.ball ref)) :
    ∃ target, target.player.ballInHand = some ref ∧
      Rewrites E world .interactButtonPressed [.interaction (.ball ref)] ref
        ((ball.attachTo .player).hinted false) target := by
  obtain ⟨target,calls,step,effect,kept⟩ := ready.step E .interactButtonPressed rfl trivial
  cases effect with
  | pressNothing none => simp [last] at none
  | pressBlocked other object aimed read blocked =>
    rw [last] at aimed
    cases aimed
    rw [found] at read
    cases read
    simp [free] at blocked
  | pressChest other object moved aimed =>
    rw [last] at aimed
    cases aimed
  | pickUp other object hud aimed read =>
    rw [last] at aimed
    cases aimed
    rw [found] at read
    cases read
    exact ⟨_,rfl,step,kept,rfl⟩

theorem Ready.throws (E : Engine F) (ready : world.Ready) (found : world.balls.read ref = some ball)
    (hand : world.player.ballInHand = some ref) (location : FVector F) :
    ∃ target, Rewrites E world (.throwButtonPressed location) [.throw ref] ref
      {ball.launched world.player.throwStrength (world.player.throwDirection E location) with
        ballThrower := some .player0
        aiSpawnVector := world.player.aiSpawnLocation} target := by
  obtain ⟨target,calls,step,effect,kept⟩ := ready.step E (.throwButtonPressed location) rfl trivial
  cases effect with
  | throwNothing _ empty => simp [hand] at empty
  | throw _ other object hud holds read =>
    rw [hand] at holds
    cases holds
    rw [found] at read
    cases read
    exact ⟨_,step,kept,rfl⟩

/-- A flying ball that nobody answers for lands free. -/
theorem Ready.lands (E : Engine F) (ready : world.Ready) (found : world.balls.read ref = some ball)
    (thrown : ball.bBallThrown = true)
    (unanswered : ball.ballThrower = none ∨ ball.aiCharacterClass = none) :
    ∃ target, Rewrites E world (.onComponentHit ref true) [] ref (ball.landed false) target := by
  obtain ⟨target,calls,step,effect,kept⟩ :=
    ready.step E (.onComponentHit ref true) (by simp [enabled,found]) rfl
  cases effect with
  | hitNothing _ _ object read still =>
    rw [found] at read
    cases read
    simp [thrown] at still
  | land _ _ object read =>
    rw [found] at read
    cases read
    exact ⟨_,step,kept,rfl⟩
  | answer _ object thrower tree retriever read _ by_ class_ =>
    rw [found] at read
    cases read
    rcases unanswered with dropped | classless
    · simp [dropped] at by_
    · simp [classless] at class_
  | strand _ object thrower read _ by_ class_ =>
    rw [found] at read
    cases read
    rcases unanswered with dropped | classless
    · simp [dropped] at by_
    · simp [classless] at class_

/-- A thrown ball that a retriever can be sent for lands locked, with a retriever that knows it. -/
theorem Ready.answers (E : Engine F) (ready : world.Ready) (found : world.balls.read ref = some ball)
    (thrown : ball.bBallThrown = true) (by_ : ball.ballThrower.isSome = true)
    (class_ : ball.aiCharacterClass.isSome = true)
    (runs : world.player.behaviorTree.isSome = true) :
    ∃ target, Rewrites E world (.onComponentHit ref true) [.spawnAI ref] ref (ball.landed true) target ∧
      ∃ index retriever controler, target.retrievers.read index = some retriever ∧
        retriever.live = some controler ∧ controler.ballKey = some ref := by
  obtain ⟨target,calls,step,effect,kept⟩ :=
    ready.step E (.onComponentHit ref true) (by simp [enabled,found]) rfl
  cases effect with
  | hitNothing _ _ object read still =>
    rw [found] at read
    cases read
    simp [thrown] at still
  | land _ _ object read _ unanswered =>
    rw [found] at read
    cases read
    rcases unanswered with dropped | classless
    · simp [dropped] at by_
    · simp [classless] at class_
  | answer _ object thrower tree retriever read _ _ _ _ spawned =>
    rw [found] at read
    cases read
    obtain ⟨started,alive,initialized⟩ := (E.spawned _).initialized ref _ spawned
    exact ⟨_,⟨step,kept,rfl⟩,_,retriever,started,Pool.read_spawn_fresh _ _,alive,initialized.ballKey⟩
  | strand _ object thrower read _ _ _ idle => simp [idle] at runs

/-- A retriever near its ball takes it. -/
theorem Ready.reaches (E : Engine F) (ready : world.Ready) (treed : world.Treed)
    (rep : world.Represents phases) (distance radius : F)
    (near : EngineFloat.lessOrEqual distance radius = true) (index : Nat)
    (found : world.balls.read ref = some ball) (chased : phases ref = .chased index) :
    ∃ target, Rewrites E world (.chaseBall index ⟨radius⟩ distance) [] ref
      (ball.attachTo (.retriever index)) target := by
  have worked : (phases ref).retriever = some index := by rw [chased]; rfl
  obtain ⟨retriever,controler,listed,alive,fetches⟩ := rep.retrieved ref index ball worked found
  have chasing := fetches.state
  rw [chased] at chasing
  have named := fetches.ballKey
  obtain ⟨board,blackboard,key⟩ := Option.bind_eq_some_iff.mp named
  obtain ⟨moved,given⟩ := setState_returns controler .easGiveBallToPlayer (by simp [blackboard])
  have reached : ∃ target, world.chaseBall ⟨radius⟩ index distance = .ok (target,.succeeded) ∧
      target.balls = world.balls.write ref (ball.attachTo (.retriever index)) := by
    unfold chaseBall
    rw [listed,deref_some,ok_bind,(retriever.live_controler controler alive).1]
    dsimp only
    rw [blackboard,deref_some,ok_bind,key,deref_some,ok_bind,found,deref_some,ok_bind,if_pos near,
      AAICharacterControler.setStateAsGiveBallToPlayer,given,ok_bind]
    exact ⟨_,rfl,rfl⟩
  obtain ⟨target,ok,balls⟩ := reached
  have step : (machine E).Step world (.chaseBall index ⟨radius⟩ distance) [] target := by
    refine ⟨treed.works index ref retriever controler _ listed alive named chasing,?_⟩
    rw [World.step,ok]
    rfl
  exact ⟨target,step,ready.kept step,balls⟩

/-- A retriever near the player lets the ball fall, and nobody has thrown it any more. -/
theorem Ready.gives (E : Engine F) (ready : world.Ready) (treed : world.Treed)
    (rep : world.Represents phases) (distance radius : F)
    (near : EngineFloat.lessOrEqual distance radius = true) (index : Nat)
    (found : world.balls.read ref = some ball) (carried : phases ref = .carried index) :
    ∃ target, Rewrites E world (.giveBallToPlayer index ⟨radius⟩ distance) [.deliver ref] ref
      (ball.launched ((1 : ℕ) : F) FVector.zeroVector).removeBallThrower target := by
  have worked : (phases ref).retriever = some index := by rw [carried]; rfl
  obtain ⟨retriever,controler,listed,alive,fetches⟩ := rep.retrieved ref index ball worked found
  have giving := fetches.state
  rw [carried] at giving
  have named := fetches.ballKey
  have thrower : controler.throwerKey.isSome = true := by
    rw [fetches.throwerKey]
    exact fetches.thrower
  obtain ⟨board,blackboard,key⟩ := Option.bind_eq_some_iff.mp named
  obtain ⟨moved,given⟩ := setState_returns controler .easDefault (by simp [blackboard])
  obtain ⟨dropped,falls⟩ :=
    ball.drop_returns ((1 : ℕ) : F) FVector.zeroVector (ready.balls ref ball found)
  have player : ((board.getValueAsObject ballThrowerKeyName).bind (·.castPlayer)).isSome = true := by
    rwa [AAICharacterControler.throwerKey,blackboard,Option.bind_some] at thrower
  obtain ⟨by_,names⟩ := Option.isSome_iff_exists.mp player
  have delivered : ∃ target,
      world.giveBallToPlayer ⟨radius⟩ index distance = .ok (target,.succeeded,[.deliver ref]) ∧
      target.balls = world.balls.write ref
        (ball.launched ((1 : ℕ) : F) FVector.zeroVector).removeBallThrower := by
    unfold giveBallToPlayer
    rw [listed,deref_some,ok_bind,(retriever.live_controler controler alive).1]
    dsimp only
    rw [blackboard,deref_some,ok_bind,names,deref_some,ok_bind,if_pos near,key,deref_some,ok_bind,found,
      deref_some,ok_bind,falls,ok_bind,AAICharacterControler.setStateAsDefault,given,ok_bind,
      ball.drop_ok _ _ _ falls]
    exact ⟨_,rfl,rfl⟩
  obtain ⟨target,ok,balls⟩ := delivered
  have step : (machine E).Step world (.giveBallToPlayer index ⟨radius⟩ distance) [.deliver ref] target := by
    refine ⟨treed.works index ref retriever controler _ listed alive named giving,?_⟩
    rw [World.step,ok]
    rfl
  exact ⟨target,step,ready.kept step,balls⟩

end Steps

end World

end RetrievingAI
