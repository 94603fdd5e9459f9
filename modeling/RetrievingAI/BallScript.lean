import RetrievingAI.Accounting

/-! The order of a ball's calls. A staffed game throws a ball, answers the throw and delivers the ball,
over and over; a chest drops it before all that, and once. -/
namespace RetrievingAI

variable {F : Type}

/-- The ball that a call is about. -/
def GameCall.ball : GameCall → Option Nat
  | interaction _ => none
  | throw ball | spawnAI ball | deliver ball | dropBall ball => some ball

/-- The calls about one ball in the order in which they were made. -/
def ballLog (ref : Nat) (calls : List GameCall) : List GameCall :=
  (calls.filter fun call => call.ball == some ref).reverse

def script (ref i : Nat) : GameCall :=
  match i % 3 with
  | 0 => .throw ref
  | 1 => .spawnAI ref
  | _ => .deliver ref

/-- How far into the script a ball is. -/
def FetchPhase.progress : FetchPhase → Nat
  | flying true => 1
  | chased _ | carried _ => 2
  | _ => 0

@[simp] theorem ballLog_append (ref : Nat) (later earlier : List GameCall) :
    ballLog ref (later ++ earlier) = ballLog ref earlier ++ ballLog ref later := by
  simp [ballLog]

theorem FetchEvent.ballLog_calls (event : FetchEvent) (ref : Nat) :
    ballLog ref event.calls = if event.ball = ref then event.calls else [] := by
  cases event with
  | pickUp ball | land ball | reach ball => simp [calls,ballLog]
  | throw ball | answer ball _ | strand ball | deliver ball | drop ball =>
    by_cases same : ball = ref <;> simp [calls,ballLog,GameCall.ball,FetchEvent.ball,same]

/-- The log of a ball in a phase: what brought it into the game, then the script so far. -/
inductive Scripted (ref : Nat) (placed : Bool) : FetchPhase → List GameCall → Prop
  | before (unplaced : placed = false) : Scripted ref placed .absent []
  | during (phase n) (present : phase ≠ .absent) (position : n % 3 = phase.progress) :
      Scripted ref placed phase
        ((if placed then [] else [.dropBall ref]) ++ (List.range n).map (script ref))

theorem Scripted.quiet {ref : Nat} {placed : Bool} {source phase : FetchPhase} {log : List GameCall}
    (scripted : Scripted ref placed source log) (there : source ≠ .absent) (kept : phase ≠ .absent)
    (same : phase.progress = source.progress) : Scripted ref placed phase (log ++ []) := by
  rw [List.append_nil]
  cases scripted with
  | before => contradiction
  | during _ n present position => exact .during phase n kept (position.trans same.symm)

theorem Scripted.next {ref : Nat} {placed : Bool} {source phase : FetchPhase} {log : List GameCall}
    (scripted : Scripted ref placed source log) (there : source ≠ .absent) (kept : phase ≠ .absent)
    (on : (source.progress + 1) % 3 = phase.progress) :
    Scripted ref placed phase (log ++ [script ref source.progress]) := by
  cases scripted with
  | before => contradiction
  | during _ n present position =>
    have line : script ref source.progress = script ref n := by
      rw [script,script,← position,Nat.mod_mod]
    have longer : Scripted ref placed phase _ :=
      .during phase (n+1) kept (by rw [← on,← position,Nat.mod_add_mod])
    rwa [List.range_succ,List.map_append,← List.append_assoc,List.map_singleton,← line] at longer

/-- One move of a ball writes the next line of its script, or none. -/
theorem move_scripted (event : FetchEvent) (phases : Nat → FetchPhase) (phase : FetchPhase)
    (placed : Bool) (log : List GameCall) (moved : event.move (phases event.ball) = some phase)
    (answered : event.Answered phases)
    (scripted : Scripted event.ball placed (phases event.ball) log) :
    Scripted event.ball placed phase (log ++ event.calls) := by
  cases event with
  | strand ball => exact answered.elim
  | land ball =>
    simp only [FetchEvent.Answered,FetchEvent.ball] at answered moved scripted ⊢
    rw [answered] at moved scripted
    cases Option.some.inj moved
    exact scripted.quiet (by simp) (by simp) rfl
  | drop ball =>
    simp only [FetchEvent.ball] at moved scripted ⊢
    generalize phases ball = source at moved scripted
    cases source with
    | absent =>
      cases Option.some.inj moved
      cases scripted with
      | before unplaced =>
        have arrived : Scripted ball placed (.flying false) _ := .during _ 0 (by simp) rfl
        rwa [unplaced] at arrived ⊢
      | during _ n present => contradiction
    | resting | inHand | flying | chased | carried | stranded => contradiction
  | pickUp ball =>
    simp only [FetchEvent.ball] at moved scripted ⊢
    generalize phases ball = source at moved scripted
    cases source with
    | resting | inHand =>
      cases Option.some.inj moved
      exact scripted.quiet (by simp) (by simp) rfl
    | absent | flying | chased | carried | stranded => contradiction
  | throw ball =>
    simp only [FetchEvent.ball] at moved scripted ⊢
    generalize phases ball = source at moved scripted
    cases source with
    | inHand =>
      cases Option.some.inj moved
      exact scripted.next (by simp) (by simp) rfl
    | absent | resting | flying | chased | carried | stranded => contradiction
  | answer ball retriever =>
    simp only [FetchEvent.ball] at moved scripted ⊢
    generalize phases ball = source at moved scripted
    cases source with
    | flying thrown =>
      cases thrown with
      | true =>
        cases Option.some.inj moved
        exact scripted.next (by simp) (by simp) rfl
      | false => contradiction
    | absent | resting | inHand | chased | carried | stranded => contradiction
  | reach ball =>
    simp only [FetchEvent.ball] at moved scripted ⊢
    generalize phases ball = source at moved scripted
    cases source with
    | chased index =>
      cases Option.some.inj moved
      exact scripted.quiet (by simp) (by simp) rfl
    | absent | resting | inHand | flying | carried | stranded => contradiction
  | deliver ball =>
    simp only [FetchEvent.ball] at moved scripted ⊢
    generalize phases ball = source at moved scripted
    cases source with
    | carried index =>
      cases Option.some.inj moved
      exact scripted.next (by simp) (by simp) (by simp [FetchPhase.progress])
    | absent | resting | inHand | flying | chased | stranded => contradiction

/-- In the fetch game whose throws are answered, every ball follows its script. -/
theorem fetchGame_scripted (start phases : Nat → FetchPhase)
    (history : List (Machine.Moment (Nat → FetchPhase) FetchEvent GameCall))
    (path : (fetchGame.guard fun phases event => event.Answered phases).Path start history phases)
    (initial : fetchGame.Init start) (ref : Nat) :
    Scripted ref (start ref == .resting) (phases ref) (ballLog ref (Machine.calls history)) := by
  induction path with
  | refl =>
    rcases initial ref with absent | resting
    · rw [absent]
      exact .before rfl
    · have begun : Scripted ref true .resting _ := .during _ 0 (by simp) rfl
      rw [resting]
      exact begun
  | next history source event calls target before step ih =>
    obtain ⟨answered,phase,moved,rfl,rfl⟩ := step
    rw [Machine.calls_cons,ballLog_append,event.ballLog_calls ref]
    by_cases same : event.ball = ref
    · subst same
      rw [if_pos rfl,Function.update_self]
      exact move_scripted event source phase _ _ moved answered ih
    · rwa [if_neg same,List.append_nil,Function.update_of_ne (Ne.symm same)]

theorem ballLog_observed (ref : Nat) (calls : List GameCall) :
    ballLog ref (calls.filterMap GameCall.observed) = ballLog ref calls := by
  unfold ballLog
  rw [List.filter_filterMap,← List.filterMap_eq_filter]
  congr 2
  funext call
  cases call with
  | interaction actor => rfl
  | throw ball | spawnAI ball | deliver ball | dropBall ball => rfl

theorem FetchPhase.progress_eq (phase : FetchPhase) :
    phase.progress = if phase.pending = 1 then 1 else if phase.fetching = 0 then 0 else 2 := by
  cases phase with
  | flying thrown => cases thrown <;> rfl
  | absent | resting | inHand | chased | carried | stranded => rfl

namespace World

/-- How far into its script a ball is: in the air from a throw, with a retriever, or neither. -/
def progress (world : World F) (ref : Nat) (ball : ABall F) : Nat :=
  if thrownFlight ball then 1
  else if world.retrievers.count (AAICharacter.retrieves ref) = 0 then 0
  else 2

theorem Represents.progress {world : World F} {phases : Nat → FetchPhase}
    (rep : world.Represents phases) (ref : Nat) (ball : ABall F)
    (found : world.balls.read ref = some ball) : world.progress ref ball = (phases ref).progress := by
  rw [World.progress,FetchPhase.progress_eq,Represents.pending_eq rep ref ball found,
    Represents.count_retrievers rep ref]
  cases thrownFlight ball <;> rfl

variable [EngineFloat F]

/-- In a staffed game the calls about a ball are those of its script, in order and up to where the ball
is now: thrown, answered by a retriever, delivered, thrown again. A ball that was not placed in the
level was dropped by a chest first, once. -/
theorem ball_script (E : Engine F) (start world : World F)
    (begins : ((machine E).starting Staffed).Init start)
    (history : List (Machine.Moment (World F) (Event F) GameCall))
    (path : ((machine E).starting Staffed).Path start history world) (ref : Nat) (ball : ABall F)
    (found : world.balls.read ref = some ball) :
    ∃ n, n % 3 = world.progress ref ball ∧
      ballLog ref (Machine.calls history) =
        (if (start.balls.read ref).isSome then [] else [.dropBall ref]) ++
          (List.range n).map (script ref) := by
  have related : (fetches E).R start start.startPhases := ⟨init_represents start begins.1,begins.2⟩
  obtain ⟨mirrored,phases,mirror,⟨rep,_⟩,same⟩ := (fetches E).path related path
  have initial : fetchGame.Init start.startPhases := by
    intro other
    unfold startPhases
    split
    · exact .inr rfl
    · exact .inl rfl
  have scripted := fetchGame_scripted _ _ mirrored mirror initial ref
  rw [same,ballLog_observed] at scripted
  have placed : (start.startPhases ref == .resting) = (start.balls.read ref).isSome := by
    unfold startPhases
    cases (start.balls.read ref).isSome <;> rfl
  rw [placed] at scripted
  rw [Represents.progress rep ref ball found]
  have present := (rep.inFetch ref ball found).present
  generalize phases ref = phase at scripted present ⊢
  generalize ballLog ref (Machine.calls history) = log at scripted ⊢
  cases scripted with
  | before => contradiction
  | during _ n _ position => exact ⟨n,position,rfl⟩

theorem ball_script_delivered : ∃ history world ball,
    ((machine Engine.exact).starting Staffed).Path (ballLevel 1) history world ∧
      world.balls.read 0 = some ball ∧ world.progress 0 ball = 0 ∧
      ∃ n, n % 3 = 0 ∧ ballLog 0 [.deliver 0,.spawnAI 0,.throw 0,.interaction (.ball 0)] =
        [] ++ (List.range n).map (script 0) := by
  have start : ((machine Engine.exact).starting Staffed).Path (ballLevel 1) [] (ballLevel 1) := .refl
  have aimed := Machine.Path.next _ _ (.tick (.tracing (.hitInteractable (.ball 0)))) _ _ start ⟨rfl,rfl⟩
  have picked := Machine.Path.next _ _ .interactButtonPressed _ _ aimed ⟨rfl,rfl⟩
  have thrown := Machine.Path.next _ _ (.throwButtonPressed .zeroVector) _ _ picked ⟨rfl,rfl⟩
  have landed := Machine.Path.next _ _ (.onComponentHit 0 true) _ _ thrown ⟨rfl,rfl⟩
  have reached := Machine.Path.next _ _ (.chaseBall 0 .new 0) _ _ landed ⟨rfl,rfl⟩
  have delivered := Machine.Path.next _ _ (.giveBallToPlayer 0 .new 0) _ _ reached ⟨rfl,rfl⟩
  have law := ball_script Engine.exact _ _ ⟨(ballLevel_init 1).1,(ballLevel_init 1).2.toStaffed⟩ _
    delivered 0 _ rfl
  exact ⟨_,_,_,delivered,rfl,rfl,law⟩

end World

end RetrievingAI
