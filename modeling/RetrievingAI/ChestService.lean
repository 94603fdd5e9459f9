import RetrievingAI.ChestFrame
import RetrievingAI.ChestSupply
import RetrievingAI.Lib.Behaviour
import Mathlib.Algebra.BigOperators.Ring.Finset
import Mathlib.Algebra.Order.Archimedean.Basic

/-! Every press that a chest accepts is answered. While time goes on for a chest and its timers fire, it
drops the one ball it owes, closes and takes presses again, whatever else goes on. -/
namespace RetrievingAI

def Event.chestTime (ref : Nat) : Event ℚ → ℚ
  | .chestTick other deltaTime => if other = ref then deltaTime else 0
  | _ => 0

theorem ChestPhase.determined {phase other : ChestPhase} (state : phase.state = other.state)
    (rotating : phase.rotating = other.rotating) (timer : phase.timer = other.timer) : phase = other := by
  cases phase <;> cases other <;>
    first | rfl | exact absurd state (by decide) | exact absurd rotating (by decide) |
      exact absurd timer (by decide)

theorem ChestPhase.next_ne (phase : ChestPhase) : phase.next ≠ phase := by
  cases phase <;> decide

/-- What holds at rest, and before each phase where it holds after it, holds in every phase. -/
theorem ChestPhase.round {P : ChestPhase → Prop} (idle : P .idle)
    (before : ∀ phase, phase ≠ .idle → P phase.next → P phase) (phase : ChestPhase) : P phase := by
  have closing := before .closing (by decide) idle
  have closeRequested := before .closeRequested (by decide) closing
  have closeDelay := before .closeDelay (by decide) closeRequested
  have dropDelay := before .dropDelay (by decide) closeDelay
  have opening := before .opening (by decide) dropDelay
  have requested := before .requested (by decide) opening
  cases phase <;> assumption

theorem AChest.InPhase.unique {F : Type} {chest : AChest F} {phase other : ChestPhase}
    (here : chest.InPhase phase) (there : chest.InPhase other) : phase = other :=
  ChestPhase.determined (here.state.symm.trans there.state) (here.rotation.symm.trans there.rotation)
    (here.timer.symm.trans there.timer)

theorem AChest.Passes.advances {F : Type} [EngineFloat F] {E : Engine F} {chest moved : AChest F}
    {event : ChestEvent F} {calls : List ChestCall} {phase later : ChestPhase}
    (passes : Passes E chest phase event moved calls later) :
    (later = phase ∧ calls = []) ∨ (later = phase.next ∧ calls = phase.calls) := by
  cases passes with
  | ignore | hint | rest | turn | count => exact .inl ⟨rfl,rfl⟩
  | accept | armOpening | armClosing | finishOpening | finishClosing | drop | requestClosing =>
    exact .inr ⟨rfl,rfl⟩

namespace World

def chestCalls {F : Type} [EngineFloat F] (ref : Nat)
    (moment : Machine.Moment (World F) (Event F) GameCall) : List ChestCall :=
  (chestMoment ref moment).elim [] (·.calls)

theorem step_chest {F : Type} [EngineFloat F] (E : Engine F) {world target : World F} {event : Event F}
    {calls : List GameCall} (step : (machine E).Step world event calls target) {ref : Nat}
    {chest : AChest F} (found : world.chests.read ref = some chest) {phase : ChestPhase}
    (here : chest.InPhase phase) :
    (world.chestEvent ref chest calls event = none ∧ target.chests.read ref = some chest ∧
      chestCalls ref ⟨world,event,calls,target⟩ = []) ∨
    ∃ own made moved later, world.chestEvent ref chest calls event = some (own,made) ∧
      AChest.Passes E chest phase own moved made later ∧ target.chests.read ref = some moved ∧
      chestCalls ref ⟨world,event,calls,target⟩ = made := by
  have follows := effect_follows E _ _ _ _ (step_effect E _ _ _ _ step) ref chest found
  cases told : world.chestEvent ref chest calls event with
  | none =>
    rw [told] at follows
    exact .inl ⟨rfl,follows,by simp [chestCalls,chestMoment,found,told]⟩
  | some own =>
    obtain ⟨own,made⟩ := own
    rw [told] at follows
    obtain ⟨moved,now,taken⟩ := follows
    obtain ⟨later,passes⟩ := AChest.step_passes E chest moved own made phase here taken
    exact .inr ⟨own,made,moved,later,rfl,passes,now,by simp [chestCalls,chestMoment,found,now,told]⟩

def ChestIn (world : World ℚ) (ref : Nat) (speed : ℚ) (phase : ChestPhase) : Prop :=
  ∃ chest, world.chests.read ref = some chest ∧ chest.InPhase phase ∧ chest.openRotationSpeed = speed

/-- How far the lid of a chest is from its target. -/
def lidLeft (ref : Nat) (world : World ℚ) : ℚ :=
  (world.chests.read ref).elim 0 fun chest => |chest.targetRotation - chest.lidPivotPitch|

theorem lidLeft_nonneg (ref : Nat) (world : World ℚ) : 0 ≤ lidLeft ref world := by
  unfold lidLeft
  cases world.chests.read ref with
  | none => exact le_rfl
  | some chest => exact abs_nonneg _

theorem chestTime_told (world : World ℚ) (ref : Nat) (chest : AChest ℚ) (calls : List GameCall)
    (event : Event ℚ) :
    event.chestTime ref = (world.chestEvent ref chest calls event).elim 0 (·.1.elapsed) := by
  cases event with
  | chestTick other deltaTime | chestTimer other =>
    simp only [Event.chestTime,chestEvent]
    split <;> rfl
  | tick | interactButtonPressed =>
    simp only [Event.chestTime,chestEvent]
    split <;> (try split) <;> rfl
  | throwButtonPressed | stopIgnoringBallTimer | onComponentHit | chaseBall | giveBallToPlayer => rfl

theorem chestEvent_timer {F : Type} [EngineFloat F] {world : World F} {ref : Nat} {chest : AChest F}
    {calls : List GameCall} {event : Event F} {made : List ChestCall}
    (told : world.chestEvent ref chest calls event = some (.timer,made)) : event = .chestTimer ref := by
  cases event with
  | chestTimer other =>
    simp only [chestEvent] at told
    split at told
    next same => rw [same]
    next => contradiction
  | chestTick | interactButtonPressed =>
    simp only [chestEvent] at told
    split at told <;> simp at told
  | tick view =>
    simp only [chestEvent] at told
    split at told <;> (try split at told) <;> simp at told
  | throwButtonPressed | stopIgnoringBallTimer | onComponentHit | chaseBall | giveBallToPlayer =>
    contradiction

section Steps

variable {E : Engine ℚ} {world target : World ℚ} {event : Event ℚ} {calls : List GameCall} {ref : Nat}
  {speed : ℚ} {phase : ChestPhase} {counter : Int32}

theorem ChestIn.unique {other : ChestPhase} (here : world.ChestIn ref speed phase)
    (there : world.ChestIn ref speed other) : phase = other := by
  obtain ⟨chest,found,stands,_⟩ := here
  obtain ⟨same,read,other,_⟩ := there
  rw [found] at read
  cases read
  exact stands.unique other

theorem ChestIn.step (here : world.ChestIn ref speed phase)
    (step : (machine E).Step world event calls target) :
    (target.ChestIn ref speed phase ∧ chestCalls ref ⟨world,event,calls,target⟩ = []) ∨
    (target.ChestIn ref speed phase.next ∧ chestCalls ref ⟨world,event,calls,target⟩ = phase.calls) := by
  obtain ⟨chest,found,stands,fast⟩ := here
  rcases step_chest E step found stands with ⟨_,now,quiet⟩ | ⟨own,made,moved,later,_,passes,now,called⟩
  · exact .inl ⟨⟨chest,now,stands,fast⟩,quiet⟩
  · have there : target.ChestIn ref speed later :=
      ⟨moved,now,passes.inPhase stands,passes.sameSettings.speed.trans fast⟩
    rcases passes.advances with ⟨rfl,silent⟩ | ⟨rfl,loud⟩
    · exact .inl ⟨there,called.trans silent⟩
    · exact .inr ⟨there,called.trans loud⟩

/-- While a chest rotates and does not arrive, the time it is given is taken off the way of its lid. -/
theorem ChestIn.pays (constant : E.ConstantStep) (positive : 0 < speed) (rotating : phase.rotating = true)
    (forward : 0 ≤ event.chestTime ref) (step : (machine E).Step world event calls target)
    (here : world.ChestIn ref speed phase) (there : target.ChestIn ref speed phase) :
    lidLeft ref target + speed*event.chestTime ref ≤ lidLeft ref world := by
  obtain ⟨chest,found,stands,rfl⟩ := here
  have time := chestTime_told world ref chest calls event
  rcases step_chest E step found stands with ⟨told,now,_⟩ | ⟨own,made,moved,later,told,passes,now,_⟩
  · rw [time,told]
    simp [lidLeft,found,now]
  · rw [told] at time
    obtain ⟨same,read,still,_⟩ := there
    rw [now] at read
    cases read
    cases (passes.inPhase stands).unique still
    have before : lidLeft ref world = |chest.targetRotation - chest.lidPivotPitch| := by simp [lidLeft,found]
    have after : lidLeft ref target = |moved.targetRotation - moved.lidPivotPitch| := by simp [lidLeft,now]
    rw [before,after]
    cases passes with
    | ignore => simp [time,ChestEvent.elapsed]
    | hint _ bIsVisible =>
      have lid := chest.hinted_sameLid bIsVisible
      simp [time,ChestEvent.elapsed,lid.target,lid.pitch]
    | turn _ deltaTime turning far =>
      change event.chestTime ref = deltaTime at time
      rw [time] at forward ⊢
      have advances := AChest.rotate_advances E constant chest deltaTime forward positive.le
      have distant : ¬ |chest.targetRotation - (chest.rotate E deltaTime).lidPivotPitch| ≤ 2 := by
        rw [← AChest.arrived_iff E constant,far]
        simp
      change |chest.targetRotation - (chest.rotate E deltaTime).lidPivotPitch| + _ ≤ _
      rcases le_max_iff.mp advances with none | some
      · exact absurd (none.trans (by norm_num)) distant
      · linarith
    | rest _ _ resting => simp [rotating] at resting
    | count _ running =>
      rw [stands.timer] at running
      cases phase <;> contradiction

theorem ChestIn.drops (here : world.ChestIn ref speed phase)
    (step : (machine E).Step world event calls target)
    (called : chestCalls ref ⟨world,event,calls,target⟩ = [.dropBall]) :
    event = .chestTimer ref ∧ calls = [.dropBall world.balls.fresh] := by
  obtain ⟨chest,found,stands,_⟩ := here
  rcases step_chest E step found stands with ⟨_,_,quiet⟩ | ⟨own,made,moved,later,told,passes,_,loud⟩
  · simp [quiet] at called
  · cases loud.symm.trans called
    cases passes with
    | drop =>
      obtain rfl := chestEvent_timer told
      have effect := step_effect E _ _ _ _ step
      cases effect with
      | chestWait => simp [chestEvent] at told
      | chestDrop => exact ⟨rfl,rfl⟩

def Counting (world : World ℚ) (ref : Nat) (speed : ℚ) (phase : ChestPhase) (counter : Int32) : Prop :=
  ∃ chest, world.chests.read ref = some chest ∧ chest.InPhase phase ∧ chest.openRotationSpeed = speed ∧
    chest.callTracker = counter

theorem ChestIn.counting (here : world.ChestIn ref speed phase) :
    ∃ counter, world.Counting ref speed phase counter := by
  obtain ⟨chest,found,stands,fast⟩ := here
  exact ⟨chest.callTracker,chest,found,stands,fast,rfl⟩

theorem Counting.keeps (waits : phase.timer.isSome = true)
    (here : world.Counting ref speed phase counter) (step : (machine E).Step world event calls target)
    (quiet : event ≠ .chestTimer ref) : target.Counting ref speed phase counter := by
  obtain ⟨chest,found,stands,fast,counted⟩ := here
  rcases step_chest E step found stands with ⟨_,now,_⟩ | ⟨own,made,moved,later,told,passes,now,_⟩
  · exact ⟨chest,now,stands,fast,counted⟩
  · have there := passes.inPhase stands
    have still := passes.sameSettings.speed.trans fast
    cases passes with
    | ignore | rest => exact ⟨chest,now,stands,fast,counted⟩
    | hint _ bIsVisible =>
      refine ⟨_,now,there,still,?_⟩
      rw [AChest.hinted_widget]
      exact counted
    | accept | armOpening | armClosing | finishOpening | finishClosing => contradiction
    | turn _ _ turning => cases phase <;> contradiction
    | count | drop | requestClosing => exact absurd (chestEvent_timer told) quiet

theorem Counting.fires (here : world.Counting ref speed phase counter)
    (step : (machine E).Step world (.chestTimer ref) calls target) :
    (counter - 1 ≤ 0 ∧ target.ChestIn ref speed phase.next) ∨
    (¬ counter - 1 ≤ 0 ∧ target.Counting ref speed phase (counter - 1)) := by
  obtain ⟨chest,found,stands,fast,rfl⟩ := here
  rcases step_chest E step found stands with ⟨told,_⟩ | ⟨own,made,moved,later,told,passes,now,_⟩
  · simp [chestEvent] at told
  · have there := passes.inPhase stands
    have still := passes.sameSettings.speed.trans fast
    cases passes with
    | count _ _ goes => exact .inr ⟨goes,_,now,there,still,rfl⟩
    | drop out | requestClosing out => exact .inl ⟨out,_,now,there,still⟩
    | ignore | hint | rest | accept | armOpening | armClosing | finishOpening | finishClosing | turn =>
      simp [chestEvent] at told

end Steps

/-- Time goes on for a chest past every bound, and a timer that it has set fires some time. -/
structure Served {E : Engine ℚ} (B : (machine E).Behaviour) (ref : Nat) : Prop where
  forward : ∀ n, 0 ≤ (B.moment n).event.chestTime ref
  time : ∀ n (bound : ℚ), ∃ later ≥ n, bound < B.spent (Event.chestTime ref) n later
  fires : ∀ n chest, (B.state n).chests.read ref = some chest → chest.timerHandle.isSome = true →
    ∃ later ≥ n, (B.moment later).event = .chestTimer ref

namespace Served

variable {E : Engine ℚ} {B : (machine E).Behaviour} {ref : Nat} {speed : ℚ} {phase : ChestPhase}

theorem turns (served : Served B ref) (constant : E.ConstantStep) (positive : 0 < speed)
    (rotating : phase.rotating = true) (first : Nat) :
    ∃ later ≥ first, ¬ (B.state later).ChestIn ref speed phase := by
  refine B.ends (P := fun world => world.ChestIn ref speed phase)
    (fun event => speed*event.chestTime ref) (lidLeft ref) (lidLeft_nonneg ref) ?_ ?_ first
  · intro n here there
    exact here.pays constant positive rotating (served.forward n) (B.step_state n) there
  · intro n budget
    obtain ⟨later,after,much⟩ := served.time n (budget/speed)
    refine ⟨later,after,?_⟩
    rw [div_lt_iff₀' positive] at much
    rwa [Machine.Behaviour.spent,← Finset.mul_sum]

theorem fires_counting (served : Served B ref) (waits : phase.timer.isSome = true) {counter : Int32}
    (first : Nat) (here : (B.state first).Counting ref speed phase counter) :
    ∃ later ≥ first, (B.state later).Counting ref speed phase counter ∧
      (machine E).Step (B.state later) (.chestTimer ref) (B.moment later).calls (B.state (later + 1)) := by
  obtain ⟨later,after,fired,there,_⟩ := B.waits (P := fun world => world.Counting ref speed phase counter)
    (H := fun moment => moment.event = .chestTimer ref)
    (fun n counting quiet => counting.keeps waits (B.step_state n) quiet)
    (fun n counting => by
      obtain ⟨chest,found,stands,_⟩ := counting
      exact served.fires n chest found (by rwa [stands.timer])) first here
  have step := B.step_state later
  rw [fired] at step
  exact ⟨later,after,there,step⟩

/-- A wait ends, however often the timer must fire. -/
theorem runs_out (served : Served B ref) (waits : phase.timer.isSome = true) (first : Nat)
    (here : (B.state first).ChestIn ref speed phase) :
    ∃ later ≥ first, ¬ (B.state later).ChestIn ref speed phase := by
  have counts : ∀ counter first, (B.state first).Counting ref speed phase counter →
      ∃ later ≥ first, ¬ (B.state later).ChestIn ref speed phase := by
    intro counter
    induction counter using Countdown.rundown with
    | out counter stops =>
      intro first here
      obtain ⟨later,after,there,step⟩ := served.fires_counting waits first here
      rcases there.fires step with ⟨_,next⟩ | ⟨goes,_⟩
      · refine ⟨later + 1,by omega,?_⟩
        intro still
        exact phase.next_ne (next.unique still)
      · exact absurd stops goes
    | on counter goes ih =>
      intro first here
      obtain ⟨fired,past,there,step⟩ := served.fires_counting waits first here
      rcases there.fires step with ⟨stops,_⟩ | ⟨_,next⟩
      · exact absurd stops goes
      · obtain ⟨later,after,left⟩ := ih (fired + 1) next
        exact ⟨later,by omega,left⟩
  obtain ⟨counter,counting⟩ := here.counting
  exact counts counter first counting

theorem moves_on (served : Served B ref) (constant : E.ConstantStep) (positive : 0 < speed)
    (busy : phase ≠ .idle) (first : Nat) (here : (B.state first).ChestIn ref speed phase) :
    ∃ later ≥ first, ¬ (B.state later).ChestIn ref speed phase := by
  cases phase with
  | idle => contradiction
  | requested | opening | closeRequested | closing => exact served.turns constant positive rfl first
  | dropDelay | closeDelay => exact served.runs_out rfl first here

end Served

theorem served_of_atRest (E : Engine ℚ) (B : (machine E).Behaviour) (begins : (machine E).Init (B.state 0))
    (ref last : Nat) (forward : ∀ n, 0 ≤ (B.moment n).event.chestTime ref)
    (beats : ∀ n ≥ last, 1 ≤ (B.moment n).event.chestTime ref)
    (rests : ∀ n ≥ last, ∀ chest, (B.state n).chests.read ref = some chest → chest.timerHandle = none) :
    Served B ref := by
  refine ⟨forward,?_,?_⟩
  · intro n bound
    obtain ⟨beat,much⟩ := exists_nat_gt bound
    refine ⟨max n last + beat,(le_max_left n last).trans (Nat.le_add_right _ _),much.trans_le ?_⟩
    calc (beat : ℚ) ≤ B.spent (Event.chestTime ref) (max n last) (max n last + beat) := by
          have beaten := Finset.card_nsmul_le_sum (Finset.Ico (max n last) (max n last + beat))
            (fun k => (B.moment k).event.chestTime ref) 1 fun k inside =>
              beats k ((le_max_right n last).trans (Finset.mem_Ico.mp inside).1)
          simpa [Machine.Behaviour.spent] using beaten
      _ ≤ B.spent (Event.chestTime ref) n (max n last + beat) :=
          Finset.sum_le_sum_of_subset_of_nonneg
            (Finset.Ico_subset_Ico_left (le_max_left n last)) fun k _ _ => forward k
  · intro n chest found running
    by_contra never
    obtain ⟨history,path⟩ := B.path n
    obtain ⟨phase,stands⟩ := run_cycling E ((Machine.Run.start _ begins).extend path) ref chest found
    have waits : phase.timer.isSome = true := by rwa [stands.timer] at running
    have goes : ∀ later ≥ n,
        (B.state later).Counting ref chest.openRotationSpeed phase chest.callTracker := by
      intro later after
      induction later,after using Nat.le_induction with
      | base => exact ⟨chest,found,stands,rfl,rfl⟩
      | succ later after ih =>
        exact ih.keeps waits (B.step_state later) fun fired => never ⟨later,after,fired⟩
    obtain ⟨now,read,still,_⟩ := goes (max n last) (le_max_left n last)
    have quiet := rests (max n last) (le_max_right n last) now read
    rw [still.timer] at quiet
    simp [quiet] at waits

/-- From one time to another a chest is busy, and makes no call. -/
def Busy {E : Engine ℚ} (B : (machine E).Behaviour) (ref first later : Nat) : Prop :=
  ∀ n ≥ first, n < later → chestCalls ref (B.moment n) = [] ∧
    ∃ chest, (B.state n).chests.read ref = some chest ∧ chest.bInteractionHintBlocked = true

variable {E : Engine ℚ} {B : (machine E).Behaviour} {ref : Nat} {speed : ℚ} {phase : ChestPhase}

theorem Busy.append {first middle later : Nat} (before : Busy B ref first middle)
    (after : Busy B ref middle later) : Busy B ref first later := by
  intro n above below
  by_cases early : n < middle
  · exact before n above early
  · exact after n (not_lt.mp early) below

theorem ChestIn.blocked {world : World ℚ} (here : world.ChestIn ref speed phase) (busy : phase ≠ .idle) :
    ∃ chest, world.chests.read ref = some chest ∧ chest.bInteractionHintBlocked = true := by
  obtain ⟨chest,found,stands,_⟩ := here
  exact ⟨chest,found,by simp [stands.blocked,busy]⟩

theorem ChestIn.behaves {n : Nat} (here : (B.state n).ChestIn ref speed phase) :
    ((B.state (n + 1)).ChestIn ref speed phase ∧ chestCalls ref (B.moment n) = []) ∨
    ((B.state (n + 1)).ChestIn ref speed phase.next ∧ chestCalls ref (B.moment n) = phase.calls) := by
  have step := here.step (B.step_state n)
  rwa [B.moment_eq n] at step

/-- A busy chest goes on to the next phase with one moment, and does nothing before it. -/
theorem Served.next (served : Served B ref) (constant : E.ConstantStep) (positive : 0 < speed)
    (busy : phase ≠ .idle) (first : Nat) (here : (B.state first).ChestIn ref speed phase) :
    ∃ last ≥ first, Busy B ref first last ∧ (B.state last).ChestIn ref speed phase ∧
      chestCalls ref (B.moment last) = phase.calls ∧
      (B.state (last + 1)).ChestIn ref speed phase.next := by
  obtain ⟨last,after,gone,stays⟩ := B.leaves (P := fun world => world.ChestIn ref speed phase)
    (fun n there => served.moves_on constant positive busy n there) first here
  refine ⟨last,after,?_,stays last after le_rfl,?_⟩
  · intro n above below
    have now := stays n above below.le
    refine ⟨?_,now.blocked busy⟩
    rcases now.behaves with ⟨_,quiet⟩ | ⟨moved,_⟩
    · exact quiet
    · have same := moved.unique (stays (n + 1) (by omega) below)
      exact absurd same phase.next_ne
  · rcases (stays last after le_rfl).behaves with ⟨still,_⟩ | ⟨moved,called⟩
    · exact absurd still gone
    · exact ⟨called,moved⟩

theorem Served.passes (served : Served B ref) (constant : E.ConstantStep) (positive : 0 < speed)
    (busy : phase ≠ .idle) (silent : phase.calls = []) (first : Nat)
    (here : (B.state first).ChestIn ref speed phase) :
    ∃ later > first, Busy B ref first later ∧ (B.state later).ChestIn ref speed phase.next := by
  obtain ⟨last,after,before,there,called,next⟩ := served.next constant positive busy first here
  refine ⟨last + 1,by omega,before.append ?_,next⟩
  intro n above below
  obtain rfl : n = last := by omega
  exact ⟨called.trans silent,there.blocked busy⟩

theorem Served.drops (served : Served B ref) (constant : E.ConstantStep) (positive : 0 < speed)
    (first : Nat) (here : (B.state first).ChestIn ref speed .requested) :
    ∃ dropped ≥ first, Busy B ref first dropped ∧ (B.state dropped).ChestIn ref speed .dropDelay ∧
      chestCalls ref (B.moment dropped) = [.dropBall] ∧
      (B.state (dropped + 1)).ChestIn ref speed .closeDelay := by
  obtain ⟨opens,_,requested,opening⟩ := served.passes constant positive (by decide) rfl first here
  obtain ⟨opened,_,turned,waiting⟩ := served.passes constant positive (by decide) rfl opens opening
  obtain ⟨dropped,_,waited,there,called,next⟩ := served.next constant positive (by decide) opened waiting
  exact ⟨dropped,by omega,(requested.append turned).append waited,there,called,next⟩

theorem Served.closes (served : Served B ref) (constant : E.ConstantStep) (positive : 0 < speed)
    (first : Nat) (here : (B.state first).ChestIn ref speed .closeDelay) :
    ∃ closed > first, Busy B ref first closed ∧ (B.state closed).ChestIn ref speed .idle := by
  obtain ⟨asked,_,waited,requested⟩ := served.passes constant positive (by decide) rfl first here
  obtain ⟨begun,_,armed,closing⟩ := served.passes constant positive (by decide) rfl asked requested
  obtain ⟨closed,_,turned,idle⟩ := served.passes constant positive (by decide) rfl begun closing
  exact ⟨closed,by omega,(waited.append armed).append turned,idle⟩

/-- Every press that a chest accepts is answered: some time after it the chest drops one new ball, later
its lid is closed and it takes presses again, and in between it takes none and drops no other. -/
theorem press_answered (E : Engine ℚ) (constant : E.ConstantStep) (B : (machine E).Behaviour)
    (begins : (machine E).Init (B.state 0)) (ref : Nat) (served : Served B ref) (n : Nat)
    (chest : AChest ℚ) (found : (B.state n).chests.read ref = some chest)
    (positive : 0 < chest.openRotationSpeed) (accepted : .accepted ∈ chestCalls ref (B.moment n)) :
    ∃ dropped closed, n < dropped ∧ dropped < closed ∧
      (B.moment dropped).event = .chestTimer ref ∧
      (B.moment dropped).calls = [.dropBall (B.state dropped).balls.fresh] ∧
      (∃ now, (B.state closed).chests.read ref = some now ∧ now.currentChestState = .ecsClosed ∧
        now.bInteractionHintBlocked = false) ∧
      ∀ between, n < between → between < closed →
        (∃ now, (B.state between).chests.read ref = some now ∧ now.bInteractionHintBlocked = true) ∧
        (between ≠ dropped → chestCalls ref (B.moment between) = []) := by
  obtain ⟨history,path⟩ := B.path n
  obtain ⟨phase,stands⟩ := run_cycling E ((Machine.Run.start _ begins).extend path) ref chest found
  have here : (B.state n).ChestIn ref chest.openRotationSpeed phase := ⟨chest,found,stands,rfl⟩
  obtain ⟨requested,idle⟩ : (B.state (n + 1)).ChestIn ref chest.openRotationSpeed phase.next ∧
      phase = .idle := by
    rcases here.behaves with ⟨_,quiet⟩ | ⟨next,called⟩
    · simp [quiet] at accepted
    · refine ⟨next,?_⟩
      rw [called] at accepted
      cases phase <;> simp [ChestPhase.calls] at accepted ⊢
  subst idle
  obtain ⟨dropped,after,before,holding,called,delayed⟩ := served.drops constant positive (n + 1) requested
  obtain ⟨closed,late,rest,there⟩ := served.closes constant positive (dropped + 1) delayed
  obtain ⟨event,calls⟩ := holding.drops (B.step_state dropped) (by rwa [B.moment_eq dropped])
  obtain ⟨now,read,free,_⟩ := there
  refine ⟨dropped,closed,by omega,by omega,event,calls,⟨now,read,free.state,by simp [free.blocked]⟩,?_⟩
  intro between above below
  rcases Nat.lt_trichotomy between dropped with early | rfl | later
  · obtain ⟨quiet,busy⟩ := before between above early
    exact ⟨busy,fun _ => quiet⟩
  · exact ⟨holding.blocked (by decide),fun other => absurd rfl other⟩
  · obtain ⟨quiet,busy⟩ := rest between later below
    exact ⟨busy,fun _ => quiet⟩

theorem step_resting (E : Engine ℚ) {world : World ℚ} {chest : AChest ℚ}
    (found : world.chests.read ref = some chest) (resting : chest.bTestBoolRotation = false)
    (deltaTime : ℚ) : (machine E).Step world (.chestTick ref deltaTime) [] world := by
  refine ⟨by simp [enabled,found],?_⟩
  rw [chestTick_eq world ref chest E deltaTime found,AChest.tick_resting E chest deltaTime resting,
    withChest_self world ref chest found]

def clocked (E : Engine ℚ) (ref : Nat) : Machine (World ℚ) (Event ℚ) GameCall :=
  (machine E).guard fun _ event => 0 ≤ event.chestTime ref

variable {world : World ℚ}

theorem ChestIn.turned (constant : E.ConstantStep) (positive : 0 < speed) (rotating : phase.rotating = true)
    (ready : world.Ready) (here : world.ChestIn ref speed phase) :
    (clocked E ref).Can (fun target => target.Ready ∧ target.ChestIn ref speed phase.next) world := by
  obtain ⟨chest,found,stands,rfl⟩ := here
  let rest := |chest.targetRotation - chest.lidPivotPitch|/chest.openRotationSpeed
  obtain ⟨target,calls,step,_,after⟩ :=
    ready.step E (.chestTick ref rest) (by simp [enabled,found]) trivial
  have forward : 0 ≤ (Event.chestTick ref rest).chestTime ref := by
    simpa [Event.chestTime] using div_nonneg (abs_nonneg _) positive.le
  have taken : (clocked E ref).Step world (.chestTick ref rest) calls target := ⟨forward,step⟩
  refine .step taken (.now ⟨after,?_⟩)
  rcases step_chest E step found stands with ⟨told,_⟩ | ⟨own,made,moved,later,told,passes,now,_⟩
  · simp [chestEvent] at told
  · obtain ⟨rfl,rfl⟩ : ChestEvent.tick rest = own ∧ [] = made := by simpa [chestEvent] using told
    refine ⟨moved,now,?_,passes.sameSettings.speed⟩
    have there := passes.inPhase stands
    cases passes with
    | armOpening | armClosing | finishOpening | finishClosing => exact there
    | rest _ _ resting => simp [rotating] at resting
    | turn _ _ _ far =>
      rw [turned_arrives constant chest positive] at far
      contradiction

theorem ChestIn.waited (E : Engine ℚ) (waits : phase.timer.isSome = true) (ready : world.Ready)
    (here : world.ChestIn ref speed phase) :
    (clocked E ref).Can (fun target => target.Ready ∧ target.ChestIn ref speed phase.next) world := by
  have fired : ∀ world counter, world.Ready → world.Counting ref speed phase counter →
      ∃ target calls, (clocked E ref).Step world (.chestTimer ref) calls target ∧ target.Ready ∧
        (counter - 1 ≤ 0 ∧ target.ChestIn ref speed phase.next ∨
          ¬ counter - 1 ≤ 0 ∧ target.Counting ref speed phase (counter - 1)) := by
    intro world counter ready counting
    obtain ⟨chest,found,stands,_⟩ := id counting
    obtain ⟨target,calls,step,_,after⟩ :=
      ready.step E (.chestTimer ref) (by simp [enabled,found,stands.timer,waits]) trivial
    exact ⟨target,calls,⟨le_rfl,step⟩,after,counting.fires step⟩
  have counts : ∀ counter world, world.Ready → world.Counting ref speed phase counter →
      (clocked E ref).Can (fun target => target.Ready ∧ target.ChestIn ref speed phase.next) world := by
    intro counter
    induction counter using Countdown.rundown with
    | out counter stops =>
      intro world ready counting
      obtain ⟨target,calls,step,after,⟨_,next⟩ | ⟨goes,_⟩⟩ := fired world counter ready counting
      · exact .step step (.now ⟨after,next⟩)
      · exact absurd stops goes
    | on counter goes ih =>
      intro world ready counting
      obtain ⟨target,calls,step,after,⟨stops,_⟩ | ⟨_,next⟩⟩ := fired world counter ready counting
      · exact absurd stops goes
      · exact .step step (ih target after next)
  obtain ⟨counter,counting⟩ := here.counting
  exact counts counter world ready counting

theorem ChestIn.onward (constant : E.ConstantStep) (positive : 0 < speed) (busy : phase ≠ .idle)
    (ready : world.Ready) (here : world.ChestIn ref speed phase) :
    (clocked E ref).Can (fun target => target.Ready ∧ target.ChestIn ref speed phase.next) world := by
  cases phase with
  | idle => contradiction
  | requested | opening | closeRequested | closing => exact here.turned constant positive rfl ready
  | dropDelay | closeDelay => exact here.waited E rfl ready

theorem ChestIn.to_idle (constant : E.ConstantStep) (positive : 0 < speed) (ready : world.Ready)
    (here : world.ChestIn ref speed phase) :
    (clocked E ref).Can (fun target => target.Ready ∧ target.ChestIn ref speed .idle) world := by
  induction phase using ChestPhase.round generalizing world with
  | idle => exact .now ⟨ready,here⟩
  | before phase busy ih =>
    exact (here.onward constant positive busy ready).trans fun middle there => ih there.1 there.2

/-- A path that a ready world can go on from goes on with service for the chest. -/
theorem served_onward (constant : E.ConstantStep) {start world : World ℚ}
    {history : List (Machine.Moment (World ℚ) (Event ℚ) GameCall)} (initial : start.Init)
    (path : (clocked E ref).Path start history world) (ready : world.Ready) (positive : 0 < speed)
    (here : world.ChestIn ref speed phase) : ∃ B : (machine E).Behaviour, Served B ref ∧
      B.state 0 = start ∧
      ∀ n < history.length, B.moment n = Machine.lasso history world (.chestTick ref 1) n := by
  obtain ⟨later,target,onward,after,rests⟩ := here.to_idle constant positive ready
  obtain ⟨whole,forward⟩ := (path.trans onward).of_guard
  obtain ⟨chest,found,stands,_⟩ := rests
  let B := whole.behaviour (.chestTick ref 1) (step_resting E found stands.rotation 1)
  have beats : (Event.chestTick ref 1).chestTime ref = 1 := by simp [Event.chestTime]
  have begins : B.state 0 = start := whole.behaviour_start _ _
  refine ⟨B,?_,begins,fun n inside => Machine.lasso_append later history target world _ n inside⟩
  refine served_of_atRest E B (by rwa [begins]) ref (later ++ history).length ?_ ?_ ?_
  · intro n
    exact Machine.lasso_forall (P := fun moment => 0 ≤ moment.event.chestTime ref) (later ++ history)
      target _ forward (zero_le_one.trans beats.ge) n
  · intro n late
    rw [show B.moment n = _ from Machine.lasso_rest _ _ _ n late]
    exact beats.ge
  · intro n late now read
    rw [show B.state n = _ from whole.behaviour_state _ _ n late,found] at read
    cases read
    exact stands.timer

theorem press_answered_once : ∃ B : (machine Engine.exact).Behaviour, Served B 0 ∧
    (B.moment 1).event = .interactButtonPressed ∧
    ∃ dropped closed, 1 < dropped ∧ dropped < closed ∧
      (B.moment dropped).event = .chestTimer 0 ∧
      (B.moment dropped).calls = [.dropBall (B.state dropped).balls.fresh] ∧
      (∃ now, (B.state closed).chests.read 0 = some now ∧ now.currentChestState = .ecsClosed ∧
        now.bInteractionHintBlocked = false) ∧
      ∀ between, 1 < between → between < closed →
        (∃ now, (B.state between).chests.read 0 = some now ∧ now.bInteractionHintBlocked = true) ∧
        (between ≠ dropped → chestCalls 0 (B.moment between) = []) := by
  have start : (clocked Engine.exact 0).Path chestLevel [] chestLevel := .refl
  have aimed := Machine.Path.next _ _ (.tick (.tracing (.hitInteractable (.chest 0)))) _ _ start
    ⟨le_rfl,rfl,rfl⟩
  have pressed := Machine.Path.next _ _ .interactButtonPressed _ _ aimed ⟨le_rfl,rfl,rfl⟩
  have ready : World.Ready _ :=
    Machine.Path.invariant ⟨init_sound _ chestLevel_init chestLevel_playable.toWired,rfl⟩
      (fun _ _ _ _ ready step => Ready.kept (E := Engine.exact) ready step) pressed.of_guard.1
  obtain ⟨phase,stands⟩ :=
    run_cycling Engine.exact ((Machine.Run.start _ chestLevel_init).extend pressed.of_guard.1) 0 _ rfl
  obtain ⟨B,served,begins,same⟩ := served_onward Engine.exact_constantStep chestLevel_init pressed ready
    (by norm_num [AChest.new]) ⟨_,rfl,stands,rfl⟩
  have press : B.moment 1 = _ := same 1 (by decide)
  refine ⟨B,served,by rw [press]; rfl,?_⟩
  obtain ⟨chest,found,positive⟩ : ∃ chest, (B.state 1).chests.read 0 = some chest ∧
      0 < chest.openRotationSpeed := by
    rw [Machine.Behaviour.state,press]
    exact ⟨_,rfl,by norm_num [AChest.new]⟩
  exact press_answered Engine.exact Engine.exact_constantStep B (by rw [begins]; exact chestLevel_init) 0
    served 1 chest found positive (by rw [press]; exact List.mem_singleton_self _)

end World

end RetrievingAI
