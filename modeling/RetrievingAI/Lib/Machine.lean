import Mathlib.Data.List.Basic
import Mathlib.Data.Set.Basic
import Mathlib.Logic.Basic

/-! Labelled transition machines whose steps emit observable calls.
Histories list their moments with the most recent first. -/

structure Machine (σ ε ω : Type*) where
  Init : σ → Prop
  Step : σ → ε → List ω → σ → Prop

namespace Machine

variable {σ ε ω τ δ ψ φ : Type*}

structure Moment (σ ε ω : Type*) where
  source : σ
  event : ε
  calls : List ω
  target : σ

def Moment.label (moment : Moment σ ε ω) : ε × List ω := (moment.event,moment.calls)

/-- A machine whose step function may fault: a faulting event has no successor. -/
def ofFallible (init : σ → Prop) (enabled : σ → ε → Prop)
    (step : σ → ε → Except φ (σ × List ω)) : Machine σ ε ω where
  Init := init
  Step source event calls target := enabled source event ∧ step source event = .ok (target,calls)

inductive Path (M : Machine σ ε ω) (start : σ) : List (Moment σ ε ω) → σ → Prop
  | refl : Path M start [] start
  | next (history middle event calls target) (before : Path M start history middle)
      (step : M.Step middle event calls target) :
      Path M start (⟨middle,event,calls,target⟩ :: history) target

inductive Run (M : Machine σ ε ω) : List (Moment σ ε ω) → σ → Prop
  | start (state) (initial : M.Init state) : Run M [] state
  | next (history source event calls target) (before : Run M history source)
      (step : M.Step source event calls target) :
      Run M (⟨source,event,calls,target⟩ :: history) target

def Reachable (M : Machine σ ε ω) (state : σ) : Prop := ∃ history, M.Run history state

def calls (history : List (Moment σ ε ω)) : List ω := history.flatMap (·.calls)

/-- A property of every state that a run visited. -/
def Throughout (P : σ → Prop) (history : List (Moment σ ε ω)) (state : σ) : Prop :=
  P state ∧ ∀ moment ∈ history, P moment.source

/-- The machine whose runs start only in states with a property. -/
def starting (M : Machine σ ε ω) (P : σ → Prop) : Machine σ ε ω where
  Init state := M.Init state ∧ P state
  Step := M.Step

/-- The machine that takes only the steps meeting a condition on the state before. -/
def guard (M : Machine σ ε ω) (condition : σ → ε → Prop) : Machine σ ε ω where
  Init := M.Init
  Step source event calls target := condition source event ∧ M.Step source event calls target

@[simp] theorem calls_nil : calls ([] : List (Moment σ ε ω)) = [] := rfl

@[simp] theorem calls_cons (moment : Moment σ ε ω) (history : List (Moment σ ε ω)) :
    calls (moment :: history) = moment.calls ++ calls history := by
  simp [calls]

@[simp] theorem calls_append (later earlier : List (Moment σ ε ω)) :
    calls (later ++ earlier) = calls later ++ calls earlier := by
  simp [calls]

theorem throughout_cons (P : σ → Prop) (moment : Moment σ ε ω) (history : List (Moment σ ε ω))
    (state : σ) : Throughout P (moment :: history) state ↔
      P state ∧ Throughout P history moment.source := by
  simp [Throughout]

theorem Path.trans {M : Machine σ ε ω} {start middle target : σ}
    {first second : List (Moment σ ε ω)} (before : M.Path start first middle)
    (after : M.Path middle second target) : M.Path start (second ++ first) target := by
  induction after with
  | refl => exact before
  | next history state event calls target _ step ih => exact .next _ _ _ _ _ ih step

theorem Path.single {M : Machine σ ε ω} {source target : σ} {event : ε} {calls : List ω}
    (step : M.Step source event calls target) :
    M.Path source [⟨source,event,calls,target⟩] target :=
  .next _ _ _ _ _ .refl step

theorem Path.invariant {M : Machine σ ε ω} {P : σ → Prop} {start state : σ}
    {history : List (Moment σ ε ω)} (begins : P start)
    (preserved : ∀ source event calls target, P source → M.Step source event calls target → P target)
    (path : M.Path start history state) : P state := by
  induction path with
  | refl => exact begins
  | next history source event calls target _ step ih =>
    exact preserved source event calls target ih step

theorem Path.step_of_mem {M : Machine σ ε ω} {start state : σ} {history : List (Moment σ ε ω)}
    (path : M.Path start history state) (moment : Moment σ ε ω) (member : moment ∈ history) :
    (∃ earlier, M.Path start earlier moment.source) ∧
      M.Step moment.source moment.event moment.calls moment.target := by
  induction path with
  | refl => contradiction
  | next history source event calls target before step ih =>
    rcases List.mem_cons.mp member with rfl | inside
    · exact ⟨⟨history,before⟩,step⟩
    · exact ih inside

/-- Every moment of a path is a step taken from a state that the path reached before it. -/
theorem Path.moment {M : Machine σ ε ω} {start state : σ} {history : List (Moment σ ε ω)}
    (path : M.Path start history state) (moment : Moment σ ε ω) (earlier : List (Moment σ ε ω))
    (suffix : (moment :: earlier) <:+ history) :
    M.Path start earlier moment.source ∧
      M.Step moment.source moment.event moment.calls moment.target := by
  induction path with
  | refl => simp at suffix
  | next history source event calls target before step ih =>
    rcases List.suffix_cons_iff.mp suffix with same | inside
    · obtain ⟨rfl,rfl⟩ := List.cons.inj same
      exact ⟨before,step⟩
    · exact ih inside

theorem Path.of_guard {M : Machine σ ε ω} {condition : σ → ε → Prop} {start state : σ}
    {history : List (Moment σ ε ω)} (path : (M.guard condition).Path start history state) :
    M.Path start history state ∧ ∀ moment ∈ history, condition moment.source moment.event := by
  induction path with
  | refl => exact ⟨.refl,by simp⟩
  | next history source event calls target before step ih =>
    exact ⟨.next _ _ _ _ _ ih.1 step.2,List.forall_mem_cons.mpr ⟨step.1,ih.2⟩⟩

theorem Run.extend {M : Machine σ ε ω} {earlier later : List (Moment σ ε ω)} {middle target : σ}
    (run : M.Run earlier middle) (path : M.Path middle later target) :
    M.Run (later ++ earlier) target := by
  induction path with
  | refl => exact run
  | next history state event calls target _ step ih => exact .next _ _ _ _ _ ih step

theorem Run.path {M : Machine σ ε ω} {history : List (Moment σ ε ω)} {state : σ}
    (run : M.Run history state) : ∃ start, M.Init start ∧ M.Path start history state := by
  induction run with
  | start state begins => exact ⟨state,begins,.refl⟩
  | next history source event calls target _ step ih =>
    obtain ⟨start,begins,path⟩ := ih
    exact ⟨start,begins,.next _ _ _ _ _ path step⟩

/-- What holds initially and survives every step holds of every reached state. -/
theorem Run.invariant {M : Machine σ ε ω} {P : σ → Prop} (initial : ∀ state, M.Init state → P state)
    (preserved : ∀ source event calls target, P source → M.Step source event calls target → P target)
    {history : List (Moment σ ε ω)} {state : σ} (run : M.Run history state) : P state := by
  obtain ⟨start,begins,path⟩ := run.path
  exact path.invariant (initial start begins) preserved

/-- Every moment of a run is a step taken from a state the run reached before it. -/
theorem Run.moment {M : Machine σ ε ω} {history : List (Moment σ ε ω)} {state : σ}
    (run : M.Run history state) (moment : Moment σ ε ω) (earlier : List (Moment σ ε ω))
    (suffix : (moment :: earlier) <:+ history) :
    M.Run earlier moment.source ∧ M.Step moment.source moment.event moment.calls moment.target := by
  obtain ⟨start,begins,path⟩ := run.path
  obtain ⟨before,step⟩ := path.moment moment earlier suffix
  exact ⟨by simpa using (Run.start start begins).extend before,step⟩

theorem Run.step_of_mem {M : Machine σ ε ω} {history : List (Moment σ ε ω)} {state : σ}
    (run : M.Run history state) (moment : Moment σ ε ω) (member : moment ∈ history) :
    M.Reachable moment.source ∧ M.Step moment.source moment.event moment.calls moment.target := by
  obtain ⟨start,begins,path⟩ := run.path
  obtain ⟨⟨earlier,before⟩,step⟩ := path.step_of_mem moment member
  have reached := (Run.start start begins).extend before
  exact ⟨⟨_,reached⟩,step⟩

theorem Run.of_starting {M : Machine σ ε ω} {P : σ → Prop} {history : List (Moment σ ε ω)}
    {state : σ} (run : (M.starting P).Run history state) : M.Run history state := by
  induction run with
  | start state begins => exact .start _ begins.1
  | next history source event calls target _ step ih => exact .next _ _ _ _ _ ih step

/-- Where one step keeps a property exactly when its condition is met, a run keeps it
throughout exactly when all its steps meet the condition. -/
theorem Run.exact {M : Machine σ ε ω} {I P : σ → Prop} {condition : σ → ε → Prop}
    (always : ∀ state, M.Reachable state → I state)
    (initial : ∀ state, M.Init state → P state)
    (decided : ∀ source event calls target, I source → P source →
      M.Step source event calls target → (P target ↔ condition source event))
    {history : List (Moment σ ε ω)} {state : σ} (run : M.Run history state) :
    Throughout P history state ↔ ∀ moment ∈ history, condition moment.source moment.event := by
  induction run with
  | start state begins => simp [Throughout,initial state begins]
  | next history source event calls target run step ih =>
    have here := decided source event calls target (always source ⟨history,run⟩)
    rw [throughout_cons,List.forall_mem_cons]
    constructor
    · intro visited
      obtain ⟨kept,earlier⟩ := visited
      exact ⟨(here earlier.1 step).mp kept,ih.mp earlier⟩
    · intro given
      obtain ⟨met,earlier⟩ := given
      have held := ih.mpr earlier
      exact ⟨(here held.1 step).mpr met,held⟩

/-- Forward simulation: a concrete step is answered by a path of the abstract machine that
makes the calls the view keeps, in either machine's own order. -/
structure Simulation (C : Machine σ ε ω) (A : Machine τ δ ψ) (view : ω → Option ψ) where
  R : σ → τ → Prop
  init : ∀ state, C.Init state → ∃ image, A.Init image ∧ R state image
  step : ∀ source event calls target image, R source image → C.Step source event calls target →
    ∃ answer moved, A.Path image answer moved ∧ R target moved ∧
      Machine.calls answer = calls.filterMap view

theorem Simulation.run {C : Machine σ ε ω} {A : Machine τ δ ψ} {view : ω → Option ψ}
    (S : Simulation C A view) {history : List (Moment σ ε ω)} {state : σ} (run : C.Run history state) :
    ∃ mirrored image, A.Run mirrored image ∧ S.R state image ∧
      Machine.calls mirrored = (Machine.calls history).filterMap view := by
  induction run with
  | start state begins =>
    obtain ⟨image,starts,related⟩ := S.init state begins
    exact ⟨[],image,.start _ starts,related,rfl⟩
  | next history source event calls target run step ih =>
    obtain ⟨mirrored,image,mirror,related,same⟩ := ih
    obtain ⟨answer,moved,answered,kept,emitted⟩ := S.step source event calls target image related step
    refine ⟨answer ++ mirrored,moved,mirror.extend answered,kept,?_⟩
    rw [calls_append,calls_cons,List.filterMap_append,emitted,same]

/-- The simulation of a path, from any related pair of states. -/
theorem Simulation.path {C : Machine σ ε ω} {A : Machine τ δ ψ} {view : ω → Option ψ}
    (S : Simulation C A view) {start state : σ} {image : τ} {history : List (Moment σ ε ω)}
    (related : S.R start image) (path : C.Path start history state) :
    ∃ mirrored moved, A.Path image mirrored moved ∧ S.R state moved ∧
      Machine.calls mirrored = (Machine.calls history).filterMap view := by
  induction path with
  | refl => exact ⟨[],image,.refl,related,rfl⟩
  | next history source event calls target before step ih =>
    obtain ⟨mirrored,middle,mirror,here,same⟩ := ih
    obtain ⟨answer,moved,answered,kept,emitted⟩ := S.step source event calls target middle here step
    refine ⟨answer ++ mirrored,moved,mirror.trans answered,kept,?_⟩
    rw [calls_append,calls_cons,List.filterMap_append,emitted,same]

section Possibility

variable {M : Machine σ ε ω} {P : σ → Prop}

/-- Some continuation reaches the property. -/
def Can (M : Machine σ ε ω) (P : σ → Prop) (state : σ) : Prop :=
  ∃ history target, M.Path state history target ∧ P target

theorem Can.now {state : σ} (holds : P state) : M.Can P state := ⟨[],state,.refl,holds⟩

theorem Can.after {start state : σ} {history : List (Moment σ ε ω)}
    (path : M.Path start history state) (can : M.Can P state) : M.Can P start := by
  obtain ⟨later,target,onward,holds⟩ := can
  exact ⟨later ++ history,target,path.trans onward,holds⟩

theorem Can.step {source target : σ} {event : ε} {calls : List ω}
    (step : M.Step source event calls target) (can : M.Can P target) : M.Can P source :=
  can.after (.single step)

theorem Can.trans {Q : σ → Prop} {state : σ} (can : M.Can P state)
    (onward : ∀ middle, P middle → M.Can Q middle) : M.Can Q state := by
  obtain ⟨history,middle,path,holds⟩ := can
  exact (onward middle holds).after path

/-- Some continuation makes these calls, of those that the view keeps, and reaches the property. -/
def Makes (M : Machine σ ε ω) (view : ω → Option ψ) (made : List ψ) (P : σ → Prop) (state : σ) : Prop :=
  ∃ history target, M.Path state history target ∧ (Machine.calls history).filterMap view = made ∧ P target

variable {view : ω → Option ψ} {made : List ψ}

theorem Makes.now {state : σ} (holds : P state) : M.Makes view [] P state := ⟨[],state,.refl,rfl,holds⟩

theorem Makes.trans {Q : σ → Prop} {more : List ψ} {state : σ} (makes : M.Makes view made P state)
    (onward : ∀ middle, P middle → M.Makes view more Q middle) : M.Makes view (more ++ made) Q state := by
  obtain ⟨history,middle,path,same,holds⟩ := makes
  obtain ⟨later,target,after,emitted,reached⟩ := onward middle holds
  refine ⟨later ++ history,target,path.trans after,?_,reached⟩
  rw [calls_append,List.filterMap_append,same,emitted]

theorem Makes.mono {Q : σ → Prop} {state : σ} (makes : M.Makes view made P state)
    (weaker : ∀ target, P target → Q target) : M.Makes view made Q state := by
  obtain ⟨history,target,path,same,holds⟩ := makes
  exact ⟨history,target,path,same,weaker target holds⟩

/-- What is made after a silent continuation. -/
theorem Makes.after {Q : σ → Prop} {state : σ} (makes : M.Makes view [] P state)
    (onward : ∀ middle, P middle → M.Makes view made Q middle) : M.Makes view made Q state := by
  simpa using makes.trans onward

theorem Makes.step {source target : σ} {event : ε} {calls : List ω}
    (step : M.Step source event calls target) (makes : M.Makes view made P target) :
    M.Makes view (made ++ calls.filterMap view) P source := by
  have begins : M.Makes view (calls.filterMap view) (· = target) source :=
    ⟨_,target,.single step,by simp,rfl⟩
  refine begins.trans ?_
  intro middle same
  rwa [same]

theorem Makes.silent {source target : σ} {event : ε} {calls : List ω}
    (step : M.Step source event calls target) (unseen : calls.filterMap view = [])
    (makes : M.Makes view made P target) : M.Makes view made P source := by
  have begun := makes.step step
  rwa [unseen,List.append_nil] at begun

/-- What every step keeps still holds where a continuation ends. -/
theorem Makes.keeping {I : σ → Prop} {state : σ} (makes : M.Makes view made P state) (begins : I state)
    (preserved : ∀ source event calls target, I source → M.Step source event calls target → I target) :
    M.Makes view made (fun target => I target ∧ P target) state := by
  obtain ⟨history,target,path,same,holds⟩ := makes
  exact ⟨history,target,path,same,path.invariant begins preserved,holds⟩

theorem Makes.can {state : σ} (makes : M.Makes view made P state) : M.Can P state := by
  obtain ⟨history,target,path,_,holds⟩ := makes
  exact ⟨history,target,path,holds⟩

/-- The lists of calls, as far as the view keeps them, that a state can still give rise to. -/
def traces (M : Machine σ ε ω) (view : ω → Option ψ) (state : σ) : Set (List ψ) :=
  {made | M.Makes view made (fun _ => True) state}

theorem traces_starting (I : σ → Prop) (state : σ) :
    (M.starting I).traces view state = M.traces view state := by
  have path_starting : ∀ history target,
      (M.starting I).Path state history target ↔ M.Path state history target := by
    intro history target
    constructor
    · intro path
      induction path with
      | refl => exact .refl
      | next _ _ _ _ _ _ step ih => exact .next _ _ _ _ _ ih step
    · intro path
      induction path with
      | refl => exact .refl
      | next _ _ _ _ _ _ step ih => exact .next _ _ _ _ _ ih step
  simp [traces,Makes,path_starting]

/-- The other direction of a simulation: the concrete machine can make every abstract step, with the
same calls as far as the view keeps them. -/
structure Realisation (A : Machine τ δ ψ) (C : Machine σ ε ω) (view : ω → Option ψ) where
  R : τ → σ → Prop
  step : ∀ source event calls target state, R source state → A.Step source event calls target →
    C.Makes view calls (R target) state

theorem Realisation.path {A : Machine τ δ ψ} {C : Machine σ ε ω} (B : Realisation A C view)
    {image moved : τ} {state : σ} {moves : List (Moment τ δ ψ)} (related : B.R image state)
    (path : A.Path image moves moved) : C.Makes view (Machine.calls moves) (B.R moved) state := by
  induction path with
  | refl => exact .now related
  | next history source event calls target before step ih =>
    rw [calls_cons]
    exact ih.trans fun middle here => B.step source event calls target middle here step

theorem Simulation.traces_subset {A : Machine τ δ ψ} {C : Machine σ ε ω} (S : Simulation C A view)
    {state : σ} {image : τ} (related : S.R state image) : C.traces view state ⊆ A.traces some image := by
  intro made makes
  obtain ⟨history,target,path,same,_⟩ := makes
  obtain ⟨mirrored,moved,mirror,_,emitted⟩ := S.path related path
  exact ⟨mirrored,moved,mirror,by rw [List.filterMap_some,emitted,same],trivial⟩

theorem Realisation.traces_subset {A : Machine τ δ ψ} {C : Machine σ ε ω} (B : Realisation A C view)
    {state : σ} {image : τ} (related : B.R image state) : A.traces some image ⊆ C.traces view state := by
  intro made makes
  obtain ⟨moves,moved,path,same,_⟩ := makes
  obtain ⟨history,target,answer,emitted,_⟩ := B.path related path
  rw [List.filterMap_some] at same
  exact ⟨history,target,answer,emitted.trans same,trivial⟩

end Possibility

section Determinism

/-- An event leads from a state to one state only, with one list of calls. -/
def Deterministic (M : Machine σ ε ω) : Prop :=
  ∀ source event calls target calls' target', M.Step source event calls target →
    M.Step source event calls' target' → calls' = calls ∧ target' = target

theorem ofFallible_deterministic (init : σ → Prop) (enabled : σ → ε → Prop)
    (step : σ → ε → Except φ (σ × List ω)) : (ofFallible init enabled step).Deterministic := by
  intro source event calls target calls' target' one other
  have same := Except.ok.inj (other.2.symm.trans one.2)
  exact ⟨congrArg Prod.snd same,congrArg Prod.fst same⟩

theorem Path.deterministic {M : Machine σ ε ω} (deterministic : M.Deterministic) {start state : σ}
    {history : List (Moment σ ε ω)} (path : M.Path start history state) :
    ∀ (history' : List (Moment σ ε ω)) (state' : σ), M.Path start history' state' →
      history'.map (·.event) = history.map (·.event) → history' = history ∧ state' = state := by
  induction path with
  | refl =>
    intro history' state' other same
    cases other with
    | refl => exact ⟨rfl,rfl⟩
    | next => contradiction
  | next history source event calls target before step ih =>
    intro history' state' other same
    cases other with
    | refl => contradiction
    | next earlier middle event' calls' target' before' step' =>
      obtain ⟨same,rest⟩ := List.cons.inj same
      obtain ⟨rfl,rfl⟩ := ih earlier middle before' rest
      cases same
      obtain ⟨rfl,rfl⟩ := deterministic _ _ _ _ _ _ step step'
      exact ⟨rfl,rfl⟩

end Determinism

end Machine
