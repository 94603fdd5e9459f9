import RetrievingAI.Lib.Machine
import Mathlib.Algebra.Order.BigOperators.Group.Finset
import Mathlib.Algebra.BigOperators.Intervals

/-! Behaviours of a machine that never end, and what waiting for something that will happen brings. -/
namespace Machine

variable {σ ε ω : Type*} {M : Machine σ ε ω}

structure Behaviour (M : Machine σ ε ω) where
  moment : Nat → Moment σ ε ω
  step : ∀ n, M.Step (moment n).source (moment n).event (moment n).calls (moment n).target
  joined : ∀ n, (moment n).target = (moment (n + 1)).source

namespace Behaviour

def state (B : Behaviour M) (n : Nat) : σ := (B.moment n).source

theorem step_state (B : Behaviour M) (n : Nat) :
    M.Step (B.state n) (B.moment n).event (B.moment n).calls (B.state (n + 1)) := by
  have step := B.step n
  rwa [B.joined n] at step

theorem moment_eq (B : Behaviour M) (n : Nat) :
    ⟨B.state n,(B.moment n).event,(B.moment n).calls,B.state (n + 1)⟩ = B.moment n := by
  rw [state,state,← B.joined n]

theorem path (B : Behaviour M) (n : Nat) :
    ∃ history, M.Path (B.state 0) history (B.state n) := by
  induction n with
  | zero => exact ⟨[],.refl⟩
  | succ n ih =>
    obtain ⟨history,before⟩ := ih
    exact ⟨_,.next _ _ _ _ _ before (B.step_state n)⟩

/-- What holds until something happens that is bound to happen holds when it first happens. -/
theorem waits (B : Behaviour M) {P : σ → Prop} {H : Moment σ ε ω → Prop}
    (keeps : ∀ n, P (B.state n) → ¬ H (B.moment n) → P (B.state (n + 1)))
    (bound : ∀ n, P (B.state n) → ∃ later ≥ n, H (B.moment later)) (first : Nat)
    (holds : P (B.state first)) :
    ∃ later ≥ first, H (B.moment later) ∧ P (B.state later) ∧
      ∀ n ≥ first, n < later → P (B.state n) ∧ ¬ H (B.moment n) := by
  obtain ⟨last,after,done⟩ := bound first holds
  obtain ⟨rest,rfl⟩ := Nat.exists_eq_add_of_le after
  clear after
  induction rest generalizing first with
  | zero =>
    refine ⟨first,le_rfl,done,holds,?_⟩
    intro n above below
    omega
  | succ rest ih =>
    by_cases now : H (B.moment first)
    · refine ⟨first,le_rfl,now,holds,?_⟩
      intro n above below
      omega
    · obtain ⟨later,after,done,here,before⟩ :=
        ih (first + 1) (keeps first holds now) (by rwa [Nat.add_assoc,Nat.add_comm 1])
      refine ⟨later,by omega,done,here,?_⟩
      intro n above below
      by_cases same : n = first
      · rw [same]
        exact ⟨holds,now⟩
      · exact before n (by omega) below

/-- What does not last for ever ends with some moment, and holds up to it. -/
theorem leaves (B : Behaviour M) {P : σ → Prop}
    (ends : ∀ n, P (B.state n) → ∃ later ≥ n, ¬ P (B.state later)) (first : Nat)
    (holds : P (B.state first)) :
    ∃ last ≥ first, ¬ P (B.state (last + 1)) ∧ ∀ n ≥ first, n ≤ last → P (B.state n) := by
  obtain ⟨last,after,left,here,before⟩ := B.waits (P := P) (H := fun moment => ¬ P moment.target)
    (fun n _ stays => by simpa [B.joined n,state] using stays)
    (fun n now => by
      obtain ⟨later,after,gone⟩ := ends n now
      obtain ⟨rest,rfl⟩ := Nat.exists_eq_add_of_le after
      cases rest with
      | zero => exact absurd now gone
      | succ rest => exact ⟨n + rest,by omega,by rwa [B.joined (n + rest)]⟩)
    first holds
  refine ⟨last,after,by rwa [B.joined last] at left,?_⟩
  intro n above below
  rcases Nat.lt_or_eq_of_le below with early | rfl
  · exact (before n above early).1
  · exact here

section Spending

variable {K : Type*} [AddCommGroup K] [LinearOrder K] [IsOrderedAddMonoid K]

/-- What the events from one time to another cost together. -/
def spent (B : Behaviour M) (cost : ε → K) (first later : Nat) : K :=
  ∑ n ∈ Finset.Ico first later, cost (B.moment n).event

/-- What lives on a budget ends where the costs pass every bound. -/
theorem ends (B : Behaviour M) {P : σ → Prop} (cost : ε → K) (left : σ → K)
    (inside : ∀ state, 0 ≤ left state)
    (pays : ∀ n, P (B.state n) → P (B.state (n + 1)) →
      left (B.state (n + 1)) + cost (B.moment n).event ≤ left (B.state n))
    (unbounded : ∀ n budget, ∃ later ≥ n, budget < B.spent cost n later) (first : Nat) :
    ∃ later ≥ first, ¬ P (B.state later) := by
  by_contra always
  push Not at always
  have within : ∀ later ≥ first,
      left (B.state later) + B.spent cost first later ≤ left (B.state first) := by
    intro later after
    induction later,after using Nat.le_induction with
    | base => simp [spent]
    | succ later after ih =>
      have paid := pays later (always later after) (always (later + 1) (by omega))
      calc left (B.state (later + 1)) + B.spent cost first (later + 1)
          = left (B.state (later + 1)) + cost (B.moment later).event + B.spent cost first later := by
            rw [spent,Finset.sum_Ico_succ_top after,add_comm _ (cost _),← add_assoc]
            rfl
        _ ≤ left (B.state later) + B.spent cost first later := add_le_add_left paid _
        _ ≤ left (B.state first) := ih
  obtain ⟨later,after,much⟩ := unbounded first (left (B.state first))
  have left := (le_add_of_nonneg_left (inside (B.state later))).trans (within later after)
  exact absurd left (not_le.mpr much)

end Spending

end Behaviour

/-- The moments of a path, oldest first, and then the last state for ever. -/
def lasso (history : List (Moment σ ε ω)) (state : σ) (idle : ε) (n : Nat) : Moment σ ε ω :=
  history.reverse.getD n ⟨state,idle,[],state⟩

theorem lasso_rest (history : List (Moment σ ε ω)) (state : σ) (idle : ε) (n : Nat)
    (beyond : history.length ≤ n) : lasso history state idle n = ⟨state,idle,[],state⟩ := by
  rw [lasso,List.getD_eq_getElem?_getD,List.getElem?_eq_none (by simpa using beyond)]
  rfl

theorem lasso_forall {P : Moment σ ε ω → Prop} (history : List (Moment σ ε ω)) (state : σ) (idle : ε)
    (holds : ∀ moment ∈ history, P moment) (rest : P ⟨state,idle,[],state⟩) (n : Nat) :
    P (lasso history state idle n) := by
  rw [lasso,List.getD_eq_getElem?_getD]
  cases read : history.reverse[n]? with
  | none => exact rest
  | some moment => exact holds moment (List.mem_reverse.mp (List.mem_of_getElem? read))

theorem lasso_append (later earlier : List (Moment σ ε ω)) (state other : σ) (idle : ε) (n : Nat)
    (before : n < earlier.length) :
    lasso (later ++ earlier) state idle n = lasso earlier other idle n := by
  simp [lasso,List.getD_eq_getElem?_getD,List.getElem?_append,before]

theorem lasso_cons (moment : Moment σ ε ω) (history : List (Moment σ ε ω)) (state : σ) (idle : ε)
    (n : Nat) (before : n < history.length) :
    lasso (moment :: history) state idle n = lasso history moment.source idle n :=
  lasso_append [moment] history state moment.source idle n before

theorem lasso_last (moment : Moment σ ε ω) (history : List (Moment σ ε ω)) (state : σ) (idle : ε) :
    lasso (moment :: history) state idle history.length = moment := by
  simp [lasso,List.getD_eq_getElem?_getD]

theorem Path.lasso_joined {start state : σ} {history : List (Moment σ ε ω)}
    (path : M.Path start history state) (idle : ε) (n : Nat) :
    (lasso history state idle n).target = (lasso history state idle (n + 1)).source := by
  induction path with
  | refl => rfl
  | next history middle event calls target before step ih =>
    rcases Nat.lt_trichotomy n history.length with below | rfl | above
    · rw [lasso_cons _ _ _ _ _ below,ih]
      rcases Nat.lt_or_eq_of_le (Nat.succ_le_of_lt below) with below | last
      · rw [lasso_cons _ _ _ _ _ below]
      · rw [lasso_rest _ _ _ _ last.ge,← Nat.succ_eq_add_one,last,lasso_last]
    · rw [lasso_last,lasso_rest _ _ _ _ (by simp)]
    · have after := Nat.succ_le_of_lt above
      rw [lasso_rest _ _ _ _ after,lasso_rest _ _ _ _ (Nat.le_succ_of_le after)]

theorem Path.lasso_start {start state : σ} {history : List (Moment σ ε ω)}
    (path : M.Path start history state) (idle : ε) : (lasso history state idle 0).source = start := by
  induction path with
  | refl => rfl
  | next history middle event calls target before step ih =>
    cases before with
    | refl => rfl
    | next earlier =>
      rw [lasso_cons _ _ _ _ _ (Nat.succ_pos _)]
      exact ih

/-- A path to a state that can stay as it is goes on for ever. -/
def Path.behaviour {start state : σ} {history : List (Moment σ ε ω)}
    (path : M.Path start history state) (idle : ε) (still : M.Step state idle [] state) :
    Behaviour M where
  moment := lasso history state idle
  step n := by
    by_cases beyond : history.length ≤ n
    · rw [lasso_rest _ _ _ _ beyond]
      exact still
    · have inside : n < history.reverse.length := by simpa using beyond
      have there : lasso history state idle n = history.reverse[n] := by
        rw [lasso,List.getD_eq_getElem?_getD,List.getElem?_eq_getElem inside]
        rfl
      rw [there]
      exact (path.step_of_mem _ (List.mem_reverse.mp (List.getElem_mem inside))).2
  joined := path.lasso_joined idle

theorem Path.behaviour_state {start state : σ} {history : List (Moment σ ε ω)}
    (path : M.Path start history state) (idle : ε) (still : M.Step state idle [] state) (n : Nat)
    (beyond : history.length ≤ n) : (path.behaviour idle still).state n = state :=
  congrArg Moment.source (lasso_rest history state idle n beyond)

theorem Path.behaviour_start {start state : σ} {history : List (Moment σ ε ω)}
    (path : M.Path start history state) (idle : ε) (still : M.Step state idle [] state) :
    (path.behaviour idle still).state 0 = start := path.lasso_start idle

end Machine
