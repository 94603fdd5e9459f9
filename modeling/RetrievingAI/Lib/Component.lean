import RetrievingAI.Lib.Machine

/-! A part of a machine's state that moves only by steps of a machine of its own. -/

namespace Machine

variable {σ ε ω τ δ ψ : Type*}

/-- The part, and what the part sees of a moment of the whole: nothing, or a moment of its own. -/
structure Component (C : Machine σ ε ω) (A : Machine τ δ ψ) where
  part : σ → Option τ
  own : Moment σ ε ω → Option (Moment τ δ ψ)
  still : ∀ moment piece, C.Step moment.source moment.event moment.calls moment.target →
    part moment.source = some piece → own moment = none → part moment.target = some piece
  moves : ∀ moment piece taken, C.Step moment.source moment.event moment.calls moment.target →
    part moment.source = some piece → own moment = some taken → taken.source = piece ∧
      A.Step taken.source taken.event taken.calls taken.target ∧ part moment.target = some taken.target

namespace Component

variable {C : Machine σ ε ω} {A : Machine τ δ ψ}

/-- A path of the whole, seen from the part, is a path of the part. -/
theorem path (K : Component C A) {start state : σ} {history : List (Moment σ ε ω)}
    (path : C.Path start history state) (piece : τ) (there : K.part start = some piece) :
    ∃ now, K.part state = some now ∧ A.Path piece (history.filterMap K.own) now := by
  induction path with
  | refl => exact ⟨piece,there,.refl⟩
  | next history source event calls target before step ih =>
    obtain ⟨now,here,walked⟩ := ih
    cases seen : K.own ⟨source,event,calls,target⟩ with
    | none =>
      refine ⟨now,K.still _ now step here seen,?_⟩
      rwa [List.filterMap_cons_none seen]
    | some taken =>
      obtain ⟨same,moved,after⟩ := K.moves _ now taken step here seen
      refine ⟨taken.target,after,?_⟩
      rw [List.filterMap_cons_some seen]
      subst same
      exact .next _ _ _ _ _ walked moved

end Component

end Machine
