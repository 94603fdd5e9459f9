import RetrievingAI.Lib.Machine

/-! Steps that may be taken ahead of the steps before them. -/

namespace Machine

variable {σ ε ω : Type*} {M : Machine σ ε ω}

/-- Early events, and the moments that let every early event pass and do so again after it. -/
structure Mover (M : Machine σ ε ω) where
  early : ε → Bool
  fits : Moment σ ε ω → Prop
  swap : ∀ source event calls middle event' calls' target, fits ⟨source,event,calls,middle⟩ →
    M.Step source event calls middle → early event' = true → M.Step middle event' calls' target →
    ∃ between, M.Step source event' calls' between ∧ M.Step between event calls target ∧
      fits ⟨between,event,calls,target⟩

namespace Mover

/-- An early step passes a whole path of moments that fit. -/
theorem pass (V : Mover M) {start middle target : σ} {late : List (Moment σ ε ω)}
    (path : M.Path start late middle) (fit : ∀ moment ∈ late, V.fits moment) (event : ε)
    (calls : List ω) (early : V.early event = true) (step : M.Step middle event calls target) :
    ∃ between later, M.Step start event calls between ∧ M.Path between later target ∧
      (∀ moment ∈ later, V.fits moment) ∧ later.map (·.label) = late.map (·.label) := by
  induction path generalizing target with
  | refl => exact ⟨target,[],step,.refl,by simp,rfl⟩
  | next history source passed calls' middle before taken ih =>
    obtain ⟨here,earlier⟩ := List.forall_mem_cons.mp fit
    obtain ⟨between,ahead,behind,again⟩ := V.swap _ _ _ _ _ _ _ here taken early step
    obtain ⟨first,later,moved,onward,fitting,same⟩ := ih earlier ahead
    refine ⟨first,⟨between,passed,calls',target⟩ :: later,moved,.next _ _ _ _ _ onward behind,?_,?_⟩
    · exact List.forall_mem_cons.mpr ⟨again,fitting⟩
    · rw [List.map_cons,List.map_cons,same]
      rfl

/-- A path takes its early steps first, and then all the others in their own order. -/
theorem sort (V : Mover M) {start target : σ} {history : List (Moment σ ε ω)}
    (path : M.Path start history target)
    (fit : ∀ moment ∈ history, V.early moment.event = false → V.fits moment) :
    ∃ middle early late, M.Path start early middle ∧ M.Path middle late target ∧
      (∀ moment ∈ late, V.fits moment) ∧
      early.map (·.label) = (history.map (·.label)).filter (V.early ·.1) ∧
      late.map (·.label) = (history.map (·.label)).filter (!V.early ·.1) := by
  induction path with
  | refl => exact ⟨start,[],[],.refl,.refl,by simp,rfl,rfl⟩
  | next history source event calls target before step ih =>
    obtain ⟨here,earlier⟩ := List.forall_mem_cons.mp fit
    obtain ⟨middle,early,late,ahead,behind,fitting,sooner,later⟩ := ih earlier
    cases first : V.early event with
    | true =>
      obtain ⟨between,late',moved,onward,fitting',same⟩ := V.pass behind fitting event calls first step
      refine ⟨between,⟨middle,event,calls,between⟩ :: early,late',.next _ _ _ _ _ ahead moved,onward,
        fitting',?_,?_⟩
      · rw [List.map_cons,List.map_cons,sooner]
        exact (List.filter_cons_of_pos (by simp [Moment.label,first])).symm
      · rw [same,later,List.map_cons]
        exact (List.filter_cons_of_neg (by simp [Moment.label,first])).symm
    | false =>
      refine ⟨middle,early,⟨source,event,calls,target⟩ :: late,ahead,.next _ _ _ _ _ behind step,?_,?_,?_⟩
      · exact List.forall_mem_cons.mpr ⟨here first,fitting⟩
      · rw [sooner,List.map_cons]
        exact (List.filter_cons_of_neg (by simp [Moment.label,first])).symm
      · rw [List.map_cons,List.map_cons,later]
        exact (List.filter_cons_of_pos (by simp [Moment.label,first])).symm

end Mover

end Machine
