import Mathlib.Algebra.Order.Field.Basic
import Mathlib.Algebra.Module.Basic
import Mathlib.Tactic.Linarith
import Mathlib.Tactic.Module

/-! Vectors that point the same way, and what a shift of the starting point makes of them. -/

variable (K : Type*) {V : Type*} [Field K] [LinearOrder K] [IsStrictOrderedRing K]
  [AddCommGroup V] [Module K V]

/-- One vector is the other times a positive factor. -/
def SameDirection (a b : V) : Prop := ∃ k : K, 0 < k ∧ b = k • a

namespace SameDirection

variable {K}

theorem refl (a : V) : SameDirection K a a := ⟨1,one_pos,(one_smul K a).symm⟩

omit [IsStrictOrderedRing K] in
theorem smul_iff (s : K) (different : s ≠ 0) (a b : V) :
    SameDirection K (s • a) (s • b) ↔ SameDirection K a b := by
  have cancel : ∀ k : K, s • b = k • s • a ↔ b = k • a := by
    intro k
    rw [smul_comm k s a]
    exact (smul_right_injective V different).eq_iff
  simp only [SameDirection,cancel]

theorem smul_right_iff (k : K) (positive : 0 < k) (a b : V) :
    SameDirection K a (k • b) ↔ SameDirection K a b := by
  constructor
  · intro same
    obtain ⟨factor,above,scaled⟩ := same
    refine ⟨k⁻¹*factor,mul_pos (inv_pos.mpr positive) above,?_⟩
    rw [mul_smul,← scaled,inv_smul_smul₀ positive.ne']
  · intro same
    obtain ⟨factor,above,rfl⟩ := same
    exact ⟨k*factor,mul_pos positive above,(mul_smul k factor a).symm⟩

theorem smul_left_iff (k : K) (positive : 0 < k) (a b : V) :
    SameDirection K (k • a) b ↔ SameDirection K a b := by
  constructor
  · intro same
    obtain ⟨factor,above,rfl⟩ := same
    exact ⟨factor*k,mul_pos above positive,(mul_smul factor k a).symm⟩
  · intro same
    obtain ⟨factor,above,rfl⟩ := same
    refine ⟨factor*k⁻¹,mul_pos above (inv_pos.mpr positive),?_⟩
    rw [mul_smul,inv_smul_smul₀ positive.ne']

/-- A shift of the start keeps the direction of the way left exactly when it goes along that way
and stops short of its end. -/
theorem sub_iff (a v : V) : SameDirection K a (a - v) ↔ ∃ t : K, t < 1 ∧ v = t • a := by
  constructor
  · intro same
    obtain ⟨k,positive,left⟩ := same
    refine ⟨1-k,by linarith,?_⟩
    rw [sub_smul,one_smul,← left,sub_sub_cancel]
  · intro along
    obtain ⟨t,short,rfl⟩ := along
    exact ⟨1-t,by linarith,by rw [sub_smul,one_smul]⟩

end SameDirection
