import Mathlib.Algebra.Order.Field.Basic
import Mathlib.Order.Interval.Set.UnorderedInterval
import Mathlib.Tactic.Linarith
import Mathlib.Tactic.Ring

/-! A value that moves towards a target by a bounded step and never passes it. -/

variable {K : Type*} [Field K] [LinearOrder K] [IsStrictOrderedRing K]

/-- The value reached from `current` when it moves towards `target` by at most `step`. -/
def approach (current target step : K) : K := current + max (-step) (min (target-current) step)

namespace Approach

theorem approach_of_le (current target step : K) (up : current ≤ target) (forward : 0 ≤ step) :
    approach current target step = current + min (target-current) step := by
  have gain : 0 ≤ min (target-current) step := le_min (by linarith) forward
  rw [approach,max_eq_right (by linarith)]

theorem approach_of_ge (current target step : K) (down : target ≤ current) (forward : 0 ≤ step) :
    approach current target step = current + max (-step) (target-current) := by
  rw [approach,min_eq_left (by linarith)]

theorem approach_mem_uIcc (current target step : K) (forward : 0 ≤ step) :
    approach current target step ∈ Set.uIcc current target := by
  rcases le_total current target with up | down
  · rw [approach_of_le current target step up forward]
    have gain : 0 ≤ min (target-current) step := le_min (by linarith) forward
    have bound : min (target-current) step ≤ target-current := min_le_left _ _
    exact Set.mem_uIcc_of_le (by linarith) (by linarith)
  · rw [approach_of_ge current target step down forward]
    have loss : max (-step) (target-current) ≤ 0 := max_le (by linarith) (by linarith)
    have bound : target-current ≤ max (-step) (target-current) := le_max_right _ _
    exact Set.mem_uIcc_of_ge (by linarith) (by linarith)

theorem abs_approach_sub_le (current target step : K) (forward : 0 ≤ step) :
    |approach current target step - current| ≤ step := by
  rw [approach,add_sub_cancel_left,abs_le]
  constructor
  · exact le_max_left _ _
  · exact max_le (by linarith) (min_le_right _ _)

/-- What is left of the way shrinks by the whole step, or is used up. -/
theorem abs_sub_approach_le (current target step : K) (forward : 0 ≤ step) :
    |target - approach current target step| ≤ max 0 (|target-current| - step) := by
  rcases le_total current target with up | down
  · rw [approach_of_le current target step up forward,abs_of_nonneg (sub_nonneg.mpr up)]
    rcases le_total (target-current) step with near | far
    · rw [min_eq_left near,add_sub_cancel,sub_self,abs_zero]
      exact le_max_left _ _
    · rw [min_eq_right far,← sub_sub,abs_of_nonneg (by linarith)]
      exact le_max_right _ _
  · rw [approach_of_ge current target step down forward,abs_of_nonpos (sub_nonpos.mpr down)]
    rcases le_total (-step) (target-current) with near | far
    · rw [max_eq_right near,add_sub_cancel,sub_self,abs_zero]
      exact le_max_left _ _
    · rw [max_eq_left far,abs_of_nonpos (by linarith)]
      refine le_max_of_le_right ?_
      linarith

/-- The only value on the way that is a step nearer, or there. -/
theorem eq_approach (current target step value : K) (forward : 0 ≤ step)
    (between : value ∈ Set.uIcc current target) (bounded : |value - current| ≤ step)
    (advances : |target - value| ≤ max 0 (|target-current| - step)) :
    value = approach current target step := by
  obtain ⟨_,near⟩ := abs_le.mp bounded
  obtain ⟨far,_⟩ := abs_le.mp bounded
  rcases le_total current target with up | down
  · obtain ⟨above,below⟩ := Set.mem_Icc.mp (Set.uIcc_of_le up ▸ between)
    rw [abs_of_nonneg (sub_nonneg.mpr below),abs_of_nonneg (sub_nonneg.mpr up)] at advances
    rw [approach_of_le current target step up forward]
    rcases le_total (target-current) step with close | distant
    · rw [max_eq_left (by linarith)] at advances
      rw [min_eq_left close]
      linarith
    · rw [max_eq_right (by linarith)] at advances
      rw [min_eq_right distant]
      linarith
  · obtain ⟨above,below⟩ := Set.mem_Icc.mp (Set.uIcc_of_ge down ▸ between)
    rw [abs_of_nonpos (sub_nonpos.mpr above),abs_of_nonpos (sub_nonpos.mpr down)] at advances
    rw [approach_of_ge current target step down forward]
    rcases le_total (current-target) step with close | distant
    · rw [max_eq_left (by linarith)] at advances
      rw [max_eq_right (by linarith)]
      linarith
    · rw [max_eq_right (by linarith)] at advances
      rw [max_eq_left (by linarith)]
      linarith

/-- Two steps towards a target are one step of their sum. -/
theorem approach_approach (current target first second : K) (one : 0 ≤ first) (two : 0 ≤ second) :
    approach (approach current target first) target second =
      approach current target (first + second) := by
  rcases le_total current target with up | down
  · rw [approach_of_le current target first up one,
      approach_of_le current target _ up (add_nonneg one two)]
    rcases le_total (target-current) first with near | far
    · rw [min_eq_left near,min_eq_left (by linarith),add_sub_cancel,
        approach_of_le target target second le_rfl two,sub_self,min_eq_left two,add_zero]
    · rw [min_eq_right far,approach_of_le _ target second (by linarith) two]
      rcases le_total (target-current) (first+second) with close | distant
      · rw [min_eq_left close,min_eq_left (by linarith)]
        ring
      · rw [min_eq_right distant,min_eq_right (by linarith)]
        ring
  · rw [approach_of_ge current target first down one,
      approach_of_ge current target _ down (add_nonneg one two)]
    rcases le_total (-first) (target-current) with near | far
    · rw [max_eq_right near,max_eq_right (by linarith),add_sub_cancel,
        approach_of_le target target second le_rfl two,sub_self,min_eq_left two,add_zero]
    · rw [max_eq_left far,approach_of_ge _ target second (by linarith) two]
      rcases le_total (-(first+second)) (target-current) with close | distant
      · rw [max_eq_right close,max_eq_right (by linarith)]
        ring
      · rw [max_eq_left distant,max_eq_left (by linarith)]
        ring

theorem abs_sub_approach (current target step : K) (forward : 0 ≤ step) :
    |target - approach current target step| = max 0 (|target-current| - step) := by
  apply le_antisymm (abs_sub_approach_le current target step forward)
  apply max_le (abs_nonneg _)
  have moved := abs_approach_sub_le current target step forward
  have path := abs_sub_le target (approach current target step) current
  linarith

end Approach
