import Mathlib.Logic.Basic

/-! A repeating timer that counts a machine integer down and stops when none is left. Presets of zero
and below stop it at the first firing. -/

/-- The counter of a running timer, preset to `calls`, after firings that all left it running. -/
structure Countdown (calls counter : Int32) (firings : Nat) : Prop where
  value : counter.toInt = calls.toInt - firings
  left : (firings : Int) < max 1 calls.toInt

namespace Countdown

theorem start (calls : Int32) : Countdown calls calls 0 where
  value := by simp
  left := by omega

variable {calls counter : Int32} {firings : Nat}

/-- The decrement does not wrap: only the smallest preset could. -/
theorem value_next (running : Countdown calls counter firings) (large : calls ≠ Int32.minValue) :
    (counter - 1).toInt = calls.toInt - (firings + 1 : Nat) := by
  have above : -2^31 < calls.toInt := by
    have least := Int32.le_toInt calls
    have different : calls.toInt ≠ Int32.minValue.toInt := fun same => large (Int32.toInt_inj.mp same)
    rw [Int32.toInt_minValue] at different
    omega
  have below := Int32.toInt_lt calls
  have value := running.value
  have left := running.left
  rw [Int32.toInt_sub,Int32.toInt_one,value]
  rw [Int.bmod_eq_of_le (by omega) (by omega)]
  omega

/-- The timer stops at exactly the firing that its preset asks for, and at the first at least. -/
theorem stops_iff (running : Countdown calls counter firings) (large : calls ≠ Int32.minValue) :
    counter - 1 ≤ 0 ↔ ((firings + 1 : Nat) : Int) = max 1 calls.toInt := by
  have left := running.left
  rw [Int32.le_iff_toInt_le,running.value_next large,Int32.toInt_zero]
  omega

theorem next (running : Countdown calls counter firings) (large : calls ≠ Int32.minValue)
    (goes : ¬ counter - 1 ≤ 0) : Countdown calls (counter - 1) (firings + 1) where
  value := running.value_next large
  left := by
    have late := (running.stops_iff large).not.mp goes
    have left := running.left
    omega

/-- Whatever holds of a counter about to stop, and of a counter whose successor it holds of, holds of
every counter: also the smallest one, which wraps, stops in the end. -/
theorem rundown {P : Int32 → Prop} (out : ∀ counter, counter - 1 ≤ 0 → P counter)
    (on : ∀ counter, ¬ counter - 1 ≤ 0 → P (counter - 1) → P counter) (counter : Int32) : P counter := by
  induction left : (counter - 1).toInt.toNat using Nat.strongRecOn generalizing counter with
  | ind n ih =>
    by_cases stops : counter - 1 ≤ 0
    · exact out counter stops
    · apply on counter stops
      refine ih _ ?_ (counter - 1) rfl
      have positive : 0 < (counter - 1).toInt := by
        rw [Int32.le_iff_toInt_le,Int32.toInt_zero] at stops
        omega
      have below := Int32.toInt_lt (counter - 1)
      rw [Int32.toInt_sub,Int32.toInt_one,Int.bmod_eq_of_le (by omega) (by omega)]
      omega

end Countdown
