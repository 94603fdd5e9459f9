import Mathlib.Logic.Basic

/-! Inversion of computations that may fault. -/

namespace Fallible

universe u v

variable {φ : Type u} {α β : Type v}

theorem bind_ok (first : Except φ α) (rest : α → Except φ β) (result : β)
    (ok : (first >>= rest) = .ok result) : ∃ value, first = .ok value ∧ rest value = .ok result := by
  cases first with
  | error fault => simp [bind,Except.bind] at ok
  | ok value => exact ⟨value,rfl,ok⟩

@[simp] theorem ok_bind (value : α) (rest : α → Except φ β) :
    ((Except.ok value : Except φ α) >>= rest) = rest value := rfl

/-- The computation does not fault. -/
def Returns (computation : Except φ α) : Prop := ∃ result, computation = .ok result

@[simp] theorem returns_ok (value : α) : Returns (Except.ok value : Except φ α) := ⟨value,rfl⟩

@[simp] theorem returns_pure (value : α) : Returns (pure value : Except φ α) := ⟨value,rfl⟩

@[simp] theorem not_returns_error (fault : φ) : ¬ Returns (Except.error fault : Except φ α) := by
  intro returns
  obtain ⟨result,same⟩ := returns
  contradiction

theorem returns_bind (first : Except φ α) (rest : α → Except φ β) :
    Returns (first >>= rest) ↔ ∃ value, first = .ok value ∧ Returns (rest value) := by
  constructor
  · intro given
    obtain ⟨result,ok⟩ := given
    obtain ⟨value,done,rest⟩ := bind_ok first rest result ok
    exact ⟨value,done,result,rest⟩
  · intro given
    obtain ⟨value,done,result,ok⟩ := given
    exact ⟨result,by rw [done]; exact ok⟩

theorem Returns.bind {first : Except φ α} {rest : α → Except φ β} (returns : Returns first)
    (after : ∀ value, first = .ok value → Returns (rest value)) : Returns (first >>= rest) := by
  obtain ⟨value,done⟩ := returns
  exact (returns_bind first rest).mpr ⟨value,done,after value done⟩

/-- Reads through a pointer: a null pointer faults with its name. -/
def deref (name : φ) : Option α → Except φ α
  | none => .error name
  | some value => .ok value

@[simp] theorem deref_none (name : φ) : deref name (none : Option α) = .error name := rfl

@[simp] theorem deref_some (name : φ) (value : α) : deref name (some value) = .ok value := rfl

theorem deref_ok (name : φ) (pointer : Option α) (value : α) :
    deref name pointer = .ok value ↔ pointer = some value := by
  cases pointer <;> simp [deref]

theorem deref_returns (name : φ) (pointer : Option α) :
    Returns (deref name pointer) ↔ pointer.isSome = true := by
  cases pointer <;> simp

end Fallible
