import Mathlib.Data.List.Basic
import Mathlib.Data.List.Count

/-! Append-only object pools: references are indices, and an object once spawned keeps its
reference for ever. -/

structure Pool (α : Type*) where
  objects : List α

namespace Pool

variable {α : Type*}

def empty : Pool α := ⟨[]⟩

def read (pool : Pool α) (ref : Nat) : Option α := pool.objects[ref]?

def write (pool : Pool α) (ref : Nat) (object : α) : Pool α := ⟨pool.objects.set ref object⟩

/-- The reference that the next spawned object receives. -/
def fresh (pool : Pool α) : Nat := pool.objects.length

def spawn (pool : Pool α) (object : α) : Pool α := ⟨pool.objects ++ [object]⟩

def count (pool : Pool α) (p : α → Bool) : Nat := pool.objects.countP p

def All (pool : Pool α) (P : α → Prop) : Prop := ∀ ref object, pool.read ref = some object → P object

/-- Every object of the later pool is an old one that changed within `R`, or one that `New` admits. -/
def Evolves (R : α → α → Prop) (New : α → Prop) (pool later : Pool α) : Prop :=
  ∀ ref object, later.read ref = some object →
    (∃ old, pool.read ref = some old ∧ R old object) ∨ New object

@[simp] theorem read_empty (ref : Nat) : (empty : Pool α).read ref = none := rfl

@[simp] theorem read_fresh (pool : Pool α) : pool.read pool.fresh = none := by
  simp [read,fresh]

theorem read_eq_none_iff (pool : Pool α) (ref : Nat) : pool.read ref = none ↔ pool.fresh ≤ ref :=
  List.getElem?_eq_none_iff

theorem read_write (pool : Pool α) (ref other : Nat) (object : α) :
    (pool.write ref object).read other =
      if ref = other then (pool.read ref).map (fun _ => object) else pool.read other := by
  simp only [read,write,List.getElem?_set]
  split_ifs with same bound <;> simp_all

theorem read_write_self (pool : Pool α) (ref : Nat) (old object : α)
    (found : pool.read ref = some old) : (pool.write ref object).read ref = some object := by
  simp [read_write,found]

theorem read_write_of_ne (pool : Pool α) (ref other : Nat) (object : α) (different : ref ≠ other) :
    (pool.write ref object).read other = pool.read other := by
  simp [read_write,different]

/-- An object read after a write is the one written there, or an old one elsewhere. -/
theorem write_cases (pool : Pool α) (ref other : Nat) (new object : α)
    (found : (pool.write ref new).read other = some object) :
    (ref = other ∧ new = object) ∨ (ref ≠ other ∧ pool.read other = some object) := by
  rw [read_write] at found
  split at found
  next same =>
    obtain ⟨old,_,written⟩ := Option.map_eq_some_iff.mp found
    exact Or.inl ⟨same,written⟩
  next different => exact Or.inr ⟨different,found⟩

theorem write_read (pool : Pool α) (ref : Nat) (object : α) (found : pool.read ref = some object) :
    pool.write ref object = pool := by
  obtain ⟨bound,rfl⟩ := List.getElem?_eq_some_iff.mp found
  simp [write]

@[simp] theorem write_write (pool : Pool α) (ref : Nat) (first second : α) :
    (pool.write ref first).write ref second = pool.write ref second := by
  simp [write]

theorem write_comm (pool : Pool α) (ref other : Nat) (one two : α) (different : ref ≠ other) :
    (pool.write ref one).write other two = (pool.write other two).write ref one := by
  simp [write,List.set_comm _ _ different]

theorem read_spawn (pool : Pool α) (ref : Nat) (object : α) :
    (pool.spawn object).read ref = if ref = pool.fresh then some object else pool.read ref := by
  unfold read spawn
  rcases Nat.lt_trichotomy ref pool.fresh with inside | same | outside
  · rw [if_neg (Nat.ne_of_lt inside),List.getElem?_append_left inside]
  · simp [same,fresh]
  · have beyond : pool.objects.length < ref := outside
    rw [if_neg (Nat.ne_of_gt outside),List.getElem?_eq_none (by simp; omega),
      List.getElem?_eq_none (by omega)]

@[simp] theorem read_spawn_fresh (pool : Pool α) (object : α) :
    (pool.spawn object).read pool.fresh = some object := by
  simp [read_spawn]

theorem ne_fresh (pool : Pool α) (ref : Nat) (object : α) (found : pool.read ref = some object) :
    ref ≠ pool.fresh := by
  intro same
  subst same
  simp at found

theorem read_spawn_of_found (pool : Pool α) (ref : Nat) (old object : α)
    (found : pool.read ref = some old) : (pool.spawn object).read ref = some old := by
  rw [read_spawn,if_neg (pool.ne_fresh ref old found),found]

@[simp] theorem isSome_read_write (pool : Pool α) (ref other : Nat) (object : α) :
    ((pool.write ref object).read other).isSome = (pool.read other).isSome := by
  rw [read_write]
  split_ifs with same
  · subst other
    cases pool.read ref <;> rfl
  · rfl

theorem All.write {pool : Pool α} {P : α → Prop} (all : pool.All P) (ref : Nat) (object : α)
    (holds : P object) : (pool.write ref object).All P := by
  intro other found read
  rcases pool.write_cases ref other object found read with ⟨_,rfl⟩ | ⟨_,read⟩
  · exact holds
  · exact all other found read

theorem All.spawn {pool : Pool α} {P : α → Prop} (all : pool.All P) (object : α) (holds : P object) :
    (pool.spawn object).All P := by
  intro other found read
  rw [read_spawn] at read
  split at read
  · cases read
    exact holds
  · exact all other found read

section Evolves

variable {R : α → α → Prop} {New : α → Prop}

theorem Evolves.refl (same : ∀ object, R object object) (pool : Pool α) : Evolves R New pool pool := by
  intro ref object read
  exact Or.inl ⟨object,read,same object⟩

theorem Evolves.write (same : ∀ object, R object object) (pool : Pool α) (ref : Nat) (old object : α)
    (found : pool.read ref = some old) (changed : R old object) :
    Evolves R New pool (pool.write ref object) := by
  intro other now read
  by_cases here : ref = other
  · subst here
    rw [read_write_self _ _ _ _ found] at read
    cases read
    exact Or.inl ⟨old,found,changed⟩
  · rw [read_write_of_ne _ _ _ _ here] at read
    exact Or.inl ⟨now,read,same now⟩

theorem Evolves.spawn (same : ∀ object, R object object) (pool : Pool α) (object : α)
    (admitted : New object) : Evolves R New pool (pool.spawn object) := by
  intro other now read
  rw [read_spawn] at read
  split at read
  · cases read
    exact Or.inr admitted
  · exact Or.inl ⟨now,read,same now⟩

/-- What every change and every new object respects holds of the later pool. -/
theorem All.evolve {pool later : Pool α} {P : α → Prop} (all : pool.All P)
    (evolves : Evolves R New pool later) (kept : ∀ old object, R old object → P old → P object)
    (born : ∀ object, New object → P object) : later.All P := by
  intro ref object read
  rcases evolves ref object read with ⟨old,found,changed⟩ | admitted
  · exact kept old object changed (all ref old found)
  · exact born object admitted

end Evolves

@[simp] theorem count_spawn (pool : Pool α) (p : α → Bool) (object : α) :
    (pool.spawn object).count p = pool.count p + if p object = true then 1 else 0 := by
  rw [count,count,spawn,List.countP_append,List.countP_singleton]

@[simp] theorem fresh_write (pool : Pool α) (ref : Nat) (object : α) :
    (pool.write ref object).fresh = pool.fresh := List.length_set

@[simp] theorem fresh_spawn (pool : Pool α) (object : α) :
    (pool.spawn object).fresh = pool.fresh + 1 := List.length_append

/-- A write changes a count by the new object less the old one. -/
theorem count_write (pool : Pool α) (p : α → Bool) (ref : Nat) (old object : α)
    (found : pool.read ref = some old) :
    (pool.write ref object).count p + (p old).toNat = pool.count p + (p object).toNat := by
  obtain ⟨bound,value⟩ := List.getElem?_eq_some_iff.mp found
  have counted : p old = true → 0 < pool.objects.countP p := by
    intro holds
    exact List.countP_pos_iff.mpr ⟨old,value ▸ List.getElem_mem bound,holds⟩
  rw [count,count,write,List.countP_set bound,value]
  cases before : p old with
  | false => cases p object <;> simp
  | true =>
    have positive := counted before
    cases p object <;> simp <;> omega

theorem count_eq_zero (pool : Pool α) (p : α → Bool)
    (absent : ∀ ref object, pool.read ref = some object → p object = false) : pool.count p = 0 := by
  rw [count,List.countP_eq_zero]
  intro object member
  obtain ⟨ref,found⟩ := List.mem_iff_getElem?.mp member
  simp [absent ref object found]

theorem isSome_read_spawn (pool : Pool α) (ref : Nat) (object : α)
    (found : (pool.read ref).isSome = true) : ((pool.spawn object).read ref).isSome = true := by
  rw [read_spawn]
  split
  · rfl
  · exact found

theorem count_eq_one (pool : Pool α) (p : α → Bool) (ref : Nat) (object : α)
    (found : pool.read ref = some object) (holds : p object = true)
    (unique : ∀ other another, pool.read other = some another → p another = true → other = ref) :
    pool.count p = 1 := by
  obtain ⟨bound,value⟩ := List.getElem?_eq_some_iff.mp found
  have split : pool.objects = pool.objects.take ref ++ object :: pool.objects.drop (ref+1) := by
    rw [← value,List.getElem_cons_drop,List.take_append_drop]
  have before : (pool.objects.take ref).countP p = 0 := by
    rw [List.countP_eq_zero]
    intro other member satisfied
    obtain ⟨index,inside,same⟩ := List.mem_iff_getElem.mp member
    have early : index < ref := by simp at inside; omega
    have read : pool.read index = some other := by
      rw [← same,List.getElem_take]
      exact List.getElem?_eq_getElem _
    exact absurd (unique index other read satisfied) (by omega)
  have after : (pool.objects.drop (ref+1)).countP p = 0 := by
    rw [List.countP_eq_zero]
    intro other member satisfied
    obtain ⟨index,inside,same⟩ := List.mem_iff_getElem.mp member
    have read : pool.read (ref+1+index) = some other := by
      rw [← same,List.getElem_drop]
      exact List.getElem?_eq_getElem _
    exact absurd (unique _ other read satisfied) (by omega)
  rw [count,split,List.countP_append,List.countP_cons,before,after,if_pos holds]

end Pool
