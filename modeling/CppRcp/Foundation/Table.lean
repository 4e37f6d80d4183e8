import Mathlib.Tactic

/-!
# Fixed-size tables

A `Table α size` is an array of `size` values: no operation changes how many
there are.  Reading outside it gives the default value and writing outside it
does nothing.
-/

namespace CppRcp.Foundation

structure Table (α : Type) (size : Nat) where
  toList : List α
  length_eq : toList.length = size
  deriving DecidableEq, Repr

namespace Table

variable {α : Type} {size : Nat}

def replicate (size : Nat) (value : α) : Table α size :=
  ⟨List.replicate size value, List.length_replicate⟩

def map (table : Table α size) (f : α → α) : Table α size :=
  ⟨table.toList.map f, by rw [List.length_map, table.length_eq]⟩

def set (table : Table α size) (index : Nat) (value : α) : Table α size :=
  ⟨table.toList.set index value, by rw [List.length_set, table.length_eq]⟩

def get [Inhabited α] (table : Table α size) (index : Nat) : α :=
  table.toList.getD index default

def modify [Inhabited α] (table : Table α size) (index : Nat) (f : α → α) :
    Table α size :=
  table.set index (f (table.get index))

@[ext] theorem ext {a b : Table α size} (h : a.toList = b.toList) : a = b := by
  cases a
  cases b
  cases h
  rfl

theorem getElem?_set_self {table : Table α size} {index : Nat} {value : α}
    (h : index < size) : (table.set index value).toList[index]? = some value := by
  have hLength : index < table.toList.length := by rwa [table.length_eq]
  simp [set, hLength]

theorem getElem?_set_ne {table : Table α size} {index other : Nat} {value : α}
    (h : index ≠ other) :
    (table.set index value).toList[other]? = table.toList[other]? := by
  simp [set, h]

theorem get_set_self [Inhabited α] {table : Table α size} {index : Nat}
    {value : α} (h : index < size) : (table.set index value).get index = value := by
  rw [get, List.getD_eq_getElem?_getD, getElem?_set_self h, Option.getD_some]

theorem get_set_ne [Inhabited α] {table : Table α size} {index other : Nat}
    {value : α} (h : index ≠ other) :
    (table.set index value).get other = table.get other := by
  rw [get, get, List.getD_eq_getElem?_getD, List.getD_eq_getElem?_getD,
    getElem?_set_ne h]

theorem get_replicate_default [Inhabited α] (index : Nat) :
    (replicate size (default : α)).get index = default := by
  by_cases h : index < size
  · simp [replicate, get, h]
  · simp [replicate, get, h]

theorem set_of_size_le {table : Table α size} {index : Nat} {value : α}
    (h : size ≤ index) : table.set index value = table := by
  ext1
  exact List.set_eq_of_length_le (by rwa [table.length_eq])

theorem set_get [Inhabited α] (table : Table α size) (index : Nat) :
    table.set index (table.get index) = table := by
  by_cases h : index < size
  · ext1
    have hLength : index < table.toList.length := by rwa [table.length_eq]
    simp [set, get, hLength]
  · exact set_of_size_le (Nat.le_of_not_lt h)

end Table

end CppRcp.Foundation
