/-
This file holds collections whose values are found again at the position where they were added.
-/

namespace CredentialResolution

/-- The first value stands at position zero. -/
structure Cells (Value : Type) where
  values : Array Value

namespace Cells

variable {Value : Type}

def empty : Cells Value := ⟨#[]⟩

def ofFirst (value : Value) : Cells Value := ⟨#[value]⟩

def count (cells : Cells Value) : Nat := cells.values.size

def get? (cells : Cells Value) (position : Nat) : Option Value := cells.values[position]?

/-- The new value stands behind all others. -/
def add (value : Value) (cells : Cells Value) : Cells Value := ⟨cells.values.push value⟩

/-- A position without a value stays without one. -/
def update (position : Nat) (change : Value → Value) (cells : Cells Value) : Cells Value :=
  ⟨cells.values.modify position change⟩

def map {Other : Type} (change : Value → Other) (cells : Cells Value) : Cells Other :=
  ⟨cells.values.map change⟩

@[simp] theorem count_add (value : Value) (cells : Cells Value) :
    (cells.add value).count = cells.count + 1 := by
  simp [count, add]

@[simp] theorem count_update (position : Nat) (change : Value → Value) (cells : Cells Value) :
    (cells.update position change).count = cells.count := by
  simp [count, update]

@[simp] theorem count_map {Other : Type} (change : Value → Other) (cells : Cells Value) :
    (cells.map change).count = cells.count := by
  simp [count, map]

@[simp] theorem get?_map {Other : Type} (change : Value → Other) (cells : Cells Value)
    (position : Nat) : (cells.map change).get? position = (cells.get? position).map change := by
  simp [get?, map]

theorem exists_of_lt_count {cells : Cells Value} {position : Nat}
    (present : position < cells.count) : ∃ value, cells.get? position = some value :=
  ⟨_, Array.getElem?_eq_getElem present⟩

theorem get?_eq_none {cells : Cells Value} {position : Nat} (absent : cells.count ≤ position) :
    cells.get? position = none :=
  Array.getElem?_eq_none absent

/-- Adding a value leaves the earlier ones where they are. -/
theorem get?_add (value : Value) (cells : Cells Value) (position : Nat) :
    (cells.add value).get? position =
      if position = cells.count then some value else cells.get? position := by
  by_cases same : position = cells.values.size <;>
    simp [get?, add, count, Array.getElem?_push, same]

theorem get?_add_of_some {cells : Cells Value} {position : Nat} {value : Value}
    (found : cells.get? position = some value) (added : Value) :
    (cells.add added).get? position = some value := by
  rw [get?_add, if_neg, found]
  intro beyond
  rw [get?_eq_none (Nat.le_of_eq beyond.symm)] at found
  cases found

/-- An update changes one value and leaves the others alone. -/
theorem get?_update (position : Nat) (change : Value → Value) (cells : Cells Value) (other : Nat) :
    (cells.update position change).get? other =
      if other = position then (cells.get? other).map change else cells.get? other := by
  simp [get?, update, Array.getElem?_modify, eq_comm]

/-- Collections with the same value at every position are equal. -/
theorem ext_get? {cells cells' : Cells Value}
    (same : ∀ position, cells.get? position = cells'.get? position) : cells = cells' := by
  obtain ⟨values⟩ := cells
  obtain ⟨values'⟩ := cells'
  rw [mk.injEq]
  exact Array.ext_getElem? same

/-- Putting a value where it already stands changes nothing. -/
theorem update_of_some {cells : Cells Value} {position : Nat} {value : Value}
    (found : cells.get? position = some value) : cells.update position (fun _ => value) = cells := by
  apply ext_get?
  intro other
  rw [get?_update]
  split
  · rename_i same
    rw [same, found]
    rfl
  · rfl

/-- The last of two updates at one position counts. -/
@[simp] theorem update_update (position : Nat) (value : Value) (earlier : Value → Value)
    (cells : Cells Value) :
    (cells.update position earlier).update position (fun _ => value) =
      cells.update position fun _ => value := by
  apply ext_get?
  intro other
  simp only [get?_update]
  split
  · rw [Option.map_map]
    rfl
  · rfl

end Cells

end CredentialResolution
