/-
This file holds finite maps from texts to values, in which the last insertion of a key wins.
-/

namespace CredentialResolution

/-- A newer entry stands before the older ones of its key and hides them. -/
structure Bindings (Value : Type) where
  entries : List (String × Value)

namespace Bindings

variable {Value : Type}

def empty : Bindings Value := ⟨[]⟩

def get? (bindings : Bindings Value) (key : String) : Option Value :=
  bindings.entries.lookup key

def contains (bindings : Bindings Value) (key : String) : Bool :=
  (bindings.get? key).isSome

def erase (bindings : Bindings Value) (key : String) : Bindings Value :=
  ⟨bindings.entries.filter fun entry => entry.1 != key⟩

def insert (bindings : Bindings Value) (key : String) (value : Value) : Bindings Value :=
  ⟨(key, value) :: bindings.entries⟩

/-- The keys stay and their values are changed. -/
def map {Other : Type} (change : Value → Other) (bindings : Bindings Value) : Bindings Other :=
  ⟨bindings.entries.map fun entry => (entry.1, change entry.2)⟩

/-- The entries are inserted in list order, so the last of equal keys wins. -/
def ofList (entries : List (String × Value)) : Bindings Value :=
  entries.foldl (fun bindings entry => bindings.insert entry.1 entry.2) empty

@[simp] theorem get?_empty (key : String) : (empty : Bindings Value).get? key = none := rfl

theorem lookup_filter_ne (entries : List (String × Value)) (key other : String) :
    (entries.filter fun entry => entry.1 != key).lookup other =
      if other = key then none else entries.lookup other := by
  induction entries with
  | nil => simp
  | cons entry rest inductionHypothesis => grind

theorem get?_erase (bindings : Bindings Value) (key other : String) :
    (bindings.erase key).get? other = if other = key then none else bindings.get? other :=
  lookup_filter_ne bindings.entries key other

theorem get?_insert (bindings : Bindings Value) (key other : String) (value : Value) :
    (bindings.insert key value).get? other =
      if other = key then some value else bindings.get? other := by
  simp only [get?, insert]
  grind

theorem get?_map {Other : Type} (change : Value → Other) (bindings : Bindings Value)
    (key : String) : (bindings.map change).get? key = (bindings.get? key).map change := by
  obtain ⟨entries⟩ := bindings
  simp only [get?, map]
  induction entries with
  | nil => rfl
  | cons entry rest inductionHypothesis => grind

end Bindings

end CredentialResolution
