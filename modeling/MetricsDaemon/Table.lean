/-!
# Keyed tables

Finite maps kept as lists of pairs. A key keeps the place at which it was first
written, so walking a table visits its keys in the order of their arrival. The
lemmas say what each operation does to lookups.
-/

namespace MetricsDaemon

/-- A finite map from `κ` to `α`, in the order in which the keys arrived. -/
structure Table (κ α : Type) where
  entries : List (κ × α)

namespace Table

variable {κ α : Type}

/-- The table without keys. -/
def empty : Table κ α := ⟨[]⟩

instance : Inhabited (Table κ α) := ⟨empty⟩

/-- The keys in order of arrival. -/
def keys (t : Table κ α) : List κ := t.entries.map Prod.fst

/-- The values in the order of their keys. -/
def values (t : Table κ α) : List α := t.entries.map Prod.snd

/-- The number of keys. -/
def size (t : Table κ α) : Nat := t.entries.length

variable [DecidableEq κ]

/-- The value paired with a key in a list of pairs. -/
def find (key : κ) : List (κ × α) → Option α
  | [] => none
  | entry :: rest => if entry.1 = key then some entry.2 else find key rest

/-- The value stored under a key. -/
def get? (t : Table κ α) (key : κ) : Option α := find key t.entries

/-- Whether a key has a value. -/
def contains (t : Table κ α) (key : κ) : Bool := (t.get? key).isSome

/-- Write one pair into a list of pairs: in the place of its key, or at the end. -/
def write (key : κ) (value : α) : List (κ × α) → List (κ × α)
  | [] => [(key, value)]
  | entry :: rest =>
      if entry.1 = key then (key, value) :: rest else entry :: write key value rest

/-- Store a value under a key. -/
def put (t : Table κ α) (key : κ) (value : α) : Table κ α := ⟨write key value t.entries⟩

/-- Forget a key. -/
def erase (t : Table κ α) (key : κ) : Table κ α :=
  ⟨t.entries.filter fun entry => decide (entry.1 ≠ key)⟩

/-- Change the value under a key, if there is one. -/
def modify (t : Table κ α) (key : κ) (change : α → α) : Table κ α :=
  match t.get? key with
  | some value => t.put key (change value)
  | none => t

/-- Store every pair of a list, in order; a later pair replaces an earlier one. -/
def ofList (pairs : List (κ × α)) : Table κ α :=
  pairs.foldl (fun t pair => t.put pair.1 pair.2) empty

/-- Nothing is found in the empty table. -/
@[simp] theorem get?_empty (key : κ) : (empty : Table κ α).get? key = none := rfl

/-- Writing a pair changes what is found under its own key only. -/
theorem find_write (key other : κ) (value : α) (pairs : List (κ × α)) :
    find other (write key value pairs) = if key = other then some value else find other pairs := by
  induction pairs with
  | nil => simp [write, find]
  | cons entry rest ih =>
      by_cases hkey : entry.1 = key
      · by_cases hother : key = other <;> simp [write, find, hkey, hother]
      · by_cases hother : entry.1 = other
        · subst hother
          have hne : ¬key = entry.1 := fun h => hkey h.symm
          simp [write, find, hkey, hne]
        · simp [write, find, hkey, hother, ih]

/-- Without the pairs of a key nothing is found under it, and the others are found as before. -/
theorem find_filter (key other : κ) (pairs : List (κ × α)) :
    find other (pairs.filter fun entry => decide (entry.1 ≠ key)) =
      if key = other then none else find other pairs := by
  induction pairs with
  | nil => simp [find]
  | cons entry rest ih =>
      by_cases hkey : entry.1 = key
      · by_cases hother : key = other <;> simp_all [find]
      · by_cases hother : entry.1 = other <;> simp_all [find]
        exact fun h => hkey h.symm

/-- What was put is found under its key, and everything else as before. -/
theorem get?_put (t : Table κ α) (key other : κ) (value : α) :
    (t.put key value).get? other = if key = other then some value else t.get? other :=
  find_write key other value t.entries

/-- What was erased is not found any more, and everything else as before. -/
theorem get?_erase (t : Table κ α) (key other : κ) :
    (t.erase key).get? other = if key = other then none else t.get? other :=
  find_filter key other t.entries

/-- What was put is found. -/
@[simp] theorem get?_put_self (t : Table κ α) (key : κ) (value : α) :
    (t.put key value).get? key = some value := by simp [get?_put]

end Table

end MetricsDaemon
