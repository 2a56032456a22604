/-!
# Tables in insertion order

A table is a list of keys with values, in the order in which the keys were first entered. Entering a
value under a key that is there replaces the value and keeps the place and the key that was first
written; a new key goes to the end. Look-up is `List.lookup`.
-/
namespace Blueprint

/-- Keys with values in the order in which the keys were first entered. -/
abbrev Table (κ : Type u) (α : Type v) := List (κ × α)

namespace Table

variable {κ : Type u} {α : Type v}

/-- The keys of a table in order. -/
def keys (entries : Table κ α) : List κ := entries.map Prod.fst

/-- The values of a table in order. -/
def values (entries : Table κ α) : List α := entries.map Prod.snd

variable [BEq κ]

/-- Enters a value under a key. -/
def put (entries : Table κ α) (key : κ) (value : α) : Table κ α :=
  match entries with
  | [] => [(key, value)]
  | (k, v) :: rest => if key == k then (k, value) :: rest else (k, v) :: put rest key value

/-- The key is in the table. -/
def has (entries : Table κ α) (key : κ) : Bool := (entries.lookup key).isSome

/-- Enters all pairs of a list in turn. -/
def putAll (entries : Table κ α) (pairs : List (κ × α)) : Table κ α :=
  pairs.foldl (fun table pair => put table pair.1 pair.2) entries

/-- The table of a list of pairs: the last value of a key wins, in its first place. -/
def ofPairs (pairs : List (κ × α)) : Table κ α := putAll [] pairs

/-- A table without the entry of a key. -/
def erase (entries : Table κ α) (key : κ) : Table κ α := entries.eraseP fun entry => key == entry.1

/-- A value that was entered is found again. -/
theorem lookup_put_self [ReflBEq κ] (entries : Table κ α) (key : κ) (value : α) :
    (put entries key value).lookup key = some value := by
  induction entries with
  | nil => simp [put]
  | cons entry rest ih =>
    obtain ⟨k, v⟩ := entry
    by_cases h : key == k <;> simp [put, List.lookup_cons, h, ih]

end Table

end Blueprint
