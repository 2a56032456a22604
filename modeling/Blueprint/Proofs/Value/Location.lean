import Blueprint.Proofs.Value.Path

/-!
# Locations in a value

A location leads from a value through maps and lists to a part of the value, or nowhere. Values are
compared by what stands at each location and by the order of the keys of their maps.
-/
namespace Blueprint.Value

/-- A branch of a map or a list. -/
inductive Branch where
  /-- The value under a key. -/
  | key (key : Key)
  /-- The item at an index. -/
  | item (n : Nat)
deriving Repr

/-- A location in a value. -/
abbrev Location := List Branch

/-- The part of a value at a branch. -/
def part (value : Value) : Branch → Option Value
  | .key key => (entriesOf (some value)).lookup key
  | .item n => (itemsOf (some value))[n]?

/-- What stands at a location. -/
def locate (value : Value) : Location → Option Value
  | [] => some value
  | branch :: rest => (value.part branch).bind fun inner => inner.locate rest

@[simp] theorem locate_nil (value : Value) : value.locate [] = some value := rfl

@[simp] theorem locate_cons (value : Value) (branch : Branch) (rest : Location) :
    value.locate (branch :: rest) = (value.part branch).bind fun inner => inner.locate rest := rfl

/-- Nothing stands at the locations of an empty map or list but itself. -/
theorem locate_cons_of_empty {value : Value} (empty : value = .dict [] ∨ value = .list [])
    (branch : Branch) (rest : Location) : value.locate (branch :: rest) = none := by
  obtain rfl | rfl := empty <;> cases branch <;> rfl

/-- The keys of the map that stands somewhere, none if no map stands there. -/
def keysOf (value : Option Value) : List Key := Table.keys (entriesOf value)

/-- A text is the same key as another one just if it is the other one. -/
theorem beq_text_iff {key : Key} {name : String} : (key == Key.text name) = true ↔ key = .text name := by
  rw [Key.beq_iff]
  constructor
  · intro same
    cases key with
    | text other => exact congrArg Key.text (Key.Identity.text.inj same)
    | float x =>
      simp only [Key.identity] at same
      split at same <;> cases same
    | _ => cases same
  · rintro rfl
    rfl

variable {entries : Dict} {name : String} {inner : Value}

/-- What was entered under a text is found there. -/
theorem locate_put_self (rest : Location) :
    (dict (Table.put entries (Key.text name) inner)).locate (.key (.text name) :: rest) =
      inner.locate rest := by
  rw [locate_cons]
  exact congrArg (fun found => found.bind fun inner => inner.locate rest)
    (Table.lookup_put_self entries (Key.text name) inner)

/-- What is entered under a text leaves what stands at other branches. -/
theorem locate_put_of_ne {branch : Branch} (other : branch ≠ .key (.text name)) (rest : Location) :
    (dict (Table.put entries (Key.text name) inner)).locate (branch :: rest) =
      (dict entries).locate (branch :: rest) := by
  cases branch with
  | item n => rfl
  | key key =>
    have different : (key == Key.text name) = false := by
      rw [Bool.eq_false_iff]
      exact fun same => other (congrArg Branch.key (beq_text_iff.1 same))
    simp only [locate_cons, part, entriesOf, Table.lookup_put, different, Bool.false_eq_true,
      if_false]

/-- Something stands under a text just if the map has it as a key. -/
theorem isSome_locate_text :
    ((dict entries).locate [.key (.text name)]).isSome = Table.has entries (Key.text name) := by
  show ((entries.lookup (Key.text name)).bind fun inner => inner.locate []).isSome = _
  unfold Table.has
  cases entries.lookup (Key.text name) <;> rfl

/-- Entering something under a key leaves the keys in order, and a new key comes last. -/
theorem keysOf_put : keysOf (some (dict (Table.put entries (Key.text name) inner))) =
    if Table.has entries (Key.text name) then keysOf (some (dict entries))
    else keysOf (some (dict entries)) ++ [.text name] :=
  Table.keys_put entries (Key.text name) inner

end Blueprint.Value
