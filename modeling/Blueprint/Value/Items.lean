import Blueprint.Error.Fault

/-!
# Values as collections

A value of any type may stand where a list or a map is expected. A list is gone through by its
items, a map by its keys and a text by its characters; nothing else can be gone through. A map is
also made of a list of pairs.
-/
namespace Blueprint.Value

/-- A text by its characters. -/
def characters (s : String) : List Value := s.toList.map fun c => text (String.singleton c)

/-- The items over which a value is gone through. -/
def items : Value → Except Fault (List Value)
  | list items => .ok items
  | dict entries => .ok (entries.map fun entry => ofKey entry.1)
  | text s => .ok (characters s)
  | strategy way => .ok (characters way.tag)
  | _ => .error .wrongType

/-- The items of a value, none if it counts as false. -/
def itemsIfTrue (value : Value) : Except Fault (List Value) :=
  if value.truthy then value.items else .ok []

/-- A key with a value, as the two items of a value. -/
def pair (value : Value) : Except Fault (Key × Value) := do
  match ← value.items with
  | [first, second] =>
    match first.key? with
    | some key => .ok (key, second)
    | none => .error .wrongType
  | _ => .error .badValue

/-- The map that a value stands for. -/
def entries : Value → Except Fault Dict
  | dict entries => .ok entries
  | value => do
    let pairs ← (← value.items).mapM pair
    .ok (Table.ofPairs pairs)

/-- The map that a value stands for, empty if it counts as false. -/
def entriesIfTrue (value : Value) : Except Fault Dict :=
  if value.truthy then value.entries else .ok []

end Blueprint.Value
