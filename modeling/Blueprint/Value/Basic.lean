import Blueprint.Strategy
import Blueprint.Table
import Blueprint.Value.Key

/-!
# Values

The values of attributes, overrides and configurations: scalars, lists and maps, and what only a
session knows, namely its model classes and the instances built from them. An instance is held with
its fields as they were when its run ended. What changes in it after that is known by its number.
-/
namespace Blueprint

/-- A value. -/
inductive Value where
  /-- The missing value. -/
  | null
  /-- A truth value. -/
  | bool (b : Bool)
  /-- An integer. -/
  | int (n : Int)
  /-- A double-precision number. -/
  | float (x : Binary64)
  /-- A text. -/
  | text (s : String)
  /-- A list. -/
  | list (items : List Value)
  /-- A map. -/
  | dict (entries : List (Key × Value))
  /-- A model class, by its name. -/
  | model (name : String)
  /-- A strategy itself, as opposed to its tag. -/
  | strategy (strategy : Strategy)
  /-- The proxy of a strategy. -/
  | proxy (strategy : Strategy)
  /-- An instance of a model class, with its number in the session. -/
  | object (model : String) (serial : Nat) (persisted : Bool) (fields : List (String × Value))
deriving Repr, Inhabited

/-- A map from keys to values, in insertion order. -/
abbrev Dict := Table Key Value

namespace Value

/-- The value of a key. -/
def ofKey : Key → Value
  | .null => null
  | .bool b => bool b
  | .int n => int n
  | .float x => float x
  | .text s => text s

/-- The scalars that can stand as keys. -/
def key? : Value → Option Key
  | null => some .null
  | bool b => some (.bool b)
  | int n => some (.int n)
  | float x => some (.float x)
  | text s => some (.text s)
  | _ => none

/-- `bool` — a value counts as true unless it is missing, false, zero, or an empty text, list or
map. -/
def truthy : Value → Bool
  | null => false
  | bool b => b
  | int n => n != 0
  | float x => !x.isZero
  | text s => !s.isEmpty
  | list items => !items.isEmpty
  | dict entries => !entries.isEmpty
  | _ => true

/-- A value is neither a map nor a list. -/
def IsScalar : Value → Prop
  | dict _ | list _ => False
  | _ => True

/-- A map with texts as keys. -/
def ofFields (fields : List (String × Value)) : Value :=
  dict (fields.map fun field => (Key.text field.1, field.2))

end Value

end Blueprint
