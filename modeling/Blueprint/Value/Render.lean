import Blueprint.Number.Notation
import Blueprint.Number.Numeral
import Blueprint.Text.Quoted
import Blueprint.Value.Basic

/-!
# Texts of values

A value is shown in full, where a text stands in quotation marks, or plainly, where a text is
itself. The two differ for texts and for strategies only; inside lists and maps everything is shown
in full. An integer of more digits than a numeral may have is not written, and lists and maps nested
more deeply than the interpreter has room for are not shown; where that counts a value may have no
text.
-/
namespace Blueprint

/-- The missing value in a text. -/
def nullText : String := "None"

/-- A truth value in a text. -/
def boolText (b : Bool) : String := if b then "True" else "False"

/-- Items between a pair of brackets. -/
def bracketed (opening closing : String) (items : List String) : String :=
  opening ++ ", ".intercalate items ++ closing

/-- The braces around the items of a map. -/
def braced (items : List String) : String :=
  bracketed (String.singleton (Char.ofNat 123)) (String.singleton (Char.ofNat 125)) items

/-- The text of a proxy class. -/
def proxyText (strategy : Strategy) : String :=
  s!"<class 'foundry.core.strategies.{strategy.tag}.{strategy.proxyName}'>"

namespace Key

/-- A key in full. -/
def shown : Key → String
  | null => nullText
  | bool b => boolText b
  | int n => integerText n
  | float x => x.text
  | text s => Text.quote s

/-- A key as a plain text. -/
def plain : Key → String
  | text s => s
  | key => key.shown

end Key

namespace Value

mutual

/-- `repr` — a value in full. -/
def shown : Value → String
  | null => nullText
  | bool b => boolText b
  | int n => integerText n
  | float x => x.text
  | text s => Text.quote s
  | list items => bracketed "[" "]" (shownItems items)
  | dict entries => braced (shownEntries entries)
  | model name => s!"<class '{name}'>"
  | strategy way => s!"<Strategy.{way.memberName}: {Text.quote way.tag}>"
  | proxy way => proxyText way
  | object name _ _ _ => s!"<{name} object>"
termination_by structural value => value

/-- The items of a list in full. -/
def shownItems : List Value → List String
  | [] => []
  | item :: rest => item.shown :: shownItems rest
termination_by structural items => items

/-- The entries of a map in full. -/
def shownEntries : List (Key × Value) → List String
  | [] => []
  | (key, value) :: rest => s!"{key.shown}: {value.shown}" :: shownEntries rest
termination_by structural entries => entries

end

/-- `str` — a value as a plain text. -/
def plain : Value → String
  | text s => s
  | strategy way => s!"Strategy.{way.memberName}"
  | value => value.shown

/-- An integer has no more digits than a numeral may have. -/
def isShort (n : Int) : Bool := n.natAbs < Nat.pow 10 Numeral.digitLimit

/-- All integers that are shown with a key are short. -/
def isKeyWritable : Key → Bool
  | .int n => isShort n
  | _ => true

mutual

/-- All integers that are shown with a value are short. -/
def isWritable : Value → Bool
  | int n => isShort n
  | list items => areWritable items
  | dict entries => areEntriesWritable entries
  | _ => true
termination_by structural value => value

/-- All integers that are shown with the items of a list are short. -/
def areWritable : List Value → Bool
  | [] => true
  | item :: rest => item.isWritable && areWritable rest
termination_by structural items => items

/-- All integers that are shown with the entries of a map are short. -/
def areEntriesWritable : List (Key × Value) → Bool
  | [] => true
  | (key, value) :: rest => isKeyWritable key && value.isWritable && areEntriesWritable rest
termination_by structural entries => entries

end

mutual

/-- How many values stand within one another at most, the outermost one included. -/
def depth : Value → Nat
  | list items => itemsDepth items + 1
  | dict entries => entriesDepth entries + 1
  | _ => 1
termination_by structural value => value

/-- The greatest depth of the items of a list. -/
def itemsDepth : List Value → Nat
  | [] => 0
  | item :: rest => max item.depth (itemsDepth rest)
termination_by structural items => items

/-- The greatest depth of the keys and the values of a map. -/
def entriesDepth : List (Key × Value) → Nat
  | [] => 0
  | (_, value) :: rest => max (max 1 value.depth) (entriesDepth rest)
termination_by structural entries => entries

end

/-- Why a value is not shown. -/
inductive Obstacle where
  /-- An integer has too many digits. -/
  | tooLong
  /-- Lists and maps are nested too deeply. -/
  | tooDeep
deriving DecidableEq, Repr

/-- What stands in the way of showing a key, where there is room for some nested calls. -/
def keyObstacle? (room : Nat) (key : Key) : Option Obstacle :=
  match room with
  | 0 => some .tooDeep
  | _ + 1 => if isKeyWritable key then none else some .tooLong

mutual

/-- What is met first that stands in the way of showing a value, where there is room for some nested
calls. -/
def obstacle? (room : Nat) (value : Value) : Option Obstacle :=
  match room with
  | 0 => some .tooDeep
  | room + 1 =>
    match value with
    | int n => if isShort n then none else some .tooLong
    | list items => itemsObstacle? room items
    | dict entries => entriesObstacle? room entries
    | _ => none
termination_by structural value

/-- What stands in the way of showing the items of a list. -/
def itemsObstacle? (room : Nat) (items : List Value) : Option Obstacle :=
  match items with
  | [] => none
  | item :: rest => (item.obstacle? room).or (itemsObstacle? room rest)
termination_by structural items

/-- What stands in the way of showing the entries of a map. -/
def entriesObstacle? (room : Nat) (entries : List (Key × Value)) : Option Obstacle :=
  match entries with
  | [] => none
  | (key, value) :: rest =>
    (keyObstacle? room key).or ((value.obstacle? room).or (entriesObstacle? room rest))
termination_by structural entries

end

/-- A value in full, if it can be shown. -/
def shown? (room : Nat) (value : Value) : Except Obstacle String :=
  match value.obstacle? room with
  | none => .ok value.shown
  | some obstacle => .error obstacle

/-- A key in full, if it can be shown. -/
def shownKey? (room : Nat) (key : Key) : Except Obstacle String :=
  match keyObstacle? room key with
  | none => .ok key.shown
  | some obstacle => .error obstacle

end Value

end Blueprint
