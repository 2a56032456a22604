import Blueprint.Text.Blank
import Blueprint.Text.Case.Lower
import Blueprint.Text.Case.Upper
import Blueprint.Text.Digit
import Blueprint.Text.Word

/-!
# Patterns

A pattern describes texts: single characters and classes of them, sequences, alternatives,
repetitions, and groups whose part of the text can be used afterwards. `Pattern.Reader` gives the
notation and `Pattern.Match` the meaning.
-/
namespace Blueprint.Pattern

/-- A kind of character that has a letter of its own in the notation. -/
inductive Category where
  /-- Decimal digits of any script. -/
  | digit
  /-- White space. -/
  | space
  /-- Letters, numbers and the underscore. -/
  | word
deriving DecidableEq, Repr

/-- The character is of the kind. -/
def Category.holds : Category → Char → Bool
  | digit, c => Text.isDecimal c
  | space, c => Text.isBlank c
  | word, c => Text.isWord c

/-- A member of a class of characters. -/
inductive Member where
  /-- One character. -/
  | char (c : Char)
  /-- The characters between two code points. -/
  | range (low high : Nat)
  /-- The characters of a kind, or all others. -/
  | kind (category : Category) (negated : Bool)
deriving Repr

/-- A place in the text. -/
inductive Place where
  /-- The start. -/
  | start
  /-- The end, or just before a final line feed. -/
  | finish
  /-- The very end. -/
  | textEnd
  /-- Between a word character and another one. -/
  | boundary
  /-- No such boundary. -/
  | inside
deriving DecidableEq, Repr

/-- How often a repetition tries to go on. -/
inductive Manner where
  /-- As often as possible. -/
  | greedy
  /-- As seldom as possible. -/
  | reluctant
  /-- As often as possible, and never less often. -/
  | possessive
deriving DecidableEq, Repr

/-- A part of a pattern. -/
inductive Node where
  /-- A character. -/
  | char (c : Char)
  /-- Any character but a line feed. -/
  | any
  /-- A character of a class, or one that is not. -/
  | set (negated : Bool) (members : List Member)
  /-- A place. -/
  | place (place : Place)
  /-- A part that is kept under a number. -/
  | group (index : Nat) (body : Node)
  /-- A part that is not kept. -/
  | block (body : Node)
  /-- The text of an earlier group. -/
  | reference (index : Nat)
  /-- Parts in order. -/
  | sequence (parts : List Node)
  /-- Alternatives in order of preference. -/
  | either (choices : List Node)
  /-- A part several times. -/
  | iterate (least : Nat) (most : Option Nat) (manner : Manner) (body : Node)
deriving Repr, Inhabited

/-- What holds of a pattern as a whole. -/
structure Options where
  /-- Case makes no difference. -/
  caseless : Bool := false
  /-- A line feed is a character like any other. -/
  dotAll : Bool := false
  /-- Lines have starts and ends of their own. -/
  multiline : Bool := false
deriving DecidableEq, Repr

end Blueprint.Pattern

namespace Blueprint

/-- A pattern, with the numbers of its groups. -/
structure Pattern where
  /-- The whole pattern as a part. -/
  node : Pattern.Node
  /-- What holds of it as a whole. -/
  options : Pattern.Options := {}
  /-- The number of its groups. -/
  groupCount : Nat := 0
  /-- The groups that have names. -/
  names : List (String × Nat) := []
deriving Repr

end Blueprint
