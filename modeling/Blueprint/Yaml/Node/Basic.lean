import Blueprint.Error.Fault
import Blueprint.Number.Radix
import Blueprint.Yaml.Node.Moment

/-!
# Nodes of a YAML document

A document is a tree of scalars, lists and maps, each with a tag that says which type it is of. The
tag of a plain scalar without a written one follows from its text. Lists and maps are numbered, so
that it can be told where an alias makes one of them stand at several places.
-/
namespace Blueprint.Yaml

open Radix

/-- The type of a node. -/
inductive Tag where
  /-- The missing value. -/
  | null
  /-- A truth value. -/
  | bool
  /-- An integer. -/
  | int
  /-- A number with a point. -/
  | float
  /-- A date, perhaps with a time of day. -/
  | date
  /-- A text. -/
  | text
  /-- A list. -/
  | list
  /-- A map. -/
  | map
  /-- The key under which a map takes over other maps. -/
  | merge
  /-- The key of the value that a map stands for. -/
  | value
  /-- Any other type. -/
  | other
deriving DecidableEq, Repr

/-- A node. -/
inductive Node where
  /-- A scalar with its text. -/
  | scalar (tag : Tag) (text : String)
  /-- A list with its number. -/
  | list (number : Nat) (tag : Tag) (items : List Node)
  /-- A map with its number. -/
  | map (number : Nat) (tag : Tag) (pairs : List (Node × Node))
deriving Repr

namespace Tag

/-- The start of the names of the common types. -/
def common : String := "tag:yaml.org,2002:"

/-- The names of the common types. -/
def names : List (String × Tag) :=
  [("null", null), ("bool", bool), ("int", int), ("float", float), ("timestamp", date),
    ("str", text), ("seq", list), ("map", map), ("merge", merge), ("value", value)]

/-- The type of a name. -/
def ofName (name : String) : Tag :=
  ((names.find? fun entry => common ++ entry.1 == name).map Prod.snd).getD other

/-! ### The types of plain scalars -/

/-- A digit of ASCII or an underscore. -/
def isDigitMark (c : Char) : Bool := isPlainDigit c || c == '_'

/-- A hexadecimal digit or an underscore. -/
def isHexMark (c : Char) : Bool :=
  let n := c.toNat
  isDigitMark c || (65 ≤ n && n ≤ 70) || (97 ≤ n && n ≤ 102)

/-- An octal digit or an underscore. -/
def isOctalMark (c : Char) : Bool := (48 ≤ c.toNat && c.toNat ≤ 55) || c == '_'

/-- A text without one sign at its front. -/
def unsigned (cs : List Char) : List Char :=
  match cs with
  | '-' :: rest | '+' :: rest => rest
  | rest => rest

/-- The texts of truth values. -/
def boolTexts : List String :=
  ["yes", "Yes", "YES", "no", "No", "NO", "true", "True", "TRUE", "false", "False", "FALSE", "on",
    "On", "ON", "off", "Off", "OFF"]

/-- The texts of the missing value, save the empty one. -/
def nullTexts : List String := ["~", "null", "Null", "NULL"]

/-- The texts of infinity. -/
def infinityTexts : List String := [".inf", ".Inf", ".INF"]

/-- The texts of what is no number. -/
def nanTexts : List String := [".nan", ".NaN", ".NAN"]

/-- Digits and underscores that start with a digit, and the rest. -/
def spanNumber? (cs : List Char) : Option (List Char) :=
  if cs.head?.any isPlainDigit then some (cs.dropWhile isDigitMark) else none

/-- Groups of minutes or seconds, each after a colon, and the rest. -/
def dropSixties : List Char → List Char
  | ':' :: tens :: ones :: rest =>
    if isPlainDigit tens && tens.toNat ≤ 53 && isPlainDigit ones then dropSixties rest
    else if isPlainDigit tens then dropSixties (ones :: rest)
    else ':' :: tens :: ones :: rest
  | [':', ones] => if isPlainDigit ones then [] else [':', ones]
  | rest => rest

/-- An exponent with a sign, or nothing. -/
def isExponent : List Char → Bool
  | [] => true
  | e :: sign :: digits =>
    (e == 'e' || e == 'E') && (sign == '-' || sign == '+') && !digits.isEmpty &&
      digits.all isPlainDigit
  | _ => false

/-- The text of an integer, without its sign. -/
def isUnsignedInt (cs : List Char) : Bool :=
  match cs with
  | ['0'] => true
  | '0' :: 'b' :: digits =>
    !digits.isEmpty && digits.all fun c => c == '0' || c == '1' || c == '_'
  | '0' :: 'x' :: digits => !digits.isEmpty && digits.all isHexMark
  | '0' :: digits => digits.all isOctalMark
  | cs =>
    match spanNumber? cs with
    | some rest => (dropSixties rest).isEmpty
    | none => false

/-- A point with digits and underscores and perhaps an exponent after it. -/
def isFraction (cs : List Char) : Bool :=
  match cs with
  | '.' :: rest => isExponent (rest.dropWhile isDigitMark)
  | _ => false

/-- A point with digits and underscores after it. -/
def isShortFraction (cs : List Char) : Bool :=
  match cs with
  | '.' :: rest => rest.all isDigitMark
  | _ => false

/-- The text of a number with a point. -/
def isFloat (cs : List Char) : Bool :=
  let body := unsigned cs
  let starts := match spanNumber? body with
    | some rest =>
      isFraction rest || (rest.head? == some ':' && isShortFraction (dropSixties rest))
    | none => false
  let point := match cs with
    | '.' :: digit :: rest => isPlainDigit digit && isExponent (rest.dropWhile isDigitMark)
    | _ => false
  starts || point || infinityTexts.contains (String.ofList body) ||
    nanTexts.contains (String.ofList cs)

/-- The text of a date. Without a time of day, the month and the day have two digits. -/
def isDate (cs : List Char) : Bool :=
  (Moment.read? cs).any fun moment => moment.clock.isSome || cs.length == 10

/-- A text without one break at its end. -/
def withoutBreak (cs : List Char) : List Char :=
  if cs.getLast? == some '\n' then cs.dropLast else cs

/-- The type of a plain scalar. A break at the end of its text does not count. -/
def ofPlain (text : String) : Tag :=
  let cs := withoutBreak text.toList
  let line := String.ofList cs
  if text.isEmpty then null
  else if boolTexts.contains line then bool
  else if isFloat cs then float
  else if isUnsignedInt (unsigned cs) then int
  else if isDate cs then date
  else if line == "<<" then merge
  else if nullTexts.contains line then null
  else if line == "=" then value
  else .text

end Tag

/-- The node of what is left out. -/
def Node.missing : Node := .scalar .null ""

end Blueprint.Yaml
