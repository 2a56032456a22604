import Blueprint.Number.Arithmetic
import Blueprint.Number.Numeral
import Blueprint.Text.Case.Lower
import Blueprint.Value.Basic
import Blueprint.Yaml.Node.Basic

/-!
# Values of YAML scalars

The value of a scalar follows from its type and its text. Underscores in numbers do not count. An
integer may be written in base two, eight or sixteen, and a number of either kind in parts of sixty
with colons between them. A date has to be one of the calendar; its text stands for it.
-/
namespace Blueprint.Yaml

open Numeral Radix

/-- A text without underscores. -/
def ungrouped (cs : List Char) : List Char := cs.filter (· != '_')

/-- The pieces of a text between colons. -/
def splitAtColons : List Char → List (List Char)
  | [] => [[]]
  | c :: rest =>
    if c == ':' then [] :: splitAtColons rest
    else
      match splitAtColons rest with
      | [] => [[c]]
      | piece :: pieces => (c :: piece) :: pieces

/-- A result that has to be there. -/
def orBad {α : Type} : Option α → Except Fault α
  | some a => .ok a
  | none => .error .badValue

/-! ### Integers -/

/-- The integer of digits of a base, before which a zero with the letter of the base may stand. -/
def radixInteger? (base : Nat) (letter : Char) (cs : List Char) : Option Int :=
  let (negative, rest) := splitSign (body cs)
  let digits := match rest with
    | '0' :: c :: digits => if plainLower c == letter then digits else rest
    | rest => rest
  let (values, left) := takeDigits base digits.length digits
  if values.isEmpty || !left.isEmpty then none
  else
    let n : Int := numberOf base values
    some (if negative then -n else n)

/-- The integer of parts of sixty. -/
def sixtyInteger? (cs : List Char) : Option Int := do
  let parts ← (splitAtColons cs).mapM integer?
  some (parts.foldl (fun sum part => 60 * sum + part) 0)

/-- The integer of a text without a sign. -/
def unsignedInteger (cs : List Char) : Except Fault Int :=
  match cs with
  | [] => .error .noPosition
  | ['0'] => .ok 0
  | '0' :: 'b' :: digits => orBad (radixInteger? 2 'b' digits)
  | '0' :: 'x' :: digits => orBad (radixInteger? 16 'x' digits)
  | '0' :: digits => orBad (radixInteger? 8 'o' ('0' :: digits))
  | cs => orBad (if cs.contains ':' then sixtyInteger? cs else integer? cs)

/-- The integer of a text. -/
def integerOf (cs : List Char) : Except Fault Int := do
  let (negative, rest) := splitSign (ungrouped cs)
  let n ← unsignedInteger rest
  .ok (if negative then -n else n)

/-! ### Numbers with a point -/

/-- The sum of parts, the last of which comes first and counts once, and each further one sixty
times the one before. -/
def sumOfSixties : Nat → Binary64 → List Binary64 → Except Fault Binary64
  | _, sum, [] => .ok sum
  | unit, sum, part :: parts =>
    match Binary64.ofRatio false unit 1 with
    | .infinite _ => .error .tooLarge
    | factor => sumOfSixties (60 * unit) (sum.add (part.mul factor)) parts

/-- The number of a text without a sign. -/
def unsignedDouble (cs : List Char) : Except Fault Binary64 :=
  if cs == ".inf".toList then .ok (.infinite false)
  else if cs == ".nan".toList then .ok .nan
  else if cs.contains ':' then do
    let parts ← orBad ((splitAtColons cs).mapM double?)
    sumOfSixties 1 (.ofRatio false 0 1) parts.reverse
  else orBad (double? cs)

/-- The number of a text. -/
def doubleOf (cs : List Char) : Except Fault Binary64 :=
  match Text.lower (ungrouped cs) with
  | [] => .error .noPosition
  | cs => do
    let (negative, rest) := splitSign cs
    let x ← unsignedDouble rest
    .ok (if negative then x.neg else x)

/-! ### Dates -/

/-- The text of a date. -/
def dateOf (cs : List Char) : Except Fault (List Char) :=
  match Moment.read? (Tag.withoutBreak cs) with
  | some moment => if moment.isReal then .ok cs else .error .badValue
  | none => .error .noMembers

/-! ### All scalars -/

/-- The truth values by their names. -/
def truths : List (String × Bool) :=
  [("yes", true), ("no", false), ("true", true), ("false", false), ("on", true), ("off", false)]

/-- The value of a scalar. Only a text with one of the types of scalars has a value. -/
def scalarValue (tag : Tag) (text : String) : Except Fault Value :=
  match tag with
  | .null => .ok .null
  | .bool =>
    match truths.lookup (String.ofList (Text.lower text.toList)) with
    | some b => .ok (.bool b)
    | none => .error .memberMissing
  | .int => do .ok (.int (← integerOf text.toList))
  | .float => do .ok (.float (← doubleOf text.toList))
  | .date => do .ok (.text (String.ofList (← dateOf text.toList)))
  | .text => .ok (.text text)
  | .list | .map | .merge | .value | .other => .error .malformed

end Blueprint.Yaml
