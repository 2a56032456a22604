import Blueprint.Number.Binary64
import Blueprint.Number.Radix
import Blueprint.Text.Blank
import Blueprint.Text.Digit

/-!
# Reading numerals

Integers and double-precision numbers are read from free text: decimal digits of any script, white
space around the numeral, and single underscores between digits. The white space of ASCII counts
without the information separators. An integer of more than 4300 digits is refused.
-/
namespace Blueprint.Numeral

open Text Radix

/-- A character as numerals see it: other scripts' digits and white space become those of ASCII. -/
def plain (c : Char) : Char :=
  if c.toNat < 127 then c
  else if isBlank c then ' '
  else match digitValue? c with
    | some n => Char.ofNat (48 + n)
    | none => '?'

/-- The text of a numeral without the white space around it. -/
def body (cs : List Char) : List Char := trimBy isPlainBlank (cs.map plain)

/-- The value of a row of ASCII digits. -/
def value (digits : List Char) : Nat := digits.foldl (fun n c => 10 * n + (c.toNat - 48)) 0

/-- Digits in which single underscores stand between digits; the digits without them, `none` if an
underscore stands elsewhere or another character occurs. -/
def ungroup? : List Char → Option (List Char)
  | [] => none
  | [c] => if isPlainDigit c then some [c] else none
  | c :: d :: rest =>
    if isPlainDigit c then
      if d == '_' then (ungroup? rest).map (c :: ·) else (ungroup? (d :: rest)).map (c :: ·)
    else none

/-- The sign in front of a numeral, and the rest. -/
def splitSign : List Char → Bool × List Char
  | '-' :: rest => (true, rest)
  | '+' :: rest => (false, rest)
  | rest => (false, rest)

/-- The greatest number of digits of an integer numeral. -/
def digitLimit : Nat := 4300

/-- The integer of signed digits, if there are not too many of them. -/
def bounded? (negative : Bool) (digits : List Char) : Option Int :=
  if digitLimit < digits.length then none
  else some (if negative then -(value digits : Int) else value digits)

/-- `int` — the integer that a text denotes. -/
def integer? (cs : List Char) : Option Int := do
  let (negative, rest) := splitSign (body cs)
  bounded? negative (← ungroup? rest)

/-- The digits of a text up to its first other character, and the rest. -/
def spanDigits (cs : List Char) : List Char × List Char := cs.span isPlainDigit

/-- The exponent that ends a numeral: `e`, an optional sign and digits; zero if nothing is left. -/
def exponent? : List Char → Option Int
  | [] => some 0
  | e :: rest =>
    if e == 'e' || e == 'E' then
      let (negative, digits) := splitSign rest
      if digits.isEmpty || !digits.all isPlainDigit then none
      else
        let n : Int := value digits
        some (if negative then -n else n)
    else none

/-- Digits with an optional point among them and an optional exponent after them. -/
def decimal? (negative : Bool) (cs : List Char) : Option Binary64 := do
  let (whole, rest) := spanDigits cs
  let (fraction, rest) := match rest with
    | '.' :: rest => spanDigits rest
    | rest => ([], rest)
  if whole.isEmpty && fraction.isEmpty then none
  else
    let power ← exponent? rest
    some (.ofDecimal negative (value (whole ++ fraction)) (power - fraction.length))

/-- Underscores are removed where they stand between two digits, and refused elsewhere. -/
def withoutUnderscores? : List Char → Option (List Char)
  | [] => some []
  | ['_'] => none
  | c :: '_' :: d :: rest =>
    if isPlainDigit c && isPlainDigit d then
      (withoutUnderscores? (d :: rest)).map (c :: ·)
    else none
  | c :: rest => if c == '_' then none else (withoutUnderscores? rest).map (c :: ·)

/-- A character of ASCII in lower case. -/
def plainLower (c : Char) : Char :=
  if 65 ≤ c.toNat && c.toNat ≤ 90 then Char.ofNat (c.toNat + 32) else c

/-- `float` — the double-precision number that a text denotes. -/
def double? (cs : List Char) : Option Binary64 := do
  let (negative, rest) := splitSign (← withoutUnderscores? (body cs))
  match String.ofList (rest.map plainLower) with
  | "inf" | "infinity" => some (.infinite negative)
  | "nan" => some .nan
  | _ => decimal? negative rest

end Blueprint.Numeral
