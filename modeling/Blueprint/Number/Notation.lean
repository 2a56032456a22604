import Blueprint.Number.Shortest

/-!
# How numbers are written

Integers are written in decimal. A double-precision number is written with its shortest digits:
positionally while the leading digit stands between the fourth place after the point and the
sixteenth before it, and with an exponent of at least two digits elsewhere. A number without a
fraction keeps one zero after the point when it is written positionally.
-/
namespace Blueprint

/-- The choices of a notation for double-precision numbers. -/
structure Notation64 where
  /-- The least power of ten of a leading digit that is written positionally. -/
  leastPositional : Int
  /-- The greatest such power. -/
  greatestPositional : Int
  /-- The least number of digits of an exponent. -/
  exponentWidth : Nat
  /-- What is written for no number. -/
  nan : String
  /-- What is written for the positive infinity. -/
  infinity : String

/-- The notation of this library. -/
def standardNotation : Notation64 := ⟨-4, 15, 2, "nan", "inf"⟩

/-- The decimal digits of a number. -/
def decimalDigits (n : Nat) : List Char := Nat.toDigits 10 n

/-- A text filled up on the left with zeros. -/
def zeroPadded (width : Nat) (cs : List Char) : List Char :=
  List.replicate (width - cs.length) '0' ++ cs

/-- The digits without trailing zeros; one digit remains. -/
def withoutTrailingZeros (cs : List Char) : List Char :=
  match (cs.reverse.dropWhile (· == '0')).reverse with
  | [] => ['0']
  | digits => digits

/-- Digits whose leading one stands at the power `lead`, written positionally. -/
def positional (digits : List Char) (lead : Int) : List Char :=
  if lead < 0 then
    ['0', '.'] ++ List.replicate (-lead - 1).toNat '0' ++ digits
  else
    let whole := lead.toNat + 1
    let front := digits.take whole ++ List.replicate (whole - digits.length) '0'
    match digits.drop whole with
    | [] => front ++ ['.', '0']
    | fraction => front ++ '.' :: fraction

/-- Digits whose leading one stands at the power `lead`, written with an exponent. -/
def scientific (notation64 : Notation64) (digits : List Char) (lead : Int) : List Char :=
  let front := match digits with
    | [] => []
    | [digit] => [digit]
    | digit :: fraction => digit :: '.' :: fraction
  let sign := if lead < 0 then '-' else '+'
  front ++ 'e' :: sign :: zeroPadded notation64.exponentWidth (decimalDigits lead.natAbs)

/-- A number in a given notation. -/
def Binary64.render (notation64 : Notation64) : Binary64 → String
  | .nan => notation64.nan
  | .infinite negative => (if negative then "-" else "") ++ notation64.infinity
  | .finite negative mantissa exponent =>
    let sign := if negative then "-" else ""
    if mantissa = 0 then sign ++ "0.0"
    else
      let decimal := shortest mantissa exponent
      let allDigits := decimalDigits decimal.digits
      let lead := decimal.power + allDigits.length - 1
      let digits := withoutTrailingZeros allDigits
      let body :=
        if notation64.leastPositional ≤ lead ∧ lead ≤ notation64.greatestPositional then
          positional digits lead
        else scientific notation64 digits lead
      sign ++ String.ofList body

/-- The text of a number. -/
def Binary64.text (x : Binary64) : String := x.render standardNotation

/-- The text of an integer. -/
def integerText (n : Int) : String :=
  (if n < 0 then "-" else "") ++ String.ofList (decimalDigits n.natAbs)

end Blueprint
