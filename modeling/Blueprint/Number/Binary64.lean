/-!
# Double-precision numbers

A number of the 64-bit binary format is `±m · 2^e` with a mantissa below `2^53` and an exponent
between -1074 and 971, or an infinity, or no number. Every operation here is exact integer
arithmetic: a ratio is rounded to the nearest such number, ties to the even mantissa.
-/
namespace Blueprint

/-- A number of the 64-bit binary format. -/
inductive Binary64 where
  /-- No number. -/
  | nan
  /-- An infinity with its sign. -/
  | infinite (negative : Bool)
  /-- The number `±mantissa · 2^exponent`. -/
  | finite (negative : Bool) (mantissa : Nat) (exponent : Int)
deriving DecidableEq, Repr, Inhabited

namespace Binary64

/-- The least exponent. -/
def minExponent : Int := -1074

/-- The greatest exponent. -/
def maxExponent : Int := 971

/-- The least number that is too large for a mantissa, `2^53`. -/
def mantissaLimit : Nat := 9007199254740992

/-- The ratio `numerator / (denominator · 2^e)` as numerator and denominator. -/
def scale (numerator denominator : Nat) (e : Int) : Nat × Nat :=
  if 0 ≤ e then (numerator, denominator * Nat.pow 2 e.toNat)
  else (numerator * Nat.pow 2 (-e).toNat, denominator)

/-- The nearest integer to a ratio; a tie goes to the even one. -/
def roundEven (numerator denominator : Nat) : Nat :=
  let quotient := numerator / denominator
  let twice := 2 * (numerator % denominator)
  if twice < denominator then quotient
  else if denominator < twice then quotient + 1
  else quotient + quotient % 2

/-- The exponent at which a positive ratio has a mantissa of 53 bits, if that is not too small. -/
def exponentOf (numerator denominator : Nat) : Int :=
  let guess := max ((numerator.log2 : Int) - denominator.log2 - 53) minExponent
  let (n, d) := scale numerator denominator guess
  if mantissaLimit ≤ n / d then guess + 1 else guess

/-- The number nearest to `±numerator / denominator`. -/
def ofRatio (negative : Bool) (numerator denominator : Nat) : Binary64 :=
  if numerator = 0 then .finite negative 0 minExponent
  else
    let e := exponentOf numerator denominator
    let (n, d) := scale numerator denominator e
    let mantissa := roundEven n d
    let (mantissa, e) :=
      if mantissa = mantissaLimit then (mantissaLimit / 2, e + 1) else (mantissa, e)
    if maxExponent < e then .infinite negative else .finite negative mantissa e

/-- The number nearest to `±digits · 10^power`. Powers beyond the range of the format are settled
without being computed. -/
def ofDecimal (negative : Bool) (digits : Nat) (power : Int) : Binary64 :=
  if digits = 0 then .finite negative 0 minExponent
  else
    let magnitude := power + (Nat.toDigits 10 digits).length
    if 400 < magnitude then .infinite negative
    else if magnitude < -400 then .finite negative 0 minExponent
    else if 0 ≤ power then ofRatio negative (digits * Nat.pow 10 power.toNat) 1
    else ofRatio negative digits (Nat.pow 10 (-power).toNat)

/-- The number with the other sign. -/
def neg : Binary64 → Binary64
  | .nan => .nan
  | .infinite negative => .infinite !negative
  | .finite negative mantissa exponent => .finite (!negative) mantissa exponent

/-- The number without its sign, as a ratio. -/
def magnitude (mantissa : Nat) (exponent : Int) : Nat × Nat :=
  if 0 ≤ exponent then (mantissa * Nat.pow 2 exponent.toNat, 1)
  else (mantissa, Nat.pow 2 (-exponent).toNat)

/-- A number is zero, of either sign. -/
def isZero : Binary64 → Bool
  | .finite _ mantissa _ => mantissa == 0
  | _ => false

/-- The integer part of a finite number, toward zero. -/
def truncate? : Binary64 → Option Int
  | .finite negative mantissa exponent =>
    let (n, d) := magnitude mantissa exponent
    let whole : Int := (n / d : Nat)
    some (if negative then -whole else whole)
  | _ => none

/-- The integer that a number is, if it has no fraction. -/
def integer? : Binary64 → Option Int
  | .finite negative mantissa exponent =>
    let (n, d) := magnitude mantissa exponent
    if n % d = 0 then
      let whole : Int := (n / d : Nat)
      some (if negative then -whole else whole)
    else none
  | _ => none

end Binary64

end Blueprint
