import Blueprint.Number.Binary64

/-!
# Sums and products of double-precision numbers

The exact sum or product of two numbers, rounded to the nearest number. A sum of zero is negative
only if both numbers are, and infinities follow their signs.
-/
namespace Blueprint.Binary64

/-- A finite number as a multiple of a power of two that is not above its own. -/
def multipleOf (exponent : Int) (negative : Bool) (mantissa : Nat) (own : Int) : Int :=
  let multiple : Int := (mantissa * Nat.pow 2 (own - exponent).toNat : Nat)
  if negative then -multiple else multiple

/-- The number nearest to a multiple of a power of two. -/
def ofMultiple (negative : Bool) (multiple : Nat) (exponent : Int) : Binary64 :=
  let (n, d) := magnitude multiple exponent
  ofRatio negative n d

/-- The sum of two numbers. -/
def add (a b : Binary64) : Binary64 :=
  match a, b with
  | .nan, _ | _, .nan => .nan
  | .infinite s, .infinite t => if s = t then .infinite s else .nan
  | .infinite s, .finite .. => .infinite s
  | .finite .., .infinite t => .infinite t
  | .finite s m e, .finite t n f =>
    let least := min e f
    let sum := multipleOf least s m e + multipleOf least t n f
    if sum = 0 then .finite (s && t) 0 minExponent
    else ofMultiple (decide (sum < 0)) sum.natAbs least

/-- The product of two numbers. -/
def mul (a b : Binary64) : Binary64 :=
  match a, b with
  | .nan, _ | _, .nan => .nan
  | .infinite s, .infinite t => .infinite (s != t)
  | .infinite s, .finite t n _ | .finite t n _, .infinite s =>
    if n = 0 then .nan else .infinite (s != t)
  | .finite s m e, .finite t n f => ofMultiple (s != t) (m * n) (e + f)

end Blueprint.Binary64
