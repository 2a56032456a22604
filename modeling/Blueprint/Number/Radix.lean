/-!
# Digits of a base

The digits of ASCII in a base up to sixteen: the ten decimal digits, and the letters from `a` to
`f` in either case.
-/
namespace Blueprint.Radix

/-- A decimal digit of ASCII. -/
def isPlainDigit (c : Char) : Bool := 48 ≤ c.toNat && c.toNat ≤ 57

/-- The value of a digit in a base up to sixteen. -/
def digitOf? (base : Nat) (c : Char) : Option Nat :=
  let n := c.toNat
  let value := if 48 ≤ n && n ≤ 57 then n - 48
    else if 97 ≤ n && n ≤ 102 then n - 87
    else if 65 ≤ n && n ≤ 70 then n - 55
    else base
  if value < base then some value else none

/-- At most `limit` digits of a base at the front of a text, and the rest. -/
def takeDigits (base : Nat) : Nat → List Char → List Nat × List Char
  | limit + 1, c :: rest =>
    match digitOf? base c with
    | some digit =>
      let (digits, rest) := takeDigits base limit rest
      (digit :: digits, rest)
    | none => ([], c :: rest)
  | _, rest => ([], rest)

/-- The number that digits of a base denote. -/
def numberOf (base : Nat) (digits : List Nat) : Nat := digits.foldl (fun n d => base * n + d) 0

end Blueprint.Radix
