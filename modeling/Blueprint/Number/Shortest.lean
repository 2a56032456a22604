import Blueprint.Number.Binary64

/-!
# The fewest digits that read back

A double-precision number is shown with the fewest decimal digits that no other number of the
format is nearer to. The reals that read back as `m · 2^e` form an interval, whose ends belong to
it exactly when `m` is even; the numerals of `n` digits form a grid, and only the two neighbours
of the number on that grid have to be tried, for `n` from 1 to 17.
-/
namespace Blueprint.Binary64

/-- Digits and place of a positive decimal: the value is `digits · 10^power`. -/
structure Decimal where
  /-- The digits, read as one number. -/
  digits : Nat
  /-- The power of ten of the last digit. -/
  power : Int
deriving DecidableEq, Repr

/-- The reals that read back as `mantissa · 2^exponent`: lower end, value and upper end over one
denominator, and whether the ends belong to them. -/
structure Interval where
  /-- Numerator of the lower end. -/
  low : Nat
  /-- Numerator of the number itself. -/
  value : Nat
  /-- Numerator of the upper end. -/
  high : Nat
  /-- The common denominator. -/
  denominator : Nat
  /-- The ends read back as the number too. -/
  closed : Bool
deriving DecidableEq, Repr

/-- The interval around a positive number. Just above a power of two the gap below is half as
wide. -/
def interval (mantissa : Nat) (exponent : Int) : Interval :=
  let (n, d) := magnitude 1 exponent
  let below := if mantissa = mantissaLimit / 2 ∧ minExponent < exponent then 1 else 2
  ⟨(4 * mantissa - below) * n, 4 * mantissa * n, (4 * mantissa + 2) * n, 4 * d, mantissa % 2 = 0⟩

/-- The ratio `numerator / denominator` divided by `10^power`. -/
def scaleTen (numerator denominator : Nat) (power : Int) : Nat × Nat :=
  if 0 ≤ power then (numerator, denominator * Nat.pow 10 power.toNat)
  else (numerator * Nat.pow 10 (-power).toNat, denominator)

/-- The decimal `digits · 10^power` reads back as the number. -/
def Interval.holds (range : Interval) (candidate : Decimal) : Bool :=
  -- compare `digits · 10^power · denominator` with the ends
  let (up, down) :=
    if 0 ≤ candidate.power then (Nat.pow 10 candidate.power.toNat, 1)
    else (1, Nat.pow 10 (-candidate.power).toNat)
  let point := candidate.digits * up * range.denominator
  let low := range.low * down
  let high := range.high * down
  if range.closed then low ≤ point && point ≤ high else low < point && point < high

/-- The power of ten of the leading digit of `numerator / denominator`, sought from `start` downward
in at most `fuel` steps. -/
def leadingPower (numerator denominator : Nat) : Nat → Int → Int
  | 0, power => power
  | fuel + 1, power =>
    let (n, d) := scaleTen numerator denominator power
    if d ≤ n then power else leadingPower numerator denominator fuel (power - 1)

/-- The power of ten of the leading digit of a positive ratio of this format. -/
def leading (numerator denominator : Nat) : Int :=
  -- `log2 / 3` is above the decimal logarithm for large ratios, `log2 / 4` for small ones
  let bits : Int := (numerator.log2 : Int) - denominator.log2
  let start := if 0 ≤ bits then (bits + 1) / 3 + 1 else bits / 4 + 1
  leadingPower numerator denominator 400 start

/-- The candidate of `digits` digits nearest to the number that reads back as it. -/
def candidate? (range : Interval) (lead : Int) (digits : Nat) : Option Decimal :=
  let power := lead + 1 - digits
  let (n, d) := scaleTen range.value range.denominator power
  let floor : Decimal := ⟨n / d, power⟩
  let ceiling : Decimal := ⟨n / d + 1, power⟩
  match range.holds floor, range.holds ceiling with
  | false, false => none
  | true, false => some floor
  | false, true => some ceiling
  | true, true =>
    let twice := 2 * (n % d)
    if twice < d ∨ (twice = d ∧ n / d % 2 = 0) then some floor else some ceiling

/-- The shortest decimal that reads back as a positive finite number. -/
def shortest (mantissa : Nat) (exponent : Int) : Decimal :=
  let range := interval mantissa exponent
  let lead := leading range.value range.denominator
  ((List.range 17).findSome? fun n => candidate? range lead (n + 1)).getD ⟨0, 0⟩

end Blueprint.Binary64
