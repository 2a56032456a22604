import Blueprint.Number.Radix

/-!
# Dates in YAML

A date is a year of four digits, a month and a day, with hyphens between them. A time of day may
follow, perhaps with a fraction of a second and a time zone. The text alone does not make sure that
there is such a day or such a time.
-/
namespace Blueprint.Yaml

open Radix

/-- A time of day. -/
structure Clock where
  /-- The hour. -/
  hour : Nat
  /-- The minute. -/
  minute : Nat
  /-- The second. -/
  second : Nat
  /-- The minutes by which the zone is ahead or behind. -/
  offset : Nat
deriving DecidableEq, Repr

/-- A date, perhaps with a time of day. -/
structure Moment where
  /-- The year. -/
  year : Nat
  /-- The month. -/
  month : Nat
  /-- The day. -/
  day : Nat
  /-- The time of day, if it is given. -/
  clock : Option Clock
deriving DecidableEq, Repr

/-- A space or a tab. -/
def isWhite (c : Char) : Bool := c == ' ' || c == '\t'

/-- A number with a least and a greatest number of digits, and the rest. -/
def readDigits? (least most : Nat) (cs : List Char) : Option (Nat × List Char) :=
  let (digits, rest) := takeDigits 10 most cs
  if least ≤ digits.length then some (numberOf 10 digits, rest) else none

/-- The rest after a mark. -/
def after? (mark : Char) : List Char → Option (List Char)
  | c :: rest => if c == mark then some rest else none
  | [] => none

/-- The minutes by which a zone is ahead or behind; none without a zone. -/
def zone? (cs : List Char) : Option Nat :=
  if cs.isEmpty then some 0
  else
    match cs.dropWhile isWhite with
    | ['Z'] => some 0
    | sign :: rest =>
      if sign == '-' || sign == '+' then do
        let (hours, rest) ← readDigits? 1 2 rest
        if rest.isEmpty then some (60 * hours)
        else
          let (minutes, rest) ← readDigits? 2 2 (← after? ':' rest)
          if rest.isEmpty then some (60 * hours + minutes) else none
      else none
    | [] => none

/-- A text without a fraction at its front. -/
def dropFraction : List Char → List Char
  | '.' :: rest => rest.dropWhile isPlainDigit
  | rest => rest

/-- The time of day that a text gives. -/
def Clock.read? (cs : List Char) : Option Clock := do
  let (hour, rest) ← readDigits? 1 2 cs
  let (minute, rest) ← readDigits? 2 2 (← after? ':' rest)
  let (second, rest) ← readDigits? 2 2 (← after? ':' rest)
  some ⟨hour, minute, second, ← zone? (dropFraction rest)⟩

/-- There is such a time of day. -/
def Clock.isReal (clock : Clock) : Bool :=
  clock.hour < 24 && clock.minute < 60 && clock.second < 60 && clock.offset < 24 * 60

namespace Moment

/-- The date that a text gives. -/
def read? (cs : List Char) : Option Moment := do
  let (year, rest) ← readDigits? 4 4 cs
  let (month, rest) ← readDigits? 1 2 (← after? '-' rest)
  let (day, rest) ← readDigits? 1 2 (← after? '-' rest)
  match rest with
  | [] => some ⟨year, month, day, none⟩
  | c :: rest =>
    if c == 'T' || c == 't' then some ⟨year, month, day, some (← Clock.read? rest)⟩
    else if isWhite c then
      some ⟨year, month, day, some (← Clock.read? (rest.dropWhile isWhite))⟩
    else none

/-- The number of days of a month. -/
def daysOf (year month : Nat) : Nat :=
  if month = 2 then
    if year % 4 = 0 && (year % 100 != 0 || year % 400 = 0) then 29 else 28
  else if [4, 6, 9, 11].contains month then 30
  else 31

/-- There is such a day, and such a time of day. -/
def isReal (moment : Moment) : Bool :=
  1 ≤ moment.year && 1 ≤ moment.month && moment.month ≤ 12 && 1 ≤ moment.day &&
    moment.day ≤ daysOf moment.year moment.month && moment.clock.all Clock.isReal

end Moment

end Blueprint.Yaml
