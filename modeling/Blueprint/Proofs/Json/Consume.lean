import Blueprint.Json.Reader
import Mathlib.Data.List.TakeDrop

/-!
# What reading a JSON text consumes

Each part of the reader takes characters off the front of its text and returns the rest. A text is
refused for an integer of too many digits only if it is as long as these, and for its nesting only
if it opens more lists and maps than there is room for.
-/
namespace Blueprint.Json

open Numeral

/-- The character opens a list or a map. -/
def isOpening (c : Char) : Bool := c == '[' || c == '\x7b'

/-- How many lists and maps a text opens. -/
def openings (cs : List Char) : Nat := cs.countP isOpening

/-- The rest that is returned is the end of the text, an integer that is too long is in it, and more
lists and maps are opened in it than there is room for where they are nested too deeply. -/
def Consumes {α : Type} (room : Nat) (cs : List Char) : Except Refusal (α × List Char) → Prop
  | .ok (_, rest) => rest <:+ cs
  | .error .tooLong => digitLimit < cs.length
  | .error .tooDeep => room < openings cs
  | .error .malformed => True

namespace Consumes

variable {α β : Type} {room : Nat} {cs rest : List Char}

/-- What consumes the end of a text consumes the text. -/
theorem mono {outcome : Except Refusal (α × List Char)} (consumes : Consumes room rest outcome)
    (ending : rest <:+ cs) : Consumes room cs outcome := by
  match outcome, consumes with
  | .ok (_, _), later => exact later.trans ending
  | .error .tooLong, long => exact Nat.lt_of_lt_of_le long ending.length_le
  | .error .tooDeep, deep => exact Nat.lt_of_lt_of_le deep (ending.sublist.countP_le)
  | .error .malformed, _ => trivial

/-- Parts in turn consume a text if each one consumes what the one before has left. -/
theorem bind {first : Except Refusal (α × List Char)}
    {second : α × List Char → Except Refusal (β × List Char)} (consumes : Consumes room cs first)
    (each : ∀ value rest, rest <:+ cs → Consumes room rest (second (value, rest))) :
    Consumes room cs (first >>= second) := by
  match first, consumes with
  | .ok (value, rest), ending => exact (each value rest ending).mono ending
  | .error .tooLong, long => exact long
  | .error .tooDeep, deep => exact deep
  | .error .malformed, _ => trivial

/-- What a list or a map holds is read with room for one level less. -/
theorem nested {outcome : Except Refusal (α × List Char)} {c : Char} (opens : isOpening c = true)
    (consumes : Consumes room rest outcome) : Consumes (room + 1) (c :: rest) outcome := by
  match outcome, consumes with
  | .ok (_, _), later => exact later.trans (List.suffix_cons c rest)
  | .error .tooLong, long => exact Nat.lt_succ_of_lt long
  | .error .tooDeep, deep =>
    show room + 1 < openings (c :: rest)
    rw [openings, List.countP_cons_of_pos opens]
    exact Nat.succ_lt_succ deep
  | .error .malformed, _ => trivial

/-- A list or a map for which there is no room is nested too deeply. -/
theorem tooDeep {c : Char} (opens : isOpening c = true) :
    Consumes 0 (c :: rest) (.error .tooDeep : Except Refusal (α × List Char)) := by
  show 0 < openings (c :: rest)
  rw [openings, List.countP_cons_of_pos opens]
  exact Nat.succ_pos _

end Consumes

end Blueprint.Json
