import Blueprint.Error.Fault
import Blueprint.Json.Reader

/-!
# Typed values of environment variables

The text of a variable becomes the first of these that fits: a truth value, an integer, a number
with a point, a JSON list or map, or the text itself without the white space around it.
-/
namespace Blueprint.Config

open Text

/-- `ConfigManager._as_bool` — the truth value that a text names, in any case. -/
def boolOf? (cs : List Char) : Option Bool :=
  match String.ofList (lower (trim cs)) with
  | "true" => some true
  | "false" => some false
  | _ => none

/-- A text less one sign at its front. -/
def withoutSign : List Char → List Char
  | '-' :: rest => rest
  | '+' :: rest => rest
  | rest => rest

/-- Digits of any script with an optional sign before them. -/
def isIntegerText (cs : List Char) : Bool :=
  let digits := withoutSign cs
  !digits.isEmpty && digits.all isDecimal

/-- Digits of any script with one point among them and an optional sign before them. -/
def isPointText (cs : List Char) : Bool :=
  let unsigned := withoutSign cs
  let whole := unsigned.takeWhile isDecimal
  match unsigned.drop whole.length with
  | '.' :: fraction => fraction.all isDecimal && !(whole.isEmpty && fraction.isEmpty)
  | _ => false

/-- The text stands between a pair of brackets or braces. -/
def isBracketed (cs : List Char) : Bool :=
  (cs.head? == some '[' && cs.getLast? == some ']') ||
    (cs.head? == some '\x7b' && cs.getLast? == some '\x7d')

/-- `ConfigManager._as_float` — the number of a text with a point. -/
def pointOf? (cs : List Char) : Option Binary64 :=
  if isPointText cs then Numeral.double? cs else none

/-- How many levels of lists and maps a JSON text may have by default. The interpreter allows for a
thousand nested calls, of which those that lead to the reader are taken already. -/
def nestingRoom : Nat := 980

/-- `ConfigManager._as_json` — the list or map of a JSON text, `none` if it is none. No refusal but
that of a malformed text is caught. -/
def collectionOf? (room : Nat) (cs : List Char) : Except Fault (Option Value) :=
  if isBracketed cs then
    match Json.read room cs with
    | .ok value => .ok (some value)
    | .error .malformed => .ok none
    | .error .tooLong => .error .badValue
    | .error .tooDeep => .error .tooDeep
  else .ok none

/-- `ConfigManager._coerce_type` — the typed value of a text. An integer is recognised without the
white space around it, but read with it, so that white space which a numeral does not allow is a
fault. -/
def coerce (text : String) (room : Nat := nestingRoom) : Except Fault Value :=
  let cs := text.toList
  match boolOf? cs with
  | some b => .ok (.bool b)
  | none =>
    if isIntegerText (trim cs) then
      match Numeral.integer? cs with
      | some n => .ok (.int n)
      | none => .error .badValue
    else
      match pointOf? (trim cs) with
      | some x => .ok (.float x)
      | none =>
        match collectionOf? room (trim cs) with
        | .ok (some value) => .ok value
        | .ok none => .ok (.text (trimmed text))
        | .error fault => .error fault

end Blueprint.Config
