import Blueprint.Error.Fault
import Blueprint.Number.Numeral
import Blueprint.Text.Case.Lower
import Blueprint.Text.Case.Upper

/-!
# Paths in the names of environment variables

The name of a variable, less its prefix, is a path into the configuration. Two underscores separate
its segments, from the left and without overlap. A segment of digits is a list index, the word
`append` in any case stands for the end of a list, and any other segment is a key in lower case.
-/
namespace Blueprint.Config

/-- One step of a path. -/
inductive Segment where
  /-- The value under a key. -/
  | key (name : String)
  /-- The item at an index. -/
  | index (n : Nat)
  /-- A new item at the end. -/
  | append
deriving DecidableEq, Repr

/-- A path into a configuration. -/
abbrev Path := List Segment

/-- The pieces of a text between pairs of underscores. -/
def splitAtMarks : List Char → List (List Char)
  | [] => [[]]
  | '_' :: '_' :: rest => [] :: splitAtMarks rest
  | c :: rest =>
    match splitAtMarks rest with
    | [] => [[c]]
    | piece :: pieces => (c :: piece) :: pieces

/-- The word that stands for the end of a list, in upper case. -/
def appendWord : String := "APPEND"

/-- The segment of a piece that is not empty. -/
def segment (piece : List Char) : Except Fault Segment :=
  if piece.all Text.isDigit then
    match Numeral.integer? piece with
    | some n => .ok (.index n.toNat)
    | none => .error .badValue
  else if String.ofList (Text.upper piece) = appendWord then .ok .append
  else .ok (.key (String.ofList (Text.lower piece)))

/-- `ConfigManager._parse_env_key` — its loop: the segments of pieces in order; the first piece that
is empty or has no value is the fault. -/
def segments (raw : String) : List (List Char) → Except Fault Path
  | [] => .ok []
  | piece :: pieces =>
    if piece.isEmpty then .error (.emptySegment raw)
    else do
      let first ← segment piece
      let rest ← segments raw pieces
      .ok (first :: rest)

/-- `ConfigManager._parse_env_key` — the path that a variable's name gives, its prefix left out. -/
def parsePath (raw : String) : Except Fault Path := segments raw (splitAtMarks raw.toList)

end Blueprint.Config
