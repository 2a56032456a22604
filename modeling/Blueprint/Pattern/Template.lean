import Blueprint.Number.Numeral
import Blueprint.Pattern.Match
import Blueprint.Pattern.Reader

/-!
# Templates

A template makes a text from the groups of a match. A backslash before a number, or before `g` and
a number or name in angle brackets, stands for a group; a group that took no part in the match is
empty. A backslash before zero or before three octal digits gives a character by its code point,
and before a letter a control character. Before anything else it is itself.
-/
namespace Blueprint.Pattern

open Radix

/-- A piece of a template. -/
inductive Piece where
  /-- A text that stands for itself. -/
  | text (cs : List Char)
  /-- A group. -/
  | group (index : Nat)
deriving Repr, DecidableEq

/-- A group of a pattern as a piece. -/
def groupPiece (pattern : Pattern) (index : Nat) : Except Fault Piece :=
  if index ≤ pattern.groupCount then .ok (.group index) else .error .badPattern

/-- The group that a name or a number in angle brackets stands for. A name that no group has is
found out only after what follows the bracket is seen to be no lone backslash. -/
def namedGroup (pattern : Pattern) (name after : List Char) : Except Fault Piece :=
  if isName name then
    match pattern.names.lookup (String.ofList name) with
    | some index => .ok (.group index)
    | none => .error (if after == ['\\'] then .badPattern else .noPosition)
  else
    match Numeral.integer? name with
    | some index => if index < 0 then .error .badPattern else groupPiece pattern index.toNat
    | none => .error .badPattern

/-- The group given by a number after a backslash, or the character given by three octal digits. -/
def readNumber (pattern : Pattern) (cs : List Char) : Except Fault (Piece × List Char) :=
  let (octal, after) := takeDigits 8 3 cs
  if octal.length = 3 then
    if numberOf 8 octal < 256 then .ok (.text [Char.ofNat (numberOf 8 octal)], after)
    else .error .badPattern
  else do
    let (digits, rest) := takeDigits 10 2 cs
    .ok (← groupPiece pattern (numberOf 10 digits), rest)

/-- What a backslash in a template gives. -/
def readTemplateEscape (pattern : Pattern) (cs : List Char) : Except Fault (Piece × List Char) :=
  match cs with
  | [] => .error .badPattern
  | 'g' :: '<' :: rest =>
    let name := rest.takeWhile (· != '>')
    match rest.drop name.length with
    | _ :: after => do .ok (← namedGroup pattern name after, after)
    | [] => .error .badPattern
  | '0' :: rest =>
    let (digits, rest) := takeDigits 8 2 rest
    .ok (.text [Char.ofNat (numberOf 8 digits)], rest)
  | c :: rest =>
    if isPlainDigit c then readNumber pattern (c :: rest)
    else
      match controlOf? c with
      | some control => .ok (.text [control], rest)
      | none =>
        if c == 'b' then .ok (.text [Char.ofNat 8], rest)
        else if isPlainLetter c then .error .badPattern
        else .ok (.text ['\\', c], rest)

/-- The pieces of a template, read in at most `fuel` steps. -/
def readPieces (pattern : Pattern) : Nat → List Char → Except Fault (List Piece)
  | _, [] => .ok []
  | 0, _ => .error .badPattern
  | fuel + 1, '\\' :: rest => do
    let (piece, rest) ← readTemplateEscape pattern rest
    .ok (piece :: (← readPieces pattern fuel rest))
  | fuel + 1, c :: rest => do .ok (.text [c] :: (← readPieces pattern fuel rest))

/-- The text of a piece. -/
def Piece.fill (groups : List (Nat × List Char)) : Piece → List Char
  | text cs => cs
  | group index => (groups.lookup index).getD []

/-- `Match.expand` — the text that a template makes of the groups of a match. -/
def expand (pattern : Pattern) (template : List Char) (groups : List (Nat × List Char)) :
    Except Fault (List Char) := do
  let pieces ← readPieces pattern template.length template
  .ok (pieces.flatMap (Piece.fill groups))

/-- The text that a template makes of a whole text, if the pattern fits it. -/
def substitute? (pattern : Pattern) (template text : String) : Except Fault (Option String) :=
  match pattern.groups? text.toList with
  | some groups => do .ok (some (String.ofList (← pattern.expand template.toList groups)))
  | none => .ok none

end Blueprint.Pattern
