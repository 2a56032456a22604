import Blueprint.Number.Radix
import Blueprint.Yaml.Token.Basic

/-!
# Texts of scalars

A plain scalar ends at a comment, a colon with a gap after it, or, inside brackets and braces,
their marks; a quoted one at its quotation mark. Both may go on over several lines, which are
folded: one break becomes a space, and of several breaks the first is dropped. A block scalar
holds the lines that are indented deeper than its parent, either as they are or folded, and its
header says what becomes of the breaks at its end.
-/
namespace Blueprint.Yaml

/-- Breaks of lines in a folded text, the first of them and those after it. -/
def foldBreaks (first : Char) (more : List Char) : List Char :=
  (if first != '\n' then [first] else if more.isEmpty then [' '] else []) ++ more

/-! ### Plain scalars -/

/-- A mark of a list or map in brackets or braces. -/
def isFlowMark (c : Char) : Bool :=
  c == ',' || c == '[' || c == ']' || c == '\x7b' || c == '\x7d'

/-- The number of characters of a plain scalar up to the next gap or its end. -/
def plainLength (flow : Bool) : List Char → Nat
  | [] => 0
  | c :: rest =>
    let colonEnds := c == ':' && (isGap rest.head? || (flow && rest.head?.any isFlowMark))
    let markEnds := flow && (isFlowMark c || c == '?')
    if isGap (some c) || colonEnds || markEnds then 0 else plainLength flow rest + 1

/-- The breaks and spaces after the first break inside a plain scalar. The mark of a document is
where the scalar ends at the latest. -/
def plainBreaks : Nat → List Char → Cursor → Bool × List Char × Cursor
  | 0, breaks, cursor => (false, breaks.reverse, cursor)
  | fuel + 1, breaks, cursor =>
    let cursor := cursor.dropSpaces
    match cursor.takeBreak? with
    | none => (false, breaks.reverse, cursor)
    | some (c, after) =>
      if after.isDocumentMark then (true, breaks.reverse, after)
      else plainBreaks fuel (c :: breaks) after

/-- What stands between two parts of a plain scalar, whether lines end in it, and the cursor after
it; nothing if the scalar is over. -/
def plainSpaces (cursor : Cursor) : List Char × Bool × Cursor :=
  let (spaces, after) := cursor.takeWhile (· == ' ')
  match after.takeBreak? with
  | none => (spaces, false, after)
  | some (first, after) =>
    if after.isDocumentMark then ([], true, after)
    else
      match plainBreaks after.rest.length [] after with
      | (true, _, after) => ([], true, after)
      | (false, more, after) => (foldBreaks first more, true, after)

/-- A plain scalar from one of its parts on: its text, whether lines end in it or after it, and the
cursor after it. `least` is the least column of a further line. -/
def plainParts (flow : Bool) (least : Nat) :
    Nat → List Char → Bool → List Char → Cursor → List Char × Bool × Cursor
  | 0, done, broke, _, cursor => (done, broke, cursor)
  | fuel + 1, done, broke, spaces, cursor =>
    let length := if cursor.peek == some '#' then 0 else plainLength flow cursor.rest
    if length = 0 then (done, broke, cursor)
    else
      let done := done ++ spaces ++ cursor.rest.take length
      let (spaces, breaks, after) := plainSpaces (cursor.skip length)
      let ended := spaces.isEmpty || after.peek == some '#' || (!flow && after.column < least)
      if ended then (done, breaks, after)
      else plainParts flow least fuel done breaks spaces after

/-- The plain scalar at the cursor. -/
def plainScalar (flow : Bool) (least : Nat) (cursor : Cursor) : String × Bool × Cursor :=
  let (text, broke, after) := plainParts flow least (cursor.rest.length + 1) [] false [] cursor
  (String.ofList text, broke, after)

/-! ### Quoted scalars -/

/-- The character that a letter after a backslash stands for. -/
def escapeOf? (c : Char) : Option Char :=
  match c with
  | '0' => some (Char.ofNat 0)
  | 'a' => some (Char.ofNat 7)
  | 'b' => some (Char.ofNat 8)
  | 't' | '\t' => some '\t'
  | 'n' => some '\n'
  | 'v' => some (Char.ofNat 11)
  | 'f' => some (Char.ofNat 12)
  | 'r' => some '\r'
  | 'e' => some (Char.ofNat 27)
  | ' ' => some ' '
  | '"' => some '"'
  | '\\' => some '\\'
  | '/' => some '/'
  | 'N' => some nextLine
  | '_' => some (Char.ofNat 0xA0)
  | 'L' => some (Char.ofNat 0x2028)
  | 'P' => some (Char.ofNat 0x2029)
  | _ => none

/-- The number of hexadecimal digits after a letter. -/
def codeLength? (c : Char) : Option Nat :=
  match c with
  | 'x' => some 2
  | 'u' => some 4
  | 'U' => some 8
  | _ => none

/-- The character of a code point; half of a surrogate pair becomes the replacement character. -/
def charOfCode (code : Nat) : Except Fault Char :=
  if 0x7FFFFFFF < code then .error .tooLarge
  else if 0x10FFFF < code then .error .badValue
  else if h : code.isValidChar then .ok (Char.ofNatAux code h)
  else .ok (Char.ofNat 0xFFFD)

/-- The breaks inside a quoted scalar, in which no document may be marked. -/
def quotedBreaks : Nat → List Char → Cursor → Except Fault (List Char × Cursor)
  | 0, breaks, cursor => .ok (breaks.reverse, cursor)
  | fuel + 1, breaks, cursor =>
    if cursor.isDocumentMark then .error .malformed
    else
      let cursor := cursor.dropWhile fun c => c == ' ' || c == '\t'
      match cursor.takeBreak? with
      | some (c, after) => quotedBreaks fuel (c :: breaks) after
      | none => .ok (breaks.reverse, cursor)

/-- White space inside a quoted scalar. -/
def quotedSpaces (cursor : Cursor) : Except Fault (List Char × Cursor) := do
  let (spaces, after) := cursor.takeWhile fun c => c == ' ' || c == '\t'
  match after.takeBreak? with
  | some (first, after) =>
    let (more, after) ← quotedBreaks (after.rest.length + 1) [] after
    .ok (foldBreaks first more, after)
  | none => if after.rest.isEmpty then .error .malformed else .ok (spaces, after)

/-- What a backslash gives, with the cursor after the backslash. -/
def quotedEscape (cursor : Cursor) : Except Fault (List Char × Cursor) :=
  match cursor.peek with
  | none => .error .malformed
  | some c =>
    match escapeOf? c, codeLength? c with
    | some d, _ => .ok ([d], cursor.next)
    | none, some length => do
      let (digits, _) := Radix.takeDigits 16 length cursor.next.rest
      if digits.length = length then
        .ok ([← charOfCode (Radix.numberOf 16 digits)], cursor.next.skip length)
      else .error .malformed
    | none, none =>
      match cursor.takeBreak? with
      | some (_, after) => quotedBreaks (after.rest.length + 1) [] after
      | none => .error .malformed

/-- The rest of a quoted scalar; what is read of it is in `done`, the last character first. -/
def quotedParts (double : Bool) : Nat → List Char → Cursor → Except Fault (List Char × Cursor)
  | 0, _, _ => .error .malformed
  | fuel + 1, done, cursor =>
    match cursor.rest with
    | [] => .error .malformed
    | c :: rest =>
      if isGap (some c) then do
        let (spaces, after) ← quotedSpaces cursor
        quotedParts double fuel (spaces.reverse ++ done) after
      else if double then
        if c == '"' then .ok (done.reverse, cursor.next)
        else if c == '\\' then do
          let (chars, after) ← quotedEscape cursor.next
          quotedParts double fuel (chars.reverse ++ done) after
        else quotedParts double fuel (c :: done) cursor.next
      else if c == '\'' then
        if rest.head? == some '\'' then quotedParts double fuel ('\'' :: done) (cursor.skip 2)
        else .ok (done.reverse, cursor.next)
      else quotedParts double fuel (c :: done) cursor.next

/-- The quoted scalar whose first mark is at the cursor. -/
def quotedScalar (double : Bool) (cursor : Cursor) : Except Fault (String × Cursor) := do
  let (text, after) ← quotedParts double (cursor.rest.length + 1) [] cursor.next
  .ok (String.ofList text, after)

/-! ### Block scalars -/

/-- What becomes of the breaks at the end of a block scalar. -/
inductive Chomping where
  /-- The first one stays. -/
  | clip
  /-- None stays. -/
  | strip
  /-- All stay. -/
  | keep
deriving DecidableEq, Repr

/-- The chomping that a sign stands for. -/
def chompingOf? (c : Option Char) : Option Chomping :=
  match c with
  | some '+' => some .keep
  | some '-' => some .strip
  | _ => none

/-- The depth that a digit gives. -/
def depthOf? (c : Option Char) : Option Nat := c.bind (Radix.digitOf? 10)

/-- What the header of a block scalar says after its first mark: a sign and a digit in any order. -/
def blockHeader (cursor : Cursor) : Except Fault (Chomping × Option Nat × Cursor) :=
  let (chomping, depth, after) :=
    match chompingOf? cursor.peek with
    | some chomping =>
      match depthOf? cursor.next.peek with
      | some depth => (chomping, some depth, cursor.skip 2)
      | none => (chomping, none, cursor.next)
    | none =>
      match depthOf? cursor.peek with
      | some depth =>
        match chompingOf? cursor.next.peek with
        | some chomping => (chomping, some depth, cursor.skip 2)
        | none => (.clip, some depth, cursor.next)
      | none => (.clip, none, cursor)
  if depth == some 0 || !endsWord after.peek then .error .malformed
  else .ok (chomping, depth, after)

/-- The breaks before the first line that is not empty, and the greatest column reached by spaces.
-/
def blockMargin : Nat → List Char → Nat → Cursor → List Char × Nat × Cursor
  | 0, breaks, column, cursor => (breaks.reverse, column, cursor)
  | fuel + 1, breaks, column, cursor =>
    let cursor := cursor.dropSpaces
    let column := max column cursor.column
    match cursor.takeBreak? with
    | some (c, after) => blockMargin fuel (c :: breaks) column after
    | none => (breaks.reverse, column, cursor)

/-- The cursor after spaces up to a column. -/
def dropMargin (column : Nat) : Nat → Cursor → Cursor
  | 0, cursor => cursor
  | fuel + 1, cursor =>
    if cursor.column < column && cursor.peek == some ' ' then dropMargin column fuel cursor.next
    else cursor

/-- The breaks of empty lines, and the cursor at the first line that is not empty. -/
def blockBreaks (column : Nat) : Nat → List Char → Cursor → List Char × Cursor
  | 0, breaks, cursor => (breaks.reverse, cursor)
  | fuel + 1, breaks, cursor =>
    let cursor := dropMargin column column cursor
    match cursor.takeBreak? with
    | some (c, after) => blockBreaks column fuel (c :: breaks) after
    | none => (breaks.reverse, cursor)

/-- There is a space or a tab at the cursor. -/
def atWhite (cursor : Cursor) : Bool := cursor.peek == some ' ' || cursor.peek == some '\t'

/-- The text of a block scalar so far, the break after it, and the breaks of the empty lines that
follow. -/
structure BlockText where
  /-- The text. -/
  text : List Char
  /-- The break after the last line. -/
  ending : List Char
  /-- The breaks of empty lines. -/
  breaks : List Char

/-- The break between two lines of a block scalar. -/
def lineJoint (folded : Bool) (first second : Cursor) (ending breaks : List Char) : List Char :=
  if folded && ending == ['\n'] && !atWhite first && !atWhite second then
    if breaks.isEmpty then [' '] else []
  else ending

/-- The lines of a block scalar from the cursor on. -/
def blockLines (folded : Bool) (column : Nat) : Nat → BlockText → Cursor → BlockText × Cursor
  | 0, block, cursor => (block, cursor)
  | fuel + 1, block, cursor =>
    if cursor.column = column && !cursor.rest.isEmpty then
      let (line, after) := cursor.takeWhile fun c => !isBreak c
      let (ending, after) := match after.takeBreak? with
        | some (c, after) => ([c], after)
        | none => ([], after)
      let (breaks, after) := blockBreaks column (after.rest.length + 1) [] after
      let text := block.text ++ block.breaks ++ line
      if after.column = column && !after.rest.isEmpty then
        let joint := lineJoint folded cursor after ending breaks
        blockLines folded column fuel ⟨text ++ joint, [], breaks⟩ after
      else (⟨text, ending, breaks⟩, after)
    else (block, cursor)

/-- The block scalar whose first mark is at the cursor, inside a node of a depth. -/
def blockScalar (folded : Bool) (depth : Int) (cursor : Cursor) :
    Except Fault (String × Cursor) := do
  let (chomping, given, after) ← blockHeader cursor.next
  let after ← after.finishLine
  let least := max (depth + 1).toNat 1
  let fuel := after.rest.length + 1
  let (column, breaks, after) := match given with
    | none =>
      let (breaks, column, after) := blockMargin fuel [] 0 after
      (max least column, breaks, after)
    | some more =>
      let column := least + more - 1
      let (breaks, after) := blockBreaks column fuel [] after
      (column, breaks, after)
  let (block, after) := blockLines folded column fuel ⟨[], [], breaks⟩ after
  let tail := match chomping with
    | .clip => block.ending
    | .strip => []
    | .keep => block.ending ++ block.breaks
  .ok (String.ofList (block.text ++ tail), after)

end Blueprint.Yaml
