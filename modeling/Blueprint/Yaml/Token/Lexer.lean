import Blueprint.Yaml.Token.Name
import Blueprint.Yaml.Token.Scalar

/-!
# From a YAML text to tokens

Outside of brackets and braces, indentation makes structure: a deeper column opens a list or a
map, and a lesser one closes those that are deeper. A colon may show that what came before it was
a key; so the place of everything that can be a key is kept for as long as it is on the same line
and not too far away, and the mark of the key is put there afterwards.
-/
namespace Blueprint.Yaml

/-- A place where a key may have started. -/
structure KeyPlace where
  /-- The number of tokens before it. -/
  position : Nat
  /-- It has to be a key: an indented map allows nothing else there. -/
  required : Bool
  /-- Where it is. -/
  cursor : Cursor

/-- The state of reading tokens. -/
structure Lexer where
  /-- Where the next token starts. -/
  cursor : Cursor
  /-- The tokens so far, the latest first. -/
  tokens : List Token := []
  /-- The number of brackets and braces that are open. -/
  flow : Nat := 0
  /-- The column of the innermost indented list or map, one less than zero if there is none. -/
  indent : Int := -1
  /-- The columns of those around it, the innermost first. -/
  indents : List Int := []
  /-- A key may start here. -/
  keyAllowed : Bool := true
  /-- The places where keys may have started, by the number of open brackets and braces. -/
  places : List (Nat × KeyPlace) := []

namespace Lexer

/-- Adds a token. -/
def push (lexer : Lexer) (token : Token) : Lexer := { lexer with tokens := token :: lexer.tokens }

/-- Adds a token before those from a position on. -/
def insert (lexer : Lexer) (position : Nat) (token : Token) : Lexer :=
  let later := lexer.tokens.length - position
  { lexer with tokens := lexer.tokens.take later ++ token :: lexer.tokens.drop later }

/-- Moves to another place in the text. -/
def goTo (lexer : Lexer) (cursor : Cursor) : Lexer := { lexer with cursor := cursor }

/-- The place where a key may have started among the open brackets and braces. -/
def place? (lexer : Lexer) : Option KeyPlace := lexer.places.lookup lexer.flow

/-- Forgets that place. -/
def forgetPlace (lexer : Lexer) : Lexer :=
  { lexer with places := lexer.places.filter fun entry => entry.1 != lexer.flow }

/-- Gives that place up; a place where a key has to be cannot be given up. -/
def dropPlace (lexer : Lexer) : Except Fault Lexer :=
  if lexer.place?.any KeyPlace.required then .error .malformed else .ok lexer.forgetPlace

/-- Keeps the cursor as a place where a key may start. -/
def keepPlace (lexer : Lexer) : Except Fault Lexer :=
  if lexer.keyAllowed then do
    let required := lexer.flow == 0 && lexer.indent == (lexer.cursor.column : Int)
    let cleared ← lexer.dropPlace
    let place : KeyPlace := ⟨lexer.tokens.length, required, lexer.cursor⟩
    .ok { cleared with places := (lexer.flow, place) :: cleared.places }
  else .ok lexer

/-- A place is on another line, or too far away for a key. -/
def isStale (cursor : Cursor) (place : KeyPlace) : Bool :=
  place.cursor.line != cursor.line || 1024 < cursor.index - place.cursor.index

/-- Gives up the places that are stale. -/
def dropStale (lexer : Lexer) : Except Fault Lexer :=
  let stale := lexer.places.filter fun entry => isStale lexer.cursor entry.2
  if stale.any fun entry => entry.2.required then .error .malformed
  else
    .ok { lexer with places := lexer.places.filter fun entry => !isStale lexer.cursor entry.2 }

/-- Closes the indented lists and maps that are deeper than a column. -/
def closeDeeper (column : Int) : List Int → Lexer → Lexer
  | [], lexer => lexer
  | outer :: indents, lexer =>
    if column < lexer.indent then
      closeDeeper column indents { lexer.push .blockEnd with indent := outer, indents := indents }
    else lexer

/-- Closes them, unless brackets or braces are open. -/
def unwind (lexer : Lexer) (column : Int) : Lexer :=
  if lexer.flow == 0 then closeDeeper column lexer.indents lexer else lexer

/-- A deeper column opens an indented list or map; tells whether it does. -/
def deepen (lexer : Lexer) (column : Nat) : Bool × Lexer :=
  if lexer.indent < (column : Int) then
    (true, { lexer with indent := column, indents := lexer.indent :: lexer.indents })
  else (false, lexer)

/-- Opens an indented list or map before the next token if its column is deeper. -/
def openBlock (lexer : Lexer) (start : Token) : Lexer :=
  let (deeper, lexer) := lexer.deepen lexer.cursor.column
  if deeper then lexer.push start else lexer

/-- The lexer where the next token starts, after spaces, comments and empty lines. -/
def skipToToken : Nat → Lexer → Lexer
  | 0, lexer => lexer
  | fuel + 1, lexer =>
    let cursor := lexer.cursor.dropSpaces.dropComment
    match cursor.takeBreak? with
    | some (_, after) =>
      skipToToken fuel
        { lexer with cursor := after, keyAllowed := lexer.keyAllowed || lexer.flow == 0 }
    | none => lexer.goTo cursor

/-- Ends all that is indented, before a directive, a mark of a document, or the end. -/
def endBlocks (lexer : Lexer) : Except Fault Lexer := do
  let dropped ← (lexer.unwind (-1)).dropPlace
  .ok { dropped with keyAllowed := false }

/-- The start of brackets or braces. -/
def openFlow (lexer : Lexer) (token : Token) : Except Fault Lexer := do
  let kept ← lexer.keepPlace
  .ok { (kept.push token).goTo kept.cursor.next with flow := kept.flow + 1, keyAllowed := true }

/-- The end of brackets or braces; there have to be some. -/
def closeFlow (lexer : Lexer) (token : Token) : Except Fault Lexer := do
  let dropped ← lexer.dropPlace
  if dropped.flow == 0 then .error .malformed
  else
    .ok { (dropped.push token).goTo dropped.cursor.next with
          flow := dropped.flow - 1, keyAllowed := false }

/-- A mark after which a key may start. -/
def mark (lexer : Lexer) (token : Token) (keyAllowed : Bool) : Except Fault Lexer := do
  let dropped ← { lexer with keyAllowed := keyAllowed }.dropPlace
  .ok ((dropped.push token).goTo dropped.cursor.next)

/-- A mark that is only allowed where a key may start, and opens an indented list or map. -/
def blockMark (lexer : Lexer) (start token : Token) (keyAllowed : Bool) : Except Fault Lexer :=
  if lexer.flow != 0 then lexer.mark token keyAllowed
  else if lexer.keyAllowed then (lexer.openBlock start).mark token keyAllowed
  else .error .malformed

/-- The mark of a value: what came before it was a key if one may have started, and otherwise the
key is empty. -/
def valueMark (lexer : Lexer) : Except Fault Lexer :=
  match lexer.place? with
  | some place =>
    let marked := lexer.forgetPlace.insert place.position .key
    let (deeper, opened) := if marked.flow == 0 then marked.deepen place.cursor.column
      else (false, marked)
    let opened := if deeper then opened.insert place.position .blockMapStart else opened
    .ok { (opened.push .value).goTo opened.cursor.next with keyAllowed := false }
  | none => lexer.blockMark .blockMapStart .value (lexer.flow == 0)

/-- A token that can be a key or a part of one. -/
def keyToken (lexer : Lexer) (read : Lexer → Except Fault (Token × Bool × Cursor)) :
    Except Fault Lexer := do
  let kept ← lexer.keepPlace
  let (token, keyAllowed, after) ← read kept
  .ok { (kept.push token).goTo after with keyAllowed := keyAllowed }

/-- A block scalar. -/
def blockText (lexer : Lexer) (folded : Bool) : Except Fault Lexer := do
  let dropped ← { lexer with keyAllowed := true }.dropPlace
  let (text, after) ← blockScalar folded dropped.indent dropped.cursor
  .ok ((dropped.push (.scalar text false)).goTo after)

/-- A token that is read without regard to where it stands, and is never followed by a key. -/
def simpleToken (lexer : Lexer) (read : Cursor → Except Fault (Token × Cursor)) :
    Except Fault Lexer :=
  lexer.keyToken fun lexer => do
    let (token, after) ← read lexer.cursor
    .ok (token, false, after)

/-- A quoted scalar. -/
def quotedText (lexer : Lexer) (double : Bool) : Except Fault Lexer :=
  lexer.simpleToken fun cursor => do
    let (text, after) ← quotedScalar double cursor
    .ok (.scalar text false, after)

/-- A plain scalar, after which a key may start if lines end in it. -/
def plainText (lexer : Lexer) : Except Fault Lexer :=
  lexer.keyToken fun lexer =>
    let (text, broke, after) :=
      plainScalar (lexer.flow != 0) (lexer.indent + 1).toNat lexer.cursor
    .ok (.scalar text true, broke, after)

/-- The mark of a document. -/
def documentMark (lexer : Lexer) (token : Token) : Except Fault Lexer := do
  let ended ← lexer.endBlocks
  .ok ((ended.push token).goTo (ended.cursor.skip 3))

/-- A directive. -/
def directiveLine (lexer : Lexer) : Except Fault Lexer := do
  let ended ← lexer.endBlocks
  let (found, after) ← directive ended.cursor
  .ok ((ended.push (.directive found)).goTo after)

/-- Characters with which no plain scalar starts, save a hyphen, a question mark or a colon before
something else than a gap. -/
def isIndicator (c : Char) : Bool := "-?:,[]\x7b\x7d#&*!|>'\"%@\x60".toList.contains c

/-- A plain scalar starts with this character before that one. -/
def startsPlain (flow : Bool) (c : Char) (next : Option Char) : Bool :=
  (!isGap (some c) && !isIndicator c) ||
    (!isGap next && (c == '-' || (!flow && (c == '?' || c == ':'))))

/-- The next token, which starts with a character. -/
def token (lexer : Lexer) (c : Char) : Except Fault Lexer :=
  let cursor := lexer.cursor
  let inFlow := lexer.flow != 0
  let gapAfter := isGap (cursor.peekAt 1)
  if c == '%' && cursor.column == 0 then lexer.directiveLine
  else if cursor.column == 0 && cursor.isMark '-' then lexer.documentMark .documentStart
  else if cursor.column == 0 && cursor.isMark '.' then lexer.documentMark .documentEnd
  else if c == '[' then lexer.openFlow .listStart
  else if c == '\x7b' then lexer.openFlow .mapStart
  else if c == ']' then lexer.closeFlow .listEnd
  else if c == '\x7d' then lexer.closeFlow .mapEnd
  else if c == ',' then lexer.mark .comma true
  else if c == '-' && gapAfter then lexer.blockMark .blockListStart .blockEntry true
  else if c == '?' && (inFlow || gapAfter) then lexer.blockMark .blockMapStart .key (!inFlow)
  else if c == ':' && (inFlow || gapAfter) then lexer.valueMark
  else if c == '*' then
    lexer.simpleToken fun cursor => do
      let (name, after) ← anchorName cursor
      .ok (.alias name, after)
  else if c == '&' then
    lexer.simpleToken fun cursor => do
      let (name, after) ← anchorName cursor
      .ok (.anchor name, after)
  else if c == '!' then
    lexer.simpleToken fun cursor => do
      let (name, after) ← tagName cursor
      .ok (.tag name, after)
  else if c == '|' && !inFlow then lexer.blockText false
  else if c == '>' && !inFlow then lexer.blockText true
  else if c == '\'' then lexer.quotedText false
  else if c == '"' then lexer.quotedText true
  else if startsPlain inFlow c (cursor.peekAt 1) then lexer.plainText
  else .error .malformed

/-- The lexer after the next token, and whether the text goes on after it. -/
def fetch (lexer : Lexer) : Except Fault (Lexer × Bool) := do
  let fresh ← (lexer.skipToToken (lexer.cursor.rest.length + 1)).dropStale
  let ready := fresh.unwind fresh.cursor.column
  match ready.cursor.peek with
  | some c => .ok (← ready.token c, true)
  | none => do
    let ended ← ready.endBlocks
    .ok (ended.push .streamEnd, false)

/-- The tokens that are certain. From the first place on where a key may have started, the mark of a
key may still be put before them. -/
def settled (lexer : Lexer) : List Token :=
  let fresh := lexer.places.filter fun entry => !isStale lexer.cursor entry.2
  let first := (fresh.map fun entry => entry.2.position).foldl min lexer.tokens.length
  lexer.tokens.reverse.take first

/-- The tokens of the text whose first ones have been read. -/
def run : Nat → Lexer → Tokens
  | 0, lexer => ⟨lexer.settled, some .malformed⟩
  | fuel + 1, lexer =>
    match lexer.fetch with
    | .ok (after, true) => run fuel after
    | .ok (after, false) => ⟨after.tokens.reverse, none⟩
    | .error fault => ⟨lexer.settled, some fault⟩

end Lexer

/-- A character that may stand in a YAML text. -/
def isAllowed (c : Char) : Bool :=
  let n := c.toNat
  n == 9 || n == 10 || n == 13 || (0x20 ≤ n && n ≤ 0x7E) || n == 0x85 ||
    (0xA0 ≤ n && n ≤ 0xD7FF) || (0xE000 ≤ n && n ≤ 0xFFFD) || 0x10000 ≤ n

/-- The cursor at the start of a text; a mark of its byte order does not count. -/
def Cursor.start (cs : List Char) : Cursor :=
  let cursor : Cursor := { rest := cs }
  if cursor.peek == some byteOrderMark then cursor.next else cursor

/-- The tokens of a text. -/
def tokens (cs : List Char) : Tokens :=
  if cs.all isAllowed then
    Lexer.run (cs.length + 2) { cursor := Cursor.start cs }
  else ⟨[], some .malformed⟩

end Blueprint.Yaml
