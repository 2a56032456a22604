import Blueprint.Error.Fault

/-!
# Tokens of a YAML text

A YAML text is a row of tokens: marks of structure, some of which stand for a change of indentation,
and names and scalars. A cursor walks through the text and knows its line and column.
-/
namespace Blueprint.Yaml

/-- The tag of a node as it is written: a handle that stands for the start of the tag, and the
rest. -/
structure TagName where
  /-- The handle, if one is written. -/
  handle : Option String
  /-- The rest. -/
  suffix : String
deriving DecidableEq, Repr

/-- A directive before a document. -/
inductive Directive where
  /-- The version of the notation. -/
  | version (major : Nat)
  /-- What a handle stands for. -/
  | tagHandle (handle start : String)
  /-- Any other directive. -/
  | other
deriving DecidableEq, Repr

/-- A token. -/
inductive Token where
  /-- A directive. -/
  | directive (directive : Directive)
  /-- The start of a document. -/
  | documentStart
  /-- The end of a document. -/
  | documentEnd
  /-- The end of the text. -/
  | streamEnd
  /-- The first entry of an indented list follows. -/
  | blockListStart
  /-- The first key of an indented map follows. -/
  | blockMapStart
  /-- An indented list or map is over. -/
  | blockEnd
  /-- An opening bracket. -/
  | listStart
  /-- A closing bracket. -/
  | listEnd
  /-- An opening brace. -/
  | mapStart
  /-- A closing brace. -/
  | mapEnd
  /-- A hyphen before an entry of an indented list. -/
  | blockEntry
  /-- A comma. -/
  | comma
  /-- A key follows. -/
  | key
  /-- A value follows. -/
  | value
  /-- A reference to an anchor. -/
  | alias (name : String)
  /-- The name of the next node. -/
  | anchor (name : String)
  /-- The tag of the next node. -/
  | tag (name : TagName)
  /-- A scalar; a plain one stands without quotation marks and is no block. -/
  | scalar (text : String) (plain : Bool)
deriving DecidableEq, Repr

/-- The tokens of a text up to its end, or up to where no further one can be read. -/
structure Tokens where
  /-- The tokens. -/
  row : List Token
  /-- Why there are no more, if the text does not end there. -/
  fault : Option Fault := none
deriving Repr

/-- A position in the text. -/
structure Cursor where
  /-- The text from here on. -/
  rest : List Char
  /-- The number of characters before. -/
  index : Nat := 0
  /-- The line, from zero. -/
  line : Nat := 0
  /-- The column, from zero. -/
  column : Nat := 0
deriving Repr

/-! ### Classes of characters; `none` is the end of the text -/

/-- The mark that may stand at the very start of a text. -/
def byteOrderMark : Char := Char.ofNat 0xFEFF

/-- The next line of the upper control characters. -/
def nextLine : Char := Char.ofNat 0x85

/-- The separators of lines and paragraphs. -/
def isSeparator (c : Char) : Bool := c.toNat == 0x2028 || c.toNat == 0x2029

/-- A character that ends a line. -/
def isBreak (c : Char) : Bool := c == '\n' || c == '\r' || c == nextLine || isSeparator c

/-- A line ends here. -/
def endsLine (c : Option Char) : Bool := c.all isBreak

/-- A line ends here, or there is a space. -/
def endsWord (c : Option Char) : Bool := c.all fun c => isBreak c || c == ' '

/-- A line ends here, or there is a space or a tab. -/
def isGap (c : Option Char) : Bool := c.all fun c => isBreak c || c == ' ' || c == '\t'

/-- A letter or digit of ASCII, a hyphen or an underscore. -/
def isNameChar (c : Char) : Bool :=
  let n := c.toNat
  (48 ≤ n && n ≤ 57) || (65 ≤ n && n ≤ 90) || (97 ≤ n && n ≤ 122) || c == '-' || c == '_'

namespace Cursor

/-- The character at the cursor. -/
def peek (cursor : Cursor) : Option Char := cursor.rest.head?

/-- The character some places after the cursor. -/
def peekAt (cursor : Cursor) (n : Nat) : Option Char := cursor.rest[n]?

/-- The cursor after one character. -/
def next (cursor : Cursor) : Cursor :=
  match cursor.rest with
  | [] => cursor
  | c :: rest =>
    let index := cursor.index + 1
    let endsHere := c == '\n' || c == nextLine || isSeparator c ||
      (c == '\r' && rest.head? != some '\n')
    if endsHere then ⟨rest, index, cursor.line + 1, 0⟩
    else ⟨rest, index, cursor.line, if c == byteOrderMark then cursor.column else cursor.column + 1⟩

/-- The cursor after several characters. -/
def skip (cursor : Cursor) : Nat → Cursor
  | 0 => cursor
  | n + 1 => skip cursor.next n

/-- The characters from the cursor on that pass a test, and the cursor after them. -/
def takeWhile (cursor : Cursor) (test : Char → Bool) : List Char × Cursor :=
  let taken := cursor.rest.takeWhile test
  (taken, cursor.skip taken.length)

/-- The cursor after the characters that pass a test. -/
def dropWhile (cursor : Cursor) (test : Char → Bool) : Cursor := (cursor.takeWhile test).2

/-- The cursor after spaces. -/
def dropSpaces (cursor : Cursor) : Cursor := cursor.dropWhile (· == ' ')

/-- The break of a line at the cursor as it is kept in a text, and the cursor after it. -/
def takeBreak? (cursor : Cursor) : Option (Char × Cursor) :=
  match cursor.rest with
  | '\r' :: '\n' :: _ => some ('\n', cursor.skip 2)
  | c :: _ =>
    if isSeparator c then some (c, cursor.next)
    else if isBreak c then some ('\n', cursor.next)
    else none
  | [] => none

/-- Three equal marks at the cursor with a gap after them. -/
def isMark (cursor : Cursor) (mark : Char) : Bool :=
  match cursor.rest with
  | a :: b :: c :: rest => a == mark && b == mark && c == mark && isGap rest.head?
  | _ => false

/-- The start or the end of a document is marked at the cursor. -/
def isDocumentMark (cursor : Cursor) : Bool := cursor.isMark '-' || cursor.isMark '.'

/-- The cursor after a comment, if there is one. -/
def dropComment (cursor : Cursor) : Cursor :=
  if cursor.peek == some '#' then cursor.dropWhile fun c => !isBreak c else cursor

/-- The cursor after the rest of a line in which only a comment may stand. -/
def finishLine (cursor : Cursor) : Except Fault Cursor :=
  let after := cursor.dropSpaces.dropComment
  if endsLine after.peek then .ok ((after.takeBreak?.map Prod.snd).getD after)
  else .error .malformed

end Cursor

end Blueprint.Yaml
