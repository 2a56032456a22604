import Blueprint.Number.Numeral
import Blueprint.Yaml.Token.Basic

/-!
# Names in YAML texts

An anchor names a node and an alias refers to it. A tag says of which type a node is: in full in
angle brackets, or by a handle and the rest. Directives before a document give the version of the
notation and say what handles stand for.
-/
namespace Blueprint.Yaml

/-- A character that may follow the name of an anchor. -/
def endsAnchor (c : Option Char) : Bool :=
  isGap c || c.any fun c => "?:,]\x7d%@\x60".toList.contains c

/-- The name of an anchor or an alias, with the cursor before its mark. -/
def anchorName (cursor : Cursor) : Except Fault (String × Cursor) :=
  let (name, after) := cursor.next.takeWhile isNameChar
  if name.isEmpty || !endsAnchor after.peek then .error .malformed
  else .ok (String.ofList name, after)

/-- A character of a tag other than a percent sign. -/
def isTagChar (c : Char) : Bool := isNameChar c || ";/?:@&=+$,.!~*'()[]".toList.contains c

/-- The bytes given by percent signs, each with two hexadecimal digits. -/
def escapedBytes : Nat → Cursor → Except Fault (List UInt8 × Cursor)
  | 0, cursor => .ok ([], cursor)
  | fuel + 1, cursor =>
    if cursor.peek == some '%' then
      let (digits, _) := Radix.takeDigits 16 2 cursor.next.rest
      if digits.length = 2 then do
        let (bytes, after) ← escapedBytes fuel (cursor.skip 3)
        .ok (UInt8.ofNat (Radix.numberOf 16 digits) :: bytes, after)
      else .error .malformed
    else .ok ([], cursor)

/-- The text of bytes. -/
def textOfBytes (bytes : List UInt8) : Except Fault (List Char) :=
  match String.fromUTF8? ⟨bytes.toArray⟩ with
  | some text => .ok text.toList
  | none => .error .malformed

/-- The characters of a tag from one of its parts on. -/
def tagParts : Nat → List Char → Cursor → Except Fault (List Char × Cursor)
  | 0, done, cursor => .ok (done, cursor)
  | fuel + 1, done, cursor =>
    let (chars, after) := cursor.takeWhile isTagChar
    let done := done ++ chars
    if after.peek == some '%' then do
      let (bytes, after) ← escapedBytes (after.rest.length + 1) after
      tagParts fuel (done ++ (← textOfBytes bytes)) after
    else .ok (done, after)

/-- The rest of a tag after its handle, which is not empty. -/
def tagRest (cursor : Cursor) : Except Fault (String × Cursor) := do
  let (text, after) ← tagParts (cursor.rest.length + 1) [] cursor
  if text.isEmpty && after.index = cursor.index then .error .malformed
  else .ok (String.ofList text, after)

/-- A handle: an exclamation mark, alone before a space, or two of them around a name. -/
def tagHandle (cursor : Cursor) : Except Fault (String × Cursor) :=
  if cursor.peek != some '!' then .error .malformed
  else if cursor.next.peek == some ' ' then .ok ("!", cursor.next)
  else
    let (name, after) := cursor.next.takeWhile isNameChar
    if after.peek == some '!' then .ok ("!" ++ String.ofList name ++ "!", after.next)
    else .error .malformed

/-- Another exclamation mark stands in the word at the cursor. -/
def hasHandle (cursor : Cursor) : Bool :=
  (cursor.rest.takeWhile fun c => !endsWord (some c)).contains '!'

/-- The tag at the cursor. -/
def tagName (cursor : Cursor) : Except Fault (TagName × Cursor) := do
  let after := cursor.next
  let (name, after) ←
    if after.peek == some '<' then
      let (suffix, after) ← tagRest after.next
      if after.peek == some '>' then .ok ((⟨none, suffix⟩ : TagName), after.next)
      else .error .malformed
    else if isGap after.peek then .ok ((⟨none, "!"⟩ : TagName), after)
    else if hasHandle after then
      let (handle, after) ← tagHandle cursor
      let (suffix, after) ← tagRest after
      .ok ((⟨some handle, suffix⟩ : TagName), after)
    else
      let (suffix, after) ← tagRest after
      .ok ((⟨some "!", suffix⟩ : TagName), after)
  if endsWord after.peek then .ok (name, after) else .error .malformed

/-- A number in decimal digits, if there are not too many of them. -/
def versionPart (cursor : Cursor) : Except Fault (Nat × Cursor) :=
  let (digits, after) := cursor.takeWhile Radix.isPlainDigit
  if digits.isEmpty then .error .malformed
  else if Numeral.digitLimit < digits.length then .error .badValue
  else .ok (Radix.numberOf 10 (Radix.takeDigits 10 digits.length digits).1, after)

/-- The version that a directive gives. -/
def versionDirective (cursor : Cursor) : Except Fault (Directive × Cursor) := do
  let (major, after) ← versionPart cursor.dropSpaces
  if after.peek == some '.' then
    let (_, after) ← versionPart after.next
    if endsWord after.peek then .ok (.version major, after) else .error .malformed
  else .error .malformed

/-- The handle that a directive gives a meaning. -/
def handleDirective (cursor : Cursor) : Except Fault (Directive × Cursor) := do
  let (handle, after) ← tagHandle cursor.dropSpaces
  if after.peek == some ' ' then
    let (start, after) ← tagRest after.dropSpaces
    if endsWord after.peek then .ok (.tagHandle handle start, after) else .error .malformed
  else .error .malformed

/-- The directive at the cursor, with the whole line. -/
def directive (cursor : Cursor) : Except Fault (Directive × Cursor) := do
  let (name, after) := cursor.next.takeWhile isNameChar
  if name.isEmpty || !endsWord after.peek then .error .malformed
  else
    let (found, after) ← match String.ofList name with
      | "YAML" => versionDirective after
      | "TAG" => handleDirective after
      | _ => .ok (.other, after.dropWhile fun c => !isBreak c)
    .ok (found, ← after.finishLine)

end Blueprint.Yaml
