import Blueprint.File
import Blueprint.Yaml.Node.Content
import Blueprint.Yaml.Node.Grammar
import Blueprint.Yaml.Token.Lexer

/-!
# A reader of YAML

The bytes of a file are decoded, the text is read as tokens, the tokens as the node of their only
document, and the node as a document. A text without a document has the missing value. This is one
reader of documents; what is said of reading files is said of every one.
-/
namespace Blueprint

namespace Yaml

/-- The value of a YAML text. -/
def read (text : List Char) : Except Fault Shared := do
  match ← Node.ofTokens (tokens text) with
  | some node => node.value
  | none => .ok (.ofValue .null)

/-- A text with one kind of breaks between lines. -/
def unifyBreaks : List Char → List Char
  | '\r' :: '\n' :: rest => '\n' :: unifyBreaks rest
  | c :: rest => (if c == '\r' then '\n' else c) :: unifyBreaks rest
  | [] => []

/-- The text of bytes. -/
def decode (bytes : List UInt8) : Except Fault (List Char) :=
  match String.fromUTF8? ⟨bytes.toArray⟩ with
  | some text => .ok (unifyBreaks text.toList)
  | none => .error .undecodable

/-- The reader of documents whose aliases stand for the containers of their anchors. -/
def loader : File.Loader Shared := fun bytes => do
  match ← read (← decode bytes) with
  | .scalar .null _ => .ok none
  | document => .ok (some document)

/-- The same reader of documents as values alone. -/
def valueLoader : File.Loader Value := fun bytes =>
  (loader bytes).map (Option.map Shared.value)

end Yaml

namespace File

/-- The value of the file by this reader, or the default if it is missing. -/
def read (file : File) (default : Value) : Except Fault Value :=
  file.load Yaml.valueLoader true default

/-- The value of the file by this reader, or the default if there is no file or it is malformed. -/
def readOr (file : File) (default : Value) : Except Fault Value :=
  file.load Yaml.valueLoader false default

end File

end Blueprint
