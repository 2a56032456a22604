import Blueprint.Error.Fault

/-!
# Files of YAML

A file is read by a reader of documents, which is a parameter: what it makes of bytes, and the
faults with which it refuses them, are its own. A default stands for a null document. A strict
reading fails where there is no file and with every fault of the reader; a lenient one gives the
default where there is no file or the reader finds it malformed.
-/
namespace Blueprint

/-- A place where a file may be. -/
structure File where
  /-- Its path. -/
  path : String
  /-- The bytes of the file, if there is one. -/
  bytes : Option (List UInt8)
deriving DecidableEq, Repr

namespace File

/-- The steps of a path. -/
def steps : List Char → List (List Char)
  | [] => [[]]
  | c :: rest =>
    if c == '/' then [] :: steps rest
    else
      match steps rest with
      | [] => [[c]]
      | step :: more => (c :: step) :: more

/-- The start of an absolute path: a slash, or two if there are no more. -/
def rootOf : List Char → String
  | '/' :: '/' :: '/' :: _ => "/"
  | '/' :: '/' :: _ => "//"
  | '/' :: _ => "/"
  | _ => ""

/-- A path without empty steps and steps that stay where they are. -/
def tidyPath (path : String) : String :=
  let kept := ((steps path.toList).map String.ofList).filter fun step => step != "" && step != "."
  let tidy := rootOf path.toList ++ "/".intercalate kept
  if tidy.isEmpty then "." else tidy

/-- A reader of documents, as `yaml.safe_load` is one on an opened file: from the bytes of the file
the document, `none` for a null one, or the fault with which there is none. Of the faults
`malformed` stands for a `YAMLError`. -/
abbrev Loader (α : Type) := List UInt8 → Except Fault (Option α)

/-- `read_yaml` — the document of the file by a reader, with the default in the place of a null one.
A strict reading raises what is wrong; one that is not gives the default where there is no file and
where the reader finds it malformed, and catches nothing else. -/
def load {α : Type} (loader : Loader α) (strict : Bool) (file : File) (default : α) :
    Except Fault α :=
  match file.bytes with
  | none => if strict then .error (.fileMissing file.path) else .ok default
  | some bytes =>
    match loader bytes with
    | .ok document => .ok (document.getD default)
    | .error .malformed => if strict then .error .malformed else .ok default
    | .error fault => .error fault

end File

end Blueprint
