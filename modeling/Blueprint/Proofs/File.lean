import Blueprint.Yaml.Document

/-!
# What a lenient reading lets pass

A lenient reading gives the default where there is no file or the reader finds it malformed. That is
not all that can go wrong: a reader may refuse a file with other faults, since bytes may be no text,
a scalar may have no value of its type, and a document may be nested too deeply. A lenient reading
fails with these, and with these only; where the strict one has a value, it has the same.
-/
namespace Blueprint.File

variable {α : Type}

/-- How a lenient reading ends. -/
structure Lenient (loader : Loader α) (file : File) (default : α) : Prop where
  /-- It has the value of a strict reading, where that has one. -/
  agrees : ∀ value, file.load loader true default = .ok value →
    file.load loader false default = .ok value
  /-- A document is read, with the default in the place of a null one. -/
  parsed : ∀ bytes document, file.bytes = some bytes → loader bytes = .ok document →
    file.load loader false default = .ok (document.getD default)
  /-- Its value is the default if there is no file, or if the reader finds it malformed. -/
  defaulted : (file.bytes = none ∨
      ∃ bytes, file.bytes = some bytes ∧ loader bytes = .error .malformed) →
    file.load loader false default = .ok default
  /-- It fails exactly as the reader does, unless this finds the file malformed. -/
  raised : ∀ fault, file.load loader false default = .error fault ↔
    ∃ bytes, file.bytes = some bytes ∧ loader bytes = .error fault ∧ fault ≠ .malformed

variable {loader : Loader α} {file : File} {default value : α} {fault : Fault}

/-- Where there is a file, either reading has the document, the default in its place, or the fault
of the reader, save that a lenient one has the default for a malformed file. -/
theorem load_of_bytes {bytes : List UInt8} (given : file.bytes = some bytes) (strict : Bool) :
    file.load loader strict default = match loader bytes with
      | .ok document => .ok (document.getD default)
      | .error .malformed => if strict then .error .malformed else .ok default
      | .error fault => .error fault := by
  obtain ⟨path, content⟩ := file
  obtain rfl : content = some bytes := given
  rfl

/-- A strict reading has a value only of a document. -/
theorem exists_document_of_load (read : file.load loader true default = .ok value) :
    ∃ bytes document, file.bytes = some bytes ∧ loader bytes = .ok document ∧
      value = document.getD default := by
  cases given : file.bytes with
  | none =>
    rw [load, given] at read
    cases read
  | some bytes =>
    rw [load_of_bytes given] at read
    split at read
    · rename_i document parsed
      exact ⟨bytes, document, rfl, parsed, (Except.ok.inj read).symm⟩
    · cases read
    · cases read

/-- A lenient reading fails exactly as the reader does, unless this finds the file malformed. -/
theorem load_lenient_eq_error : file.load loader false default = .error fault ↔
    ∃ bytes, file.bytes = some bytes ∧ loader bytes = .error fault ∧ fault ≠ .malformed := by
  constructor
  · intro failed
    cases given : file.bytes with
    | none =>
      rw [load, given] at failed
      cases failed
    | some bytes =>
      rw [load_of_bytes given] at failed
      split at failed
      · cases failed
      · cases failed
      · rename_i cause other refused
        obtain rfl := Except.error.inj failed
        exact ⟨bytes, rfl, refused, other⟩
  · rintro ⟨bytes, given, refused, other⟩
    rw [load_of_bytes given, refused]
    split
    · rename_i never
      cases never
    · rename_i same
      exact absurd (Except.error.inj same) other
    · rename_i same
      rw [Except.error.inj same]

/-- How every lenient reading ends, whatever the reader and the bytes are. -/
theorem load_lenient (loader : Loader α) (file : File) (default : α) :
    Lenient loader file default where
  agrees value read := by
    obtain ⟨bytes, document, given, parsed, rfl⟩ := exists_document_of_load read
    rw [load_of_bytes given, parsed]
  parsed bytes document given parsed := by
    rw [load_of_bytes given, parsed]
  defaulted := by
    rintro (missing | ⟨bytes, given, refused⟩)
    · rw [load, missing]
      rfl
    · rw [load_of_bytes given, refused]
      rfl
  raised _ := load_lenient_eq_error

/-- One byte that is no text makes a lenient reading fail. -/
theorem readOr_undecodable : File.readOr ⟨"config.yaml", some [0xFF]⟩ (.text "fallback") =
    .error .undecodable := by
  rfl

end Blueprint.File
