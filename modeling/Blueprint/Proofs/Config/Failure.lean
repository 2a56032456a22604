import Blueprint.Config.Load
import Blueprint.Proofs.Config.Assignment
import Blueprint.Proofs.Config.Telling
import Blueprint.Proofs.Json.Consume
import Blueprint.Proofs.Number.Numeral
import Blueprint.Proofs.Outcome

/-!
# How loading a configuration fails

Loading a configuration is meant to fail with configuration errors only. All that is wrong with the
file of the project, the path that a variable names, the place where its value is to stand, and the
rules of the schema is reported so, whatever the reader of documents makes of the file. But a
numeral may be met that no integer is made of: digits in the name of a variable that are not decimal
or too many, white space around an integer that numerals do not allow, an integer that is too long
to be read or to be shown. These escape as errors of values. And lists and maps may be nested more
deeply than there is room for, in the JSON text of a variable or in a value that is to be shown.
These escape as calls that are nested too deeply.
-/
namespace Blueprint

/-- A fault is a configuration error. -/
def Fault.IsConfig (fault : Fault) : Prop :=
  ∃ report, fault.report? = some report ∧ report.kind = .config

namespace Config

open Text Numeral

/-! ### The file of the project -/

/-- A piece of a variable's name is an index that can be read, if it consists of digits. -/
def IsReadable (piece : List Char) : Prop :=
  piece.all isDigit = true → piece.all isDecimal = true ∧ piece.length ≤ digitLimit

instance (piece : List Char) : Decidable (IsReadable piece) := by
  unfold IsReadable
  infer_instance

/-- A piece that is not empty has a segment just if it is no index that cannot be read. -/
theorem segment_eq_error_iff {piece : List Char} (some_ : piece ≠ []) {fault : Fault} :
    segment piece = .error fault ↔ fault = .badValue ∧ ¬ IsReadable piece := by
  unfold segment IsReadable
  by_cases digits : piece.all isDigit = true
  · rw [if_pos digits]
    have none_ := integer?_eq_none_iff some_ digits
    cases its : integer? piece with
    | none =>
      rw [its] at none_
      have bad := none_.1 rfl
      constructor
      · intro failed
        cases failed
        refine ⟨rfl, fun readable => ?_⟩
        obtain ⟨decimal, short⟩ := readable digits
        obtain other | long := bad
        · rw [decimal] at other
          cases other
        · omega
      · rintro ⟨rfl, _⟩
        rfl
    | some n =>
      rw [its] at none_
      have good : ¬ (piece.all isDecimal = false ∨ digitLimit < piece.length) := by
        intro bad
        cases none_.2 bad
      obtain ⟨decimal, short⟩ := not_or.1 good
      constructor
      · intro failed
        cases failed
      · rintro ⟨_, unreadable⟩
        exact absurd (fun _ => ⟨by simpa using decimal, by omega⟩) unreadable
  · rw [if_neg digits]
    constructor
    · intro failed
      split at failed <;> cases failed
    · rintro ⟨_, unreadable⟩
      exact absurd (fun all => absurd all digits) unreadable

/-- The segment of a piece of a name. -/
def segmentIn (raw : String) (piece : List Char) : Except Fault Segment :=
  if piece.isEmpty then .error (.emptySegment raw) else segment piece

/-- A piece that is not empty has its own segment. -/
theorem segmentIn_of_ne_nil {piece : List Char} (some_ : piece ≠ []) (raw : String) :
    segmentIn raw piece = segment piece := by
  rw [segmentIn, if_neg (by simpa using some_)]

/-- The segments of pieces are those of each piece. -/
theorem segments_eq_mapM (raw : String) (pieces : List (List Char)) :
    segments raw pieces = pieces.mapM (segmentIn raw) := by
  induction pieces with
  | nil => rfl
  | cons first rest ih =>
    rw [segments, List.mapM_cons, segmentIn, ih]
    split <;> rfl

/-- A piece has no segment just if it is empty, or else an index that cannot be read. -/
theorem segmentIn_eq_error_iff {raw : String} {piece : List Char} {fault : Fault} :
    segmentIn raw piece = .error fault ↔
      (piece = [] ∧ fault = .emptySegment raw) ∨
        (piece ≠ [] ∧ ¬ IsReadable piece ∧ fault = .badValue) := by
  by_cases empty : piece = []
  · subst empty
    simp [segmentIn, eq_comm]
  · rw [segmentIn_of_ne_nil empty, segment_eq_error_iff empty]
    simp [empty, and_comm]

/-- A piece has a segment just if it is not empty and no index that cannot be read. -/
theorem exists_segmentIn_iff {raw : String} {piece : List Char} :
    (∃ its, segmentIn raw piece = .ok its) ↔ piece ≠ [] ∧ IsReadable piece := by
  constructor
  · rintro ⟨its, done⟩
    constructor
    · rintro rfl
      cases done
    · by_contra unreadable
      have some_ : piece ≠ [] := by
        rintro rfl
        cases done
      rw [segmentIn_eq_error_iff.2 (.inr ⟨some_, unreadable, rfl⟩)] at done
      cases done
  · rintro ⟨some_, readable⟩
    cases done : segmentIn raw piece with
    | ok its => exact ⟨its, rfl⟩
    | error fault =>
      obtain ⟨empty, _⟩ | ⟨_, unreadable, _⟩ := segmentIn_eq_error_iff.1 done
      · exact absurd empty some_
      · exact absurd readable unreadable

/-- Pieces have no segments just if the first one that is empty or cannot be read is empty, or an
index that cannot be read. -/
theorem segments_eq_error_iff {raw : String} {pieces : List (List Char)} {fault : Fault} :
    segments raw pieces = .error fault ↔
      ∃ before piece after, pieces = before ++ piece :: after ∧
        (∀ other ∈ before, other ≠ [] ∧ IsReadable other) ∧
        ((piece = [] ∧ fault = .emptySegment raw) ∨
          (piece ≠ [] ∧ ¬ IsReadable piece ∧ fault = .badValue)) := by
  rw [segments_eq_mapM, mapM_eq_error]
  simp only [exists_segmentIn_iff, segmentIn_eq_error_iff]

/-- Pieces have no segments because of an index just if the first one that is empty or cannot be
read is not empty. -/
theorem segments_eq_badValue_iff {raw : String} {pieces : List (List Char)} :
    segments raw pieces = .error .badValue ↔
      ∃ before piece after, pieces = before ++ piece :: after ∧
        (∀ other ∈ before, other ≠ [] ∧ IsReadable other) ∧ piece ≠ [] ∧ ¬ IsReadable piece := by
  simp [segments_eq_error_iff]

/-- A text has no value only because of an integer, or of lists and maps that are nested too
deeply. -/
theorem coerce_eq_error {text : String} {room : Nat} {fault : Fault}
    (failed : coerce text room = .error fault) : fault = .badValue ∨ fault = .tooDeep := by
  unfold coerce at failed
  simp only at failed
  split at failed
  · cases failed
  split at failed
  · split at failed <;> cases failed
    exact .inl rfl
  split at failed
  · cases failed
  split at failed
  · cases failed
  · cases failed
  · rename_i refused
    cases failed
    unfold collectionOf? at refused
    split at refused
    · split at refused <;> cases refused
      · exact .inl rfl
      · exact .inr rfl
    · cases refused

/-- A text is plain: it is no longer than an integer may be, holds no information separators, and
opens no more lists and maps than there is room for. -/
def IsPlain (room : Nat) (text : String) : Prop :=
  text.toList.length ≤ digitLimit ∧ (∀ c ∈ text.toList, isSeparator c = false) ∧
    Json.openings text.toList ≤ room

/-- Decimal digits after a sign, if there is one, are what numerals take for digits after one. -/
theorem splitSign_map_plain {cs : List Char} (decimal : (withoutSign cs).all isDecimal = true) :
    (splitSign (cs.map plain)).2 = (withoutSign cs).map plain := by
  revert decimal
  unfold withoutSign
  split
  · exact fun _ => rfl
  · exact fun _ => rfl
  · intro decimal
    have unsigned : ∀ c ∈ cs.map plain, c ≠ '-' ∧ c ≠ '+' := by
      intro c member
      obtain ⟨d, inside, rfl⟩ := List.mem_map.1 member
      have digit := isDigit_of_isDecimal (List.all_eq_true.1 decimal d inside)
      exact (plain_ne_of_isDigit digit).2
    rw [splitSign_of_forall unsigned]

/-- An integer without separators is read unless it has too many digits, and the white space around
it does not count. -/
theorem integer?_of_isIntegerText {cs : List Char} (apart : ∀ c ∈ cs, isSeparator c = false)
    (integer : isIntegerText (trim cs) = true) :
    integer? cs = none ↔ digitLimit < (withoutSign (trim cs)).length := by
  simp only [isIntegerText, Bool.and_eq_true, Bool.not_eq_true', List.isEmpty_eq_false_iff]
    at integer
  obtain ⟨some_, decimal⟩ := integer
  have rows : ungroup? ((withoutSign (trim cs)).map plain) = some ((withoutSign (trim cs)).map plain) :=
    ungroup?_of_all (by simpa using some_) ((all_map_plain _).trans decimal)
  have signed := splitSign_map_plain decimal
  unfold integer?
  rw [body_eq_map_trim apart]
  generalize splitSign ((trim cs).map plain) = found at signed
  obtain ⟨negative, rest⟩ := found
  obtain rfl : rest = _ := signed
  simp only [rows, Option.bind_eq_bind, Option.bind_some, bounded?, List.length_map]
  split <;> simp_all

/-- A place where a value cannot stand is a configuration error. -/
theorem isConfig_of_setLast {segment : Segment} {value container : Value} {fault : Fault}
    (failed : setLast segment value container = .error fault) : fault.IsConfig := by
  unfold setLast at failed
  split at failed <;> cases failed
  · exact ⟨_, rfl, rfl⟩
  · exact ⟨_, rfl, rfl⟩
  · exact ⟨_, rfl, rfl⟩

/-- A path at which no value can be set is a configuration error. -/
theorem isConfig_of_setPath {path : Path} {value root : Value} {fault : Fault}
    (failed : (setPath path value root).2 = some fault) : fault.IsConfig := by
  induction path generalizing root with
  | nil => cases failed
  | cons segment rest ih =>
    cases rest with
    | nil =>
      rw [setPath] at failed
      cases last : setLast segment value root with
      | ok after =>
        rw [last] at failed
        cases failed
      | error fault =>
        rw [last] at failed
        cases failed
        exact isConfig_of_setLast last
    | cons next rest =>
      cases segment with
      | key name =>
        cases root with
        | dict entries => exact ih failed
        | _ =>
          cases failed
          exact ⟨_, rfl, rfl⟩
      | index | append =>
        cases failed
        exact ⟨_, rfl, rfl⟩

/-- A variable is illegible with a fault: the first piece of its name that is empty or cannot be
read is not empty, or else all are in order, and its text has no value. -/
def IsIllegible (room : Nat) (name text : String) (fault : Fault) : Prop :=
  ∃ key, keyOf? name = some key ∧ key.isEmpty = false ∧
    ((fault = .badValue ∧ ∃ before piece after, splitAtMarks key.toList = before ++ piece :: after ∧
        (∀ other ∈ before, other ≠ [] ∧ IsReadable other) ∧ piece ≠ [] ∧ ¬ IsReadable piece) ∨
      ∃ path, parsePath key = .ok path ∧ coerce text room = .error fault)

/-- What is wrong with an illegible variable is an error of values, or calls that are nested too
deeply. -/
theorem IsIllegible.kind {room : Nat} {name text : String} {fault : Fault}
    (illegible : IsIllegible room name text fault) : fault = .badValue ∨ fault = .tooDeep := by
  obtain ⟨_, _, _, ⟨rfl, _⟩ | ⟨_, _, untyped⟩⟩ := illegible
  · exact .inl rfl
  · exact coerce_eq_error untyped

/-- An error of values is no configuration error, and neither are calls that are nested too
deeply. -/
theorem not_isConfig {fault : Fault} (kind : fault = .badValue ∨ fault = .tooDeep) :
    ¬ fault.IsConfig := by
  rintro ⟨_, never, _⟩
  obtain rfl | rfl := kind <;> cases never

section Variable

variable {room : Nat} {root : Shared} {name text : String} {fault : Fault}

end Variable

/-! ### The whole configuration -/

/-- `ConfigManager.apply_env_overrides` — what variables make of a configuration, in order. -/
def overrideAll (room : Nat) (root : Shared) (environment : Environment) : Except Fault Shared :=
  environment.foldlM (fun root entry => override room root entry.1 entry.2) root

/-- The first violation of a configuration that cannot be told cannot for an obstacle that is met
with a fault. -/
def StopsAtViolation (telling : List Step → Nat) (config : Value) (fault : Fault) : Prop :=
  ∃ before violation after obstacle, violations schema config = before ++ violation :: after ∧
    (∀ other ∈ before, ∃ words, other.told telling = .ok words) ∧
    violation.told telling = .error obstacle ∧ fault = faultOf obstacle

variable {sources : Sources} {fault : Fault}

/-- A violation that cannot be told is an error of values, or calls that are nested too deeply. -/
theorem StopsAtViolation.kind {telling : List Step → Nat} {config : Value}
    (stops : StopsAtViolation telling config fault) : fault = .badValue ∨ fault = .tooDeep := by
  obtain ⟨_, _, _, obstacle, _, _, _, rfl⟩ := stops
  cases obstacle
  · exact .inl rfl
  · exact .inr rfl

end Config

end Blueprint
