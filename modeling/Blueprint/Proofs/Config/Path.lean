import Blueprint.Name
import Blueprint.Proofs.Config.Failure
import Blueprint.Proofs.Text.Lower

/-!
# Paths in the names of variables

A name is cut at its first two underscores, and what follows them is cut again. So a path can be
read from the name that its segments make with two underscores between them: the digits of an index,
and the word for the end of a list or a key in any case. A name has a path just if no piece is empty
and none is an index that cannot be read; otherwise the first such piece is its fault.
-/
namespace Blueprint.Config

open Text Numeral Radix

/-! ### Pieces -/

/-- What separates the pieces of a name. -/
def marks : List Char := ['_', '_']

/-- The pieces of a text, cut from the left at two underscores each time. The first cut stands where
two underscores do for the first time, so that they do not begin within the piece before it. -/
inductive Pieces : List Char → List (List Char) → Prop where
  /-- What holds no two underscores is the last piece. -/
  | last {piece : List Char} (whole : ¬ marks <:+: piece) : Pieces piece [piece]
  /-- A piece ends at the first two underscores. -/
  | next (piece : List Char) {rest : List Char} {pieces : List (List Char)}
      (first : ¬ marks <:+: piece ++ ['_']) (later : Pieces rest pieces) :
    Pieces (piece ++ '_' :: '_' :: rest) (piece :: pieces)

/-- Two underscores begin with a character, or they stand in what follows it. -/
theorem marks_isInfix_cons {c : Char} {cs : List Char} :
    marks <:+: c :: cs ↔ (c = '_' ∧ cs.head? = some '_') ∨ marks <:+: cs := by
  rw [List.infix_cons_iff, marks, List.cons_prefix_cons, @eq_comm _ '_' c]
  cases cs <;> simp [List.cons_prefix_cons, @eq_comm _ '_']

/-- What follows the first underscore after a piece does not matter to how the piece begins. -/
theorem head?_append_underscore (piece rest : List Char) :
    (piece ++ '_' :: rest).head? = (piece ++ ['_']).head? := by cases piece <;> rfl

/-- A character that begins no two underscores belongs to the piece after it. -/
theorem splitAtMarks_cons {c : Char} {rest piece : List Char} {pieces : List (List Char)}
    (apart : ¬ (c = '_' ∧ rest.head? = some '_')) (split : splitAtMarks rest = piece :: pieces) :
    splitAtMarks (c :: rest) = (c :: piece) :: pieces := by
  rw [splitAtMarks, split]
  rintro more rfl rfl
  exact apart ⟨rfl, rfl⟩

/-- A text without two underscores is one piece. -/
theorem splitAtMarks_of_whole {piece : List Char} (whole : ¬ marks <:+: piece) :
    splitAtMarks piece = [piece] := by
  induction piece with
  | nil => rfl
  | cons c rest ih =>
    rw [marks_isInfix_cons, not_or] at whole
    exact splitAtMarks_cons whole.1 (ih whole.2)

/-- A text is cut at its first two underscores. -/
theorem splitAtMarks_append {piece : List Char} (first : ¬ marks <:+: piece ++ ['_'])
    (rest : List Char) :
    splitAtMarks (piece ++ '_' :: '_' :: rest) = piece :: splitAtMarks rest := by
  induction piece with
  | nil => rfl
  | cons c piece ih =>
    rw [List.cons_append, marks_isInfix_cons, not_or, ← head?_append_underscore] at first
    exact splitAtMarks_cons first.1 (ih first.2)

/-- A text has no other pieces than those that it is split into. -/
theorem Pieces.splitAtMarks_eq {cs : List Char} {pieces : List (List Char)}
    (cut : Pieces cs pieces) : splitAtMarks cs = pieces := by
  induction cut with
  | last whole => exact splitAtMarks_of_whole whole
  | next piece first _ ih => rw [splitAtMarks_append first, ih]

/-- A character that begins no two underscores belongs to the first piece of what follows. -/
theorem Pieces.cons {c : Char} {rest piece : List Char} {pieces : List (List Char)}
    (apart : ¬ (c = '_' ∧ rest.head? = some '_')) (cut : Pieces rest (piece :: pieces)) :
    Pieces (c :: rest) ((c :: piece) :: pieces) := by
  cases cut with
  | last whole => exact .last (marks_isInfix_cons.not.2 (not_or.2 ⟨apart, whole⟩))
  | next _ first later =>
    rw [head?_append_underscore] at apart
    exact .next (c :: piece) (marks_isInfix_cons.not.2 (not_or.2 ⟨apart, first⟩)) later

/-- A text is split into its pieces. -/
theorem pieces_splitAtMarks (cs : List Char) : Pieces cs (splitAtMarks cs) := by
  fun_induction splitAtMarks cs with
  | case1 => exact .last (by decide)
  | case2 rest ih => exact .next [] (by decide) ih
  | case3 c rest _ none_ ih =>
    rw [none_] at ih
    cases ih
  | case4 c rest plain piece pieces split ih =>
    have apart : ¬ (c = '_' ∧ rest.head? = some '_') := by
      rintro ⟨mark, begins⟩
      obtain ⟨more, also⟩ := List.head?_eq_some_iff.1 begins
      exact plain more mark also
    rw [split] at ih
    exact ih.cons apart

/-- Texts that begin no two underscores are the pieces of what they are joined to. -/
theorem pieces_intercalate {texts : List (List Char)} (some_ : texts ≠ [])
    (whole : ∀ text ∈ texts, ¬ marks <:+: text ++ ['_']) :
    Pieces (marks.intercalate texts) texts := by
  induction texts with
  | nil => exact absurd rfl some_
  | cons text texts ih =>
    have first := whole text List.mem_cons_self
    cases texts with
    | nil =>
      rw [List.intercalate_singleton]
      exact .last fun inside => first (inside.trans (List.infix_append_left ..))
    | cons next texts =>
      rw [List.intercalate_cons_cons, List.append_assoc]
      have later : ∀ other ∈ next :: texts, ¬ marks <:+: other ++ ['_'] := fun other member =>
        whole other (.tail _ member)
      exact .next text first (ih (List.cons_ne_nil _ _) later)

/-! ### Letters in any case -/

/-- A character of keys: a small letter of ASCII, a digit of ASCII or an underscore. -/
def isKeyChar (c : Char) : Bool := Name.isSmall c || isPlainDigit c || c == '_'

section

variable {c : Char}

/-- A character of keys in any case is one of ASCII, up to the small letters. -/
theorem exists_ofNat_of_isKeyChar (inKey : isKeyChar c.toLower) : ∃ n < 123, c = Char.ofNat n := by
  refine ⟨c.toNat, ?_, (Char.ofNat_toNat c).symm⟩
  unfold Char.toLower at inKey
  split at inKey
  · rename_i capital
    exact Nat.lt_of_le_of_lt (UInt32.le_iff_toNat_le.1 capital.2) (by decide)
  · simp only [isKeyChar, Name.isSmall, isPlainDigit, Bool.or_eq_true, Bool.and_eq_true,
      decide_eq_true_eq, beq_iff_eq] at inKey
    obtain letter | rfl := inKey
    · omega
    · decide

/-- A character of keys in any case is changed to either case as a letter of ASCII, and is a digit
just if it is one in lower case. -/
theorem cases_of_isKeyChar (inKey : isKeyChar c.toLower) :
    (c.toNat ≠ 931 ∧ lowerChar c = [c.toLower]) ∧
      (upperChar c = [c.toUpper] ∧ c.toUpper.toLower = c.toLower ∧ c.toLower.toUpper = c.toUpper) ∧
      isDigit c = isPlainDigit c.toLower := by
  have table : ∀ n < 123, isKeyChar (Char.ofNat n).toLower →
      ((Char.ofNat n).toNat ≠ 931 ∧ lowerChar (Char.ofNat n) = [(Char.ofNat n).toLower]) ∧
      (upperChar (Char.ofNat n) = [(Char.ofNat n).toUpper] ∧
        (Char.ofNat n).toUpper.toLower = (Char.ofNat n).toLower ∧
          (Char.ofNat n).toLower.toUpper = (Char.ofNat n).toUpper) ∧
      isDigit (Char.ofNat n) = isPlainDigit (Char.ofNat n).toLower := by decide +kernel
  obtain ⟨n, bound, rfl⟩ := exists_ofNat_of_isKeyChar inKey
  exact table n bound inKey

end

section

variable {text : List Char} (known : ∀ c ∈ text, isKeyChar c.toLower)

include known

/-- Characters of keys are lowered one by one. -/
theorem lower_eq_map : lower text = text.map Char.toLower := by
  rw [lower_eq_flatMap fun c member => (cases_of_isKeyChar (known c member)).1.1,
    List.map_eq_flatMap]
  exact List.flatMap_congr fun c member => (cases_of_isKeyChar (known c member)).1.2

/-- Characters of keys are raised one by one. -/
theorem upper_eq_map : upper text = text.map Char.toUpper := by
  rw [upper, List.map_eq_flatMap]
  exact List.flatMap_congr fun c member => (cases_of_isKeyChar (known c member)).2.1.1

/-- A text is the word for the end of a list in capitals just if it is so in small letters. -/
theorem upper_eq_appendWord_iff :
    String.ofList (upper text) = appendWord ↔ text.map Char.toLower = "append".toList := by
  have lowered : (text.map Char.toUpper).map Char.toLower = text.map Char.toLower := by
    rw [List.map_map]
    exact List.map_congr_left fun c member => (cases_of_isKeyChar (known c member)).2.1.2.1
  have raised : (text.map Char.toLower).map Char.toUpper = text.map Char.toUpper := by
    rw [List.map_map]
    exact List.map_congr_left fun c member => (cases_of_isKeyChar (known c member)).2.1.2.2
  rw [upper_eq_map known, ← String.toList_inj, String.toList_ofList]
  constructor
  · intro capitals
    rw [← lowered, capitals]
    decide
  · intro small
    rw [← raised, small]
    decide

/-- A text of such characters consists of digits just if it does so in small letters. -/
theorem all_isDigit_eq : text.all isDigit = (text.map Char.toLower).all isPlainDigit := by
  rw [List.all_map, Bool.eq_iff_iff, List.all_eq_true, List.all_eq_true]
  refine forall₂_congr fun c member => ?_
  rw [(cases_of_isKeyChar (known c member)).2.2]
  rfl

end

/-- A text that is not all digits in small letters is the word for the end of a list, or a key. -/
theorem segment_of_isKeyChar {text : List Char} (name : String)
    (each : ∀ c ∈ name.toList, isKeyChar c) (other : name.toList.all isPlainDigit = false)
    (same : text.map Char.toLower = name.toList) :
    segment text = .ok (if name = "append" then .append else .key name) := by
  have known : ∀ c ∈ text, isKeyChar c.toLower := fun c member =>
    each _ (same ▸ List.mem_map_of_mem member)
  have word : String.ofList (upper text) = appendWord ↔ name = "append" := by
    rw [upper_eq_appendWord_iff known, same, String.toList_inj]
  rw [segment, all_isDigit_eq known, same, other, if_neg Bool.false_ne_true, lower_eq_map known,
    same, String.ofList_toList]
  simp only [word]
  split <;> rfl

/-! ### Spellings of segments -/

/-- What a segment that is a key may be: it holds characters of keys, not all of them digits, and is
not the word for the end of a list; it does not end with an underscore, though it may begin with
one, and holds no two of them. -/
structure IsPlainKey (name : String) : Prop where
  /-- It holds characters of keys. -/
  each : ∀ c ∈ name.toList, isKeyChar c
  /-- Not all of them are digits. -/
  other : name.toList.all isPlainDigit = false
  /-- It is not the word for the end of a list. -/
  unreserved : name ≠ "append"
  /-- It does not end with an underscore. -/
  ends : name.toList.getLast? ≠ some '_'
  /-- It holds no two underscores. -/
  whole : ¬ marks <:+: name.toList

/-- The texts that spell a segment: the decimal digits of an index, and the word for the end of a
list or a key in any case. -/
inductive Spells : List Char → Segment → Prop where
  /-- Digits spell an index. -/
  | index (n : Nat) : Spells (Nat.toDigits 10 n) (.index n)
  /-- The word for the end of a list, in any case. -/
  | append {text : List Char} (same : text.map Char.toLower = "append".toList) : Spells text .append
  /-- A key in any case. -/
  | key {text : List Char} {name : String} (plain : IsPlainKey name)
      (same : text.map Char.toLower = name.toList) : Spells text (.key name)

/-- A text that ends with no underscore and holds no two of them begins no two underscores. -/
theorem not_marks_concat {cs : List Char} (ends : cs.getLast? ≠ some '_')
    (whole : ¬ marks <:+: cs) : ¬ marks <:+: cs ++ ['_'] := by
  rw [List.infix_concat_iff, not_or]
  refine ⟨?_, whole⟩
  rintro ⟨front, same⟩
  have own : front ++ ['_'] = cs := List.append_cancel_right ((List.append_assoc ..).trans same)
  rw [← own, List.getLast?_concat] at ends
  exact ends rfl

/-- The decimal digits of a number are digits. -/
theorem isDigit_toDigits (n : Nat) : (Nat.toDigits 10 n).all isDigit = true := by
  refine List.all_eq_true.2 fun c member => isDigit_of_isDecimal (isDecimal_of_isPlainDigit ?_)
  exact List.all_eq_true.1 (all_isPlainDigit_toDigits n) c member

namespace Spells

variable {text : List Char} {its : Segment}

/-- What spells a segment is not empty. -/
theorem ne_nil (spells : Spells text its) : text ≠ [] := by
  cases spells with
  | index n => exact Nat.toDigits_ne_nil
  | append same =>
    rintro rfl
    cases same
  | key plain same =>
    rintro rfl
    have all := plain.other
    rw [← same] at all
    cases all

/-- What spells a segment begins no two underscores. -/
theorem apart (spells : Spells text its) : ¬ marks <:+: text ++ ['_'] := by
  have alike : ∀ {name : List Char}, name.getLast? ≠ some '_' → ¬ marks <:+: name →
      text.map Char.toLower = name → ¬ marks <:+: text ++ ['_'] := by
    rintro _ ends whole rfl
    refine not_marks_concat (fun last => ends ?_) fun inside => whole (inside.map Char.toLower)
    rw [List.getLast?_map, last]
    rfl
  cases spells with
  | index n =>
    have none_ : '_' ∉ Nat.toDigits 10 n := Nat.underscore_not_in_toDigits
    exact not_marks_concat (fun last => none_ (List.mem_of_getLast? last))
      fun inside => none_ (inside.subset List.mem_cons_self)
  | append same => exact alike (by decide) (by decide +kernel) same
  | key plain same => exact alike plain.ends plain.whole same

/-- What spells a segment has it, unless it is an index of too many digits. -/
theorem segment_eq (spells : Spells text its)
    (short : ∀ n, its = .index n → (Nat.toDigits 10 n).length ≤ digitLimit) :
    segment text = .ok its := by
  cases spells with
  | index n =>
    rw [segment, if_pos (isDigit_toDigits n), integer?_toDigits (short n rfl)]
    rfl
  | append same =>
    have each : ∀ c ∈ "append".toList, isKeyChar c := List.all_eq_true.1 (by decide)
    exact segment_of_isKeyChar "append" each (by decide) same
  | @key _ name plain same =>
    rw [segment_of_isKeyChar name plain.each plain.other same, if_neg plain.unreserved]

end Spells

/-- An index of too many digits cannot be read. -/
theorem not_isReadable_toDigits {n : Nat} (long : digitLimit < (Nat.toDigits 10 n).length) :
    ¬ IsReadable (Nat.toDigits 10 n) := fun readable =>
  Nat.not_le.2 long (readable (isDigit_toDigits n)).2

/-! ### Names of paths -/

/-- The name that texts make with two underscores between them. -/
def written (texts : List (List Char)) : String := String.ofList (marks.intercalate texts)

section

variable {path : Path} {texts : List (List Char)} (spells : List.Forall₂ Spells texts path)

include spells

/-- A text of a path spells a segment. -/
theorem exists_spells {text : List Char} (member : text ∈ texts) : ∃ its, Spells text its := by
  obtain ⟨its, _, spelled⟩ := exists_of_forall₂ spells member
  exact ⟨its, spelled⟩

/-- The name of a path is read by its texts. -/
theorem parsePath_written (some_ : path ≠ []) :
    parsePath (written texts) = texts.mapM (segmentIn (written texts)) := by
  have texts_ : texts ≠ [] := by
    rintro rfl
    cases spells
    exact some_ rfl
  have cut : Pieces (marks.intercalate texts) texts := pieces_intercalate texts_ fun text member =>
    (exists_spells spells member).elim fun _ spelled => spelled.apart
  rw [parsePath, written, String.toList_ofList, cut.splitAtMarks_eq, segments_eq_mapM]

/-- Texts of which none spells an index of too many digits have the segments that they spell. -/
theorem mapM_segmentIn (short : ∀ n, .index n ∈ path → (Nat.toDigits 10 n).length ≤ digitLimit)
    (raw : String) : texts.mapM (segmentIn raw) = .ok path := by
  rw [mapM_eq_ok]
  induction spells with
  | nil => exact .nil
  | cons first _ ih =>
    refine .cons ?_ (ih fun n member => short n (.tail _ member))
    rw [segmentIn_of_ne_nil first.ne_nil]
    exact first.segment_eq fun n same => short n (same ▸ List.mem_cons_self)

/-- Texts of which one spells an index of too many digits have none. -/
theorem mapM_segmentIn_of_long {n : Nat} (member : .index n ∈ path)
    (long : digitLimit < (Nat.toDigits 10 n).length) (raw : String) :
    texts.mapM (segmentIn raw) = .error .badValue := by
  cases done : texts.mapM (segmentIn raw) with
  | ok segments =>
    obtain ⟨text, inside, spelled⟩ := exists_of_forall₂ spells.flip member
    obtain ⟨its, _, read⟩ := exists_of_forall₂ (mapM_eq_ok.1 done) inside
    cases spelled
    exact absurd (exists_segmentIn_iff.1 ⟨its, read⟩).2 (not_isReadable_toDigits long)
  | error fault =>
    obtain ⟨before, text, after, rfl, _, fails⟩ := mapM_eq_error.1 done
    obtain ⟨its, spelled⟩ := exists_spells spells (List.mem_append_right before List.mem_cons_self)
    obtain ⟨empty, _⟩ | ⟨_, _, rfl⟩ := segmentIn_eq_error_iff.1 fails
    · exact absurd empty spelled.ne_nil
    · rfl

end

/-- An empty piece is the fault of a name just if all pieces before it can be read. -/
theorem parsePath_eq_emptySegment_iff {raw : String} :
    parsePath raw = .error (.emptySegment raw) ↔ ∃ before after,
      splitAtMarks raw.toList = before ++ [] :: after ∧ ∀ piece ∈ before, IsReadable piece := by
  rw [parsePath, segments_eq_error_iff]
  constructor
  · rintro ⟨before, _, after, whole, earlier, ⟨rfl, _⟩ | ⟨_, _, never⟩⟩
    · exact ⟨before, after, whole, fun piece member => (earlier piece member).2⟩
    · cases never
  · rintro ⟨before, after, whole, readable⟩
    -- an earlier piece may be empty too, so the first one is taken
    obtain ⟨first, others, split, fresh⟩ :=
      List.eq_append_cons_of_mem (List.mem_append_right before (List.mem_singleton_self []))
    refine ⟨first, [], others ++ after, ?_, fun piece member => ?_, .inl ⟨rfl, rfl⟩⟩
    · rw [whole, ← List.singleton_append, ← List.append_assoc, split, List.append_assoc,
        List.cons_append]
    · have some_ : piece ≠ [] := fun empty => fresh (empty ▸ member)
      have inside : piece ∈ before ++ [[]] := split ▸ List.mem_append_left _ member
      obtain early | last := List.mem_append.1 inside
      · exact ⟨some_, readable piece early⟩
      · exact absurd (List.mem_singleton.1 last) some_

/-- A name has a path just if no piece is empty or an index that cannot be read. -/
theorem exists_parsePath_iff {raw : String} : (∃ path, parsePath raw = .ok path) ↔
    ∀ piece ∈ splitAtMarks raw.toList, piece ≠ [] ∧ IsReadable piece := by
  constructor
  · rintro ⟨path, parsed⟩ piece member
    rw [parsePath, segments_eq_mapM] at parsed
    obtain ⟨its, _, read⟩ := exists_of_forall₂ (mapM_eq_ok.1 parsed) member
    exact exists_segmentIn_iff.1 ⟨its, read⟩
  · intro fine
    cases parsed : parsePath raw with
    | ok path => exact ⟨path, rfl⟩
    | error fault =>
      obtain ⟨before, piece, after, whole, _, bad⟩ := segments_eq_error_iff.1 parsed
      obtain ⟨some_, readable⟩ := fine piece (by simp [whole])
      obtain ⟨empty, _⟩ | ⟨_, unreadable, _⟩ := bad
      · exact absurd empty some_
      · exact absurd readable unreadable

/-- The fault of a name is an empty piece, which is a configuration error, or an index that cannot
be read. -/
theorem parsePath_eq_error {raw : String} {fault : Fault} (failed : parsePath raw = .error fault) :
    (fault = .emptySegment raw ∧ fault.IsConfig) ∨ fault = .badValue := by
  obtain ⟨_, _, _, _, _, ⟨_, rfl⟩ | ⟨_, _, rfl⟩⟩ := segments_eq_error_iff.1 failed
  · exact .inl ⟨rfl, _, rfl, rfl⟩
  · exact .inr rfl

/-- A path is read from its name, unless one of its indices has too many digits: texts that spell
its segments, digits for an index, and the word for the end of a list and keys in any case, joined
by two underscores. Any name is cut into pieces from the left at two underscores each time, in one
way only. It has a path just if no piece is empty or an index that cannot be read, and an empty
piece is its fault just if all pieces before that can be read; else the fault is an index. -/
theorem parsePath_unless_unreadable (path : Path) (texts : List (List Char)) (raw : String) :
    (path ≠ [] → List.Forall₂ Spells texts path →
        ((∀ n, .index n ∈ path → (Nat.toDigits 10 n).length ≤ digitLimit) →
            parsePath (written texts) = .ok path) ∧
          ((∃ n, .index n ∈ path ∧ digitLimit < (Nat.toDigits 10 n).length) →
            parsePath (written texts) = .error .badValue)) ∧
      ∃ pieces, (∀ other, Pieces raw.toList other ↔ other = pieces) ∧
        ((∃ path, parsePath raw = .ok path) ↔ ∀ piece ∈ pieces, piece ≠ [] ∧ IsReadable piece) ∧
        (parsePath raw = .error (.emptySegment raw) ↔
          ∃ before after, pieces = before ++ [] :: after ∧ ∀ piece ∈ before, IsReadable piece) ∧
        ∀ fault, parsePath raw = .error fault →
          (fault = .emptySegment raw ∧ fault.IsConfig) ∨ fault = .badValue := by
  constructor
  · intro some_ spells
    rw [parsePath_written spells some_]
    constructor
    · exact fun short => mapM_segmentIn spells short _
    · rintro ⟨n, member, long⟩
      exact mapM_segmentIn_of_long spells member long _
  · refine ⟨splitAtMarks raw.toList, fun other => ?_, exists_parsePath_iff,
      parsePath_eq_emptySegment_iff, fun fault => parsePath_eq_error⟩
    constructor
    · exact fun cut => cut.splitAtMarks_eq.symm
    · rintro rfl
      exact pieces_splitAtMarks raw.toList

/-- A key in capitals, a list index and the word for the end of a list are read from a name, and a
name with four underscores in a row is not read. -/
theorem parsePath_unless_unreadable_patterns :
    parsePath "ALIASES_2__10__Append" = .ok [.key "aliases_2", .index 10, .append] ∧
      parsePath "ALIASES____X" = .error (.emptySegment "ALIASES____X") := by
  have plain : IsPlainKey "aliases_2" :=
    ⟨List.all_eq_true.1 (by decide +kernel), by decide +kernel, by decide, by decide +kernel,
      by decide +kernel⟩
  have key : Spells "ALIASES_2".toList (.key "aliases_2") := .key plain (by decide +kernel)
  have append : Spells "Append".toList .append := .append (by decide +kernel)
  have spells : List.Forall₂ Spells ["ALIASES_2".toList, Nat.toDigits 10 10, "Append".toList]
      [.key "aliases_2", .index 10, .append] := .cons key (.cons (.index 10) (.cons append .nil))
  obtain ⟨named, pieces, cut, _, empty, _⟩ := parsePath_unless_unreadable _ _ "ALIASES____X"
  obtain ⟨read, _⟩ := named (List.cons_ne_nil _ _) spells
  have whole : written ["ALIASES_2".toList, Nat.toDigits 10 10, "Append".toList] =
      "ALIASES_2__10__Append" := by decide +kernel
  have split : splitAtMarks "ALIASES____X".toList = ["ALIASES".toList, [], "X".toList] := by
    decide +kernel
  obtain rfl := (cut _).1 (pieces_splitAtMarks _)
  refine ⟨?_, empty.2 ⟨["ALIASES".toList], ["X".toList], split, by decide +kernel⟩⟩
  rw [← whole]
  refine read fun n member => ?_
  obtain rfl : n = 10 := by simpa using member
  decide

/-- A name whose first piece is a superscript two, and whose second one is empty. -/
def superscriptKey : String := String.singleton (Char.ofNat 178) ++ "____X"

/-- A superscript two before an empty piece is a digit but no index, so that the fault is no
configuration error; and an index of too many digits is not read from the name of its path. -/
theorem parsePath_superscript :
    (Pieces superscriptKey.toList [[Char.ofNat 178], [], ['X']] ∧
        parsePath superscriptKey = .error .badValue ∧ ¬ Fault.IsConfig .badValue) ∧
      ∃ text n, Spells text (.index n) ∧ parsePath (written [text]) = .error .badValue := by
  obtain ⟨n, long⟩ : ∃ n, digitLimit < (Nat.toDigits 10 n).length :=
    exists_lt_length_toDigits (by decide)
  have spells : List.Forall₂ Spells [Nat.toDigits 10 n] [.index n] := .cons (.index n) .nil
  have unread : parsePath (written [Nat.toDigits 10 n]) = .error .badValue := by
    rw [parsePath_written spells (List.cons_ne_nil _ _)]
    exact mapM_segmentIn_of_long spells List.mem_cons_self long _
  have split : splitAtMarks superscriptKey.toList = [[Char.ofNat 178], [], ['X']] := by
    decide +kernel
  refine ⟨⟨split ▸ pieces_splitAtMarks _, ?_, not_isConfig (.inl rfl)⟩, _, n, .index n, unread⟩
  exact segments_eq_badValue_iff.2
    ⟨[], [Char.ofNat 178], [[], ['X']], split, by simp, by simp, by decide⟩

end Blueprint.Config
