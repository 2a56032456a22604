import Blueprint.Proofs.Name.Boundary
import Blueprint.Proofs.Pattern.Replace

/-!
# Names by substitution

The passes over a name are the replacements of three patterns. The first one takes a run of capitals
as far as a capital and a small letter can follow, so it gives back the last capital of a run. The
second one takes a character that ends a word together with the capital after it, and the third one
takes runs of separators.
-/
namespace Blueprint.Name

open Pattern

variable {before : Option Char} {c d last : Char} {front cs rest : List Char}

/-! ### Acronyms -/

/-- The pattern of an acronym with the beginning of the word after it. -/
def acronymPattern : Pattern where
  node := .sequence
    [.group 1 (.sequence [.iterate 1 none .greedy (.set false [.range 65 90])]),
      .group 2 (.sequence [.set false [.range 65 90], .set false [.range 97 122]])]
  groupCount := 2

theorem read_acronymPattern : Pattern.read "([A-Z]+)([A-Z][a-z])".toList = .ok acronymPattern := rfl

/-- The class of capitals takes one capital. -/
theorem run_capitals : (Node.set false [.range 65 90]).run {} = matchOne isCapital := by
  show matchOne _ = _
  congr 1
  funext c
  simp [Member.holds, between, isCapital]

/-- The class of small letters takes one small letter. -/
theorem run_smalls : (Node.set false [.range 97 122]).run {} = matchOne isSmall := by
  show matchOne _ = _
  congr 1
  funext c
  simp [Member.holds, between, isSmall]

/-- What has to follow an acronym that starts at a cursor: a capital and a small letter. -/
def afterAcronym (start : Cursor) : Next := fun later =>
  let middle : Cursor := { later with groups := (1, start.upTo later) :: later.groups }
  matchOne isCapital middle fun second => matchOne isSmall second fun third =>
    some { third with groups := (2, middle.upTo third) :: third.groups }

theorem front?_acronymPattern (before : Option Char) (cs : List Char) :
    acronymPattern.front? before cs = matchOne isCapital ⟨before, cs, []⟩ fun later =>
      longest isCapital later.groups (afterAcronym ⟨before, cs, []⟩) later.before later.rest := by
  unfold afterAcronym
  rw [← run_plus run_capitals, ← run_capitals, ← run_smalls]
  rfl

/-- An acronym is accepted where a capital and a small letter follow it. -/
theorem afterAcronym_of_small {groups : List (Nat × List Char)} (start : Cursor)
    (capital : isCapital last) (small : isSmall c) :
    afterAcronym start ⟨before, last :: c :: rest, groups⟩ =
      some ⟨some c, rest, (2, [last, c]) ::
        (1, start.upTo ⟨before, last :: c :: rest, groups⟩) :: groups⟩ := by
  have kept : Cursor.upTo ⟨before, last :: c :: rest,
      (1, start.upTo ⟨before, last :: c :: rest, groups⟩) :: groups⟩ ⟨some c, rest,
      (1, start.upTo ⟨before, last :: c :: rest, groups⟩) :: groups⟩ = [last, c] := by
    have two : (last :: c :: rest).length - rest.length = 2 := by
      simp only [List.length_cons]
      omega
    rw [Cursor.upTo, two]
    rfl
  simp only [afterAcronym, matchOne, Cursor.advance, capital, small, if_true, kept]

/-- An acronym is refused where no capital with a small letter follows it. -/
theorem exists_of_afterAcronym {start later found : Cursor}
    (accepted : afterAcronym start later = some found) :
    ∃ last c rest, later.rest = last :: c :: rest ∧ isCapital last ∧ isSmall c := by
  obtain ⟨before, cs, groups⟩ := later
  unfold afterAcronym at accepted
  rcases cs with _ | ⟨last, _ | ⟨c, rest⟩⟩
  · cases accepted
  · simp [matchOne, Cursor.advance] at accepted
  · refine ⟨last, c, rest, rfl, ?_⟩
    by_contra refused
    simp only [matchOne, Cursor.advance] at accepted
    split at accepted
    · split at accepted
      · exact refused ⟨‹_›, ‹_›⟩
      · cases accepted
    · cases accepted

/-- The acronym is taken up to the last capital before a small letter. -/
theorem front?_acronymPattern_of_small (nonempty : front ≠ []) (capitals : ∀ d ∈ front, isCapital d)
    (capital : isCapital last) (small : isSmall c) :
    acronymPattern.front? before (front ++ last :: c :: rest) =
      some ⟨some c, rest, [(2, [last, c]), (1, front)]⟩ := by
  obtain ⟨d, more, rfl⟩ := List.exists_cons_of_ne_nil nonempty
  let start : Cursor := ⟨before, d :: more ++ last :: c :: rest, []⟩
  have plain : isCapital c = false := isCapital_of_isSmall small
  have kept : start.upTo ⟨lastOr (some d) more, last :: c :: rest, []⟩ = d :: more := by
    show (d :: more ++ last :: c :: rest).take
      ((d :: more ++ last :: c :: rest).length - (last :: c :: rest).length) = _
    rw [List.length_append, Nat.add_sub_cancel, List.take_left]
  -- the last capital could be part of the acronym, but no capital would follow then
  have refused : longest isCapital [] (afterAcronym start) (some last) (c :: rest) = none := by
    rw [longest_of_end (by rintro _ ⟨⟩; exact plain)]
    simp [afterAcronym, matchOne, plain]
  have here : longest isCapital [] (afterAcronym start) (lastOr (some d) more) (last :: c :: rest) =
      some ⟨some c, rest, [(2, [last, c]), (1, d :: more)]⟩ := by
    rw [longest, if_pos capital, refused, Option.none_or, afterAcronym_of_small start capital small,
      kept]
  rw [front?_acronymPattern]
  show (if isCapital d then longest isCapital [] (afterAcronym start) (some d)
    (more ++ last :: c :: rest) else none) = _
  rw [if_pos (capitals d List.mem_cons_self)]
  exact longest_append (fun e member => capitals e (.tail _ member)) here

/-- No acronym is taken where capitals are not followed by a capital and a small letter. -/
theorem front?_acronymPattern_eq_none
    (other : ∀ front last c rest, front ≠ [] → (∀ d ∈ front, isCapital d) → isCapital last →
      isSmall c → cs ≠ front ++ last :: c :: rest) :
    acronymPattern.front? before cs = none := by
  rw [front?_acronymPattern]
  cases cs with
  | nil => rfl
  | cons d more =>
    show (if isCapital d then longest isCapital [] _ (some d) more else none) = none
    split
    · rename_i first
      refine longest_eq_none fun taken left split each => ?_
      cases accepted : afterAcronym ⟨before, d :: more, []⟩ ⟨lastOr (some d) taken, left, []⟩ with
      | none => rfl
      | some found =>
        obtain ⟨last, c, rest, ends, capital, small⟩ := exists_of_afterAcronym accepted
        cases ends
        have capitals : ∀ e ∈ d :: taken, isCapital e := by simpa [first] using each
        exact absurd (by rw [← split, List.cons_append])
          (other (d :: taken) last c rest (by simp) capitals capital small)
    · rfl

/-- No acronym ends between two characters if the text does not begin with an acronym. -/
theorem endsAcronym_eq_false {a b : Char}
    (other : ∀ front last c later, front ≠ [] → (∀ d ∈ front, isCapital d) → isCapital last →
      isSmall c → a :: b :: rest ≠ front ++ last :: c :: later) :
    endsAcronym a b rest.head? = false := by
  rw [Bool.eq_false_iff]
  intro splits
  simp only [endsAcronym, Bool.and_eq_true] at splits
  obtain ⟨⟨first, second⟩, third⟩ := splits
  cases rest with
  | nil => cases third
  | cons c rest => exact other [a] b c rest (by simp) (by simpa using first) second third rfl

/-- The first pass is the replacement of acronyms. -/
theorem replaceFrom_acronymPattern (before : Option Char) (cs : List Char) :
    replaceFrom acronymPattern [.group 1, .text ['_'], .group 2] before cs =
      mark endsAcronym cs := by
  refine replaceFrom_eq rfl (fun before a cs => ?_) before cs
  by_cases fits : ∃ front last c rest, front ≠ [] ∧ (∀ d ∈ front, isCapital d) ∧ isCapital last ∧
      isSmall c ∧ a :: cs = front ++ last :: c :: rest
  · obtain ⟨front, last, c, rest, nonempty, capitals, capital, small, whole⟩ := fits
    have taken : acronymPattern.front? before (a :: cs) =
        some ⟨some c, rest, [(2, [last, c]), (1, front)]⟩ := by
      rw [whole]
      exact front?_acronymPattern_of_small nonempty capitals capital small
    refine .replaces taken ?_ ?_
    · have lengths := congrArg List.length whole
      simp only [List.length_append, List.length_cons] at lengths
      show rest.length ≤ cs.length
      omega
    · rw [whole, mark_endsAcronym_of_small nonempty capitals capital small]
      simp [Piece.fill, List.lookup_cons]
  · have other : ∀ front last c rest, front ≠ [] → (∀ d ∈ front, isCapital d) → isCapital last →
        isSmall c → a :: cs ≠ front ++ last :: c :: rest :=
      fun front last c rest nonempty capitals capital small same =>
        fits ⟨front, last, c, rest, nonempty, capitals, capital, small, same⟩
    refine .stays (front?_acronymPattern_eq_none other) ?_
    cases cs with
    | nil => rfl
    | cons b rest => exact mark_of_not_rule (endsAcronym_eq_false other)

/-! ### Words -/

/-- The pattern of the end of a word with the capital after it. -/
def wordPattern : Pattern where
  node := .sequence
    [.group 1 (.sequence [.set false [.range 97 122, .kind .digit false]]),
      .group 2 (.sequence [.set false [.range 65 90]])]
  groupCount := 2

theorem read_wordPattern : Pattern.read "([a-z\\d])([A-Z])".toList = .ok wordPattern := rfl

/-- The class of small letters and digits takes one character that ends a word. -/
theorem run_wordEnds :
    (Node.set false [.range 97 122, .kind .digit false]).run {} = matchOne endsWord := by
  show matchOne _ = _
  congr 1
  funext c
  simp [Member.holds, between, endsWord, isSmall, Category.holds]

/-- The pattern fits where a word ends and a capital follows, and takes both characters. -/
theorem front?_wordPattern (before : Option Char) (cs : List Char) :
    wordPattern.front? before cs =
      match cs with
      | a :: b :: rest =>
        if endsWord a && isCapital b then some ⟨some b, rest, [(2, [b]), (1, [a])]⟩ else none
      | _ => none := by
  let start : Cursor := ⟨before, cs, []⟩
  have parts : wordPattern.front? before cs = matchOne endsWord start fun first =>
      let middle : Cursor := { first with groups := (1, start.upTo first) :: first.groups }
      matchOne isCapital middle fun second =>
        some { second with groups := (2, middle.upTo second) :: second.groups } := by
    rw [← run_wordEnds, ← run_capitals]
    rfl
  rw [parts]
  have one : ∀ rest : List Char, rest.length + 1 - rest.length = 1 := fun rest => by omega
  rcases cs with _ | ⟨a, _ | ⟨b, rest⟩⟩
  · rfl
  · simp [start, matchOne, Cursor.advance]
  · cases ends : endsWord a
    · simp [start, matchOne, ends]
    · cases capital : isCapital b <;>
        simp [start, matchOne, Cursor.advance, Cursor.upTo, ends, capital, one]

/-- What does not end a word stays before anything. -/
theorem splitWords_cons (inside : endsWord c = false) :
    splitWords (c :: rest) = c :: splitWords rest := by
  cases rest with
  | nil => rfl
  | cons d rest => simp [splitWords, inside]

/-- The second pass is the replacement of ends of words. -/
theorem replaceFrom_wordPattern (before : Option Char) (cs : List Char) :
    replaceFrom wordPattern [.group 1, .text ['_'], .group 2] before cs = splitWords cs := by
  refine replaceFrom_eq rfl (fun before a cs => ?_) before cs
  have found := front?_wordPattern before (a :: cs)
  cases cs with
  | nil => exact .stays found rfl
  | cons b rest =>
    cases splits : endsWord a && isCapital b with
    | true =>
      have capital : isCapital b := (Bool.and_eq_true _ _ ▸ splits).2
      simp only [splits, if_true] at found
      refine .replaces found (by simp) ?_
      rw [splitWords, if_pos splits, splitWords_cons (endsWord_of_isCapital capital)]
      simp [Piece.fill, List.lookup_cons]
    | false =>
      simp only [splits, Bool.false_eq_true, if_false] at found
      refine .stays found ?_
      rw [splitWords, if_neg (by simp [splits])]

/-! ### Separators -/

/-- The pattern of a run of separators. -/
def separatorPattern : Pattern where
  node := .sequence
    [.iterate 1 none .greedy (.set false [.range 45 45, .kind .space false, .range 46 46])]

theorem read_separatorPattern : Pattern.read "[-\\s.]+".toList = .ok separatorPattern := rfl

/-- The class of separators takes one separator. -/
theorem run_separators :
    (Node.set false [.range 45 45, .kind .space false, .range 46 46]).run {} =
      matchOne isSeparator := by
  have exactly : ∀ (c d : Char), between {} d.toNat d.toNat c = (c == d) := by
    intro c d
    have same : c.toNat = d.toNat ↔ c = d := Char.toNat_inj
    rw [Bool.eq_iff_iff, beq_iff_eq, ← same]
    simp only [between, Bool.false_and, Bool.or_false, Bool.and_eq_true, decide_eq_true_eq]
    omega
  show matchOne _ = _
  congr 1
  funext c
  rw [isSeparator, ← exactly c '-', ← exactly c '.']
  show ((between {} 45 45 c || (Text.isBlank c != false || (between {} 46 46 c || false))) != false) =
    (between {} 45 45 c || between {} 46 46 c || Text.isBlank c)
  cases between {} 45 45 c <;> cases Text.isBlank c <;> cases between {} 46 46 c <;> rfl

/-- The pattern takes a run of separators as a whole. -/
theorem front?_separatorPattern (nonempty : front ≠ []) (each : ∀ d ∈ front, isSeparator d)
    (ends : ∀ d, rest.head? = some d → isSeparator d = false) :
    separatorPattern.front? before (front ++ rest) = some ⟨lastOr before front, rest, []⟩ := by
  obtain ⟨d, more, rfl⟩ := List.exists_cons_of_ne_nil nonempty
  have here : longest isSeparator [] some (lastOr (some d) more) rest =
      some ⟨lastOr (some d) more, rest, []⟩ := longest_of_end ends
  show (Node.iterate 1 none .greedy _).run {} ⟨before, d :: more ++ rest, []⟩ some = _
  rw [run_plus run_separators]
  show (if isSeparator d then longest isSeparator [] some (some d) (more ++ rest) else none) = _
  rw [if_pos (each d List.mem_cons_self)]
  exact longest_append (fun e member => each e (.tail _ member)) here

/-- The third pass is the replacement of runs of separators. -/
theorem replaceFrom_separatorPattern (before : Option Char) (cs : List Char) :
    replaceFrom separatorPattern [.text ['_']] before cs = joinSeparators cs := by
  refine replaceFrom_eq rfl (fun before c cs => ?_) before cs
  by_cases separates : isSeparator c
  · -- the run that begins here, and what is behind it
    let run := c :: cs.takeWhile isSeparator
    let rest := cs.dropWhile isSeparator
    have whole : c :: cs = run ++ rest := by
      rw [List.cons_append, List.takeWhile_append_dropWhile]
    have each : ∀ d ∈ run, isSeparator d := by
      intro d member
      obtain rfl | inside := List.mem_cons.1 member
      · exact separates
      · exact List.all_eq_true.1 List.all_takeWhile d inside
    have ends : ∀ d, rest.head? = some d → isSeparator d = false :=
      fun d first => Text.head?_dropWhile_not first
    have taken : separatorPattern.front? before (run ++ rest) =
        some ⟨lastOr before run, rest, []⟩ := front?_separatorPattern (by simp [run]) each ends
    refine .replaces (whole ▸ taken) (List.dropWhile_sublist _).length_le ?_
    rw [whole, joinSeparators_append_of_separators (by simp [run]) each ends]
    rfl
  · have plain : isSeparator c = false := by simpa using separates
    have refused : separatorPattern.front? before (c :: cs) = none := by
      show (Node.iterate 1 none .greedy _).run {} ⟨before, c :: cs, []⟩ some = _
      rw [run_plus run_separators]
      simp [matchOne, plain]
    have stays : joinSeparators ([c] ++ cs) = [c] ++ joinSeparators cs :=
      joinSeparators_append_of_plain (by simpa using plain)
    exact .stays refused stays

/-! ### All three -/

/-- The lower-case spelling of a name by the three replacements. -/
def substituted (cs : List Char) : Except Fault (List Char) := do
  let acronyms ← replaced "([A-Z]+)([A-Z][a-z])" "\\1_\\2" cs
  let words ← replaced "([a-z\\d])([A-Z])" "\\1_\\2" acronyms
  let joined ← replaced "[-\\s.]+" "_" words
  .ok (Text.lower joined)

/-- The replacement of acronyms is the first pass. -/
theorem replaced_acronyms (cs : List Char) :
    replaced "([A-Z]+)([A-Z][a-z])" "\\1_\\2" cs = .ok (splitAcronyms cs) := by
  rw [replaced, read_acronymPattern, splitAcronyms_eq_mark, ← replaceFrom_acronymPattern]
  rfl

/-- The replacement of ends of words is the second pass. -/
theorem replaced_words (cs : List Char) :
    replaced "([a-z\\d])([A-Z])" "\\1_\\2" cs = .ok (splitWords cs) := by
  rw [replaced, read_wordPattern, ← replaceFrom_wordPattern]
  rfl

/-- The replacement of runs of separators is the third pass. -/
theorem replaced_separators (cs : List Char) :
    replaced "[-\\s.]+" "_" cs = .ok (joinSeparators cs) := by
  rw [replaced, read_separatorPattern, ← replaceFrom_separatorPattern]
  rfl

/-- The three replacements make the lower-case spelling of every name. -/
theorem substituted_eq (cs : List Char) : substituted cs = .ok (underscoreChars cs) := by
  rw [substituted, replaced_acronyms, underscoreChars]
  simp only [bind, Except.bind, replaced_words, replaced_separators]

end Blueprint.Name
