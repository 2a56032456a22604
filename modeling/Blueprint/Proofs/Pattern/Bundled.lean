import Blueprint.Config.Bundle
import Blueprint.Proofs.Outcome
import Blueprint.Proofs.Pattern.Greedy
import Blueprint.Registry.Basic

/-!
# The bundled patterns of override keys

Two patterns are bundled: one finds the name before a final `_id`, the other puts `_id` behind any
name. For a key without line feeds they find just the names that differ from it by one such ending.
The first pattern takes as much as it can before the ending, so of a key with several endings it
takes away the last one only.
-/
namespace Blueprint

namespace Pattern

/-- Any character but a line feed. -/
def isInline (c : Char) : Bool := c != '\n'

/-- The ending that the bundled patterns take away or add. -/
def ending : List Char := ['_', 'i', 'd']

/-- The pattern of a name before the ending. -/
def stemPattern : Pattern where
  node := .sequence
    [.group 1 (.sequence [.iterate 1 none .greedy .any]), .char '_', .char 'i', .char 'd']
  groupCount := 1

/-- The pattern of any line. -/
def linePattern : Pattern where
  node := .sequence [.group 1 (.sequence [.iterate 0 none .greedy .any])]
  groupCount := 1

variable {cs stem : List Char}

/-- In a pattern without options a point takes any character but a line feed. -/
theorem run_any : Node.any.run {} = matchOne isInline := rfl

/-! ### Any line -/

/-- The pattern of any line fits every text without line feeds, and keeps all of it. -/
theorem groups?_linePattern (line : ∀ c ∈ cs, isInline c) :
    linePattern.groups? cs = some [(1, cs), (0, cs)] := by
  let start : Cursor := { rest := cs }
  let next : Next := fun later =>
    atEnd { later with groups := (1, start.upTo later) :: later.groups }
  show ((Node.iterate 0 none .greedy .any).run {} start next).map _ = _
  rw [run_star run_any]
  have whole : longest isInline [] next none (cs ++ []) =
      some ⟨lastOr none cs, [], [(1, cs)]⟩ := by
    refine longest_append line ?_
    show some (Cursor.mk _ _ [(1, cs.take (cs.length - 0))]) = _
    rw [Nat.sub_zero, List.take_length]
  rw [List.append_nil] at whole
  show (longest isInline [] next none cs).map _ = _
  rw [whole]
  rfl

/-! ### A name before the ending -/

/-- What has to follow the name before the ending, which starts at a cursor. -/
def afterStem (start : Cursor) : Next := fun later =>
  runSequence {} [.char '_', .char 'i', .char 'd']
    { later with groups := (1, start.upTo later) :: later.groups } atEnd

/-- The name is accepted where just the ending is left. -/
theorem afterStem_ending (start : Cursor) (before : Option Char)
    (groups : List (Nat × List Char)) :
    afterStem start ⟨before, ending, groups⟩ =
      some ⟨some 'd', [], (1, start.upTo ⟨before, ending, groups⟩) :: groups⟩ := rfl

/-- The name is refused where anything else is left. -/
theorem afterStem_eq_none {start : Cursor} {before : Option Char} {left : List Char}
    {groups : List (Nat × List Char)} (other : left ≠ ending) :
    afterStem start ⟨before, left, groups⟩ = none := by
  have one : ∀ (c : Char) (cursor : Cursor) (next : Next),
      (Node.char c).run {} cursor next = matchOne (c == ·) cursor next := fun _ _ _ => rfl
  rcases left with _ | ⟨a, _ | ⟨b, _ | ⟨c, _ | ⟨d, rest⟩⟩⟩⟩
  all_goals
    simp only [afterStem, runSequence, one, matchOne, Cursor.advance, atEnd]
    repeat' split
  all_goals simp only [beq_iff_eq, List.isEmpty_nil, List.isEmpty_cons, ↓reduceIte, reduceCtorEq,
    Bool.false_eq_true] at *
  subst_vars
  exact other rfl

/-- The pattern of a name before the ending fits a text that is one, and keeps the name. -/
theorem groups?_stemPattern {c : Char} (line : ∀ d ∈ c :: stem, isInline d) :
    stemPattern.groups? (c :: stem ++ ending) =
      some [(1, c :: stem), (0, c :: stem ++ ending)] := by
  let start : Cursor := { rest := c :: stem ++ ending }
  show ((Node.iterate 1 none .greedy .any).run {} start (afterStem start)).map _ = _
  rw [run_plus run_any]
  show (if isInline c then longest isInline [] (afterStem start) (some c) (stem ++ ending)
    else none).map _ = _
  have whole : longest isInline [] (afterStem start) (some c) (stem ++ ending) =
      some ⟨some 'd', [], [(1, c :: stem)]⟩ := by
    refine longest_append (fun d member => line d (.tail _ member)) ?_
    -- the ending could be part of the name, but nothing would be left of it then
    have kept : start.upTo ⟨lastOr (some c) stem, ending, []⟩ = c :: stem := by
      show (c :: stem ++ ending).take ((c :: stem ++ ending).length - ending.length) = _
      rw [List.length_append, Nat.add_sub_cancel, List.take_left]
    have here := afterStem_ending start (lastOr (some c) stem) []
    rw [kept] at here
    have inside : longest isInline [] (afterStem start) (some '_') ['i', 'd'] = none :=
      longest_eq_none fun taken left split _ => afterStem_eq_none fun same => by
        have length := congrArg List.length split
        rw [same, List.length_append] at length
        simp [ending] at length
    rw [ending, longest, inside, ← ending, here]
    rfl
  rw [if_pos (line c List.mem_cons_self), whole]
  rfl

/-- The pattern of a name before the ending fits no other text. -/
theorem groups?_stemPattern_eq_none (other : ∀ c stem, cs ≠ c :: stem ++ ending) :
    stemPattern.groups? cs = none := by
  let start : Cursor := { rest := cs }
  show ((Node.iterate 1 none .greedy .any).run {} start (afterStem start)).map _ = _
  rw [run_plus run_any, Option.map_eq_none_iff]
  show matchOne isInline start _ = none
  unfold matchOne
  cases text : start.rest with
  | nil => rfl
  | cons c rest =>
    have same : cs = c :: rest := text
    have refused : longest isInline [] (afterStem start) (some c) rest = none := by
      refine longest_eq_none fun taken left split _ => afterStem_eq_none fun ends => ?_
      refine other c taken ?_
      rw [same, ← split, ends, List.cons_append]
    simp only [Cursor.advance]
    split
    · exact refused
    · rfl

/-! ### Templates -/

/-- The template of the first pattern gives the name before the ending. -/
theorem expand_stemPattern (groups : List (Nat × List Char)) :
    stemPattern.expand "\\1".toList groups = .ok ((groups.lookup 1).getD []) := by
  have pieces : readPieces stemPattern "\\1".toList.length "\\1".toList = .ok [.group 1] := rfl
  rw [expand, pieces]
  exact congrArg Except.ok (List.append_nil _)

/-- The template of the second pattern puts the ending behind the line. -/
theorem expand_linePattern (groups : List (Nat × List Char)) :
    linePattern.expand "\\1_id".toList groups = .ok ((groups.lookup 1).getD [] ++ ending) := by
  have pieces : readPieces linePattern "\\1_id".toList.length "\\1_id".toList =
      .ok [.group 1, .text ['_'], .text ['i'], .text ['d']] := rfl
  rw [expand, pieces]
  rfl

/-! ### What a key becomes -/

variable {key : String}

/-- A text that ends in the ending, taken apart. -/
theorem eq_append_ending {name : String} :
    key = name ++ "_id" ↔ key.toList = name.toList ++ ending := by
  rw [← String.toList_inj, String.toList_append]
  rfl

/-- The first pattern makes of a key the name before a final ending, if there is such a name. -/
theorem substitute?_stemPattern (line : ∀ c ∈ key.toList, isInline c) :
    ∃ found, stemPattern.substitute? "\\1" key = .ok found ∧
      ∀ name, found = some name ↔ name ≠ "" ∧ key = name ++ "_id" := by
  by_cases ends : ∃ c stem, key.toList = c :: stem ++ ending
  · obtain ⟨c, stem, split⟩ := ends
    have front : ∀ d ∈ c :: stem, isInline d := fun d member =>
      line d (split ▸ List.mem_append_left _ member)
    refine ⟨some (String.ofList (c :: stem)), ?_, fun name => ?_⟩
    · rw [substitute?, split, groups?_stemPattern front]
      simp only [expand_stemPattern]
      rfl
    · rw [eq_append_ending, split, Option.some.injEq, ← String.toList_inj, String.toList_ofList,
        List.append_cancel_right_eq]
      refine ⟨fun same => ⟨?_, same⟩, And.right⟩
      rintro rfl
      cases same
  · have refused : stemPattern.groups? key.toList = none :=
      groups?_stemPattern_eq_none fun c stem split => ends ⟨c, stem, split⟩
    refine ⟨none, by rw [substitute?, refused], fun name => iff_of_false nofun ?_⟩
    rintro ⟨nonempty, split⟩
    cases stem : name.toList with
    | nil => exact absurd (String.toList_eq_nil_iff.1 stem) nonempty
    | cons c rest => exact absurd ⟨c, rest, stem ▸ eq_append_ending.1 split⟩ ends

/-- The second pattern puts the ending behind a key. -/
theorem substitute?_linePattern (line : ∀ c ∈ key.toList, isInline c) :
    linePattern.substitute? "\\1_id" key = .ok (some (key ++ "_id")) := by
  have made : String.ofList (key.toList ++ ending) = key ++ "_id" := by
    rw [String.ofList_append, String.ofList_toList]
    rfl
  rw [substitute?, groups?_linePattern line]
  simp only [expand_linePattern]
  exact congrArg (fun text => Except.ok (some text)) made

end Pattern

namespace Registry

/-- The patterns of a registry are those of one with the default configuration. -/
def HasBundledPatterns (registry : Registry) : Prop :=
  ∃ fresh, Registry.create (.ofValue (.dict Config.defaults)) = .ok fresh ∧
    registry.patterns = fresh.patterns

variable {registry : Registry} {key : String}

/-- The bundled patterns are the pattern of a name before the ending and the pattern of any line. -/
theorem hasBundledPatterns_iff :
    registry.HasBundledPatterns ↔
      registry.patterns = [⟨Pattern.stemPattern, "\\1"⟩, ⟨Pattern.linePattern, "\\1_id"⟩] := by
  have made : ∃ fresh, Registry.create (.ofValue (.dict Config.defaults)) = .ok fresh ∧
      fresh.patterns = [⟨Pattern.stemPattern, "\\1"⟩, ⟨Pattern.linePattern, "\\1_id"⟩] :=
    ⟨_, rfl, rfl⟩
  obtain ⟨fresh, created, patterns⟩ := made
  rw [← patterns]
  constructor
  · rintro ⟨other, same, found⟩
    rw [found, ← Except.ok.inj (created.symm.trans same)]
  · exact fun same => ⟨fresh, created, same⟩

/-- By the bundled patterns a key feeds the attribute of its own name, the one with the ending
added, and the one with the ending taken away if anything is left. -/
theorem aliasesFor_of_bundled (bundled : registry.HasBundledPatterns)
    (line : ∀ c ∈ key.toList, Pattern.isInline c) :
    ∃ names, registry.aliasesFor key = .ok names ∧ ∀ name, name ∈ names ↔
      name = key ∨ name = key ++ "_id" ∨ (name ≠ "" ∧ key = name ++ "_id") := by
  obtain ⟨found, stems, isStem⟩ := Pattern.substitute?_stemPattern line
  have whole := Pattern.substitute?_linePattern line
  refine ⟨[found, some (key ++ "_id")].filterMap id ++ [key], ?_, fun name => ?_⟩
  · rw [aliasesFor, hasBundledPatterns_iff.1 bundled]
    simp only [List.mapM_cons, List.mapM_nil, stems, whole]
    rfl
  · rw [← isStem]
    cases found <;> simp [or_comm, or_left_comm, eq_comm]

end Registry

end Blueprint
