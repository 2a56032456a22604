import Blueprint.Pattern.Template
import Blueprint.Proofs.Pattern.Greedy

/-!
# Replacement

A pattern is sought in a text from left to right. Where it fits, what it takes is replaced by what a
template makes of the match, and it is sought again behind that, so nothing is taken twice and
nothing that is put in is looked at. Only what takes at least one character counts.
-/
namespace Blueprint.Pattern

/-- The first way in which a pattern fits the front of a text, after a character if there is one. -/
def front? (pattern : Pattern) (before : Option Char) (cs : List Char) : Option Cursor :=
  pattern.node.run pattern.options ⟨before, cs, []⟩ some

/-- A text with what the pattern takes replaced by the pieces of a template. -/
def replaceFrom (pattern : Pattern) (pieces : List Piece) : Option Char → List Char → List Char
  | _, [] => []
  | before, c :: rest =>
    match pattern.front? before (c :: rest) with
    | some found =>
      if found.rest.length ≤ rest.length then
        let taken := Cursor.upTo ⟨before, c :: rest, []⟩ found
        pieces.flatMap (Piece.fill (found.groups ++ [(0, taken)])) ++
          replaceFrom pattern pieces found.before found.rest
      else c :: replaceFrom pattern pieces (some c) rest
    | none => c :: replaceFrom pattern pieces (some c) rest
termination_by _ cs => cs.length
decreasing_by all_goals (simp only [List.length_cons]; omega)

/-- A text with what a pattern takes replaced by what a template makes of it. -/
def replaced (pattern template : String) (cs : List Char) : Except Fault (List Char) := do
  let pattern ← Pattern.read pattern.toList
  let pieces ← readPieces pattern template.toList.length template.toList
  .ok (replaceFrom pattern pieces none cs)

/-! ### Steps -/

/-- What a function makes of a text is what the replacement makes of its front, and what the
function makes of the rest. -/
inductive StepsAlike (pattern : Pattern) (pieces : List Piece) (rewritten : List Char → List Char)
    (before : Option Char) (c : Char) (rest : List Char) : Prop
  /-- The pattern does not fit, and the first character stays. -/
  | stays (refused : pattern.front? before (c :: rest) = none)
    (same : rewritten (c :: rest) = c :: rewritten rest)
  /-- The pattern fits, and what it takes is replaced. -/
  | replaces {found : Cursor} (fits : pattern.front? before (c :: rest) = some found)
    (taken : found.rest.length ≤ rest.length)
    (same : rewritten (c :: rest) =
      pieces.flatMap
          (Piece.fill (found.groups ++ [(0, Cursor.upTo ⟨before, c :: rest, []⟩ found)])) ++
        rewritten found.rest)

/-- A function that takes the steps of a replacement is the replacement. -/
theorem replaceFrom_eq {pattern : Pattern} {pieces : List Piece}
    {rewritten : List Char → List Char} (empty : rewritten [] = [])
    (steps : ∀ before c rest, StepsAlike pattern pieces rewritten before c rest)
    (before : Option Char) (cs : List Char) :
    replaceFrom pattern pieces before cs = rewritten cs := by
  fun_induction replaceFrom pattern pieces before cs with
  | case1 => exact empty.symm
  | case2 before c rest found fits taken text ih =>
    cases steps before c rest with
    | stays refused same => cases refused.symm.trans fits
    | replaces own _ same =>
      cases own.symm.trans fits
      rw [ih, same]
  | case3 before c rest found fits long ih =>
    cases steps before c rest with
    | stays refused same => cases refused.symm.trans fits
    | replaces own taken same =>
      cases own.symm.trans fits
      exact absurd taken long
  | case4 before c rest refused ih =>
    cases steps before c rest with
    | stays _ same => rw [ih, same]
    | replaces fits _ same => cases refused.symm.trans fits

end Blueprint.Pattern
