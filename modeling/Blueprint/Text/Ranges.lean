/-!
# Character classes given by ranges

Classes of the Unicode character database are written as lists of inclusive ranges of code
points. Membership is the one definition here; the tables themselves stand beside the rule that
uses them.
-/
namespace Blueprint.Text

/-- The code point of a character lies in one of the inclusive ranges. -/
def inRanges (ranges : List (Nat × Nat)) (c : Char) : Bool :=
  ranges.any fun range => range.1 ≤ c.toNat && c.toNat ≤ range.2

/-- Membership is the existence of a range around the code point. -/
theorem inRanges_iff {ranges : List (Nat × Nat)} {c : Char} :
    inRanges ranges c = true ↔ ∃ range ∈ ranges, range.1 ≤ c.toNat ∧ c.toNat ≤ range.2 := by
  simp [inRanges]

end Blueprint.Text
