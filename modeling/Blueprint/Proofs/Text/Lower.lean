import Blueprint.Text.Case.Lower
import Mathlib.Data.Nat.Bitwise

/-!
# Laws of lower case

Lowering a text leaves nothing to lower: every character that it makes stays as it is when it is
lowered again. The tables are compared as sets of code points, held in the bits of a number.
-/
namespace Blueprint.Text

/-! ### Sets of code points -/

/-- A set of code points in the bits of a number. -/
def bitsOf (points : List Nat) : Nat := points.foldr (fun point bits => 2 ^ point ||| bits) 0

/-- A code point of the list has its bit set. -/
theorem testBit_bitsOf {points : List Nat} {n : Nat} (member : n ∈ points) :
    (bitsOf points).testBit n = true := by
  induction points with
  | nil => cases member
  | cons point rest ih =>
    rw [bitsOf, List.foldr_cons, Nat.testBit_or, Bool.or_eq_true]
    cases member with
    | head => exact .inl Nat.testBit_two_pow_self
    | tail _ inside => exact .inr (ih inside)

/-- Lists of code points without a common bit have no common member. -/
theorem not_mem_of_bitsOf {points others : List Nat} (apart : bitsOf points &&& bitsOf others = 0)
    {n : Nat} (member : n ∈ points) : n ∉ others := by
  intro other
  have both : (bitsOf points &&& bitsOf others).testBit n = true := by
    rw [Nat.testBit_and, testBit_bitsOf member, testBit_bitsOf other]
    rfl
  rw [apart, Nat.zero_testBit] at both
  cases both

/-! ### Runs of a case mapping -/

/-- The code points of a run. -/
def CaseRun.points (run : CaseRun) : List Nat :=
  (List.range ((run.last - run.first) / run.step + 1)).map fun k => run.first + k * run.step

/-- What a run holds is among its code points. -/
theorem CaseRun.mem_points {run : CaseRun} {n : Nat} (held : run.holds n = true) :
    n ∈ run.points := by
  simp only [CaseRun.holds, Bool.and_eq_true, decide_eq_true_eq, beq_iff_eq] at held
  obtain ⟨⟨first, last⟩, place⟩ := held
  have steps : (n - run.first) / run.step * run.step = n - run.first :=
    Nat.div_mul_cancel (Nat.dvd_of_mod_eq_zero place)
  have inside : (n - run.first) / run.step ≤ (run.last - run.first) / run.step :=
    Nat.div_le_div_right (Nat.sub_le_sub_right last _)
  exact List.mem_map.2 ⟨_, List.mem_range.2 (Nat.lt_succ_of_le inside), by omega⟩

/-- The code points of runs. -/
def pointsOf (runs : List CaseRun) : List Nat := runs.flatMap CaseRun.points

/-- The images of the code points of runs. -/
def imagesOf (runs : List CaseRun) : List Nat :=
  runs.flatMap fun run => run.points.map run.image

/-- A code point is in none of the runs. -/
def Outside (runs : List CaseRun) (n : Nat) : Prop := ∀ run ∈ runs, run.holds n = false

/-- A code point that is not among those of the runs is in none of them. -/
theorem outside_of_not_mem {runs : List CaseRun} {n : Nat} (absent : n ∉ pointsOf runs) :
    Outside runs n := by
  intro run member
  rw [Bool.eq_false_iff]
  exact fun held => absent (List.mem_flatMap.2 ⟨run, member, CaseRun.mem_points held⟩)

/-- A character in none of the runs is mapped to itself. -/
theorem mapCase_of_outside {runs : List CaseRun} {c : Char} (outside : Outside runs c.toNat) :
    mapCase runs c = c := by
  have absent : runs.find? (fun run => run.holds c.toNat) = none :=
    List.find?_eq_none.2 fun run member => by simp [outside run member]
  rw [mapCase, absent]

/-- A character is in none of the runs, or mapped to an image. -/
theorem outside_or_image (runs : List CaseRun) (c : Char) :
    Outside runs c.toNat ∨ ∃ m ∈ imagesOf runs, mapCase runs c = Char.ofNat m := by
  cases found : runs.find? fun run => run.holds c.toNat with
  | none =>
    exact .inl fun run member => by simpa using List.find?_eq_none.1 found run member
  | some run =>
    have held := List.find?_some found
    have image : run.image c.toNat ∈ imagesOf runs :=
      List.mem_flatMap.2 ⟨run, List.mem_of_find?_eq_some found,
        List.mem_map_of_mem (CaseRun.mem_points held)⟩
    refine .inr ⟨_, image, ?_⟩
    rw [mapCase, found]

/-! ### Lowering once and again -/

/-- Lowering leaves the character as it is. -/
def IsLower (c : Char) : Prop := c.toNat ≠ 304 ∧ Outside lowerRuns c.toNat

instance (c : Char) : Decidable (IsLower c) := by
  unfold IsLower Outside
  infer_instance

/-- The code points of the characters that lowering makes; zero stands for what is no character. -/
def loweredPoints : List Nat := [0, 105, 775, 962, 963] ++ imagesOf lowerRuns

/-- The character of one of these code points has one of them. -/
theorem toNat_mem_loweredPoints {m : Nat} (member : m ∈ loweredPoints) :
    (Char.ofNat m).toNat ∈ loweredPoints := by
  by_cases valid : m.isValidChar
  · have same : (Char.ofNat m).toNat = m := by
      rw [Char.ofNat, dif_pos valid]
      rfl
    rwa [same]
  · have none : (Char.ofNat m).toNat = 0 := by simp [Char.ofNat, Char.toNat, valid]
    rw [none]
    exact .head _

/-- Lowering makes nothing that lowering changes. -/
theorem loweredPoints_apart :
    bitsOf loweredPoints &&& bitsOf (304 :: pointsOf lowerRuns) = 0 := by decide +kernel

/-- What lowering makes it leaves as it is. -/
theorem isLower_of_lowered {c : Char} (made : c.toNat ∈ loweredPoints) : IsLower c := by
  have absent := not_mem_of_bitsOf loweredPoints_apart made
  exact ⟨fun dotted => absent (dotted ▸ .head _),
    outside_of_not_mem fun inside => absent (.tail _ inside)⟩

/-- The lower case of one character is the character itself, or what lowering makes. -/
theorem mem_lowerChar {c d : Char} (member : d ∈ lowerChar c) :
    (d = c ∧ IsLower c) ∨ d.toNat ∈ loweredPoints := by
  unfold lowerChar at member
  split at member
  · -- the dotted capital I becomes two characters
    obtain rfl | rfl : d = 'i' ∨ d = Char.ofNat 775 := by simpa using member
    · exact .inr (by decide +kernel)
    · exact .inr (by decide +kernel)
  · rename_i plain
    obtain rfl := List.mem_singleton.1 member
    obtain outside | ⟨m, image, same⟩ := outside_or_image lowerRuns c
    · exact .inl ⟨mapCase_of_outside outside, plain, outside⟩
    · rw [same]
      exact .inr (toNat_mem_loweredPoints (List.mem_append_right _ image))

/-- Lowering makes both forms of the small sigma. -/
theorem toNat_lowerSigma (before after : List Char) :
    (lowerSigma before after).toNat ∈ loweredPoints := by
  unfold lowerSigma
  split
  · exact toNat_mem_loweredPoints (List.mem_append_left _ (by decide))
  · exact toNat_mem_loweredPoints (List.mem_append_left _ (by decide))

/-- A character of a lowered text was there and is left as it is, or is made by lowering. -/
theorem mem_lowerAfter {before cs : List Char} {d : Char} (member : d ∈ lowerAfter before cs) :
    (d ∈ cs ∧ IsLower d) ∨ d.toNat ∈ loweredPoints := by
  induction cs generalizing before with
  | nil => cases member
  | cons first rest ih =>
    rw [lowerAfter, List.mem_append] at member
    obtain here | later := member
    · split at here
      · rw [List.mem_singleton.1 here]
        exact .inr (toNat_lowerSigma before rest)
      · obtain ⟨rfl, settled⟩ | made := mem_lowerChar here
        · exact .inl ⟨.head _, settled⟩
        · exact .inr made
    · obtain ⟨inside, settled⟩ | made := ih later
      · exact .inl ⟨.tail _ inside, settled⟩
      · exact .inr made

/-- Lowering leaves every character of a lowered text as it is. -/
theorem isLower_of_mem_lower {cs : List Char} {c : Char} (member : c ∈ lower cs) : IsLower c := by
  obtain ⟨_, settled⟩ | made := mem_lowerAfter member
  · exact settled
  · exact isLower_of_lowered made

/-- A character that lowering leaves as it is has itself as its lower case. -/
theorem lowerChar_of_isLower {c : Char} (settled : IsLower c) : lowerChar c = [c] := by
  rw [lowerChar, if_neg settled.1, mapCase_of_outside settled.2]

/-- A character that lowering leaves as it is is no capital sigma. -/
theorem IsLower.ne_sigma {c : Char} (settled : IsLower c) : c.toNat ≠ 931 := by
  intro sigma
  have outside := settled.2 ⟨931, 939, 1, 32⟩ (by decide +kernel)
  rw [sigma] at outside
  cases outside

/-- A text that holds nothing to lower is its own lower case. -/
theorem lowerAfter_eq_self {cs : List Char} (settled : ∀ c ∈ cs, IsLower c) (before : List Char) :
    lowerAfter before cs = cs := by
  induction cs generalizing before with
  | nil => rfl
  | cons first rest ih =>
    have here : IsLower first := settled first List.mem_cons_self
    have later : ∀ c ∈ rest, IsLower c := fun c member => settled c (.tail _ member)
    rw [lowerAfter, if_neg here.ne_sigma, lowerChar_of_isLower here, ih later]
    rfl

/-- A text that holds nothing to lower is its own lower case. -/
theorem lower_eq_self {cs : List Char} (settled : ∀ c ∈ cs, IsLower c) : lower cs = cs :=
  lowerAfter_eq_self settled []

/-- Without capital sigmas each character is lowered on its own. -/
theorem lower_eq_flatMap {cs : List Char} (plain : ∀ c ∈ cs, c.toNat ≠ 931) :
    lower cs = cs.flatMap lowerChar := by
  have each : ∀ before, lowerAfter before cs = cs.flatMap lowerChar := by
    induction cs with
    | nil => exact fun _ => rfl
    | cons c rest ih =>
      intro before
      rw [lowerAfter, if_neg (plain c List.mem_cons_self),
        ih (fun d member => plain d (.tail _ member)), List.flatMap_cons]
  exact each []

end Blueprint.Text
