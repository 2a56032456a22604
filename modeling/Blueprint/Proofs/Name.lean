import Blueprint.Name
import Blueprint.Proofs.Text.Lower

/-!
# Laws of names

The canonical spelling of a name is a fixed point: a text that holds neither separators nor anything
to lower is its own canonical name, and every canonical name is such a text.
-/
namespace Blueprint.Name

open Text

/-! ### Separators -/

/-- The code points of the characters that separate words. -/
def separatorPoints : List Nat :=
  [45, 46, 133, 160, 5760, 8232, 8233, 8239, 8287, 12288] ++ List.range' 9 5 ++ List.range' 28 5 ++
    List.range' 8192 11

/-- A separator has one of their code points. -/
theorem toNat_mem_separatorPoints {c : Char} (separates : isSeparator c = true) :
    c.toNat ∈ separatorPoints := by
  simp only [isSeparator, isBlank, Bool.or_eq_true, beq_iff_eq, Bool.and_eq_true,
    decide_eq_true_eq] at separates
  simp only [separatorPoints, List.mem_append, List.mem_range'_1, List.mem_cons, List.not_mem_nil,
    or_false]
  obtain (rfl | rfl) | blank := separates
  · decide
  · decide
  · omega

/-- Lowering makes no separators. -/
theorem loweredPoints_apart_separators :
    bitsOf loweredPoints &&& bitsOf separatorPoints = 0 := by decide +kernel

/-- The underscore is no separator. -/
theorem isSeparator_underscore : isSeparator '_' = false := by decide

/-- No separator is left when each run of them has become an underscore. -/
theorem isSeparator_of_mem_joinSeparators {cs : List Char} {c : Char}
    (member : c ∈ joinSeparators cs) : isSeparator c = false := by
  induction cs using joinSeparators.induct with
  | case1 => cases member
  | case2 d separates =>
    rw [joinSeparators, if_pos separates] at member
    rw [List.mem_singleton.1 member]
    exact isSeparator_underscore
  | case3 d separates =>
    rw [joinSeparators, if_neg separates] at member
    rw [List.mem_singleton.1 member]
    simpa using separates
  | case4 d e rest separates next ih =>
    rw [joinSeparators, if_pos separates, if_pos next] at member
    exact ih member
  | case5 d e rest separates next ih =>
    rw [joinSeparators, if_pos separates, if_neg next] at member
    cases member with
    | head => exact isSeparator_underscore
    | tail _ inside => exact ih inside
  | case6 d e rest separates ih =>
    rw [joinSeparators, if_neg separates] at member
    cases member with
    | head => simpa using separates
    | tail _ inside => exact ih inside

/-! ### Canonical texts -/

/-- A text that is its own canonical name: nothing in it separates words or is to be lowered. -/
def IsCanonical (cs : List Char) : Prop := ∀ c ∈ cs, IsLower c ∧ isSeparator c = false

/-- The canonical spelling is canonical. -/
theorem isCanonical_underscoreChars (cs : List Char) : IsCanonical (underscoreChars cs) := by
  intro c member
  refine ⟨isLower_of_mem_lower member, ?_⟩
  obtain ⟨there, _⟩ | made := mem_lowerAfter member
  · exact isSeparator_of_mem_joinSeparators there
  · rw [Bool.eq_false_iff]
    exact fun separates => not_mem_of_bitsOf loweredPoints_apart_separators made
      (toNat_mem_separatorPoints separates)

/-- What lowering leaves as it is is no capital. -/
theorem isCapital_of_isLower {c : Char} (settled : IsLower c) : isCapital c = false := by
  have outside := settled.2 ⟨65, 90, 1, 32⟩ (by decide +kernel)
  simpa [CaseRun.holds, isCapital, Nat.mod_one] using outside

/-- Without capitals there are no acronyms to split. -/
theorem splitRun_nil_eq_self {cs : List Char} (small : ∀ c ∈ cs, isCapital c = false) :
    splitRun [] cs = cs := by
  induction cs with
  | nil => rfl
  | cons c rest ih =>
    have later := ih fun d member => small d (.tail _ member)
    have here : isCapital c = false := small c List.mem_cons_self
    by_cases letter : isSmall c <;> simp [splitRun, here, letter, later]

/-- Without capitals there are no words to split. -/
theorem splitWords_eq_self {cs : List Char} (small : ∀ c ∈ cs, isCapital c = false) :
    splitWords cs = cs := by
  induction cs using splitWords.induct with
  | case1 => rfl
  | case2 c => rfl
  | case3 c d rest splits ih => simp [small d (by simp)] at splits
  | case4 c d rest whole ih =>
    rw [splitWords, if_neg whole, ih fun e member => small e (.tail _ member)]

/-- Without separators there is nothing to join. -/
theorem joinSeparators_eq_self {cs : List Char} (joined : ∀ c ∈ cs, isSeparator c = false) :
    joinSeparators cs = cs := by
  induction cs using joinSeparators.induct with
  | case1 => rfl
  | case2 c separates => simp [joined c (by simp)] at separates
  | case3 c separates => rw [joinSeparators, if_neg separates]
  | case4 c d rest separates next ih => simp [joined c (by simp)] at separates
  | case5 c d rest separates next ih => simp [joined c (by simp)] at separates
  | case6 c d rest separates ih =>
    rw [joinSeparators, if_neg separates, ih fun e member => joined e (.tail _ member)]

/-- What does not separate words is no white space. -/
theorem isBlank_of_isSeparator {c : Char} (plain : isSeparator c = false) : isBlank c = false := by
  rw [isSeparator, Bool.or_eq_false_iff] at plain
  exact plain.2

/-- A canonical text is its own canonical spelling. -/
theorem IsCanonical.underscoreChars_eq_self {cs : List Char} (canonical : IsCanonical cs) :
    underscoreChars cs = cs := by
  have small : ∀ c ∈ cs, isCapital c = false :=
    fun c member => isCapital_of_isLower (canonical c member).1
  have joined : ∀ c ∈ cs, isSeparator c = false := fun c member => (canonical c member).2
  have settled : ∀ c ∈ cs, IsLower c := fun c member => (canonical c member).1
  rw [underscoreChars, splitAcronyms, splitRun_nil_eq_self small, splitWords_eq_self small,
    joinSeparators_eq_self joined, lower_eq_self settled]

/-- A canonical text is its own canonical name. -/
theorem IsCanonical.ofText_eq_self {name : String} (canonical : IsCanonical name.toList) :
    ofText name = name := by
  have whole : trim name.toList = name.toList :=
    trimBy_eq_self fun c member => isBlank_of_isSeparator (canonical c member).2
  rw [ofText, underscore, toList_trimmed, whole, canonical.underscoreChars_eq_self,
    String.ofList_toList]

/-- The name under which a value is known is canonical. -/
theorem isCanonical_ofValue (value : Value) : IsCanonical (ofValue value).toList := by
  have underscored : ∀ text, IsCanonical (underscore text).toList := by
    intro text
    rw [underscore, String.toList_ofList]
    exact isCanonical_underscoreChars _
  cases value <;> exact underscored _

/-- The name under which a value is known is its own canonical name. -/
@[simp] theorem ofText_ofValue (value : Value) : ofText (ofValue value) = ofValue value :=
  (isCanonical_ofValue value).ofText_eq_self

end Blueprint.Name
