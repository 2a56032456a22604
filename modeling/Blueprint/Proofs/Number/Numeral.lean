import Blueprint.Number.Numeral
import Mathlib.Data.List.Basic

/-!
# Integers written with digits

An integer is read from digits if all of them are decimal and there are not too many. Other digits
look the same to a test for digits, but have no place in a numeral. White space around a numeral
does no harm, unless it is an information separator.
-/
namespace Blueprint

open Text Radix

/-! ### Digits and white space -/

namespace Text

/-- The ranges of white space. -/
def blankRanges : List (Nat × Nat) :=
  [(9, 13), (28, 32), (133, 133), (160, 160), (5760, 5760), (8192, 8202), (8232, 8232),
    (8233, 8233), (8239, 8239), (8287, 8287), (12288, 12288)]

/-- White space lies in one of its ranges. -/
theorem exists_range_of_isBlank {c : Char} (blank : isBlank c = true) :
    ∃ range ∈ blankRanges, range.1 ≤ c.toNat ∧ c.toNat ≤ range.2 := by
  simp only [isBlank, Bool.or_eq_true, Bool.and_eq_true, decide_eq_true_eq, beq_iff_eq] at blank
  simp only [blankRanges, List.exists_mem_cons_iff]
  omega

/-- A decimal digit stands in a run of ten. -/
theorem exists_zero_of_isDecimal {c : Char} (decimal : isDecimal c = true) :
    ∃ start ∈ decimalZeros, start ≤ c.toNat ∧ c.toNat < start + 10 := by
  rw [isDecimal, digitValue?, Option.isSome_map, List.find?_isSome] at decimal
  obtain ⟨start, member, inside⟩ := decimal
  rw [Bool.and_eq_true, decide_eq_true_eq, decide_eq_true_eq] at inside
  exact ⟨start, member, inside⟩

/-- A decimal digit is a digit. -/
theorem isDigit_of_isDecimal {c : Char} (decimal : isDecimal c = true) : isDigit c = true := by
  rw [isDigit, decimal]
  rfl

/-- No digit is white space. -/
theorem isBlank_of_isDigit {c : Char} (digit : isDigit c = true) : isBlank c = false := by
  by_contra blank
  obtain ⟨range, blankRange, low, high⟩ := exists_range_of_isBlank (Bool.not_eq_false _ ▸ blank)
  obtain decimal | other := Bool.or_eq_true _ _ ▸ digit
  · obtain ⟨start, member, least, most⟩ := exists_zero_of_isDecimal decimal
    have apart : ∀ start ∈ decimalZeros, ∀ range ∈ blankRanges,
        start + 9 < range.1 ∨ range.2 < start := by decide
    have := apart start member range blankRange
    omega
  · obtain ⟨run, member, least, most⟩ := inRanges_iff.1 other
    have apart : ∀ run ∈ otherDigits, ∀ range ∈ blankRanges,
        run.2 < range.1 ∨ range.2 < run.1 := by decide
    have := apart run member range blankRange
    omega

/-- The digits of ASCII are decimal. -/
theorem isPlainDigit_of_isDigit {c : Char} (digit : isDigit c = true) (ascii : c.toNat < 127) :
    isPlainDigit c = true := by
  have decimal : isDecimal c = true := by
    obtain decimal | other := Bool.or_eq_true _ _ ▸ digit
    · exact decimal
    · obtain ⟨run, member, least, _⟩ := inRanges_iff.1 other
      have high : ∀ run ∈ otherDigits, 127 ≤ run.1 := by decide
      have := high run member
      omega
  obtain ⟨start, member, least, most⟩ := exists_zero_of_isDecimal decimal
  have low : ∀ start ∈ decimalZeros, start = 48 ∨ 127 ≤ start := by decide
  have := low start member
  simp only [isPlainDigit, Bool.and_eq_true, decide_eq_true_eq]
  omega

/-- The digits of ASCII are decimal digits. -/
theorem isDecimal_of_isPlainDigit {c : Char} (digit : isPlainDigit c = true) :
    isDecimal c = true := by
  simp only [isPlainDigit, Bool.and_eq_true, decide_eq_true_eq] at digit
  rw [isDecimal, digitValue?, Option.isSome_map, List.find?_isSome]
  refine ⟨48, List.mem_cons_self, ?_⟩
  rw [Bool.and_eq_true, decide_eq_true_eq, decide_eq_true_eq]
  omega

/-- White space of ASCII that numerals do not allow around them. -/
def isSeparator (c : Char) : Bool := 28 ≤ c.toNat && c.toNat ≤ 31

/-- No digit is a separator. -/
theorem isSeparator_of_isDigit {c : Char} (digit : isDigit c = true) : isSeparator c = false := by
  rw [Bool.eq_false_iff]
  intro separator
  have blank : isBlank c = true := by
    simp only [isSeparator, isBlank, Bool.and_eq_true, decide_eq_true_eq, Bool.or_eq_true]
      at separator ⊢
    omega
  rw [isBlank_of_isDigit digit] at blank
  cases blank

end Text

namespace Numeral

/-- A character that numerals take for a digit of ASCII is a decimal digit, and the other way
round. -/
theorem isPlainDigit_plain (c : Char) : isPlainDigit (plain c) = isDecimal c := by
  unfold plain
  split
  · rename_i ascii
    by_cases digit : isPlainDigit c
    · rw [digit, isDecimal_of_isPlainDigit digit]
    · have other : isDecimal c = false := by
        rw [Bool.eq_false_iff]
        intro decimal
        exact digit (isPlainDigit_of_isDigit (isDigit_of_isDecimal decimal) ascii)
      rw [Bool.not_eq_true] at digit
      rw [digit, other]
  · split
    · rename_i blank
      have other : isDecimal c = false := by
        rw [Bool.eq_false_iff]
        intro decimal
        rw [isBlank_of_isDigit (isDigit_of_isDecimal decimal)] at blank
        cases blank
      rw [other]
      decide
    · split
      · rename_i n value
        have small := digitValue?_lt value
        have isIt : ∀ n < 10, isPlainDigit (Char.ofNat (48 + n)) = true := by decide
        rw [isIt n small, isDecimal, value]
        rfl
      · rename_i none_
        rw [isDecimal, none_]
        decide

/-- A character that is no separator is white space to numerals just if it is white space. -/
theorem isPlainBlank_plain {c : Char} (apart : isSeparator c = false) :
    isPlainBlank (plain c) = isBlank c := by
  unfold plain
  split
  · rename_i ascii
    simp only [isSeparator, Bool.and_eq_false_iff, decide_eq_false_iff_not] at apart
    have same : isPlainBlank c = true ↔ isBlank c = true := by
      simp only [isPlainBlank, isBlank, Bool.or_eq_true, Bool.and_eq_true, decide_eq_true_eq,
        beq_iff_eq]
      have space : c = ' ' ↔ c.toNat = 32 := by
        constructor
        · rintro rfl
          rfl
        · intro same
          exact Char.toNat_inj.1 same
      rw [space]
      omega
    exact Bool.eq_iff_iff.2 same
  · split
    · rename_i blank
      rw [blank]
      rfl
    · rename_i solid
      rw [Bool.not_eq_true] at solid
      rw [solid]
      split
      · rename_i n value
        have isIt : ∀ n < 10, isPlainBlank (Char.ofNat (48 + n)) = false := by decide
        exact isIt n (digitValue?_lt value)
      · rfl

/-! ### Rows of digits -/

/-- A text is trimmed alike before and after its characters are changed, if the same ones are
dropped. -/
theorem trimBy_map {drop other : Char → Bool} {change : Char → Char} {cs : List Char}
    (same : ∀ c ∈ cs, other (change c) = drop c) :
    trimBy other (cs.map change) = (trimBy drop cs).map change := by
  have dropped : ∀ {cs : List Char}, (∀ c ∈ cs, other (change c) = drop c) →
      (cs.map change).dropWhile other = (cs.dropWhile drop).map change := by
    intro cs same
    induction cs with
    | nil => rfl
    | cons c rest ih =>
      rw [List.map_cons, List.dropWhile_cons, List.dropWhile_cons, same c List.mem_cons_self]
      cases drop c with
      | true => exact ih fun d member => same d (List.mem_cons_of_mem c member)
      | false => rfl
  have inner : ∀ c ∈ (cs.dropWhile drop).reverse, other (change c) = drop c := fun c member =>
    same c ((List.dropWhile_suffix drop).subset (List.mem_reverse.1 member))
  rw [trimBy, trimBy, dropped same, ← List.map_reverse, dropped inner, ← List.map_reverse]

/-- Digits of ASCII are read as they stand. -/
theorem ungroup?_of_all {cs : List Char} (some_ : cs ≠ []) (digits : cs.all isPlainDigit = true) :
    ungroup? cs = some cs := by
  induction cs with
  | nil => exact absurd rfl some_
  | cons c rest ih =>
    rw [List.all_cons, Bool.and_eq_true] at digits
    obtain ⟨digit, others⟩ := digits
    cases rest with
    | nil => rw [ungroup?, if_pos digit]
    | cons d rest =>
      have notMark : (d == '_') = false := by
        rw [List.all_cons, Bool.and_eq_true] at others
        rw [beq_eq_false_iff_ne]
        rintro rfl
        cases others.1
      rw [ungroup?, if_pos digit, notMark, if_neg Bool.false_ne_true, ih (by simp) others]
      rfl

/-- A text without underscores is read only if it consists of digits. -/
theorem ungroup?_of_not_all {cs : List Char} (plain : ∀ c ∈ cs, c ≠ '_')
    (other : cs.all isPlainDigit = false) : ungroup? cs = none := by
  induction cs with
  | nil => rfl
  | cons c rest ih =>
    rw [List.all_cons, Bool.and_eq_false_iff] at other
    cases rest with
    | nil =>
      obtain bad | never := other
      · rw [ungroup?, bad]
        rfl
      · cases never
    | cons d rest =>
      have notMark : (d == '_') = false :=
        beq_eq_false_iff_ne.2 (plain d (List.mem_cons_of_mem c List.mem_cons_self))
      cases digit : isPlainDigit c with
      | false =>
        rw [ungroup?, digit]
        rfl
      | true =>
        obtain bad | later := other
        · rw [digit] at bad
          cases bad
        · rw [ungroup?, digit, notMark, if_pos rfl, if_neg Bool.false_ne_true,
            ih (fun e member => plain e (List.mem_cons_of_mem c member)) later]
          rfl

/-- What numerals take a digit for is no mark of them. -/
theorem plain_ne_of_isDigit {c : Char} (digit : isDigit c = true) :
    plain c ≠ '_' ∧ plain c ≠ '-' ∧ plain c ≠ '+' := by
  unfold plain
  split
  · rename_i ascii
    have its := isPlainDigit_of_isDigit digit ascii
    refine ⟨?_, ?_, ?_⟩ <;>
    · rintro rfl
      cases its
  · rw [isBlank_of_isDigit digit, if_neg Bool.false_ne_true]
    split
    · rename_i n value
      have isIt : ∀ n < 10, Char.ofNat (48 + n) ≠ '_' ∧ Char.ofNat (48 + n) ≠ '-' ∧
          Char.ofNat (48 + n) ≠ '+' := by decide
      exact isIt n (digitValue?_lt value)
    · decide

/-- A text that starts with no sign has none. -/
theorem splitSign_of_forall {cs : List Char} (unsigned : ∀ c ∈ cs, c ≠ '-' ∧ c ≠ '+') :
    splitSign cs = (false, cs) := by
  unfold splitSign
  split
  · exact absurd rfl (unsigned _ List.mem_cons_self).1
  · exact absurd rfl (unsigned _ List.mem_cons_self).2
  · rfl

/-- The decimal digits of a row are what numerals take for digits. -/
theorem all_map_plain (cs : List Char) :
    (cs.map plain).all isPlainDigit = cs.all isDecimal := by
  rw [List.all_map]
  exact congrArg cs.all (funext isPlainDigit_plain)

/-- A text without separators is trimmed by numerals as by itself. -/
theorem body_eq_map_trim {cs : List Char} (apart : ∀ c ∈ cs, isSeparator c = false) :
    body cs = (trim cs).map plain :=
  trimBy_map fun c member => isPlainBlank_plain (apart c member)

/-- A row of digits has neither white space around it nor a sign. -/
theorem integer?_of_all_isDigit {digits : List Char} (all : digits.all isDigit = true) :
    integer? digits = (ungroup? (digits.map plain)).bind (bounded? false) := by
  have each : ∀ c ∈ digits, isDigit c = true := List.all_eq_true.1 all
  have solid : ∀ c ∈ digits.map plain, isPlainBlank c = false := by
    intro c member
    obtain ⟨d, inside, rfl⟩ := List.mem_map.1 member
    have digit := each d inside
    rw [isPlainBlank_plain (isSeparator_of_isDigit digit), isBlank_of_isDigit digit]
  have unsigned : ∀ c ∈ digits.map plain, c ≠ '-' ∧ c ≠ '+' := by
    intro c member
    obtain ⟨d, inside, rfl⟩ := List.mem_map.1 member
    exact (plain_ne_of_isDigit (each d inside)).2
  have whole : body digits = digits.map plain := trimBy_eq_self solid
  rw [integer?, whole, splitSign_of_forall unsigned]
  rfl

/-- A row of digits is an integer unless there are too many of them, or one is not decimal. -/
theorem integer?_eq_none_iff {digits : List Char} (some_ : digits ≠ [])
    (all : digits.all isDigit = true) :
    integer? digits = none ↔ digits.all isDecimal = false ∨ digitLimit < digits.length := by
  rw [integer?_of_all_isDigit all]
  cases decimal : digits.all isDecimal with
  | true =>
    have rows : ungroup? (digits.map plain) = some (digits.map plain) :=
      ungroup?_of_all (by simpa using some_) ((all_map_plain digits).trans decimal)
    simp only [rows, bounded?, List.length_map, Option.bind_some]
    split <;> simp_all
  | false =>
    have unmarked : ∀ c ∈ digits.map plain, c ≠ '_' := by
      intro c member
      obtain ⟨d, inside, rfl⟩ := List.mem_map.1 member
      exact (plain_ne_of_isDigit (List.all_eq_true.1 all d inside)).1
    have rows : ungroup? (digits.map plain) = none :=
      ungroup?_of_not_all unmarked ((all_map_plain digits).trans decimal)
    simp [rows]

/-- Digits of ASCII are the integer that they denote, if they are not too many. -/
theorem integer?_of_all_isPlainDigit {digits : List Char} (some_ : digits ≠ [])
    (all : digits.all isPlainDigit = true) (short : digits.length ≤ digitLimit) :
    integer? digits = some (value digits : Int) := by
  have each : ∀ c ∈ digits, isPlainDigit c = true := List.all_eq_true.1 all
  have decimal : digits.all isDigit = true := List.all_eq_true.2 fun c member =>
    isDigit_of_isDecimal (isDecimal_of_isPlainDigit (each c member))
  have same : digits.map plain = digits := by
    refine (List.map_congr_left fun c member => ?_).trans digits.map_id
    have digit := each c member
    simp only [isPlainDigit, Bool.and_eq_true, decide_eq_true_eq] at digit
    rw [plain, if_pos (by omega)]
    rfl
  rw [integer?_of_all_isDigit decimal, same, ungroup?_of_all some_ all, Option.bind_some, bounded?,
    if_neg (Nat.not_lt.2 short)]
  rfl

/-- The decimal digits of a number denote it. -/
theorem value_toDigits (n : Nat) : value (Nat.toDigits 10 n) = n :=
  Nat.ofDigitChars_eq_foldl.symm.trans Nat.ofDigitChars_ten_toDigits

/-- The decimal digits of a number are digits of ASCII. -/
theorem all_isPlainDigit_toDigits (n : Nat) : (Nat.toDigits 10 n).all isPlainDigit = true := by
  refine List.all_eq_true.2 fun c member => ?_
  have digit : c.isDigit = true := Nat.isDigit_of_mem_toDigits (by decide) (by decide) member
  simp only [Char.isDigit, Bool.and_eq_true, decide_eq_true_eq, ge_iff_le, UInt32.le_iff_toNat_le]
    at digit
  exact Bool.and_eq_true _ _ ▸ ⟨decide_eq_true digit.1, decide_eq_true digit.2⟩

/-- The decimal digits of a number are an integer unless they are too many. -/
theorem integer?_toDigits {n : Nat} (short : (Nat.toDigits 10 n).length ≤ digitLimit) :
    integer? (Nat.toDigits 10 n) = some (n : Int) := by
  rw [integer?_of_all_isPlainDigit Nat.toDigits_ne_nil (all_isPlainDigit_toDigits n) short,
    value_toDigits]

/-- Some number has more decimal digits than a limit allows. -/
theorem exists_lt_length_toDigits {limit : Nat} (some_ : 0 < limit) :
    ∃ n, limit < (Nat.toDigits 10 n).length := by
  refine ⟨10 ^ limit, Nat.lt_of_not_le fun few => ?_⟩
  exact Nat.lt_irrefl _ ((Nat.length_toDigits_le_iff (by decide) some_).1 few)

end Numeral

end Blueprint
