import Blueprint.Proofs.Config.Failure
import Blueprint.Proofs.Text.Lower
import Mathlib.Data.List.TakeWhile

/-!
# Which texts have a typed value

The typed value of a text is meant to be that of the text without the white space around it. Truth
values, numbers with a point, lists, maps and plain texts are read so. An integer is recognised so,
but read with its white space, and numerals do not allow information separators around them. Such an
integer has no value, and neither has one of too many digits, alone or in a list or a map. Nor have
lists and maps that are nested more deeply than there is room for.
-/
namespace Blueprint

namespace Text

/-! ### White space around a text -/

variable {drop : Char → Bool} {cs before after : List Char}

/-- What is dropped from the ends of a text stands before and after what is left. -/
theorem exists_trimBy_append (drop : Char → Bool) (cs : List Char) :
    ∃ before after, (∀ c ∈ before, drop c = true) ∧ (∀ c ∈ after, drop c = true) ∧
      cs = before ++ (trimBy drop cs ++ after) := by
  have dropped : ∀ cs : List Char, ∀ c ∈ cs.takeWhile drop, drop c = true := fun _ _ member =>
    List.mem_takeWhile_imp member
  refine ⟨cs.takeWhile drop, ((cs.dropWhile drop).reverse.takeWhile drop).reverse, dropped cs,
    fun c member => dropped _ c (List.mem_reverse.1 member), ?_⟩
  rw [trimBy, ← List.reverse_append, List.takeWhile_append_dropWhile, List.reverse_reverse,
    List.takeWhile_append_dropWhile]

/-- What is dropped anyway may stand before and after a text. -/
theorem trimBy_append (first : ∀ c ∈ before, drop c = true) (last : ∀ c ∈ after, drop c = true) :
    trimBy drop (before ++ (cs ++ after)) = trimBy drop cs := by
  have reversed : ∀ c ∈ after.reverse, drop c = true := fun c member =>
    last c (List.mem_reverse.1 member)
  rw [trimBy, trimBy, List.dropWhile_append_of_pos first, List.dropWhile_append]
  by_cases nothing : (cs.dropWhile drop).isEmpty = true
  · rw [if_pos nothing, List.isEmpty_iff.1 nothing, List.dropWhile_eq_nil_iff.2 last]
  · rw [if_neg nothing, List.reverse_append, List.dropWhile_append_of_pos reversed]

/-- A trimmed text is not trimmed further. -/
theorem trimBy_trimBy (drop : Char → Bool) (cs : List Char) :
    trimBy drop (trimBy drop cs) = trimBy drop cs := by
  obtain ⟨before, after, first, last, whole⟩ := exists_trimBy_append drop cs
  calc trimBy drop (trimBy drop cs)
    _ = trimBy drop (before ++ (trimBy drop cs ++ after)) := (trimBy_append first last).symm
    _ = trimBy drop cs := by rw [← whole]

/-- White space is trimmed once. -/
theorem trim_trim (cs : List Char) : trim (trim cs) = trim cs := trimBy_trimBy isBlank cs

/-- What is not dropped is still there. -/
theorem mem_trimBy {c : Char} (member : c ∈ cs) (kept : drop c = false) : c ∈ trimBy drop cs := by
  obtain ⟨before, after, first, last, whole⟩ := exists_trimBy_append drop cs
  rw [whole, List.mem_append, List.mem_append] at member
  obtain inside | inside | inside := member
  · rw [first c inside] at kept
    cases kept
  · exact inside
  · rw [last c inside] at kept
    cases kept

/-- A trimmed text holds nothing but what the text holds. -/
theorem mem_of_mem_trimBy {c : Char} (member : c ∈ trimBy drop cs) : c ∈ cs := by
  obtain ⟨before, after, _, _, whole⟩ := exists_trimBy_append drop cs
  rw [whole]
  exact List.mem_append_right _ (List.mem_append_left _ member)

/-! ### Digits in lower case -/

/-- The code points of decimal digits. -/
def decimalPoints : List Nat :=
  decimalZeros.flatMap fun start => (List.range 10).map (start + ·)

/-- A decimal digit is its own lower case. -/
theorem isLower_of_isDecimal {c : Char} (decimal : isDecimal c = true) : IsLower c := by
  obtain ⟨start, zero, least, most⟩ := exists_zero_of_isDecimal decimal
  have member : c.toNat ∈ decimalPoints :=
    List.mem_flatMap.2 ⟨start, zero, List.mem_map.2
      ⟨c.toNat - start, List.mem_range.2 (by omega), by omega⟩⟩
  have apart : bitsOf decimalPoints &&& bitsOf (304 :: pointsOf lowerRuns) = 0 := by decide +kernel
  have absent := not_mem_of_bitsOf apart member
  exact ⟨fun dotted => absent (dotted ▸ .head _),
    outside_of_not_mem fun inside => absent (.tail _ inside)⟩

end Text

namespace Numeral

open Text Radix

/-- Digits with another character than an underscore among them are not read. -/
theorem ungroup?_of_mem {cs : List Char} {c : Char} (member : c ∈ cs)
    (other : isPlainDigit c = false) (noMark : c ≠ '_') : ungroup? cs = none := by
  fun_induction ungroup? cs with
  | case1 => cases member
  | case2 d digit =>
    obtain rfl := List.mem_singleton.1 member
    rw [digit] at other
    cases other
  | case3 => rfl
  | case4 d e rest digit mark ih =>
    obtain rfl | rfl | inside := by simpa using member
    · rw [digit] at other
      cases other
    · exact absurd (by simpa using mark) noMark
    · rw [ih inside]
      rfl
  | case5 d e rest digit _ ih =>
    obtain rfl | inside := List.mem_cons.1 member
    · rw [digit] at other
      cases other
    · rw [ih inside]
      rfl
  | case6 => rfl

/-- A text with a separator is no integer. -/
theorem integer?_of_separator {cs : List Char} {c : Char} (member : c ∈ cs)
    (separator : isSeparator c = true) : integer? cs = none := by
  simp only [isSeparator, Bool.and_eq_true, decide_eq_true_eq] at separator
  have same : plain c = c := by rw [plain, if_pos (by omega)]
  have kept : isPlainBlank c = false := by
    rw [Bool.eq_false_iff]
    intro blank
    simp only [isPlainBlank, Bool.or_eq_true, beq_iff_eq, Bool.and_eq_true, decide_eq_true_eq]
      at blank
    obtain rfl | range := blank
    · exact absurd separator (by decide)
    · omega
  have inside : c ∈ body cs :=
    mem_trimBy (List.mem_map.2 ⟨c, member, same⟩) kept
  have marks : ∀ d : Char, isSeparator d = false → c ≠ d := by
    rintro d other rfl
    simp only [isSeparator, Bool.and_eq_false_iff, decide_eq_false_iff_not] at other
    omega
  have unsigned : c ∈ (splitSign (body cs)).2 := by
    unfold splitSign
    split
    · rename_i rest its
      rw [its] at inside
      exact (List.mem_cons.1 inside).resolve_left (marks '-' (by decide))
    · rename_i rest its
      rw [its] at inside
      exact (List.mem_cons.1 inside).resolve_left (marks '+' (by decide))
    · exact inside
  have other : isPlainDigit c = false := by
    simp only [isPlainDigit, Bool.and_eq_false_iff, decide_eq_false_iff_not]
    omega
  have none_ := ungroup?_of_mem unsigned other (marks '_' (by decide))
  unfold integer?
  generalize splitSign (body cs) = found at none_
  obtain ⟨negative, rest⟩ := found
  simp only [show ungroup? rest = none from none_]
  rfl

end Numeral

namespace Config

open Text Numeral

/-! ### One kind of text at a time -/

/-- A text is an integer but for the white space around it, and this holds separators. -/
def IsMisread (text : String) : Prop :=
  isIntegerText (trim text.toList) = true ∧ ∃ c ∈ text.toList, isSeparator c = true

/-- A text is an integer of too many digits, or a list or a map with one. -/
def IsTooLong (room : Nat) (text : String) : Prop :=
  (isIntegerText (trim text.toList) = true ∧
      digitLimit < (withoutSign (trim text.toList)).length) ∨
    (isBracketed (trim text.toList) = true ∧ Json.read room (trim text.toList) = .error .tooLong)

/-- A text is a list or a map that is nested more deeply than there is room for. -/
def IsTooDeep (room : Nat) (text : String) : Prop :=
  isBracketed (trim text.toList) = true ∧ Json.read room (trim text.toList) = .error .tooDeep

/-- A text that starts with what is its own lower case, but with no letter of the two words, is no
truth value. -/
theorem boolOf?_of_trim_cons {cs rest : List Char} {c : Char} (starts : trim cs = c :: rest)
    (settled : IsLower c) (other : c ≠ 't' ∧ c ≠ 'f') : boolOf? cs = none := by
  have head : ∃ later, lower (c :: rest) = c :: later := by
    refine ⟨lowerAfter [c] rest, ?_⟩
    rw [lower, lowerAfter, if_neg settled.ne_sigma, lowerChar_of_isLower settled]
    rfl
  obtain ⟨later, its⟩ := head
  have apart : ∀ d later', c ≠ d → String.ofList (c :: later) ≠ String.ofList (d :: later') :=
    fun d later' differ same => differ (List.cons.inj (String.ofList_inj.1 same)).1
  unfold boolOf?
  rw [starts, its]
  split
  · rename_i word
    exact absurd word (apart 't' _ other.1)
  · rename_i word
    exact absurd word (apart 'f' _ other.2)
  · rfl

/-- An integer consists of a sign and decimal digits. -/
theorem sign_or_isDecimal_of_mem {cs : List Char} (integer : isIntegerText cs = true) {c : Char}
    (member : c ∈ cs) : c = '-' ∨ c = '+' ∨ isDecimal c = true := by
  simp only [isIntegerText, Bool.and_eq_true, List.all_eq_true] at integer
  obtain ⟨_, decimal⟩ := integer
  unfold withoutSign at decimal
  split at decimal
  · exact (List.mem_cons.1 member).imp_right fun inside => .inr (decimal c inside)
  · obtain first | inside := List.mem_cons.1 member
    · exact .inr (.inl first)
    · exact .inr (.inr (decimal c inside))
  · exact .inr (.inr (decimal c member))

variable {room : Nat}

/-- An integer is read with the white space around it. -/
theorem coerce_of_isIntegerText {text : String}
    (integer : isIntegerText (trim text.toList) = true) :
    coerce text room = match integer? text.toList with
      | some n => .ok (.int n)
      | none => .error .badValue := by
  have none_ : boolOf? text.toList = none := by
    cases starts : trim text.toList with
    | nil =>
      rw [starts] at integer
      cases integer
    | cons c rest =>
      have first : c ∈ trim text.toList := by rw [starts]; exact List.mem_cons_self
      obtain rfl | rfl | decimal := sign_or_isDecimal_of_mem integer first
      · exact boolOf?_of_trim_cons starts (by decide +kernel) (by decide)
      · exact boolOf?_of_trim_cons starts (by decide +kernel) (by decide)
      · refine boolOf?_of_trim_cons starts (isLower_of_isDecimal decimal) ⟨?_, ?_⟩
        · rintro rfl
          cases decimal
        · rintro rfl
          cases decimal
  unfold coerce
  cases read : integer? text.toList with
  | some n => simp only [none_, if_pos integer, read]
  | none => simp only [none_, if_pos integer, read]

/-- A text in brackets starts with one of two. -/
theorem exists_cons_of_isBracketed {cs : List Char} (bracketed : isBracketed cs = true) :
    ∃ c rest, cs = c :: rest ∧ (c = '[' ∨ c = '\x7b') := by
  cases cs with
  | nil => cases bracketed
  | cons c rest =>
    simp only [isBracketed, List.head?_cons, Bool.or_eq_true, Bool.and_eq_true, beq_iff_eq,
      Option.some.injEq] at bracketed
    exact ⟨c, rest, rfl, bracketed.imp And.left And.left⟩

/-- A text in brackets is a list or a map, or else a plain text, unless an integer in it is too long
or it is nested too deeply. -/
theorem coerce_of_isBracketed {text : String} (bracketed : isBracketed (trim text.toList) = true) :
    coerce text room = match Json.read room (trim text.toList) with
      | .ok value => .ok value
      | .error .malformed => .ok (.text (trimmed text))
      | .error .tooLong => .error .badValue
      | .error .tooDeep => .error .tooDeep := by
  obtain ⟨c, rest, starts, opening⟩ := exists_cons_of_isBracketed bracketed
  have none_ : boolOf? text.toList = none := by
    obtain rfl | rfl := opening
    · exact boolOf?_of_trim_cons starts (by decide +kernel) (by decide)
    · exact boolOf?_of_trim_cons starts (by decide +kernel) (by decide)
  have noInteger : isIntegerText (trim text.toList) = false := by
    rw [starts]
    obtain rfl | rfl := opening <;> rfl
  have noPoint : pointOf? (trim text.toList) = none := by
    rw [starts]
    obtain rfl | rfl := opening <;> rfl
  unfold coerce collectionOf?
  simp only [none_, noInteger, noPoint, if_pos bracketed]
  cases Json.read room (trim text.toList) with
  | ok value => rfl
  | error refusal => cases refusal <;> rfl

/-- Any other text has a value. -/
theorem exists_coerce_of_neither (room : Nat) {text : String}
    (noInteger : isIntegerText (trim text.toList) = false)
    (open_ : isBracketed (trim text.toList) = false) : ∃ value, coerce text room = .ok value := by
  unfold coerce collectionOf?
  simp only [noInteger, open_]
  split
  · exact ⟨_, rfl⟩
  · rw [if_neg Bool.false_ne_true]
    split
    · exact ⟨_, rfl⟩
    · exact ⟨_, rfl⟩

/-- Texts that are trimmed alike have one value, unless they are an integer. -/
theorem coerce_congr {text other : String} (same : trim text.toList = trim other.toList)
    (read : isIntegerText (trim text.toList) = true → integer? text.toList = integer? other.toList) :
    coerce text room = coerce other room := by
  have truth : boolOf? text.toList = boolOf? other.toList := by rw [boolOf?, same, boolOf?]
  have shown : trimmed text = trimmed other := by rw [trimmed, same, trimmed]
  unfold coerce
  simp only [truth, same, shown] at read ⊢
  split
  · rfl
  · split
    · rename_i integer
      rw [read integer]
    · rfl

/-- An integer without separators is read alike with and without the white space around it. -/
theorem integer?_eq_of_trim {cs other : List Char} (apart : ∀ c ∈ cs, isSeparator c = false)
    (apart' : ∀ c ∈ other, isSeparator c = false) (same : trim cs = trim other) :
    integer? cs = integer? other := by
  unfold integer?
  rw [body_eq_map_trim apart, body_eq_map_trim apart', same]

/-! ### All texts -/

/-- Signed digits stand in no brackets. -/
theorem isIntegerText_of_isBracketed {cs : List Char} (bracketed : isBracketed cs = true) :
    isIntegerText cs = false := by
  obtain ⟨c, rest, rfl, opening⟩ := exists_cons_of_isBracketed bracketed
  obtain rfl | rfl := opening <;> rfl

/-- An integer stands in no brackets. -/
theorem isBracketed_of_isIntegerText {cs : List Char} (integer : isIntegerText cs = true) :
    isBracketed cs = false := by
  rw [Bool.eq_false_iff]
  intro bracketed
  rw [isIntegerText_of_isBracketed bracketed] at integer
  cases integer

/-- A text has no value for a numeral just if it is misread or too long. -/
theorem coerce_eq_error_iff {text : String} :
    coerce text room = .error .badValue ↔ IsMisread text ∨ IsTooLong room text := by
  unfold IsMisread IsTooLong
  cases integer : isIntegerText (trim text.toList) with
  | true =>
    have unread : coerce text room = .error .badValue ↔ integer? text.toList = none := by
      rw [coerce_of_isIntegerText integer]
      cases integer? text.toList <;> simp
    simp only [unread, isBracketed_of_isIntegerText integer, true_and, Bool.false_eq_true, false_and,
      or_false]
    by_cases separated : ∃ c ∈ text.toList, isSeparator c = true
    · obtain ⟨c, member, separator⟩ := separated
      exact iff_of_true (integer?_of_separator member separator) (.inl ⟨c, member, separator⟩)
    · have apart : ∀ c ∈ text.toList, isSeparator c = false := by simpa using separated
      rw [integer?_of_isIntegerText apart integer, or_iff_right separated]
  | false =>
    simp only [Bool.false_eq_true, false_and, false_or]
    cases bracketed : isBracketed (trim text.toList) with
    | true =>
      rw [coerce_of_isBracketed bracketed, and_iff_right rfl]
      cases Json.read room (trim text.toList) with
      | ok value => simp
      | error refusal => cases refusal <;> simp
    | false =>
      obtain ⟨value, done⟩ := exists_coerce_of_neither room integer bracketed
      simp [done]

/-- A text has no value for its nesting just if it is too deep. -/
theorem coerce_eq_tooDeep_iff {text : String} :
    coerce text room = .error .tooDeep ↔ IsTooDeep room text := by
  unfold IsTooDeep
  cases bracketed : isBracketed (trim text.toList) with
  | true =>
    rw [coerce_of_isBracketed bracketed, and_iff_right rfl]
    cases Json.read room (trim text.toList) with
    | ok value => simp
    | error refusal => cases refusal <;> simp
  | false =>
    simp only [Bool.false_eq_true, false_and, iff_false]
    cases integer : isIntegerText (trim text.toList) with
    | true =>
      rw [coerce_of_isIntegerText integer]
      cases integer? text.toList <;> simp
    | false =>
      obtain ⟨value, done⟩ := exists_coerce_of_neither room integer bracketed
      simp [done]

/-- White space without separators around a text that is no integer, and any around another one,
makes no difference. -/
theorem coerce_append {text : String} {before after : List Char}
    (first : ∀ c ∈ before, isBlank c = true) (last : ∀ c ∈ after, isBlank c = true)
    (apart : isIntegerText (trim text.toList) = true →
      ∀ c ∈ before ++ after, isSeparator c = false) :
    coerce (String.ofList (before ++ (text.toList ++ after))) room = coerce text room := by
  have same : trim (before ++ (text.toList ++ after)) = trim text.toList :=
    trimBy_append first last
  refine coerce_congr (by simpa using same) fun integer => ?_
  rw [String.toList_ofList] at integer ⊢
  rw [same] at integer
  by_cases separated : ∃ c ∈ text.toList, isSeparator c = true
  · obtain ⟨c, member, separator⟩ := separated
    rw [integer?_of_separator member separator, integer?_of_separator (c := c) (by simp [member])
      separator]
  · have own : ∀ c ∈ text.toList, isSeparator c = false := by simpa using separated
    refine integer?_eq_of_trim (fun c member => ?_) own same
    simp only [List.mem_append] at member
    obtain inside | inside | inside := member
    · exact apart integer c (List.mem_append_left _ inside)
    · exact own c inside
    · exact apart integer c (List.mem_append_right _ inside)

/-- A trimmed text is too long just if the text is. -/
theorem isTooLong_trimmed {text : String} :
    IsTooLong room (trimmed text) ↔ IsTooLong room text := by
  have same : trim (trimmed text).toList = trim text.toList := by
    rw [toList_trimmed, trim_trim]
  rw [IsTooLong, same, IsTooLong]

/-- A trimmed text is not misread. -/
theorem not_isMisread_trimmed (text : String) : ¬ IsMisread (trimmed text) := by
  rintro ⟨integer, c, member, separator⟩
  rw [toList_trimmed] at integer member
  rw [trim_trim] at integer
  obtain rfl | rfl | decimal := sign_or_isDecimal_of_mem integer member
  · cases separator
  · cases separator
  · rw [isSeparator_of_isDigit (isDigit_of_isDecimal decimal)] at separator
    cases separator

/-- A text has a value unless it is misread, too long or too deep. It fails with an error of values
in the first two cases, and with calls that are nested too deeply in the last one. Unless it is
misread, it has the value of the trimmed text, and both fail if it is too long. White space around a
text makes no difference, if there are no separators in it or if the text is no integer. -/
theorem coerce_unless_misread (text : String) (room : Nat) :
    (∀ fault, coerce text room = .error fault → fault = .badValue ∨ fault = .tooDeep) ∧
      (coerce text room = .error .badValue ↔ IsMisread text ∨ IsTooLong room text) ∧
      (coerce text room = .error .tooDeep ↔ IsTooDeep room text) ∧
      (coerce text room = coerce (trimmed text) room ↔ ¬ IsMisread text ∨ IsTooLong room text) ∧
      ∀ before after : List Char, (∀ c ∈ before, isBlank c = true) →
        (∀ c ∈ after, isBlank c = true) →
        (isIntegerText (trim text.toList) = true →
          ∀ c ∈ before ++ after, isSeparator c = false) →
        coerce (String.ofList (before ++ (text.toList ++ after))) room = coerce text room := by
  refine ⟨fun fault => coerce_eq_error, coerce_eq_error_iff, coerce_eq_tooDeep_iff, ⟨?_, ?_⟩,
    fun before after => coerce_append⟩
  · intro same
    by_contra neither
    obtain ⟨misread, short⟩ := not_or.1 neither
    have failed : coerce text room = .error .badValue :=
      coerce_eq_error_iff.2 (.inl (not_not.1 misread))
    rw [same] at failed
    obtain again | long := coerce_eq_error_iff.1 failed
    · exact not_isMisread_trimmed text again
    · exact short (isTooLong_trimmed.1 long)
  · have shorter : trim text.toList = trim (trimmed text).toList := by
      rw [toList_trimmed, trim_trim]
    rintro (read | long)
    · refine coerce_congr shorter fun integer => ?_
      have apart : ∀ c ∈ text.toList, isSeparator c = false := by
        intro c member
        rw [Bool.eq_false_iff]
        exact fun separator => read ⟨integer, c, member, separator⟩
      refine integer?_eq_of_trim apart (fun c member => ?_) shorter
      rw [toList_trimmed] at member
      exact apart c (mem_of_mem_trimBy member)
    · rw [coerce_eq_error_iff.2 (.inr long), coerce_eq_error_iff.2 (.inr (isTooLong_trimmed.2 long))]

/-- An integer with a file separator after it has no value, though the separator is white space and
the integer alone has one. -/
theorem coerce_separated : (∀ value, coerce "5\x1c" ≠ .ok value) ∧ trimmed "5\x1c" = "5" ∧
    coerce "5" = .ok (.int 5) := by
  have failed : coerce "5\x1c" = .error .badValue := rfl
  refine ⟨fun value => ?_, rfl, rfl⟩
  rw [failed]
  exact nofun

end Config

end Blueprint
