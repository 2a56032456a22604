import Blueprint.Proofs.Name
import Blueprint.Proofs.Name.Substitution

/-!
# Spellings of a name

A name of several words is spelled in capitals, with separators or with underscores. All of these
spellings have the same canonical name, which is the one with underscores. A word begins with a
small letter and has at least one more character, so that no two capitals are neighbours.
-/
namespace Blueprint.Name

open Text

/-! ### Words -/

/-- A small letter or a digit. -/
def isWordChar (c : Char) : Bool := isSmall c || (48 ≤ c.toNat && c.toNat ≤ 57)

/-- A word: a small letter, and one or more small letters or digits. -/
structure Word where
  /-- The first letter. -/
  first : Char
  /-- The other characters. -/
  rest : List Char
  /-- The first letter is small. -/
  starts : isSmall first
  /-- There are others. -/
  goesOn : rest ≠ []
  /-- The others are small letters or digits. -/
  each : ∀ c ∈ rest, isWordChar c

namespace Word

/-- The word as it is. -/
def chars (word : Word) : List Char := word.first :: word.rest

/-- The word with a capital first letter. -/
def capitalized (word : Word) : List Char := word.first.toUpper :: word.rest

end Word

/-- A way to spell a name of several words. -/
inductive Spelling where
  /-- Each word has a capital, as in `UserProfile`. -/
  | camel
  /-- Each word but the first has a capital, as in `userProfile`. -/
  | lowerCamel
  /-- Hyphens between the words. -/
  | dashed
  /-- Dots between the words. -/
  | dotted
  /-- Spaces between the words. -/
  | spaced
  /-- Underscores between the words. -/
  | snake
deriving DecidableEq, Repr

/-- Words with a character between them. -/
def joined (separator : Char) (parts : List (List Char)) : List Char := [separator].intercalate parts

theorem joined_singleton (separator : Char) (part : List Char) : joined separator [part] = part :=
  List.intercalate_singleton

theorem joined_cons_cons (separator : Char) (part next : List Char) (parts : List (List Char)) :
    joined separator (part :: next :: parts) =
      part ++ separator :: joined separator (next :: parts) := by
  rw [joined, List.intercalate_cons_cons, List.append_assoc]
  rfl

/-- A name of several words in a spelling. -/
def Spelling.write : Spelling → List Word → List Char
  | camel, words => words.flatMap Word.capitalized
  | lowerCamel, [] => []
  | lowerCamel, word :: words => word.chars ++ words.flatMap Word.capitalized
  | dashed, words => joined '-' (words.map Word.chars)
  | dotted, words => joined '.' (words.map Word.chars)
  | spaced, words => joined ' ' (words.map Word.chars)
  | snake, words => joined '_' (words.map Word.chars)

/-! ### Characters of words -/

section

variable {c : Char}

/-- A character of words is one of ASCII, up to the small letters. -/
theorem exists_ofNat_of_isWordChar (inWord : isWordChar c) : ∃ n < 123, c = Char.ofNat n := by
  refine ⟨c.toNat, ?_, (Char.ofNat_toNat c).symm⟩
  simp only [isWordChar, isSmall, Bool.or_eq_true, Bool.and_eq_true, decide_eq_true_eq] at inWord
  omega

/-- A small letter is a character of words. -/
theorem isWordChar_of_isSmall (small : isSmall c) : isWordChar c := by
  rw [isWordChar, small, Bool.true_or]

/-- A character of words is its own lower case, ends words, and neither is a capital nor separates
words. -/
theorem plain_of_isWordChar (inWord : isWordChar c) :
    IsLower c ∧ endsWord c ∧ isCapital c = false ∧ isSeparator c = false := by
  have table : ∀ n < 123, isWordChar (Char.ofNat n) →
      IsLower (Char.ofNat n) ∧ endsWord (Char.ofNat n) ∧ isCapital (Char.ofNat n) = false ∧
        isSeparator (Char.ofNat n) = false := by decide +kernel
  obtain ⟨n, bound, rfl⟩ := exists_ofNat_of_isWordChar inWord
  exact table n bound inWord

/-- A small letter made capital is a capital that is lowered to it again, and does not separate
words. -/
theorem toUpper_of_isSmall (small : isSmall c) :
    isCapital c.toUpper ∧ lowerChar c.toUpper = [c] ∧ isSeparator c.toUpper = false := by
  have table : ∀ n < 123, isSmall (Char.ofNat n) →
      isCapital (Char.ofNat n).toUpper ∧ lowerChar (Char.ofNat n).toUpper = [Char.ofNat n] ∧
        isSeparator (Char.ofNat n).toUpper = false := by decide +kernel
  obtain ⟨n, bound, rfl⟩ := exists_ofNat_of_isWordChar (isWordChar_of_isSmall small)
  exact table n bound small

end

/-! ### Splitting capitalised spellings -/

section

variable {word : Word} {words : List Word}

/-- All characters of a word are characters of words. -/
theorem Word.isWordChar_of_mem {c : Char} (member : c ∈ word.chars) : isWordChar c := by
  obtain rfl | inside := List.mem_cons.1 member
  · exact isWordChar_of_isSmall word.starts
  · exact word.each c inside

/-- No word begins within a word, whatever its first letter is. -/
theorem mark_word {first : Char} {rest : List Char} (each : ∀ c ∈ rest, isWordChar c) :
    mark beginsWord (first :: rest) = first :: rest := by
  induction rest generalizing first with
  | nil => rfl
  | cons c rest ih =>
    have plain := (plain_of_isWordChar (each c List.mem_cons_self)).2.2.1
    have inside : beginsWord first c rest.head? = false := by
      simp [beginsWord, endsAcronym, plain]
    rw [mark_of_not_rule inside, ih fun d member => each d (.tail _ member)]

/-- A word begins with a capital behind another word. -/
theorem mark_word_append {first capital : Char} {rest more : List Char} (goesOn : rest ≠ [])
    (each : ∀ c ∈ rest, isWordChar c) (begins : isCapital capital) :
    mark beginsWord (first :: rest ++ capital :: more) =
      first :: rest ++ '_' :: mark beginsWord (capital :: more) := by
  induction rest generalizing first with
  | nil => exact absurd rfl goesOn
  | cons c rest ih =>
    obtain ⟨_, ends, plain, _⟩ := plain_of_isWordChar (each c List.mem_cons_self)
    have inside : ∀ next, beginsWord first c next = false := by
      intro next
      simp [beginsWord, endsAcronym, plain]
    have step : mark beginsWord (c :: rest ++ capital :: more) =
        c :: rest ++ '_' :: mark beginsWord (capital :: more) := by
      cases rest with
      | nil => exact mark_of_rule (by simp [beginsWord, ends, begins])
      | cons d rest => exact ih (by simp) fun e member => each e (.tail _ member)
    exact (mark_of_not_rule (inside _)).trans (congrArg (first :: ·) step)

/-- A word begins with each capital behind a first word. -/
theorem mark_words {first : Char} {rest : List Char} (goesOn : rest ≠ [])
    (each : ∀ c ∈ rest, isWordChar c) (words : List Word) :
    mark beginsWord (first :: rest ++ words.flatMap Word.capitalized) =
      joined '_' ((first :: rest) :: words.map Word.capitalized) := by
  induction words generalizing first rest with
  | nil =>
    rw [List.flatMap_nil, List.append_nil, mark_word each]
    exact (joined_singleton _ _).symm
  | cons word words ih =>
    have later : mark beginsWord (word.capitalized ++ words.flatMap Word.capitalized) =
        joined '_' (word.capitalized :: words.map Word.capitalized) := ih word.goesOn word.each
    have behind : mark beginsWord
        (first :: rest ++ (word.capitalized ++ words.flatMap Word.capitalized)) =
          first :: rest ++ '_' :: mark beginsWord
            (word.capitalized ++ words.flatMap Word.capitalized) :=
      mark_word_append goesOn each (toUpper_of_isSmall word.starts).1
    rw [List.flatMap_cons, behind, later, List.map_cons, joined_cons_cons]

/-! ### Words with a character between them -/

/-- What holds of the separator and of all characters of the parts holds of all of it. -/
theorem of_mem_joined {Holds : Char → Prop} {separator c : Char} {parts : List (List Char)}
    (own : Holds separator) (each : ∀ part ∈ parts, ∀ d ∈ part, Holds d)
    (member : c ∈ joined separator parts) : Holds c := by
  induction parts with
  | nil => cases member
  | cons part parts ih =>
    cases parts with
    | nil =>
      rw [joined_singleton] at member
      exact each part List.mem_cons_self c member
    | cons next parts =>
      rw [joined_cons_cons, List.mem_append, List.mem_cons] at member
      obtain here | rfl | later := member
      · exact each part List.mem_cons_self c here
      · exact own
      · exact ih (fun other inside => each other (.tail _ inside)) later

/-- Changing each character changes the parts, if the separator stays. -/
theorem flatMap_joined {change : Char → List Char} {separator : Char}
    (own : change separator = [separator]) (parts : List (List Char)) :
    (joined separator parts).flatMap change =
      joined separator (parts.map fun part => part.flatMap change) := by
  induction parts with
  | nil => rfl
  | cons part parts ih =>
    cases parts with
    | nil => rw [joined_singleton, List.map_singleton, joined_singleton]
    | cons next parts =>
      rw [joined_cons_cons, List.flatMap_append, List.flatMap_cons, own, ih]
      exact (joined_cons_cons _ _ _ _).symm

/-- The first character of the first word is the first of all. -/
theorem head?_joined (separator : Char) (word : Word) (words : List Word) :
    (joined separator ((word :: words).map Word.chars)).head? = some word.first := by
  cases words <;> rfl

/-- The last character of the last word is the last of all. -/
theorem exists_getLast?_joined (separator : Char) (word : Word) (words : List Word) :
    ∃ c, (joined separator ((word :: words).map Word.chars)).getLast? = some c ∧ isWordChar c := by
  induction words generalizing word with
  | nil =>
    refine ⟨word.chars.getLast (List.cons_ne_nil _ _), ?_,
      word.isWordChar_of_mem (List.getLast_mem _)⟩
    rw [List.map_singleton, joined_singleton]
    exact List.getLast?_eq_some_getLast _
  | cons next words ih =>
    obtain ⟨c, last, inWord⟩ := ih next
    refine ⟨c, ?_, inWord⟩
    rw [List.map_cons, List.map_cons, joined_cons_cons, List.getLast?_append, List.getLast?_cons,
      ← List.map_cons, last]
    rfl

/-- Separators between words become underscores. -/
theorem joinSeparators_joined {separator : Char} (separates : isSeparator separator)
    (words : List Word) :
    joinSeparators (joined separator (words.map Word.chars)) = joined '_' (words.map Word.chars) := by
  have plain : ∀ word : Word, ∀ c ∈ word.chars, isSeparator c = false :=
    fun word c member => (plain_of_isWordChar (word.isWordChar_of_mem member)).2.2.2
  have alone : ∀ word : Word, joinSeparators word.chars = word.chars :=
    fun word => joinSeparators_eq_self (plain word)
  induction words with
  | nil => rfl
  | cons word words ih =>
    cases words with
    | nil => rw [List.map_singleton, joined_singleton, joined_singleton, alone]
    | cons next words =>
      have first : ∀ c, (joined separator (next.chars :: words.map Word.chars)).head? = some c →
          isSeparator c = false := by
        intro c begins
        cases (head?_joined separator next words).symm.trans begins
        exact plain next _ List.mem_cons_self
      have behind : joinSeparators ([separator] ++
          joined separator (next.chars :: words.map Word.chars)) =
            '_' :: joinSeparators (joined separator (next.chars :: words.map Word.chars)) :=
        joinSeparators_append_of_separators (by simp) (by simpa using separates) first
      have later : joinSeparators (joined separator (next.chars :: words.map Word.chars)) =
          joined '_' (next.chars :: words.map Word.chars) := ih
      rw [later] at behind
      rw [List.map_cons, List.map_cons, joined_cons_cons, joined_cons_cons,
        joinSeparators_append_of_plain (plain word)]
      exact congrArg (word.chars ++ ·) behind

/-! ### Canonical names -/

/-- The name of a text that need not be trimmed is its lower-case spelling. -/
theorem ofText_ofList {cs : List Char} (whole : trim cs = cs) :
    ofText (String.ofList cs) = String.ofList (underscoreChars cs) := by
  rw [ofText, underscore, toList_trimmed, String.toList_ofList, whole]

/-- Words with a separator or an underscore between them are known by the words with underscores. -/
theorem ofText_joined {separator : Char} (settled : IsLower separator)
    (known : isSeparator separator ∨ separator = '_') (word : Word) (words : List Word) :
    ofText (String.ofList (joined separator ((word :: words).map Word.chars))) =
      String.ofList (joined '_' ((word :: words).map Word.chars)) := by
  have inWord : ∀ part ∈ (word :: words).map Word.chars, ∀ c ∈ part, isWordChar c := by
    intro part member c inside
    obtain ⟨own, _, rfl⟩ := List.mem_map.1 member
    exact own.isWordChar_of_mem inside
  have lowered : ∀ between, IsLower between →
      ∀ c ∈ joined between ((word :: words).map Word.chars), IsLower c :=
    fun between own c member => of_mem_joined own
      (fun part among d inside => (plain_of_isWordChar (inWord part among d inside)).1) member
  have small : ∀ c ∈ joined separator ((word :: words).map Word.chars), isCapital c = false :=
    fun c member => isCapital_of_isLower (lowered separator settled c member)
  have joins : joinSeparators (joined separator ((word :: words).map Word.chars)) =
      joined '_' ((word :: words).map Word.chars) := by
    obtain separates | rfl := known
    · exact joinSeparators_joined separates _
    · exact joinSeparators_eq_self fun c member => of_mem_joined isSeparator_underscore
        (fun part among d inside => (plain_of_isWordChar (inWord part among d inside)).2.2.2) member
  have whole : trim (joined separator ((word :: words).map Word.chars)) =
      joined separator ((word :: words).map Word.chars) := by
    have full : ∀ {c}, isWordChar c → isBlank c = false :=
      fun inside => isBlank_of_isSeparator (plain_of_isWordChar inside).2.2.2
    obtain ⟨last, ends, inside⟩ := exists_getLast?_joined separator word words
    refine trimBy_eq_self_of_ends ?_ ?_ <;> intro c place
    · cases (head?_joined separator word words).symm.trans place
      exact full (isWordChar_of_isSmall word.starts)
    · cases ends.symm.trans place
      exact full inside
  rw [ofText_ofList whole, underscoreChars, splitAcronyms, splitRun_nil_eq_self small,
    splitWords_eq_self small, joins, lower_eq_self (lowered '_' (by decide +kernel))]

section

variable {first : Char} (either : first = word.first ∨ first = word.first.toUpper)
include either

/-- The first letter of a word, small or capital, is lowered to the small one, is no sigma and does
not separate words. -/
theorem plain_of_initial :
    lowerChar first = [word.first] ∧ first.toNat ≠ 931 ∧ isSeparator first = false := by
  obtain rfl | rfl := either
  · obtain ⟨settled, _, _, plain⟩ := plain_of_isWordChar (isWordChar_of_isSmall word.starts)
    exact ⟨lowerChar_of_isLower settled, settled.ne_sigma, plain⟩
  · obtain ⟨capital, lowered, plain⟩ := toUpper_of_isSmall word.starts
    refine ⟨lowered, ?_, plain⟩
    simp only [isCapital, Bool.and_eq_true, decide_eq_true_eq] at capital
    omega

/-- No character of a word with a first letter in either case is a sigma or separates words. -/
theorem plain_of_mem_written {c : Char} (member : c ∈ first :: word.rest) :
    c.toNat ≠ 931 ∧ isSeparator c = false := by
  obtain rfl | inside := List.mem_cons.1 member
  · exact (plain_of_initial either).2
  · obtain ⟨settled, _, _, plain⟩ := plain_of_isWordChar (word.each c inside)
    exact ⟨settled.ne_sigma, plain⟩

/-- A word with a first letter in either case is lowered to the word. -/
theorem flatMap_written : (first :: word.rest).flatMap lowerChar = word.chars := by
  have settled : ∀ c ∈ word.rest, IsLower c :=
    fun c member => (plain_of_isWordChar (word.each c member)).1
  rw [List.flatMap_cons, (plain_of_initial either).1,
    ← lower_eq_flatMap fun c member => (settled c member).ne_sigma, lower_eq_self settled]
  rfl

/-- Words with capitals are known by the words with underscores, whether the first of them has a
capital or not. -/
theorem ofText_capitals (words : List Word) :
    ofText (String.ofList (first :: word.rest ++ words.flatMap Word.capitalized)) =
      String.ofList (joined '_' ((word :: words).map Word.chars)) := by
  let parts := (first :: word.rest) :: words.map Word.capitalized
  have plain : ∀ part ∈ parts, ∀ c ∈ part, c.toNat ≠ 931 ∧ isSeparator c = false := by
    intro part member c inside
    obtain rfl | later := List.mem_cons.1 member
    · exact plain_of_mem_written either inside
    · obtain ⟨own, _, rfl⟩ := List.mem_map.1 later
      exact plain_of_mem_written (.inr rfl) inside
  have lowered : (parts.map fun part => part.flatMap lowerChar) = (word :: words).map Word.chars := by
    rw [List.map_cons, List.map_map, flatMap_written either]
    exact congrArg (word.chars :: ·) (List.map_congr_left fun own _ => flatMap_written (.inr rfl))
  have flat : first :: word.rest ++ words.flatMap Word.capitalized = parts.flatten := by
    rw [List.flatten_cons, List.flatMap_def]
  have whole : trim (first :: word.rest ++ words.flatMap Word.capitalized) =
      first :: word.rest ++ words.flatMap Word.capitalized := by
    refine trimBy_eq_self fun c member => ?_
    rw [flat, List.mem_flatten] at member
    obtain ⟨part, among, inside⟩ := member
    exact isBlank_of_isSeparator (plain part among c inside).2
  have between : ('_' : Char).toNat ≠ 931 ∧ isSeparator '_' = false := by decide
  have marked : ∀ c ∈ joined '_' parts, c.toNat ≠ 931 ∧ isSeparator c = false :=
    fun c member => of_mem_joined between plain member
  rw [ofText_ofList whole, underscoreChars, splitWords_splitAcronyms,
    mark_words word.goesOn word.each, joinSeparators_eq_self fun c member => (marked c member).2,
    lower_eq_flatMap fun c member => (marked c member).1, flatMap_joined (by decide +kernel), lowered]

end

/-- Every spelling of a name of one or more words is known by the one with underscores. -/
theorem ofText_write (spelling : Spelling) {words : List Word} (nonempty : words ≠ []) :
    ofText (String.ofList (spelling.write words)) = String.ofList (Spelling.snake.write words) := by
  obtain ⟨word, words, rfl⟩ := List.exists_cons_of_ne_nil nonempty
  cases spelling with
  | camel => exact ofText_capitals (.inr rfl) words
  | lowerCamel => exact ofText_capitals (.inl rfl) words
  | dashed => exact ofText_joined (by decide +kernel) (.inl (by decide)) word words
  | dotted => exact ofText_joined (by decide +kernel) (.inl (by decide)) word words
  | spaced => exact ofText_joined (by decide +kernel) (.inl (by decide)) word words
  | snake => exact ofText_joined (by decide +kernel) (.inr rfl) word words

/-- The lower-case spelling of a text is made by one rule about neighbours: an underscore goes
between two characters exactly where a word begins, then each longest run of separators becomes an
underscore, and then the case is lowered. It is what the three replacements make. So every spelling
of a name of one or more words is known by the one with underscores. -/
theorem underscore_by_neighbours (text : String) (spelling : Spelling) {words : List Word}
    (nonempty : words ≠ []) :
    underscore text = String.ofList (lower (joinRuns (mark beginsWord text.toList))) ∧
      substituted text.toList = .ok (underscore text).toList ∧
      ofValue (.text (String.ofList (spelling.write words))) =
        String.ofList (Spelling.snake.write words) := by
  refine ⟨?_, ?_, ofText_write spelling nonempty⟩
  · rw [underscore, underscoreChars_eq]
  · rw [underscore, String.toList_ofList, substituted_eq]

/-- The words of a name with a digit in it. -/
def userWords : List Word :=
  [⟨'u', ['s', 'e', 'r'], by decide, by decide, List.all_eq_true.1 rfl⟩,
    ⟨'k', ['e', 'y', '2'], by decide, by decide, List.all_eq_true.1 rfl⟩]

/-- An acronym before a word, a run of separators of three kinds, and a name in capitals. -/
theorem underscore_by_neighbours_user :
    userWords ≠ [] ∧ underscore "HTTPServer-. v2Key" = "http_server_v2_key" ∧
      substituted "HTTPServer-. v2Key".toList = .ok "http_server_v2_key".toList ∧
      ofValue (.text "UserKey2") = "user_key2" := by
  have nonempty : userWords ≠ [] := List.cons_ne_nil _ _
  obtain ⟨rule, replacements, known⟩ :=
    underscore_by_neighbours "HTTPServer-. v2Key" .camel nonempty
  have made : underscore "HTTPServer-. v2Key" = "http_server_v2_key" := by
    rw [rule]
    decide +kernel
  exact ⟨nonempty, made, replacements.trans (by rw [made]), known⟩

end

end Blueprint.Name
