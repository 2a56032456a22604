import Blueprint.Name
import Mathlib.Data.List.SplitBy

/-!
# Where words begin

A capitalised spelling is split into words in two passes, the first of which sees runs of capitals
as a whole. What they come to is one rule about neighbours: an underscore goes between two
characters if the first one ends a word and a capital follows, or if both are capitals and a small
letter comes next. In the same way each longest run of separators becomes one underscore.
-/
namespace Blueprint.Name

open Text

/-! ### Kinds of characters -/

variable {c : Char}

/-- A capital letter is no small letter. -/
theorem isSmall_of_isCapital (capital : isCapital c = true) : isSmall c = false := by
  simp only [isCapital, isSmall, Bool.and_eq_true, decide_eq_true_eq, Bool.and_eq_false_iff,
    decide_eq_false_iff_not] at *
  omega

/-- A small letter is no capital letter. -/
theorem isCapital_of_isSmall (small : isSmall c = true) : isCapital c = false := by
  rw [Bool.eq_false_iff]
  intro capital
  rw [isSmall_of_isCapital capital] at small
  cases small

/-- A capital letter is no decimal digit. -/
theorem isDecimal_of_isCapital (capital : isCapital c = true) : isDecimal c = false := by
  have apart : ∀ start ∈ decimalZeros, ¬(start ≤ c.toNat ∧ c.toNat < start + 10) := by
    have far : ∀ start ∈ decimalZeros, 90 < start ∨ start + 10 ≤ 65 := by decide
    intro start member
    have place := far start member
    simp only [isCapital, Bool.and_eq_true, decide_eq_true_eq] at capital
    omega
  have unread : digitValue? c = none := by
    rw [digitValue?, List.find?_eq_none.2 fun start member => by simpa using apart start member]
    rfl
  rw [isDecimal, unread]
  rfl

/-- A capital letter does not end a word. -/
theorem endsWord_of_isCapital (capital : isCapital c = true) : endsWord c = false := by
  rw [endsWord, isSmall_of_isCapital capital, isDecimal_of_isCapital capital]
  rfl

/-! ### One rule about neighbours -/

/-- Puts an underscore between neighbours where a rule says so, which may look at what comes
next. -/
def mark (rule : Char → Char → Option Char → Bool) : List Char → List Char
  | a :: b :: rest =>
    if rule a b rest.head? then a :: '_' :: mark rule (b :: rest) else a :: mark rule (b :: rest)
  | cs => cs

section

variable {rule : Char → Char → Option Char → Bool} {a b : Char} {rest : List Char}

theorem mark_of_rule (splits : rule a b rest.head? = true) :
    mark rule (a :: b :: rest) = a :: '_' :: mark rule (b :: rest) := by
  rw [mark, if_pos splits]

theorem mark_of_not_rule (whole : rule a b rest.head? = false) :
    mark rule (a :: b :: rest) = a :: mark rule (b :: rest) := by
  rw [mark, if_neg (by simp [whole])]

/-- The first character stays the first. -/
theorem exists_mark_cons (rule : Char → Char → Option Char → Bool) (a : Char) (rest : List Char) :
    ∃ more, mark rule (a :: rest) = a :: more := by
  cases rest with
  | nil => exact ⟨[], rfl⟩
  | cons b rest =>
    cases splits : rule a b rest.head? with
    | true => exact ⟨_, mark_of_rule splits⟩
    | false => exact ⟨_, mark_of_not_rule splits⟩

end

/-- An acronym ends before the second of two capitals if a small letter comes next. -/
def endsAcronym (a b : Char) (next : Option Char) : Bool :=
  isCapital a && isCapital b && next.any isSmall

/-- A word begins with the second of two neighbours. -/
def beginsWord (a b : Char) (next : Option Char) : Bool :=
  (endsWord a && isCapital b) || endsAcronym a b next

/-! ### The first pass -/

variable {front cs rest : List Char} {last : Char}

/-- No acronym ends after what is no capital. -/
theorem mark_endsAcronym_cons (plain : isCapital c = false) :
    mark endsAcronym (c :: rest) = c :: mark endsAcronym rest := by
  cases rest with
  | nil => rfl
  | cons d rest => exact mark_of_not_rule (by simp [endsAcronym, plain])

/-- No acronym ends between capitals if no small letter comes next. -/
theorem mark_endsAcronym_cons_cons {d e : Char} (next : rest.head?.any isSmall = false) :
    mark endsAcronym (d :: e :: rest) = d :: mark endsAcronym (e :: rest) :=
  mark_of_not_rule (by rw [endsAcronym, next, Bool.and_false])

/-- Several capitals before a small letter are split before the last of them. -/
theorem mark_endsAcronym_of_small (nonempty : front ≠ []) (capitals : ∀ d ∈ front, isCapital d)
    (capital : isCapital last) (small : isSmall c) :
    mark endsAcronym (front ++ last :: c :: rest) =
      front ++ '_' :: last :: c :: mark endsAcronym rest := by
  have plain : isCapital c = false := isCapital_of_isSmall small
  have onward : mark endsAcronym (last :: c :: rest) = last :: c :: mark endsAcronym rest := by
    rw [mark_of_not_rule (by simp [endsAcronym, plain]), mark_endsAcronym_cons plain]
  induction front with
  | nil => exact absurd rfl nonempty
  | cons d front ih =>
    have here : isCapital d := capitals d List.mem_cons_self
    cases front with
    | nil =>
      show mark endsAcronym (d :: last :: c :: rest) = d :: '_' :: last :: c :: _
      rw [mark_of_rule (by simp [endsAcronym, here, capital, small]), onward]
    | cons e front =>
      -- what comes next is a capital still
      have next : (front ++ last :: c :: rest).head?.any isSmall = false := by
        cases front with
        | nil => exact isSmall_of_isCapital capital
        | cons f front => exact isSmall_of_isCapital (capitals f (by simp))
      have step := ih (by simp) fun f member => capitals f (.tail _ member)
      exact (mark_endsAcronym_cons_cons next).trans (congrArg (d :: ·) step)

/-- Capitals before anything else are left, and so is a single capital before a small letter. -/
theorem mark_endsAcronym_of_plain (capitals : ∀ d ∈ front, isCapital d) (plain : isCapital c = false)
    (few : isSmall c → front.length ≤ 1) :
    mark endsAcronym (front ++ c :: rest) = front ++ c :: mark endsAcronym rest := by
  induction front with
  | nil => exact mark_endsAcronym_cons plain
  | cons d front ih =>
    have step := ih (fun e member => capitals e (.tail _ member)) fun small => by
      have bound := few small
      rw [List.length_cons] at bound
      omega
    cases front with
    | nil =>
      have single : mark endsAcronym (d :: c :: rest) = d :: mark endsAcronym (c :: rest) :=
        mark_of_not_rule (by simp [endsAcronym, plain])
      exact single.trans (congrArg (d :: ·) step)
    | cons e front =>
      have next : (front ++ c :: rest).head?.any isSmall = false := by
        cases front with
        | nil =>
          rw [Bool.eq_false_iff]
          exact fun small => absurd (few small) (by simp)
        | cons f front => exact isSmall_of_isCapital (capitals f (by simp))
      exact (mark_endsAcronym_cons_cons next).trans (congrArg (d :: ·) step)

/-- Capitals alone are left. -/
theorem mark_endsAcronym_of_capitals (capitals : ∀ d ∈ cs, isCapital d) :
    mark endsAcronym cs = cs := by
  induction cs with
  | nil => rfl
  | cons d cs ih =>
    have step := ih fun e member => capitals e (.tail _ member)
    cases cs with
    | nil => rfl
    | cons e cs =>
      have next : cs.head?.any isSmall = false := by
        cases cs with
        | nil => rfl
        | cons f cs => exact isSmall_of_isCapital (capitals f (by simp))
      exact (mark_endsAcronym_cons_cons next).trans (congrArg (d :: ·) step)

/-- The first pass splits where acronyms end; the run that it holds is still to be written. -/
theorem splitRun_eq_mark {run : List Char} (capitals : ∀ d ∈ run, isCapital d) (cs : List Char) :
    splitRun run cs = mark endsAcronym (run.reverse ++ cs) := by
  have reversed : ∀ {ds : List Char}, (∀ d ∈ ds, isCapital d) → ∀ d ∈ ds.reverse, isCapital d :=
    fun each d member => each d (List.mem_reverse.1 member)
  induction cs generalizing run with
  | nil =>
    rw [splitRun, List.append_nil, mark_endsAcronym_of_capitals (reversed capitals)]
  | cons c rest ih =>
    have fresh : splitRun [] rest = mark endsAcronym rest := ih (by simp)
    unfold splitRun
    by_cases capital : isCapital c
    · have more : ∀ d ∈ c :: run, isCapital d := by
        simpa [capital] using capitals
      rw [if_pos capital, ih more, List.reverse_cons, List.append_assoc]
      rfl
    · have plain : isCapital c = false := by simpa using capital
      rw [if_neg capital, fresh]
      by_cases small : isSmall c
      · rw [if_pos small]
        split
        · rename_i last before earlier
          have written : (last :: before :: earlier).reverse ++ c :: rest =
              (before :: earlier).reverse ++ last :: c :: rest := by simp
          rw [written]
          refine (mark_endsAcronym_of_small ?_ ?_ (capitals last (by simp)) small).symm
          · simp
          · exact reversed fun d member => capitals d (.tail _ member)
        · rename_i short
          refine (mark_endsAcronym_of_plain (reversed capitals) plain fun _ => ?_).symm
          match run, short with
          | [], _ => simp
          | [_], _ => simp
          | last :: before :: earlier, short => exact absurd rfl (short last before earlier)
      · rw [if_neg small]
        exact (mark_endsAcronym_of_plain (reversed capitals) plain fun also => absurd also small).symm

/-- The first pass splits where acronyms end. -/
theorem splitAcronyms_eq_mark (cs : List Char) : splitAcronyms cs = mark endsAcronym cs :=
  splitRun_eq_mark (by simp) cs

/-! ### Both passes -/

/-- The second pass decides by a character and the first one after it, which marks leave. -/
theorem splitWords_cons_mark (rule : Char → Char → Option Char → Bool) (a b : Char)
    (rest : List Char) :
    splitWords (a :: mark rule (b :: rest)) =
      if endsWord a && isCapital b then a :: '_' :: splitWords (mark rule (b :: rest))
      else a :: splitWords (mark rule (b :: rest)) := by
  obtain ⟨more, same⟩ := exists_mark_cons rule b rest
  rw [same, splitWords]

/-- Both passes together split where words begin. -/
theorem splitWords_splitAcronyms (cs : List Char) :
    splitWords (splitAcronyms cs) = mark beginsWord cs := by
  rw [splitAcronyms_eq_mark]
  induction cs with
  | nil => rfl
  | cons a cs ih =>
    cases cs with
    | nil => rfl
    | cons b rest =>
      cases acronym : endsAcronym a b rest.head? with
      | true =>
        -- the underscore of the first pass is not split from its neighbours
        have apart : endsWord '_' = false := by decide
        have begins : beginsWord a b rest.head? = true := by rw [beginsWord, acronym, Bool.or_true]
        obtain ⟨more, same⟩ := exists_mark_cons endsAcronym b rest
        rw [mark_of_rule acronym, mark_of_rule begins, ← ih, same]
        simp [splitWords, apart, show isCapital '_' = false by decide]
      | false =>
        rw [mark_of_not_rule acronym, splitWords_cons_mark, ih]
        cases words : endsWord a && isCapital b with
        | true =>
          have begins : beginsWord a b rest.head? = true := by rw [beginsWord, words, Bool.true_or]
          rw [mark_of_rule begins, if_pos rfl]
        | false =>
          have whole : beginsWord a b rest.head? = false := by rw [beginsWord, words, acronym]; rfl
          rw [mark_of_not_rule whole, if_neg Bool.false_ne_true]

/-! ### Separators -/

variable {run : List Char}

/-- Two neighbours belong to one run if both of them separate words, or neither does. -/
def inOneRun (a b : Char) : Bool := isSeparator a == isSeparator b

/-- Every longest run of separators becomes one underscore, and all other runs stay. -/
def joinRuns (cs : List Char) : List Char :=
  (cs.splitBy inOneRun).flatMap fun run => if run.all isSeparator then ['_'] else run

/-- Separators become one underscore if none follows. -/
theorem joinSeparators_append_of_separators (nonempty : run ≠ []) (each : ∀ d ∈ run, isSeparator d)
    (ends : ∀ d, rest.head? = some d → isSeparator d = false) :
    joinSeparators (run ++ rest) = '_' :: joinSeparators rest := by
  induction run with
  | nil => exact absurd rfl nonempty
  | cons c run ih =>
    have separates : isSeparator c := each c List.mem_cons_self
    cases run with
    | nil =>
      cases rest with
      | nil => simp [joinSeparators, separates]
      | cons d rest => simp [joinSeparators, separates, ends d rfl]
    | cons d run =>
      have next : isSeparator d := each d (by simp)
      have step := ih (by simp) fun e member => each e (.tail _ member)
      simp only [List.cons_append, joinSeparators, separates, next, if_true] at step ⊢
      exact step

/-- What does not separate words stays. -/
theorem joinSeparators_append_of_plain (plain : ∀ d ∈ run, isSeparator d = false) :
    joinSeparators (run ++ rest) = run ++ joinSeparators rest := by
  induction run with
  | nil => rfl
  | cons c run ih =>
    have here : isSeparator c = false := plain c List.mem_cons_self
    have first : ∀ cs, joinSeparators (c :: cs) = c :: joinSeparators cs := by
      intro cs
      cases cs <;> simp [joinSeparators, here]
    rw [List.cons_append, first, ih fun d member => plain d (.tail _ member)]
    rfl

/-- In a run all characters are of one kind. -/
theorem isSeparator_of_mem_run {c d : Char} (chain : (c :: run).IsChain fun a b => inOneRun a b)
    (member : d ∈ c :: run) : isSeparator d = isSeparator c := by
  induction run generalizing c with
  | nil => rw [List.mem_singleton.1 member]
  | cons e run ih =>
    obtain ⟨same, later⟩ := List.isChain_cons_cons.1 chain
    have next : isSeparator c = isSeparator e := by simpa [inOneRun] using same
    obtain rfl | inside := List.mem_cons.1 member
    · rfl
    · rw [ih later inside, next]

/-- What the joining makes of runs that differ from their neighbours. -/
theorem joinSeparators_flatten {runs : List (List Char)} (nonempty : [] ∉ runs)
    (chains : ∀ run ∈ runs, run.IsChain fun a b => inOneRun a b)
    (apart : runs.IsChain fun run next => ∃ some_ also,
      inOneRun (run.getLast some_) (next.head also) = false) :
    joinSeparators runs.flatten =
      runs.flatMap fun run => if run.all isSeparator then ['_'] else run := by
  induction runs with
  | nil => rfl
  | cons run runs ih =>
    have step := ih (fun member => nonempty (.tail _ member))
      (fun run member => chains run (.tail _ member)) apart.tail
    rw [List.flatten_cons, List.flatMap_cons, ← step]
    cases run with
    | nil => exact absurd List.mem_cons_self nonempty
    | cons c run =>
      have alike : ∀ d ∈ c :: run, isSeparator d = isSeparator c :=
        fun d member => isSeparator_of_mem_run (chains _ List.mem_cons_self) member
      cases separates : isSeparator c with
      | true =>
        have each : ∀ d ∈ c :: run, isSeparator d := fun d member => (alike d member).trans separates
        have ends : ∀ d, runs.flatten.head? = some d → isSeparator d = false := by
          intro d first
          cases runs with
          | nil => cases first
          | cons next runs =>
            obtain ⟨⟨_, also, other⟩, _⟩ := List.isChain_cons_cons.1 apart
            obtain ⟨e, more, rfl⟩ := List.exists_cons_of_ne_nil also
            cases first
            have last := each _ (List.getLast_mem (List.cons_ne_nil c run))
            simpa [inOneRun, last] using other
        rw [joinSeparators_append_of_separators (by simp) each ends,
          if_pos (List.all_eq_true.2 each)]
        rfl
      | false =>
        have plain : ∀ d ∈ c :: run, isSeparator d = false :=
          fun d member => (alike d member).trans separates
        rw [joinSeparators_append_of_plain plain, if_neg (by simp [separates])]

/-- The joining turns every longest run of separators into one underscore. -/
theorem joinSeparators_eq_joinRuns (cs : List Char) : joinSeparators cs = joinRuns cs := by
  have whole := joinSeparators_flatten (List.nil_notMem_splitBy inOneRun cs)
    (fun _ member => List.isChain_of_mem_splitBy member) (List.isChain_getLast_head_splitBy _ _)
  rwa [List.flatten_splitBy] at whole

/-- The lower-case spelling is made by one rule about neighbours. -/
theorem underscoreChars_eq (cs : List Char) :
    underscoreChars cs = lower (joinRuns (mark beginsWord cs)) := by
  rw [underscoreChars, splitWords_splitAcronyms, joinSeparators_eq_joinRuns]

end Blueprint.Name
