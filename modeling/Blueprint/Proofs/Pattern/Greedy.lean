import Blueprint.Pattern.Match

/-!
# Greedy repetitions

A part that takes one character of a kind, repeated as often as possible, takes the longest run of
such characters that what follows it accepts. `longest` says so by recursion on the text alone, and
its laws tell what is taken without any count of rounds.
-/
namespace Blueprint.Pattern

variable {options : Options} {test : Char → Bool} {next : Next} {part : Node} {least : Nat}

/-- Takes characters of a kind, as many as what follows accepts and perhaps none. -/
def longest (test : Char → Bool) (groups : List (Nat × List Char)) (next : Next) :
    Option Char → List Char → Option Cursor
  | before, [] => next ⟨before, [], groups⟩
  | before, c :: rest =>
    if test c then (longest test groups next (some c) rest).or (next ⟨before, c :: rest, groups⟩)
    else next ⟨before, c :: rest, groups⟩

/-! ### Repetitions -/

/-- Once the least number is reached, the rounds of a part that takes one character take the longest
run. The bound on the rounds is never met, and no round begins where the one before it did. -/
theorem rounds_matchOne {fuel count : Nat} {last : Option Nat} {before : Option Char}
    {cs : List Char} {groups : List (Nat × List Char)} (enough : cs.length < fuel)
    (reached : least ≤ count) (onward : ∀ position, last = some position → cs.length < position) :
    rounds (matchOne test) least none true next fuel count last ⟨before, cs, groups⟩ =
      longest test groups next before cs := by
  induction cs generalizing fuel count last before with
  | nil =>
    obtain ⟨fuel, rfl⟩ := Nat.exists_eq_succ_of_ne_zero (Nat.ne_of_gt enough)
    rw [rounds, if_neg (by omega)]
    simp [matchOne, longest]
  | cons c rest ih =>
    obtain ⟨fuel, rfl⟩ := Nat.exists_eq_succ_of_ne_zero (Nat.ne_zero_of_lt enough)
    have further : last ≠ some (c :: rest).length := fun same =>
      Nat.lt_irrefl _ (onward _ same)
    have shorter : rest.length < fuel := by
      rw [List.length_cons] at enough
      omega
    have later : ∀ position, some (c :: rest).length = some position → rest.length < position := by
      intro position same
      rw [← Option.some.inj same, List.length_cons]
      omega
    have others := @ih fuel (count + 1) (some (c :: rest).length) (some c) shorter (by omega) later
    rw [rounds, if_neg (by omega)]
    by_cases kind : test c
    · simp only [matchOne, Cursor.advance, longest, kind, Option.all_none, Bool.true_and, bne_iff_ne,
        ne_eq, further, not_false_eq_true, ↓reduceIte, others]
      cases longest test groups next (some c) rest <;> rfl
    · simp [matchOne, longest, kind]

/-- A kind of characters that may be missing takes the longest run. -/
theorem run_star (single : part.run options = matchOne test) (cursor : Cursor) :
    (Node.iterate 0 none .greedy part).run options cursor next =
      longest test cursor.groups next cursor.before cursor.rest := by
  rw [Node.run, single]
  exact rounds_matchOne (by omega) (Nat.le_refl 0) fun _ never => by cases never

/-- A kind of characters that may not be missing takes one character, and then the longest run. -/
theorem run_plus (single : part.run options = matchOne test) (cursor : Cursor) :
    (Node.iterate 1 none .greedy part).run options cursor next =
      matchOne test cursor fun later =>
        longest test later.groups next later.before later.rest := by
  rw [Node.run, single]
  show rounds (matchOne test) 1 none true next (1 + cursor.rest.length + 2) 0 none cursor = _
  rw [show 1 + cursor.rest.length + 2 = (cursor.rest.length + 2) + 1 by omega, rounds,
    if_pos Nat.zero_lt_one]
  unfold matchOne
  cases text : cursor.rest with
  | nil => rfl
  | cons c rest =>
    simp only [Cursor.advance]
    split
    · exact rounds_matchOne (by rw [List.length_cons]; omega) (Nat.le_refl 1)
        fun _ never => by cases never
    · rfl

/-! ### What is taken -/

variable {before : Option Char} {groups : List (Nat × List Char)} {taken rest : List Char}
  {found : Cursor}

/-- The character before what follows a text. -/
def lastOr (before : Option Char) : List Char → Option Char
  | [] => before
  | c :: cs => lastOr (some c) cs

/-- What is accepted after a run is accepted as the longest run through it. -/
theorem longest_append (kind : ∀ c ∈ taken, test c)
    (accepted : longest test groups next (lastOr before taken) rest = some found) :
    longest test groups next before (taken ++ rest) = some found := by
  induction taken generalizing before with
  | nil => exact accepted
  | cons c taken ih =>
    have later := ih (fun d member => kind d (.tail _ member)) accepted
    rw [List.cons_append, longest, if_pos (kind c List.mem_cons_self), later]
    rfl

/-- Where the run has to end, it is accepted if what follows accepts the rest. -/
theorem longest_of_end (ends : ∀ c, rest.head? = some c → test c = false) :
    longest test groups next before rest = next ⟨before, rest, groups⟩ := by
  cases rest with
  | nil => rfl
  | cons c rest => rw [longest, if_neg (by simp [ends c rfl])]

/-- Nothing is accepted if what follows accepts no rest that a run leaves. -/
theorem longest_eq_none
    (refused : ∀ taken left, taken ++ left = rest → (∀ c ∈ taken, test c) →
      next ⟨lastOr before taken, left, groups⟩ = none) :
    longest test groups next before rest = none := by
  induction rest generalizing before with
  | nil => exact refused [] [] rfl (fun _ never => by cases never)
  | cons c rest ih =>
    have here : next ⟨before, c :: rest, groups⟩ = none :=
      refused [] (c :: rest) rfl fun _ never => by cases never
    by_cases kind : test c
    · have later : longest test groups next (some c) rest = none := by
        refine ih fun taken left split each => ?_
        refine refused (c :: taken) left (by rw [List.cons_append, split]) fun d member => ?_
        obtain rfl | inside := List.mem_cons.1 member
        · exact kind
        · exact each d inside
      rw [longest, if_pos kind, later, here]
      rfl
    · rw [longest, if_neg kind, here]

end Blueprint.Pattern
