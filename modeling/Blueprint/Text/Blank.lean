/-!
# White space

The white-space characters of Unicode 14, with the four information separators among them, and the
removal of white space from both ends of a text. `trim` keeps what lies between the first and the
last character that is not white space.
-/
namespace Blueprint.Text

/-- A white-space character. -/
def isBlank (c : Char) : Bool :=
  let n := c.toNat
  (9 ≤ n && n ≤ 13) || (28 ≤ n && n ≤ 32) || n == 133 || n == 160 || n == 5760 ||
    (8192 ≤ n && n ≤ 8202) || n == 8232 || n == 8233 || n == 8239 || n == 8287 || n == 12288

/-- A white-space character of ASCII, the information separators left out. -/
def isPlainBlank (c : Char) : Bool := c == ' ' || (9 ≤ c.toNat && c.toNat ≤ 13)

/-- A text without the characters of a class at its start and at its end. -/
def trimBy (drop : Char → Bool) (cs : List Char) : List Char :=
  ((cs.dropWhile drop).reverse.dropWhile drop).reverse

/-- `str.strip` — a text without white space at its start and at its end. -/
def trim (cs : List Char) : List Char := trimBy isBlank cs

/-- A string without white space at its start and at its end. -/
def trimmed (s : String) : String := String.ofList (trim s.toList)

@[simp] theorem toList_trimmed (s : String) : (trimmed s).toList = trim s.toList := by
  simp [trimmed]

/-- The first remaining character is not dropped. -/
theorem head?_dropWhile_not {drop : Char → Bool} {cs : List Char} {c : Char}
    (h : (cs.dropWhile drop).head? = some c) : drop c = false := by
  induction cs with
  | nil => simp at h
  | cons d rest ih =>
    by_cases hd : drop d
    · exact ih (by simpa [List.dropWhile, hd] using h)
    · simp only [List.dropWhile, hd, List.head?_cons, Option.some.injEq] at h
      subst h
      simpa using hd

/-- A text that starts and ends with no character of a class is not trimmed. -/
theorem trimBy_eq_self_of_ends {drop : Char → Bool} {cs : List Char}
    (first : ∀ c, cs.head? = some c → drop c = false)
    (last : ∀ c, cs.getLast? = some c → drop c = false) : trimBy drop cs = cs := by
  have kept : ∀ {ds : List Char}, (∀ c, ds.head? = some c → drop c = false) →
      ds.dropWhile drop = ds := by
    intro ds begins
    cases ds with
    | nil => rfl
    | cons c rest => rw [List.dropWhile_cons, begins c rfl]; rfl
  have reversed : ∀ c, cs.reverse.head? = some c → drop c = false := by
    intro c begins
    rw [List.head?_reverse] at begins
    exact last c begins
  rw [trimBy, kept first, kept reversed, List.reverse_reverse]

/-- A text that holds no character of a class is not trimmed. -/
theorem trimBy_eq_self {drop : Char → Bool} {cs : List Char} (solid : ∀ c ∈ cs, drop c = false) :
    trimBy drop cs = cs :=
  trimBy_eq_self_of_ends (fun c first => solid c (List.mem_of_head? first))
    fun c last => solid c (List.mem_of_getLast? last)

end Blueprint.Text
