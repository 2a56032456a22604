import Mathlib.Data.List.Forall2

/-!
# Laws of outcomes

An outcome is a value or a fault. A sequence of operations succeeds exactly when each of its parts
does, and these laws take such a sequence apart.
-/
namespace Blueprint

variable {ε α β : Type}

/-- Two operations in turn succeed when the first one does and the second one does with its
value. -/
theorem bind_eq_ok {first : Except ε α} {second : α → Except ε β} {value : β} :
    first >>= second = .ok value ↔ ∃ middle, first = .ok middle ∧ second middle = .ok value := by
  cases first with
  | error fault => simp [bind, Except.bind]
  | ok middle => simp [bind, Except.bind]

/-- Two operations in turn fail when the first one does, or else the second one with its value. -/
theorem bind_eq_error {first : Except ε α} {second : α → Except ε β} {fault : ε} :
    first >>= second = .error fault ↔
      first = .error fault ∨ ∃ middle, first = .ok middle ∧ second middle = .error fault := by
  cases first with
  | error other => simp [bind, Except.bind]
  | ok middle => simp [bind, Except.bind]

/-- What is made of a value fails as the value does. -/
theorem map_eq_error {outcome : Except ε α} {view : α → β} {fault : ε} :
    outcome.map view = .error fault ↔ outcome = .error fault := by
  cases outcome <;> simp [Except.map]

/-- An outcome that has a value is the value. -/
theorem eq_ok_of_toOption {outcome : Except ε α} {value : α} (has : outcome.toOption = some value) :
    outcome = .ok value := by
  cases outcome with
  | error fault => cases has
  | ok other =>
    cases has
    rfl

/-- Doing an operation for all items succeeds when it does for each item. -/
theorem mapM_eq_ok {step : α → Except ε β} {items : List α} {values : List β} :
    items.mapM step = .ok values ↔
      List.Forall₂ (fun item value => step item = .ok value) items values := by
  induction items generalizing values with
  | nil => simp [pure, Except.pure]
  | cons item rest ih =>
    rw [List.mapM_cons, bind_eq_ok]
    constructor
    · rintro ⟨value, made, others⟩
      obtain ⟨later, all, result⟩ := bind_eq_ok.1 others
      cases result
      exact .cons made (ih.1 all)
    · rintro (_ | ⟨made, all⟩)
      exact ⟨_, made, bind_eq_ok.2 ⟨_, ih.2 all, rfl⟩⟩

/-- Doing an operation for all items fails as it does for the first of them for which it fails. -/
theorem mapM_eq_error {step : α → Except ε β} {items : List α} {fault : ε} :
    items.mapM step = .error fault ↔
      ∃ before item after, items = before ++ item :: after ∧
        (∀ other ∈ before, ∃ value, step other = .ok value) ∧ step item = .error fault := by
  induction items with
  | nil =>
    constructor
    · intro never
      cases never
    · rintro ⟨before, item, after, never, _⟩
      simp at never
  | cons first rest ih =>
    rw [List.mapM_cons, bind_eq_error]
    constructor
    · rintro (fails | ⟨value, done, later⟩)
      · exact ⟨[], first, rest, rfl, by simp, fails⟩
      · obtain others | ⟨_, _, never⟩ := bind_eq_error.1 later
        · obtain ⟨before, item, after, rfl, earlier, fails⟩ := ih.1 others
          exact ⟨first :: before, item, after, rfl,
            List.forall_mem_cons.2 ⟨⟨value, done⟩, earlier⟩, fails⟩
        · cases never
    · rintro ⟨before, item, after, whole, earlier, fails⟩
      cases before with
      | nil =>
        cases whole
        exact .inl fails
      | cons other before =>
        cases whole
        obtain ⟨⟨value, done⟩, earlier⟩ := List.forall_mem_cons.1 earlier
        exact .inr ⟨value, done, bind_eq_error.2
          (.inl (ih.2 ⟨before, item, after, rfl, earlier, fails⟩))⟩

/-- Doing an operation for all items fails as it does for one of them. -/
theorem exists_of_mapM_eq_error {step : α → Except ε β} {items : List α} {fault : ε}
    (failed : items.mapM step = .error fault) : ∃ item ∈ items, step item = .error fault := by
  obtain ⟨before, item, after, rfl, _, fails⟩ := mapM_eq_error.1 failed
  exact ⟨item, List.mem_append_right _ List.mem_cons_self, fails⟩

/-- Steps in turn fail as the first of them does that fails. -/
theorem foldlM_eq_error {σ : Type} {step : σ → α → Except ε σ} {items : List α} {start : σ}
    {fault : ε} : items.foldlM step start = .error fault ↔
      ∃ before item after middle, items = before ++ item :: after ∧
        before.foldlM step start = .ok middle ∧ step middle item = .error fault := by
  constructor
  · intro failed
    induction items generalizing start with
    | nil => cases failed
    | cons item rest ih =>
      rw [List.foldlM_cons] at failed
      obtain first | ⟨next, done, later⟩ := bind_eq_error.1 failed
      · exact ⟨[], item, rest, start, rfl, rfl, first⟩
      · obtain ⟨before, other, after, middle, rfl, came, fails⟩ := ih later
        refine ⟨item :: before, other, after, middle, rfl, ?_, fails⟩
        rw [List.foldlM_cons, done]
        exact came
  · rintro ⟨before, item, after, middle, rfl, came, fails⟩
    rw [List.foldlM_append, came]
    show (item :: after).foldlM step middle = _
    rw [List.foldlM_cons, fails]
    rfl

/-- What stands on the one side of two lists that are related is related to something on the
other. -/
theorem exists_of_forall₂ {related : α → β → Prop} {items : List α} {values : List β}
    (each : List.Forall₂ related items values) {item : α} (member : item ∈ items) :
    ∃ value ∈ values, related item value := by
  induction each with
  | nil => cases member
  | cons first _ ih =>
    obtain rfl | inside := List.mem_cons.1 member
    · exact ⟨_, List.mem_cons_self, first⟩
    · obtain ⟨value, there, matched⟩ := ih inside
      exact ⟨value, List.mem_cons_of_mem _ there, matched⟩

end Blueprint
