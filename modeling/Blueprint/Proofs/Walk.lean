import Mathlib.Data.Fintype.Card
import Mathlib.Data.Fintype.Pigeonhole
import Mathlib.Logic.Relation

/-!
# Walks that never branch

Where every point leads to one other point at most, a walk is determined by where it starts. It ends
at one point, or comes back to a point that it has met; among finitely many points it does one or
the other.
-/
namespace Blueprint

open Relation

variable {α : Type} {next : α → α → Prop} {start point last : α}

/-- A walk ends at a point: it gets there and no further. -/
def EndsAt (next : α → α → Prop) (start last : α) : Prop :=
  ReflTransGen next start last ∧ ∀ point, ¬ next last point

/-- A walk comes back to a point that it has met. -/
def Returns (next : α → α → Prop) (start : α) : Prop :=
  ∃ point, ReflTransGen next start point ∧ TransGen next point point

namespace Walk

/-- From where a walk ends it gets nowhere else. -/
theorem eq_of_final (final : ∀ point, ¬ next last point) (walk : ReflTransGen next last point) :
    last = point := by
  obtain same | ⟨second, step, _⟩ := walk.cases_head
  · exact same
  · exact absurd step (final second)

variable (unique : Relator.RightUnique next)
include unique

/-- The rest of a walk, from a point on that it passes. -/
theorem tail_of_head {second : α} (step : next start second)
    (walk : ReflTransGen next start last) (apart : start ≠ last) :
    ReflTransGen next second last := by
  obtain same | ⟨other, step', rest⟩ := walk.cases_head
  · exact absurd same apart
  · rwa [unique step step']

/-- From a point on a cycle every walk leads back to it. -/
theorem back_of_cycle (cycle : TransGen next point point)
    (walk : ReflTransGen next point last) : ReflTransGen next last point := by
  induction walk with
  | refl => exact .refl
  | @tail middle last _ step ih =>
    by_cases here : middle = point
    · subst here
      obtain ⟨second, first, rest⟩ := TransGen.head'_iff.1 cycle
      rwa [unique step first]
    · exact tail_of_head unique step ih here

/-- From a point on a cycle a walk gets to points on cycles only. -/
theorem cycle_of_cycle (cycle : TransGen next point point)
    (walk : ReflTransGen next point last) : TransGen next last last :=
  (TransGen.trans_right (back_of_cycle unique cycle walk) cycle).trans_left walk

/-- A walk that ends does not come back. -/
theorem not_returns (ends : EndsAt next start last) : ¬ Returns next start := by
  rintro ⟨point, walk, cycle⟩
  -- the cycle is met before the end, or at the end, from where nothing leads on
  have onCycle : TransGen next last last := by
    obtain onward | back := ReflTransGen.total_of_right_unique unique ends.1 walk
    · exact eq_of_final ends.2 onward ▸ cycle
    · exact cycle_of_cycle unique cycle back
  obtain ⟨second, step, _⟩ := TransGen.head'_iff.1 onCycle
  exact ends.2 second step

/-- A walk ends at one point. -/
theorem endsAt_unique {other : α} (ends : EndsAt next start last) (ends' : EndsAt next start other) :
    last = other := by
  obtain onward | back := ReflTransGen.total_of_right_unique unique ends.1 ends'.1
  · exact eq_of_final ends.2 onward
  · exact (eq_of_final ends'.2 back).symm

/-- A walk that comes back never ends. -/
theorem endless_of_returns (returns : Returns next start) (walk : ReflTransGen next start last) :
    ∃ other, next last other := by
  by_contra final
  exact not_returns unique ⟨walk, fun other step => final ⟨other, step⟩⟩ returns

/-- A walk goes on as it has gone on from the same point before. -/
theorem congr_add {visit : Nat → α} (steps : ∀ k, next (visit k) (visit (k + 1))) {i j : Nat}
    (same : visit i = visit j) (d : Nat) : visit (i + d) = visit (j + d) := by
  induction d with
  | zero => exact same
  | succ d ih =>
    have step := steps (i + d)
    rw [ih] at step
    exact unique step (steps (j + d))

/-- A point to which a walk leads is visited. -/
theorem exists_visit_eq {visit : Nat → α} (steps : ∀ k, next (visit k) (visit (k + 1))) {i : Nat}
    (walk : ReflTransGen next (visit i) last) : ∃ k, i ≤ k ∧ visit k = last := by
  induction walk with
  | refl => exact ⟨i, le_rfl, rfl⟩
  | tail _ step ih =>
    obtain ⟨k, later, rfl⟩ := ih
    exact ⟨k + 1, Nat.le_succ_of_le later, unique (steps k) step⟩

/-- A point on a cycle is visited again. -/
theorem exists_visit_again {visit : Nat → α} (steps : ∀ k, next (visit k) (visit (k + 1))) {i : Nat}
    (cycle : TransGen next (visit i) (visit i)) : ∃ k, i < k ∧ visit k = visit i := by
  obtain ⟨second, step, back⟩ := TransGen.head'_iff.1 cycle
  rw [← unique (steps i) step] at back
  exact exists_visit_eq unique steps back

omit unique

/-- A walk visits one point after the other up to its end. -/
theorem exists_path (walk : ReflTransGen next start last) :
    ∃ (visit : Nat → α) (k : Nat), visit 0 = start ∧ visit k = last ∧
      ∀ i < k, next (visit i) (visit (i + 1)) := by
  induction walk with
  | refl => exact ⟨fun _ => start, 0, rfl, rfl, fun i before => absurd before (Nat.not_lt_zero i)⟩
  | @tail _ last _ step ih =>
    obtain ⟨visit, k, first, rfl, steps⟩ := ih
    refine ⟨fun i => if i ≤ k then visit i else last, k + 1, by simpa using first, by simp, ?_⟩
    intro i before
    obtain less | rfl := Nat.lt_or_eq_of_le (Nat.le_of_lt_succ before)
    · simpa [Nat.le_of_lt less, Nat.succ_le_of_lt less] using steps i less
    · simpa [Nat.not_succ_le_self] using step

/-- A walk that never ends visits one point after the other. -/
theorem exists_visit (endless : ∀ point, ReflTransGen next start point → ∃ other, next point other) :
    ∃ visit : Nat → α, visit 0 = start ∧ ∀ k, next (visit k) (visit (k + 1)) := by
  choose! onward step using endless
  let visit : Nat → α := fun k => onward^[k] start
  have reached : ∀ k, ReflTransGen next start (visit k) := by
    intro k
    induction k with
    | zero => exact .refl
    | succ k ih =>
      simp only [visit, Function.iterate_succ_apply']
      exact ih.tail (step _ ih)
  refine ⟨visit, rfl, fun k => ?_⟩
  simp only [visit, Function.iterate_succ_apply']
  exact step _ (reached k)

/-- The points visited from one to a later one are a walk. -/
theorem walk_visit {visit : Nat → α} {j : Nat} (steps : ∀ k < j, next (visit k) (visit (k + 1)))
    {i : Nat} (le : i ≤ j) : ReflTransGen next (visit i) (visit j) := by
  induction j with
  | zero =>
    obtain rfl := Nat.le_zero.1 le
    exact .refl
  | succ j ih =>
    obtain rfl | before := Nat.eq_or_lt_of_le le
    · exact .refl
    · exact (ih (fun k less => steps k (by omega)) (by omega)).tail (steps j (by omega))

/-- Visiting a point twice closes a cycle. -/
theorem cycle_of_visit {visit : Nat → α} {i j : Nat}
    (steps : ∀ k < j, next (visit k) (visit (k + 1))) (less : i < j) (same : visit i = visit j) :
    TransGen next (visit i) (visit i) := by
  have first := steps i less
  have rest := walk_visit steps (Nat.succ_le_of_lt less)
  rw [← same] at rest
  exact .head' first rest

/-- A point from which a walk goes on to one that it has visited is on a cycle. -/
theorem cycle_of_back {visit : Nat → α} (unique : Relator.RightUnique next)
    (steps : ∀ k, next (visit k) (visit (k + 1))) {i k : Nat} (within : i ≤ k)
    (back : visit (k + 1) = visit i) : TransGen next (visit k) (visit k) := by
  have round := cycle_of_visit (fun j _ => steps j) (Nat.lt_succ_of_le within) back.symm
  exact cycle_of_cycle unique round (walk_visit (fun j _ => steps j) within)

end Walk

/-- Of more numbers than there are below a bound, two are the same if all are below it. -/
theorem exists_visit_twice {visit : Nat → Nat} {bound : Nat} (below : ∀ k ≤ bound, visit k < bound) :
    ∃ i j, i < j ∧ j ≤ bound ∧ visit i = visit j := by
  let place : Fin (bound + 1) → Fin bound :=
    fun k => ⟨visit k, below k (Nat.le_of_lt_succ k.isLt)⟩
  obtain ⟨i, j, apart, same⟩ := Fintype.exists_ne_map_eq_of_card_lt place (by simp)
  have alike : visit i = visit j := congrArg Fin.val same
  obtain less | less := Nat.lt_or_gt_of_ne (fun equal => apart (Fin.ext equal) : i.val ≠ j.val)
  · exact ⟨i, j, less, Nat.le_of_lt_succ j.isLt, alike⟩
  · exact ⟨j, i, less, Nat.le_of_lt_succ i.isLt, alike.symm⟩

/-- Among numbers below a bound a walk ends or comes back. -/
theorem Walk.ends_or_returns {next : Nat → Nat → Prop} {bound : Nat}
    (below : ∀ point other, next point other → point < bound) (start : Nat) :
    (∃ last, EndsAt next start last) ∨ Returns next start := by
  by_cases endless : ∀ point, ReflTransGen next start point → ∃ other, next point other
  · obtain ⟨visit, rfl, steps⟩ := Walk.exists_visit endless
    obtain ⟨i, j, less, _, same⟩ := exists_visit_twice fun k _ => below _ _ (steps k)
    exact .inr ⟨visit i, Walk.walk_visit (fun k _ => steps k) (Nat.zero_le i),
      Walk.cycle_of_visit (fun k _ => steps k) less same⟩
  · push Not at endless
    obtain ⟨last, walk, final⟩ := endless
    exact .inl ⟨last, walk, final⟩

/-- Among numbers below a bound a walk that ends visits each point once, and takes no more steps
than there are numbers. -/
theorem Walk.exists_short_path {next : Nat → Nat → Prop} {bound start last : Nat}
    (unique : Relator.RightUnique next) (below : ∀ point other, next point other → point < bound)
    (ends : EndsAt next start last) :
    ∃ (visit : Nat → Nat) (k : Nat), visit 0 = start ∧ visit k = last ∧
      (∀ i < k, next (visit i) (visit (i + 1))) ∧
      (∀ i j, i < j → j ≤ k → visit i ≠ visit j) ∧ k ≤ bound := by
  obtain ⟨visit, k, rfl, rfl, steps⟩ := Walk.exists_path ends.1
  -- no point is visited twice, since the walk ends
  have apart : ∀ i j, i < j → j ≤ k → visit i ≠ visit j := by
    intro i j less within same
    have before : ∀ l < j, next (visit l) (visit (l + 1)) := fun l earlier => steps l (by omega)
    exact Walk.not_returns unique ends ⟨visit i,
      Walk.walk_visit (fun l earlier => before l (by omega)) (Nat.zero_le i),
      Walk.cycle_of_visit before less same⟩
  refine ⟨visit, k, rfl, rfl, steps, apart, ?_⟩
  by_contra long
  have inside : ∀ l ≤ bound, visit l < bound := fun l within => below _ _ (steps l (by omega))
  obtain ⟨i, j, less, within, same⟩ := exists_visit_twice inside
  exact apart i j less (by omega) same

end Blueprint
