import Blueprint.Proofs.Registry.Names
import Blueprint.Proofs.Walk
import Mathlib.Data.List.Nodup
import Mathlib.Data.List.Range

/-!
# Walks along parents

A factory refers to its parent by a name, and the registry knows which factory that is. Following
such references is a walk that never branches. On a cycle of parents the names that are told as its
chain are a closed walk, in which only the last name repeats an earlier one.
-/
namespace Blueprint

open Relation

namespace Registry

variable {registry other : Registry} {goesOn : Factory → Prop} {id parent : FactoryId}
  {factory : Factory} {ref : String} {visit : Nat → FactoryId} {m : Nat}

/-- A factory that goes on leads to the one that is registered under the name of its parent. -/
def Leads (registry : Registry) (goesOn : Factory → Prop) (id parent : FactoryId) : Prop :=
  ∃ factory ref, registry.factory? id = some factory ∧ goesOn factory ∧
    factory.parentName? = some ref ∧ registry.findText ref = .ok parent

/-- The name of the factory of a number. -/
def nameAt (registry : Registry) (id : FactoryId) : String :=
  ((registry.factory? id).map Factory.name).getD ""

/-- The name by which the factory of a number refers to its parent. -/
def refAt (registry : Registry) (id : FactoryId) : String :=
  ((registry.factory? id).bind Factory.parentName?).getD ""

theorem nameAt_eq (found : registry.factory? id = some factory) :
    registry.nameAt id = factory.name := by
  simp [nameAt, found]

theorem refAt_eq (found : registry.factory? id = some factory)
    (named : factory.parentName? = some ref) : registry.refAt id = ref := by
  simp [refAt, found, named]

namespace Leads

/-- A factory leads to one other at most. -/
theorem rightUnique (registry : Registry) (goesOn : Factory → Prop) :
    Relator.RightUnique (registry.Leads goesOn) := by
  rintro id first second ⟨factory, ref, found, _, named, registered⟩
    ⟨factory', ref', found', _, named', registered'⟩
  rw [found] at found'
  cases found'
  rw [named] at named'
  cases named'
  rw [registered] at registered'
  cases registered'
  rfl

/-- A factory that leads on has a number that is given to a factory. -/
theorem inside (leads : registry.Leads goesOn id parent) : id < registry.factories.length := by
  obtain ⟨factory, _, found, _⟩ := leads
  exact (List.getElem?_eq_some_iff.1 found).1

/-- A factory leads to what is registered under the name by which it refers. -/
theorem findText (leads : registry.Leads goesOn id parent) :
    registry.findText (registry.refAt id) = .ok parent := by
  obtain ⟨factory, ref, found, _, named, registered⟩ := leads
  rwa [refAt_eq found named]

/-- The name by which a factory refers on is not empty, and all that it refers to. -/
theorem parentRef (leads : registry.Leads goesOn id parent) :
    (registry.factory? id).bind Factory.parentRef = some (registry.refAt id) ∧
      registry.refAt id ≠ "" := by
  obtain ⟨factory, ref, found, _, named, _⟩ := leads
  obtain ⟨refers, nonempty⟩ := Factory.parentName?_eq_some.1 named
  rw [refAt_eq found named]
  exact ⟨by simp [found, refers], nonempty⟩

/-- What can be computed of a factory shows where it leads. -/
theorem of_ref {test : Factory → Bool} (tests : ∀ factory, test factory = true → goesOn factory)
    (refers : ((registry.factory? id).filter test).bind Factory.parentName? = some ref)
    (registered : registry.names.lookup (Name.ofText ref) = some parent) :
    registry.Leads goesOn id parent := by
  obtain ⟨factory, there, named⟩ := Option.bind_eq_some_iff.1 refers
  obtain ⟨found, passes⟩ := Option.filter_eq_some_iff.1 there
  exact ⟨factory, ref, found, tests factory passes, named, findText_eq_ok.2 registered⟩

end Leads

/-- A walk along parents ends or comes back. -/
theorem ends_or_returns (registry : Registry) (goesOn : Factory → Prop) (id : FactoryId) :
    (∃ last, EndsAt (registry.Leads goesOn) id last) ∨ Returns (registry.Leads goesOn) id :=
  Walk.ends_or_returns (fun _ _ => Leads.inside) id

/-- A walk that leads somewhere ends at a registered factory if it starts at one. -/
theorem registered_of_walk (registered : registry.findText ref = .ok id)
    (walk : ReflTransGen (registry.Leads goesOn) id parent) :
    ∃ ref, registry.findText ref = .ok parent := by
  obtain rfl | ⟨middle, _, leads⟩ := walk.cases_tail
  · exact ⟨ref, registered⟩
  · exact ⟨_, leads.findText⟩

/-! ### Closed walks of names -/

/-- A chain of names is a closed walk: the factory registered under each name refers to its parent
by the next one, and only the last name repeats an earlier one. -/
structure ClosedWalk (registry : Registry) (chain : List String) : Prop where
  /-- Each name is that by which the factory of the one before refers to its parent. -/
  steps : chain.IsChain fun name next => ∃ id factory, registry.findText name = .ok id ∧
    registry.factory? id = some factory ∧ factory.parentRef = some next
  /-- The names before the last one differ, and it is one of them. -/
  closes : ∃ front last, chain = front ++ [last] ∧ front.Nodup ∧ last ∈ front

/-- The names on a walk: the first factory's own, then those by which each refers to the next. -/
def label (registry : Registry) (visit : Nat → FactoryId) : Nat → String
  | 0 => registry.nameAt (visit 0)
  | k + 1 => registry.refAt (visit k)

/-- So many names on a walk. -/
def labels (registry : Registry) (visit : Nat → FactoryId) (m : Nat) : List String :=
  (List.range m).map (registry.label visit)

theorem labels_succ : registry.labels visit (m + 1) =
    registry.labels visit m ++ [registry.label visit m] := by
  rw [labels, List.range_succ, List.map_append]
  rfl

theorem mem_labels {name : String} :
    name ∈ registry.labels visit m ↔ ∃ k < m, registry.label visit k = name := by
  simp [labels]

/-- The chain is told up to the first name that is met again. -/
theorem chainFrom_labels
    (steps : ∀ k < m, registry.Leads goesOn (visit k) (visit (k + 1)))
    (fresh : ∀ k < m, registry.label visit k ∉ registry.labels visit k)
    (again : registry.label visit m ∈ registry.labels visit m) {k d fuel : Nat}
    (left : k + 1 + d = m) (enough : d < fuel) :
    registry.chainFrom fuel (registry.labels visit (k + 1)) (some (registry.label visit (k + 1))) =
      .ok (registry.labels visit (m + 1)) := by
  induction d generalizing k fuel with
  | zero =>
    obtain ⟨fuel, rfl⟩ := Nat.exists_eq_succ_of_ne_zero (Nat.ne_of_gt enough)
    obtain rfl : k + 1 = m := left
    have nonempty : registry.label visit (k + 1) ≠ "" := (steps k (Nat.lt_succ_self k)).parentRef.2
    rw [chainFrom, if_neg (by simpa using nonempty), if_pos (by simpa using again), ← labels_succ]
  | succ d ih =>
    obtain ⟨fuel, rfl⟩ := Nat.exists_eq_succ_of_ne_zero (Nat.ne_of_gt (Nat.zero_lt_of_lt enough))
    have here := steps k (by omega)
    have next := steps (k + 1) (by omega)
    have new := fresh (k + 1) (by omega)
    rw [chainFrom, if_neg (by simpa [label] using here.parentRef.2), if_neg (by simpa using new),
      ← labels_succ, show registry.findText (registry.label visit (k + 1)) = _ from here.findText]
    show registry.chainFrom fuel _ ((registry.factory? (visit (k + 1))).bind _) = _
    rw [next.parentRef.1]
    exact ih (by omega) (by omega)

/-- The names on a walk up to the first that is met again are a closed walk. -/
theorem closedWalk_labels (own : registry.findText (registry.nameAt (visit 0)) = .ok (visit 0))
    (steps : ∀ k < m, registry.Leads goesOn (visit k) (visit (k + 1)))
    (fresh : ∀ k < m, registry.label visit k ∉ registry.labels visit k)
    (again : registry.label visit m ∈ registry.labels visit m) :
    registry.ClosedWalk (registry.labels visit (m + 1)) := by
  have known : ∀ k ≤ m, registry.findText (registry.label visit k) = .ok (visit k) := by
    intro k within
    cases k with
    | zero => exact own
    | succ k => exact (steps k within).findText
  refine ⟨?_, registry.labels visit m, registry.label visit m, labels_succ, ?_, again⟩
  · rw [labels, List.isChain_map, List.isChain_range_succ]
    intro k less
    obtain ⟨factory, refers, there⟩ := Option.bind_eq_some_iff.1 (steps k less).parentRef.1
    exact ⟨visit k, factory, known k (Nat.le_of_lt less), refers, there⟩
  · have differ : ∀ n ≤ m, (registry.labels visit n).Nodup := by
      intro n within
      induction n with
      | zero => exact List.nodup_nil
      | succ n ih =>
        rw [labels_succ, ← List.concat_eq_append, List.nodup_concat]
        exact ⟨fresh n within, ih (Nat.le_of_succ_le within)⟩
    exact differ m le_rfl

/-- Once a factory is visited again, there is a first name that is met again. -/
theorem exists_first_label (registry : Registry) {i j : Nat} (less : i < j) (same : visit i = visit j) :
    ∃ m ≤ j + 1, (∀ k < m, registry.label visit k ∉ registry.labels visit k) ∧
      registry.label visit m ∈ registry.labels visit m := by
  have repeats : registry.label visit (j + 1) ∈ registry.labels visit (j + 1) :=
    mem_labels.2 ⟨i + 1, Nat.succ_lt_succ less, congrArg registry.refAt same⟩
  have sometimes : ∃ m, registry.label visit m ∈ registry.labels visit m := ⟨j + 1, repeats⟩
  obtain ⟨m, again, fresh⟩ := Nat.findX sometimes
  exact ⟨m, Nat.le_of_not_lt fun later => fresh (j + 1) later repeats, fresh, again⟩

/-- On a cycle of parents the chain that is told is a closed walk. -/
theorem parentChain_of_cycle (found : registry.factory? id = some factory)
    (own : registry.findText factory.name = .ok id)
    (cycle : TransGen (registry.Leads goesOn) id id) :
    ∃ chain, registry.parentChain factory = .ok chain ∧ registry.ClosedWalk chain := by
  have unique := Leads.rightUnique registry goesOn
  have returns : Returns (registry.Leads goesOn) id := ⟨id, .refl, cycle⟩
  obtain ⟨visit, rfl, steps⟩ :=
    Walk.exists_visit fun _ walk => Walk.endless_of_returns unique returns walk
  obtain ⟨i, j, less, bound, same⟩ := exists_visit_twice fun k _ => (steps k).inside
  obtain ⟨m, soon, fresh, again⟩ := exists_first_label registry less same
  have later : 0 < m := by
    obtain ⟨k, before, _⟩ := mem_labels.1 again
    exact Nat.zero_lt_of_lt before
  refine ⟨registry.labels visit (m + 1), ?_, closedWalk_labels ?_ (fun k _ => steps k) fresh again⟩
  · have first : [factory.name] = registry.labels visit 1 := by
      simp [labels, label, nameAt_eq found]
    have refers : factory.parentRef = some (registry.label visit 1) := by
      have there := (steps 0).parentRef.1
      rwa [found] at there
    rw [parentChain, first, refers]
    exact chainFrom_labels (fun k _ => steps k) fresh again (show 0 + 1 + (m - 1) = m by omega)
      (by omega)
  · rwa [nameAt_eq found]

/-! ### What a chain depends on -/

/-- Two registries know the same names, and their factories refer to the same parents. -/
structure SameParents (registry other : Registry) : Prop where
  /-- They know the same names. -/
  names : other.names = registry.names
  /-- Their factories refer to the same parents. -/
  parentRefs : other.factories.map Factory.parentRef = registry.factories.map Factory.parentRef

namespace SameParents

/-- The same factory is registered under a name. -/
theorem findText (same : registry.SameParents other) (ref : String) :
    other.findText ref = registry.findText ref :=
  findText_congr same.names ref

/-- The factory of a number refers to the same parent. -/
theorem parentRef (same : registry.SameParents other) (id : FactoryId) :
    (other.factory? id).bind Factory.parentRef = (registry.factory? id).bind Factory.parentRef := by
  have alike := congrArg (fun refs => (refs[id]?).bind fun ref => ref) same.parentRefs
  simp only [List.getElem?_map, Option.bind_map] at alike
  exact alike

/-- The same chain is told. -/
theorem parentChain (same : registry.SameParents other) (factory : Factory) :
    other.parentChain factory = registry.parentChain factory := by
  have each : ∀ fuel chain ref, other.chainFrom fuel chain ref = registry.chainFrom fuel chain ref := by
    intro fuel
    induction fuel with
    | zero => exact fun _ _ => rfl
    | succ fuel ih =>
      intro chain ref
      cases ref with
      | none => rfl
      | some ref => simp only [chainFrom, same.findText, same.parentRef, ih]
  have length : other.factories.length = registry.factories.length := by
    simpa using congrArg List.length same.parentRefs
  rw [Registry.parentChain, Registry.parentChain, each, length]

end SameParents

end Registry

end Blueprint
