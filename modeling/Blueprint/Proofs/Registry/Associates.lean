import Blueprint.Proofs.Registry.Certified
import Blueprint.Proofs.Registry.Tables
import Mathlib.Data.Finset.Card

/-!
# The graph of associations

A factory is associated with another one if one of the attributes that the registry gives for it
names that one. Where this graph has no cycles, a factory has a rank: the number of registered
factories to which associations lead from it. Along an association the rank decreases. In a sealed
registry the graph stays as it is, whatever is done.
-/
namespace Blueprint

open Relation

namespace Registry

variable {registry : Registry} {history later : History} {id target : FactoryId} {name : String}

/-- Among the attributes of a factory is an association with what is registered as another one. -/
def Associates (registry : Registry) (id target : FactoryId) : Prop :=
  ∃ list attr name, (Registry.attributes id registry).1 = .ok list ∧ attr ∈ list.associations ∧
    attr.factory? = some name ∧ registry.findText name = .ok target

/-- Associations never lead from a factory back to it. -/
def IsAcyclic (registry : Registry) : Prop :=
  ∀ id, ¬ TransGen registry.Associates id id

/-! ### Registered factories -/

/-- What is found under a name is registered. -/
theorem mem_registered_of_findText (found : registry.findText name = .ok id) :
    id ∈ registry.registered := by
  obtain ⟨before, after, split, _⟩ := List.lookup_eq_some_iff.1 (findText_eq_ok.1 found)
  rw [registered, List.mem_eraseDups, split]
  simp [Table.values]

/-- What is registered is found under a name. -/
theorem exists_findText_of_mem (reached : history.Reached)
    (member : id ∈ history.registry.registered) :
    ∃ name, history.registry.findText name = .ok id := by
  obtain ⟨name, bound⟩ := exists_lookup_of_mem reached member
  obtain ⟨factory, found, named⟩ := reached.bound name id bound
  exact ⟨name, findText_eq_ok.2 (by rwa [(reached.canonical found).names name named])⟩

/-- There are no more registered factories than factories. -/
theorem length_registered_le (reached : history.Reached) :
    history.registry.registered.length ≤ history.registry.factories.length := by
  have inside : history.registry.registered ⊆ List.range history.registry.factories.length := by
    intro id member
    obtain ⟨name, bound⟩ := exists_lookup_of_mem reached member
    obtain ⟨factory, found, _⟩ := reached.bound name id bound
    exact List.mem_range.2 (List.getElem?_eq_some_iff.1 found).1
  have fewer := (List.subperm_of_subset (nodup_eraseDups _) inside).length_le
  rwa [List.length_range] at fewer

/-! ### Ranks -/

open Classical in
/-- The registered factories to which associations lead from a factory. -/
noncomputable def below (registry : Registry) (id : FactoryId) : Finset FactoryId :=
  registry.registered.toFinset.filter (TransGen registry.Associates id)

/-- The number of registered factories to which associations lead from a factory. -/
noncomputable def rank (registry : Registry) (id : FactoryId) : Nat := (registry.below id).card

/-- To a factory is led that is registered and to which associations lead. -/
theorem mem_below : target ∈ registry.below id ↔
    target ∈ registry.registered ∧ TransGen registry.Associates id target := by
  simp [below]

/-- Along an association the rank decreases. -/
theorem IsAcyclic.rank_lt (acyclic : registry.IsAcyclic) (leads : registry.Associates id target)
    (registered : target ∈ registry.registered) : registry.rank target < registry.rank id := by
  refine Finset.card_lt_card
    (Finset.ssubset_iff_subset_ne.2 ⟨fun other member => ?_, fun same => ?_⟩)
  · obtain ⟨inside, walk⟩ := mem_below.1 member
    exact mem_below.2 ⟨inside, .head leads walk⟩
  · have onward : target ∈ registry.below id := mem_below.2 ⟨registered, .single leads⟩
    rw [← same] at onward
    exact acyclic target (mem_below.1 onward).2

/-- The rank of a registered factory is less than the number of registered factories. -/
theorem IsAcyclic.rank_lt_length (acyclic : registry.IsAcyclic)
    (registered : id ∈ registry.registered) : registry.rank id < registry.registered.length := by
  have fewer : registry.below id ⊂ registry.registered.toFinset := by
    refine Finset.ssubset_iff_subset_ne.2 ⟨fun other member => ?_, fun same => ?_⟩
    · exact List.mem_toFinset.2 (mem_below.1 member).1
    · have own := List.mem_toFinset.2 registered
      rw [← same] at own
      exact acyclic id (mem_below.1 own).2
  exact Nat.lt_of_lt_of_le (Finset.card_lt_card fewer) (List.toFinset_card_le _)

/-! ### Seeing that there are no cycles -/

/-- The registered factories that the associations of a factory name. -/
def targets (registry : Registry) (id : FactoryId) : List FactoryId :=
  match (Registry.attributes id registry).1 with
  | .ok list => list.associations.filterMap fun attr =>
    attr.factory?.bind fun name => (registry.findText name).toOption
  | .error _ => []

/-- A factory is associated with those that its associations name. -/
theorem mem_targets : target ∈ registry.targets id ↔ registry.Associates id target := by
  unfold targets Associates
  cases (Registry.attributes id registry).1 with
  | error fault => simp
  | ok list =>
    simp only [List.mem_filterMap, Option.bind_eq_some_iff]
    constructor
    · rintro ⟨attr, member, name, names, found⟩
      exact ⟨list, attr, name, rfl, member, names, eq_ok_of_toOption found⟩
    · rintro ⟨_, attr, name, same, member, names, found⟩
      cases same
      exact ⟨attr, member, name, names, by rw [found]; rfl⟩

/-- A factory that there is not has no associations. -/
theorem targets_of_none (missing : registry.factory? id = none) : registry.targets id = [] := by
  have none_ : (Registry.attributes id registry).1 = .ok {} := by
    rw [attributes, compile_of_none missing]
    simp only [resolve, missing]
  rw [targets, none_]
  rfl

/-- Associations make no cycles if they lead only to factories that were made earlier. -/
theorem isAcyclic_of_targets
    (earlier : ∀ id < registry.factories.length, ∀ target ∈ registry.targets id, target < id) :
    registry.IsAcyclic := by
  have less : ∀ {id target}, registry.Associates id target → target < id := by
    intro id target leads
    by_cases there : id < registry.factories.length
    · exact earlier id there target (mem_targets.2 leads)
    · have missing : registry.factory? id = none := List.getElem?_eq_none (Nat.le_of_not_lt there)
      have none_ := mem_targets.2 leads
      rw [targets_of_none missing] at none_
      cases none_
  intro id cycle
  have back : ∀ {target}, TransGen registry.Associates id target → target < id := by
    intro target walk
    induction walk with
    | single leads => exact less leads
    | tail _ leads ih => exact (less leads).trans ih
  exact Nat.lt_irrefl id (back cycle)

/-! ### The graph of a sealed registry -/

/-- What a registered factory is associated with at a later time, it was associated with when the
registry was sealed. -/
theorem associates_of_later (reached : history.Reached)
    (isSealed : history.registry.isSealed = true)
    (operations : History.Operations history later)
    (registered : history.registry.findText name = .ok id) {list : AttributeList}
    (resolved : later.registry.resolve (later.registry.factories.length + 1) id = .ok list)
    {attr : Attribute} (member : attr ∈ list.attributes) {ref : String}
    (names : attr.factory? = some ref) (found : history.registry.findText ref = .ok target) :
    history.registry.Associates id target := by
  have longer := operations.extends reached.bound
  have same := sameRegistered_of_sealed reached isSealed operations
  obtain ⟨factory, own, _, known, compiled, _⟩ :=
    exists_ready reached isSealed (findText_eq_ok.1 registered)
  have finished : history.registry.Finished id := ⟨factory, own, known, compiled⟩
  obtain ⟨after, there, kept⟩ := longer.compiled known compiled
  have finishedLater : later.registry.Finished id :=
    ⟨after, own, there, kept.status.trans compiled⟩
  -- the traits were found when the registry was sealed, so that the factory resolved to the same
  have foundLater :=
    traitsFound_of_resolve (reached.trans operations) finishedLater resolved
  have traits := (traitsFound_extends reached (reached.trans operations) longer same.traits
    registered finished).1 foundLater
  obtain ⟨first, before⟩ :=
    (exists_resolve_iff reached registered finished (Nat.lt_succ_self _)).2 traits
  have still := longer.resolve (fun known => reached.linked known) known compiled
    (resolve_of_le (Nat.succ_le_succ longer.length) before)
  rw [resolved] at still
  cases still
  refine ⟨list, attr, ref, ?_, ?_, names, found⟩
  · rw [attributes_of_finished finished]
    exact before
  · exact List.mem_filter.2 ⟨member, by simp [Attribute.isAssociation, names]⟩

end Registry

end Blueprint
