import Blueprint.Proofs.Registry.Move

/-!
# Allowing overrides as moves

Letting a factory allow overrides moves the registry, and all that the moves do is to let some
factories allow overrides: those that are told to, and those that descend from them.
-/
namespace Blueprint

/-- Allowing overrides twice is allowing them once. -/
theorem Factory.allowOverrides_twice (factory : Factory) :
    factory.allowOverrides.allowOverrides = factory.allowOverrides := rfl

namespace Registry

/-- Some factories of a registry came to allow overrides, and nothing else changed. -/
structure Relaxes (registry after : Registry) : Prop where
  /-- The registry moved. -/
  moves : Moves registry after
  /-- Only factories changed. -/
  rest : after = { registry with factories := after.factories }
  /-- Each factory is as before, but for overrides being allowed in some. -/
  factories : ∃ chosen : FactoryId → Bool, ∀ id, after.factory? id =
    (registry.factory? id).map fun factory =>
      if chosen id then factory.allowOverrides else factory

namespace Relaxes

theorem refl (registry : Registry) : Relaxes registry registry :=
  ⟨.refl, rfl, fun _ => false, fun id => by simp⟩

theorem trans {registry middle after : Registry} (first : Relaxes registry middle)
    (second : Relaxes middle after) : Relaxes registry after := by
  obtain ⟨early, before⟩ := first.factories
  obtain ⟨late, later⟩ := second.factories
  refine ⟨first.moves.trans second.moves, ?_, fun id => early id || late id, fun id => ?_⟩
  · rw [second.rest, first.rest]
  · rw [later, before, Option.map_map]
    refine congrArg (fun change => (registry.factory? id).map change) (funext fun factory => ?_)
    cases sooner : early id <;> cases later : late id <;>
      simp [sooner, later, Factory.allowOverrides_twice]

end Relaxes

/-- Letting one factory allow overrides is a move. -/
theorem relaxes_permit (registry : Registry) (id : FactoryId) :
    Relaxes registry (registry.permit id) := by
  unfold permit
  cases found : registry.factory? id with
  | none => exact .refl registry
  | some factory =>
    refine ⟨.single (.turned found .permitted), rfl, fun other => other == id, fun other => ?_⟩
    by_cases same : other = id
    · subst same
      simp [factory?_put_self found, found]
    · simp [factory?_put_ne (Ne.symm same), same]

/-- Letting the pending factories and their children allow overrides moves the registry. -/
theorem relaxes_spreadOverrides (registry : Registry) (pending : List FactoryId) :
    Relaxes registry (registry.spreadOverrides pending) := by
  induction registry, pending using spreadOverrides.induct with
  | case1 registry pending none =>
    rw [spreadOverrides, none]
    exact .refl registry
  | case2 registry pending id found ih =>
    rw [spreadOverrides, found]
    exact (relaxes_permit registry id).trans ih

/-- Letting a factory and its children allow overrides moves the registry. -/
theorem relaxes_allowOverrides (registry : Registry) (id : FactoryId) :
    Relaxes registry (registry.allowOverrides id) :=
  (relaxes_permit registry id).trans (relaxes_spreadOverrides _ _)

/-! ### Who comes to allow overrides -/

variable {registry after : Registry} {id other child : FactoryId} {pending : List FactoryId}

/-- A factory forbids overrides exactly if it does not allow them. -/
theorem forbids_eq {factory : Factory} (found : registry.factory? id = some factory) :
    registry.forbids id = !factory.overridesAllowed := by
  simp [forbids, found]

/-- Once a factory is let allow overrides, the others forbid them as before. -/
theorem forbids_permit :
    (registry.permit id).forbids other = true ↔ other ≠ id ∧ registry.forbids other = true := by
  unfold permit
  cases found : registry.factory? id with
  | none =>
    have absent : registry.forbids id = false := by simp [forbids, found]
    constructor
    · intro forbids
      refine ⟨?_, forbids⟩
      rintro rfl
      rw [absent] at forbids
      cases forbids
    · exact fun both => both.2
  | some factory =>
    by_cases same : other = id
    · subst same
      have allows : factory.allowOverrides.overridesAllowed = true := rfl
      simp [forbids_eq (factory?_put_self found), allows]
    · have apart : (registry.put id factory.allowOverrides).factory? other =
          registry.factory? other := factory?_put_ne (Ne.symm same)
      simp [forbids, apart, same]

namespace Relaxes

/-- Letting factories allow overrides neither makes nor removes one. -/
theorem isSome_factory? (relaxes : Relaxes registry after) (id : FactoryId) :
    (after.factory? id).isSome = (registry.factory? id).isSome := by
  obtain ⟨chosen, each⟩ := relaxes.factories
  rw [each, Option.isSome_map]

/-- Letting factories allow overrides leaves them their children. -/
theorem childrenOf_eq (relaxes : Relaxes registry after) (id : FactoryId) :
    after.childrenOf id = registry.childrenOf id := by
  obtain ⟨chosen, each⟩ := relaxes.factories
  unfold childrenOf
  rw [each]
  cases registry.factory? id with
  | none => rfl
  | some factory => cases chosen id <;> rfl

/-- A factory that forbids overrides in the end has always done so. -/
theorem forbids (relaxes : Relaxes registry after) (still : after.forbids id = true) :
    registry.forbids id = true := by
  obtain ⟨chosen, each⟩ := relaxes.factories
  unfold Registry.forbids at *
  rw [each] at still
  cases found : registry.factory? id with
  | none => simp [found] at still
  | some factory =>
    rw [found] at still
    cases picked : chosen id with
    | true => simp [picked, Factory.allowOverrides, Factory.overridesAllowed,
        AttributeList.allowOverrides] at still
    | false => simpa [picked] using still

end Relaxes

/-- If the children of the factories that allow overrides allow them or are pending, then in the end
they all allow them. -/
theorem forbids_spreadOverrides (registry : Registry) (pending : List FactoryId)
    (covered : ∀ {id child}, child ∈ registry.childrenOf id → registry.forbids child = true →
      registry.forbids id = true ∨ child ∈ pending)
    (member : child ∈ registry.childrenOf id)
    (forbids : (registry.spreadOverrides pending).forbids child = true) :
    (registry.spreadOverrides pending).forbids id = true := by
  induction registry, pending using spreadOverrides.induct with
  | case1 registry pending none =>
    rw [spreadOverrides, none] at forbids ⊢
    obtain still | waits := covered member forbids
    · exact still
    · exact absurd forbids (List.find?_eq_none.1 none child waits)
  | case2 registry pending next found ih =>
    rw [spreadOverrides, found] at forbids ⊢
    have same := (relaxes_permit registry next).childrenOf_eq
    refine ih ?_ (by rwa [same]) forbids
    intro above below listed refuses
    rw [same] at listed
    obtain ⟨_, before⟩ := forbids_permit.1 refuses
    rw [List.mem_append]
    obtain refused | waits := covered listed before
    · -- the children of the factory that has just been let are pending now
      by_cases here : above = next
      · subst here
        exact .inr (.inl listed)
      · exact .inl (forbids_permit.2 ⟨here, refused⟩)
    · exact .inr (.inr waits)

/-- A factory that comes to allow overrides is pending, or descends from one that is. -/
theorem exists_pending (registry : Registry) (pending : List FactoryId)
    (before : registry.forbids id = true)
    (now : (registry.spreadOverrides pending).forbids id = false) :
    ∃ above ∈ pending,
      Relation.ReflTransGen (fun one child => child ∈ registry.childrenOf one) above id := by
  induction registry, pending using spreadOverrides.induct with
  | case1 registry pending none =>
    rw [spreadOverrides, none] at now
    rw [before] at now
    cases now
  | case2 registry pending next found ih =>
    rw [spreadOverrides, found] at now
    by_cases here : id = next
    · subst here
      exact ⟨id, List.mem_of_find?_eq_some found, .refl⟩
    · obtain ⟨above, waits, walk⟩ := ih (forbids_permit.2 ⟨here, before⟩) now
      simp only [(relaxes_permit registry next).childrenOf_eq] at walk
      obtain child | waited := List.mem_append.1 waits
      · exact ⟨next, List.mem_of_find?_eq_some found, .head child walk⟩
      · exact ⟨above, waited, walk⟩

end Registry

end Blueprint
