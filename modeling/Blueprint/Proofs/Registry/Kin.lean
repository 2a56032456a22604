import Blueprint.Proofs.Registry.Rooted
import Blueprint.Proofs.Registry.Stage

/-!
# Relatives in a registry

A factory that has inherited from another one is among its children, once, and nobody else is. What
allows overrides has passed this on to its children, whichever came first, the inheriting or the
allowing. So much holds between operations, in every registry that is reached.
-/
namespace Blueprint

namespace Factory

/-- A factory with one more child has each of its children once. -/
theorem nodup_children_follow {factory : Factory} {child : FactoryId}
    (distinct : factory.children.Nodup) : (factory.follow child).children.Nodup := by
  unfold follow
  split
  · exact distinct
  · rename_i new
    have absent : child ∉ factory.children := fun member => new (List.contains_iff_mem.2 member)
    refine List.nodup_append.2 ⟨distinct, List.nodup_singleton child, ?_⟩
    rintro other member _ last rfl
    rw [List.mem_singleton.1 last] at member
    exact absent member

end Factory

namespace Registry

variable {registry after : Registry} {history : History} {id other above parentId : FactoryId}
  {factory later child parent : Factory}

/-! ### What relatives know of each other -/

/-- The factory from which a factory has inherited. -/
def parentOf (registry : Registry) (id : FactoryId) : Option FactoryId :=
  (registry.factory? id).bind Factory.parent

/-- A factory has inherited from another one. -/
def Inherits (registry : Registry) (id above : FactoryId) : Prop :=
  registry.parentOf id = some above

theorem parentOf_eq (found : registry.factory? id = some factory) :
    registry.parentOf id = factory.parent := by
  simp [parentOf, found]

theorem childrenOf_eq (found : registry.factory? id = some factory) :
    registry.childrenOf id = factory.children := by
  simp [childrenOf, found]

/-- Only a factory that is there has inherited. -/
theorem exists_of_parentOf (its : registry.parentOf id = some above) :
    ∃ factory, registry.factory? id = some factory ∧ factory.parent = some above :=
  Option.bind_eq_some_iff.1 its

/-- Only a factory that is there has children. -/
theorem exists_of_mem_childrenOf (listed : other ∈ registry.childrenOf id) :
    ∃ factory, registry.factory? id = some factory ∧ other ∈ factory.children := by
  cases found : registry.factory? id with
  | none => simp [childrenOf, found] at listed
  | some factory => exact ⟨factory, rfl, by rwa [childrenOf_eq found] at listed⟩

/-- A new factory has inherited from none. -/
theorem parentOf_add (new : factory.IsNew) (id : FactoryId) :
    (registry.add factory).1.parentOf id = registry.parentOf id := by
  cases known : registry.factory? id with
  | some its => rw [parentOf_eq known, parentOf_eq (factory?_add known)]
  | none =>
    cases found : (registry.add factory).1.factory? id with
    | none => simp [parentOf, known, found]
    | some its =>
      obtain ⟨_, rfl⟩ | before := factory?_of_add found
      · simp [parentOf, known, found, new.parent]
      · rw [known] at before
        cases before

/-- A new factory has no children. -/
theorem childrenOf_add (new : factory.IsNew) (id : FactoryId) :
    (registry.add factory).1.childrenOf id = registry.childrenOf id := by
  cases known : registry.factory? id with
  | some its => rw [childrenOf_eq known, childrenOf_eq (factory?_add known)]
  | none =>
    cases found : (registry.add factory).1.factory? id with
    | none => simp [childrenOf, known, found]
    | some its =>
      obtain ⟨_, rfl⟩ | before := factory?_of_add found
      · simp [childrenOf, known, found, new.children]
      · rw [known] at before
        cases before

/-- A factory that is there forbids overrides as before when another one is made. -/
theorem forbids_add (found : registry.factory? id = some later) :
    (registry.add factory).1.forbids id = registry.forbids id := by
  rw [forbids_eq found, forbids_eq (factory?_add found)]

/-- Letting factories allow overrides leaves them their parents. -/
theorem Relaxes.parentOf_eq (relaxes : Relaxes registry after) (id : FactoryId) :
    after.parentOf id = registry.parentOf id := by
  obtain ⟨chosen, each⟩ := relaxes.factories
  unfold parentOf
  rw [each]
  cases registry.factory? id with
  | none => rfl
  | some factory => cases chosen id <;> rfl

/-- Two registries have the same relatives, and overrides are allowed alike in them. -/
structure SameKin (registry after : Registry) : Prop where
  /-- The same factories have inherited from each factory. -/
  parentOf : ∀ id, after.parentOf id = registry.parentOf id
  /-- They are its children. -/
  childrenOf : ∀ id, after.childrenOf id = registry.childrenOf id
  /-- The same factories forbid overrides. -/
  forbids : ∀ id, after.forbids id = registry.forbids id

/-- Where the factories are the same, the relatives are. -/
theorem SameKin.of_factories (same : after.factories = registry.factories) :
    registry.SameKin after := by
  have alike : ∀ id, after.factory? id = registry.factory? id := by
    intro id
    rw [factory?, factory?, same]
  refine ⟨fun id => ?_, fun id => ?_, fun id => ?_⟩
  · rw [Registry.parentOf, Registry.parentOf, alike]
  · rw [Registry.childrenOf, Registry.childrenOf, alike]
  · rw [Registry.forbids, Registry.forbids, alike]

/-- Where one factory changes in nothing that concerns its relatives, they are the same. -/
theorem SameKin.put (found : registry.factory? id = some factory)
    (same : factory.SameKin later) : registry.SameKin (registry.put id later) := by
  have here : (registry.put id later).factory? id = some later := factory?_put_self found
  refine ⟨fun other => ?_, fun other => ?_, fun other => ?_⟩
  all_goals
    by_cases apart : other = id
    · subst apart
      simp [Registry.parentOf, Registry.childrenOf, Registry.forbids, here, found, same.parent,
        same.children, same.overridesAllowed]
    · simp [Registry.parentOf, Registry.childrenOf, Registry.forbids,
        factory?_put_ne (Ne.symm apart)]

/-- What a child inherits lets it allow overrides if the parent does. -/
theorem heir_overridesAllowed : (heir child parent parentId).overridesAllowed =
    (child.overridesAllowed || parent.overridesAllowed) := by
  rw [heir_eq]
  unfold Factory.overridesAllowed
  cases parent.definition.overridable <;> simp [AttributeList.allowOverrides]

/-- A factory without children has become a child of another one. -/
structure Adopts (registry after : Registry) (id parentId : FactoryId) : Prop where
  /-- Its parent is there. -/
  known : (registry.factory? parentId).isSome
  /-- It is not its own parent. -/
  apart : id ≠ parentId
  /-- It has no children. -/
  childless : registry.childrenOf id = []
  /-- It has not inherited from any other factory. -/
  again : ∀ {other}, registry.parentOf id = some other → other = parentId
  /-- It has inherited from its parent. -/
  parentOf : after.parentOf id = some parentId
  /-- The others have inherited from the same factories as before. -/
  parentOf_ne : ∀ {other}, other ≠ id → after.parentOf other = registry.parentOf other
  /-- It is among the children of its parent. -/
  mem_childrenOf : ∀ {above other}, other ∈ after.childrenOf above ↔
    other ∈ registry.childrenOf above ∨ above = parentId ∧ other = id
  /-- No child is there twice that was not before. -/
  distinct : ∀ {above}, (registry.childrenOf above).Nodup → (after.childrenOf above).Nodup
  /-- It forbids overrides if it did so before and its parent does. -/
  forbids : after.forbids id = (registry.forbids id && registry.forbids parentId)
  /-- The others forbid overrides as before. -/
  forbids_ne : ∀ {other}, other ≠ id → after.forbids other = registry.forbids other

/-- A factory without children is adopted once it is the heir of its parent, and the parent has it
among its children. -/
theorem adopts_of_heir (found : registry.factory? id = some child) (childless : child.children = [])
    (known : registry.factory? parentId = some parent) (apart : id ≠ parentId)
    (again : ∀ other, child.parent = some other → other = parentId)
    (its : after.factory? id = some (heir child parent parentId))
    (above : after.factory? parentId = some (parent.follow id))
    (others : ∀ {other}, other ≠ id → other ≠ parentId →
      after.factory? other = registry.factory? other) : Adopts registry after id parentId := by
  obtain ⟨children, grown⟩ := parent.follow_eq id
  refine ⟨by rw [known]; rfl, apart, ?_, ?_, ?_, ?_, ?_, ?_, ?_, ?_⟩
  · rw [childrenOf_eq found, childless]
  · intro other has
    rw [parentOf_eq found] at has
    exact again other has
  · rw [parentOf_eq its, heir_parent]
  · intro other notId
    by_cases up : other = parentId
    · subst up
      rw [parentOf_eq above, parentOf_eq known, grown]
    · rw [parentOf, others notId up, parentOf]
  · intro one other
    by_cases up : one = parentId
    · subst up
      rw [childrenOf_eq above, childrenOf_eq known, Factory.mem_children_follow]
      simp
    · by_cases self : one = id
      · subst self
        rw [childrenOf_eq its, childrenOf_eq found, heir_children]
        simp [up]
      · rw [childrenOf, others self up, ← childrenOf]
        simp [up]
  · intro one distinct
    by_cases up : one = parentId
    · subst up
      rw [childrenOf_eq known] at distinct
      rw [childrenOf_eq above]
      exact Factory.nodup_children_follow distinct
    · by_cases self : one = id
      · subst self
        rw [childrenOf_eq its, heir_children, childless]
        exact List.nodup_nil
      · rwa [childrenOf, others self up, ← childrenOf]
  · rw [forbids_eq its, forbids_eq found, forbids_eq known, heir_overridesAllowed, Bool.not_or]
  · intro other notId
    by_cases up : other = parentId
    · subst up
      rw [forbids_eq above, forbids_eq known, grown]
      rfl
    · rw [forbids, others notId up, forbids]

/-- A stage neither makes nor removes a factory. -/
theorem Stage.isSome_factory? (stage : Stage registry after) (id : FactoryId) :
    (after.factory? id).isSome = (registry.factory? id).isSome := by
  cases stage with
  | turned => rw [isSome_factory?_put]
  | adopted => rw [isSome_factory?_put, isSome_factory?_put]
  | closed => rfl
  | drawn => rfl

/-- A stage leaves the relatives as they are, or a factory is adopted. -/
theorem Stage.sameKin_or_adopts (stage : Stage registry after) :
    registry.SameKin after ∨ ∃ id parentId, Adopts registry after id parentId := by
  cases stage with
  | turned found same => exact .inl (.put found same)
  | closed => exact .inl (.of_factories rfl)
  | drawn => exact .inl (.of_factories rfl)
  | @adopted id parentId child parent found childless known apart again =>
    let linked := registry.put id (heir child parent parentId)
    have parentThere : linked.factory? parentId = some parent :=
      (factory?_put_ne apart).trans known
    have its : (linked.put parentId (parent.follow id)).factory? id =
        some (heir child parent parentId) :=
      (factory?_put_ne apart.symm).trans (factory?_put_self found)
    exact .inr ⟨id, parentId, adopts_of_heir found childless known apart again its
      (factory?_put_self parentThere) fun notId notParent =>
        (factory?_put_ne notParent.symm).trans (factory?_put_ne notId.symm)⟩

/-- What holds between relatives. -/
structure Kin (registry : Registry) : Prop where
  /-- What has inherited from a factory is among its children. -/
  listed : ∀ {id above}, registry.parentOf id = some above → id ∈ registry.childrenOf above
  /-- It is there once. -/
  distinct : ∀ id, (registry.childrenOf id).Nodup
  /-- The children of a factory have inherited from it. -/
  claimed : ∀ {id child}, child ∈ registry.childrenOf id → registry.parentOf child = some id
  /-- A factory with a child that forbids overrides forbids them itself. -/
  passed : ∀ {id child}, child ∈ registry.childrenOf id → registry.forbids child = true →
    registry.forbids id = true

namespace Kin

/-- Nothing is said of a registry without factories. -/
theorem empty (none : registry.factories = []) : registry.Kin := by
  have absent : ∀ id, registry.factory? id = Option.none := by
    intro id
    rw [factory?, none]
    rfl
  refine ⟨?_, ?_, ?_, ?_⟩
  · intro id above its
    simp [parentOf, absent] at its
  · intro id
    simp [childrenOf, absent]
  · intro id child listed
    simp [childrenOf, absent] at listed
  · intro id child listed
    simp [childrenOf, absent] at listed

/-- Relatives know of each other where they stay the same, if what allows overrides has passed this
on to its children. -/
theorem keep (kin : registry.Kin) (parents : ∀ id, after.parentOf id = registry.parentOf id)
    (children : ∀ id, after.childrenOf id = registry.childrenOf id)
    (passed : ∀ {id child}, child ∈ registry.childrenOf id → after.forbids child = true →
      after.forbids id = true) : after.Kin := by
  refine ⟨?_, ?_, ?_, ?_⟩
  · intro id above its
    rw [parents] at its
    rw [children]
    exact kin.listed its
  · intro id
    rw [children]
    exact kin.distinct id
  · intro id child listed
    rw [children] at listed
    rw [parents]
    exact kin.claimed listed
  · intro id child listed
    rw [children] at listed
    exact passed listed

/-- Relatives stay what they are where nothing concerns them. -/
theorem congr (kin : registry.Kin) (same : registry.SameKin after) : after.Kin := by
  refine kin.keep same.parentOf same.childrenOf ?_
  intro id child listed refuses
  rw [same.forbids] at refuses ⊢
  exact kin.passed listed refuses

/-- A new factory has no relatives. -/
theorem add (kin : registry.Kin) (new : factory.IsNew) : (registry.add factory).1.Kin := by
  refine kin.keep (parentOf_add new) (childrenOf_add new) ?_
  intro id child listed refuses
  obtain ⟨its, known, _⟩ := exists_of_parentOf (kin.claimed listed)
  obtain ⟨above, found, _⟩ := exists_of_mem_childrenOf listed
  rw [forbids_add known] at refuses
  rw [forbids_add found]
  exact kin.passed listed refuses

/-- A factory that is adopted and its parent know of each other. -/
theorem adopts (kin : registry.Kin) (adopts : Adopts registry after id parentId) : after.Kin := by
  have claimed : ∀ {above child}, child ∈ after.childrenOf above →
      after.parentOf child = some above := by
    intro above child listed
    by_cases self : child = id
    · subst self
      obtain before | ⟨rfl, _⟩ := adopts.mem_childrenOf.1 listed
      · rw [adopts.again (kin.claimed before)]
        exact adopts.parentOf
      · exact adopts.parentOf
    · rw [adopts.parentOf_ne self]
      obtain before | ⟨_, same⟩ := adopts.mem_childrenOf.1 listed
      · exact kin.claimed before
      · exact absurd same self
  refine ⟨?_, fun above => adopts.distinct (kin.distinct above), claimed, ?_⟩
  · intro other above its
    rw [adopts.mem_childrenOf]
    by_cases self : other = id
    · subst self
      rw [adopts.parentOf] at its
      cases its
      exact .inr ⟨rfl, rfl⟩
    · rw [adopts.parentOf_ne self] at its
      exact .inl (kin.listed its)
  · intro above child listed refuses
    have aboveNe : above ≠ id := by
      rintro rfl
      obtain before | ⟨same, _⟩ := adopts.mem_childrenOf.1 listed
      · rw [adopts.childless] at before
        cases before
      · exact adopts.apart same
    rw [adopts.forbids_ne aboveNe]
    by_cases self : child = id
    · subst self
      have same := claimed listed
      rw [adopts.parentOf] at same
      cases same
      rw [adopts.forbids, Bool.and_eq_true] at refuses
      exact refuses.2
    · rw [adopts.forbids_ne self] at refuses
      obtain before | ⟨_, same⟩ := adopts.mem_childrenOf.1 listed
      · exact kin.passed before refuses
      · exact absurd same self

/-- Relatives know of each other after each stage. -/
theorem stage (kin : registry.Kin) (stage : Stage registry after) : after.Kin := by
  obtain same | ⟨id, parentId, adopts⟩ := stage.sameKin_or_adopts
  · exact kin.congr same
  · exact kin.adopts adopts

/-- Relatives know of each other after several stages. -/
theorem stages (kin : registry.Kin) (stages : Stages registry after) : after.Kin := by
  induction stages with
  | refl => exact kin
  | tail _ stage ih => exact ih.stage stage

/-- What a factory is told to allow reaches its children. -/
theorem allowOverrides (kin : registry.Kin) (id : FactoryId) : (registry.allowOverrides id).Kin := by
  have relaxes := relaxes_allowOverrides registry id
  refine kin.keep relaxes.parentOf_eq relaxes.childrenOf_eq ?_
  intro above child listed refuses
  have same := (relaxes_permit registry id).childrenOf_eq
  refine forbids_spreadOverrides _ _ ?_ ((same above).symm ▸ listed) refuses
  intro one other member still
  rw [same] at member
  obtain ⟨_, before⟩ := forbids_permit.1 still
  by_cases here : one = id
  · subst here
    exact .inr member
  · exact .inl (forbids_permit.2 ⟨here, kin.passed member before⟩)

end Kin

/-- Relatives know of each other in every registry that is reached. -/
theorem kin_of_reached (reached : history.Reached) : history.registry.Kin := by
  obtain ⟨settings, start, created, operations⟩ := reached
  induction operations with
  | refl => exact .empty (History.factories_create created).1
  | tail before operation ih =>
    cases operation.outline ⟨settings, start, created, before⟩ with
    | made given => exact ih.add (Factory.isNew_ofOptions given)
    | entered factories => exact ih.congr (.of_factories factories)
    | permitted id => exact ih.allowOverrides id
    | staged stages => exact ih.stages stages

/-! ### The way up -/

/-- What a factory has inherited from is registered under the name of its parent. -/
theorem Inherits.rises (reached : history.Reached) (inherits : history.registry.Inherits id above) :
    history.registry.Rises id above := by
  obtain ⟨factory, found, its⟩ := exists_of_parentOf inherits
  exact rises_of_parent reached found its

/-- On the way up from a compiled factory each has inherited from the next. -/
theorem Finished.inherits_of_walk (reached : history.Reached)
    (finished : history.registry.Finished id)
    (walk : Relation.ReflTransGen history.registry.Rises id above) :
    Relation.ReflTransGen history.registry.Inherits id above := by
  induction walk with
  | refl => exact .refl
  | tail before rises ih =>
    obtain ⟨factory, list, found, compiled⟩ := finished.of_walk reached before
    obtain ⟨its, _⟩ := parent_of_leads reached found compiled rises
    exact ih.tail ((parentOf_eq found).trans its)

end Registry

end Blueprint
