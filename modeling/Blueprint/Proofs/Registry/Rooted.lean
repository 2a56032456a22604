import Blueprint.Proofs.Registry.Extension
import Blueprint.Proofs.Registry.Fate
import Blueprint.Proofs.Registry.Parents

/-!
# Roots of compiled factories

A factory inherits from one that is compiled already, and what is compiled stays linked as it is. So
above a compiled factory there are compiled factories only, and the way up ends at one without a
parent: neither a cycle is left there nor a parent that is not registered.
-/
namespace Blueprint

open Relation

namespace Registry

variable {registry after : Registry} {history : History} {id above : FactoryId}
  {factory later : Factory} {list : AttributeList} {goesOn : Factory → Prop}

/-- The way up from a factory: it leads to what is registered under the name of its parent. -/
abbrev Rises (registry : Registry) : FactoryId → FactoryId → Prop :=
  registry.Leads fun _ => True

/-- What a factory has inherited from are compiled factories, up to one that has inherited from
none. -/
inductive Rooted (registry : Registry) : Factory → Prop where
  /-- The factory has inherited from none. -/
  | top {factory : Factory} (alone : factory.parent = none) : Rooted registry factory
  /-- It has inherited from a compiled factory that is rooted. -/
  | above {factory parent : Factory} {parentId : FactoryId} {list : AttributeList}
      (linked : factory.parent = some parentId) (known : registry.factory? parentId = some parent)
      (compiled : parent.status = .sealed list) (rooted : Rooted registry parent) :
      Rooted registry factory

/-- A factory with the same parent is rooted too. -/
theorem Rooted.congr (rooted : registry.Rooted factory) (same : later.parent = factory.parent) :
    registry.Rooted later := by
  cases rooted with
  | top alone => exact .top (same.trans alone)
  | above linked known compiled rooted => exact .above (same.trans linked) known compiled rooted

/-- A rooted factory is rooted in every extension. -/
theorem Rooted.extends (rooted : registry.Rooted factory) (longer : registry.Extends after) :
    after.Rooted factory := by
  induction rooted with
  | top alone => exact .top alone
  | above linked known compiled _ ih =>
    obtain ⟨later, there, kept⟩ := longer.compiled known compiled
    exact .above linked there (kept.status.trans compiled) (ih.congr kept.parent)

/-- Factories stay rooted when one of them turns. -/
theorem Rooted.turn (rooted : registry.Rooted factory) (turn : Turn registry id factory later)
    (others : ∀ other its, registry.factory? other = some its → registry.Rooted its) :
    registry.Rooted later := by
  cases turn with
  | inherited _ _ _ known compiled => exact .above rfl known compiled (others _ _ known)
  | _ => exact rooted.congr rfl

/-- In a registry that is reached every factory is rooted. -/
theorem rooted_of_reached (reached : history.Reached)
    (found : history.registry.factory? id = some factory) : history.registry.Rooted factory :=
  reached.each (fun _ registry _ factory => registry.Rooted factory)
    (fun new _ => .top new.parent) (fun rooted => rooted.extends (extends_add _ _))
    (fun move rooted => rooted.extends move.extends)
    (fun turn others rooted => rooted.turn turn others) found

/-! ### The way up -/

/-- A factory that leads on in some way leads on the way up. -/
theorem Leads.rises (leads : registry.Leads goesOn id above) : registry.Rises id above := by
  obtain ⟨factory, ref, found, _, named, registered⟩ := leads
  exact ⟨factory, ref, found, trivial, named, registered⟩

/-- The way up from a factory leads to what it has inherited from. -/
theorem rises_of_parent (reached : history.Reached)
    (found : history.registry.factory? id = some factory) (its : factory.parent = some above) :
    history.registry.Rises id above := by
  obtain ⟨ref, _, _, named, registered, _⟩ := (reached.linked found).parent its
  exact ⟨factory, ref, found, trivial, named, registered⟩

/-- A compiled factory leads to a compiled one only, from which it has inherited. -/
theorem parent_of_leads (reached : history.Reached)
    (found : history.registry.factory? id = some factory) (compiled : factory.status = .sealed list)
    (leads : history.registry.Leads goesOn id above) :
    factory.parent = some above ∧ history.registry.Finished above := by
  obtain ⟨other, ref, known, _, named, registered⟩ := leads
  rw [found] at known
  cases known
  obtain ⟨parentId, parent, own, its, bound, there, done⟩ :=
    (reached.linked found).exists_parent compiled named
  rw [registered] at bound
  cases bound
  exact ⟨its, parent, own, there, done⟩

/-- Above a compiled factory all factories are compiled. -/
theorem Finished.of_walk (reached : history.Reached) (finished : history.registry.Finished id)
    (walk : ReflTransGen (history.registry.Leads goesOn) id above) :
    history.registry.Finished above := by
  induction walk with
  | refl => exact finished
  | tail _ leads ih =>
    obtain ⟨factory, list, found, compiled⟩ := ih
    exact (parent_of_leads reached found compiled leads).2

/-- The way up from a compiled factory ends at one without a parent. -/
theorem Finished.exists_top (reached : history.Reached) (finished : history.registry.Finished id) :
    ∃ top factory, ReflTransGen history.registry.Rises id top ∧
      history.registry.factory? top = some factory ∧ factory.parentName? = none := by
  obtain ⟨factory, list, found, compiled⟩ := finished
  induction rooted_of_reached reached found generalizing id list with
  | @top factory alone =>
    refine ⟨id, factory, .refl, found, ?_⟩
    by_contra names
    obtain ⟨ref, named⟩ := Option.ne_none_iff_exists'.1 names
    obtain ⟨_, _, _, its, _⟩ := (reached.linked found).exists_parent compiled named
    rw [alone] at its
    cases its
  | above its known done _ ih =>
    obtain ⟨top, last, walk, there, orphan⟩ := ih _ known done
    exact ⟨top, last, .head (rises_of_parent reached found its) walk, there, orphan⟩

/-- A walk gets no further than a factory without a parent. -/
theorem endsAt_of_orphan (walk : ReflTransGen (registry.Leads goesOn) id above)
    (found : registry.factory? above = some factory) (orphan : factory.parentName? = none) :
    EndsAt (registry.Leads goesOn) id above := by
  refine ⟨walk, ?_⟩
  rintro other ⟨its, ref, known, _, named, _⟩
  rw [found] at known
  cases known
  rw [orphan] at named
  cases named

/-- Above a compiled factory a walk ends. -/
theorem Finished.endsAt (reached : history.Reached) (finished : history.registry.Finished id)
    (goesOn : Factory → Prop) : ∃ last, EndsAt (history.registry.Leads goesOn) id last := by
  obtain ends | ⟨point, walk, cycle⟩ := ends_or_returns history.registry goesOn id
  · exact ends
  · obtain ⟨top, factory, up, found, orphan⟩ := finished.exists_top reached
    have rises : ∀ one other, history.registry.Leads goesOn one other →
        history.registry.Rises one other := fun _ _ => Leads.rises
    have returns : Returns history.registry.Rises id :=
      ⟨point, ReflTransGen.mono rises id point walk, TransGen.mono rises point point cycle⟩
    exact absurd returns
      (Walk.not_returns (Leads.rightUnique _ _) (endsAt_of_orphan up found orphan))

/-! ### The way up in an extension -/

/-- Where a compiled factory leads, it leads in an extension. -/
theorem Extends.leads (longer : registry.Extends after)
    (keeps : ∀ {factory later : Factory}, factory.Keeps later → goesOn factory → goesOn later)
    (finished : registry.Finished id) (leads : registry.Leads goesOn id above) :
    after.Leads goesOn id above := by
  obtain ⟨factory, list, found, compiled⟩ := finished
  obtain ⟨its, ref, known, onward, named, registered⟩ := leads
  rw [found] at known
  cases known
  obtain ⟨later, there, kept⟩ := longer.compiled found compiled
  exact ⟨later, ref, there, keeps kept onward, kept.options.parentName?.trans named,
    longer.findText registered⟩

/-- A walk above a compiled factory is one in an extension. -/
theorem Extends.walk (reached : history.Reached) (longer : history.registry.Extends after)
    (keeps : ∀ {factory later : Factory}, factory.Keeps later → goesOn factory → goesOn later)
    (finished : history.registry.Finished id)
    (walk : ReflTransGen (history.registry.Leads goesOn) id above) :
    ReflTransGen (after.Leads goesOn) id above := by
  induction walk with
  | refl => exact .refl
  | tail before leads ih =>
    exact ih.tail (longer.leads keeps (finished.of_walk reached before) leads)

end Registry

end Blueprint
