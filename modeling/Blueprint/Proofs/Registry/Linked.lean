import Blueprint.Proofs.Attribute.Collection
import Blueprint.Proofs.Registry.History

/-!
# Links between factories

In a registry that is reached, what a factory is compiled to has distinct names, and a factory has
inherited only from the compiled factory that is registered under the name of its parent; once it is
compiled itself, it has inherited if it names a parent.
-/
namespace Blueprint

/-- The attributes that a factory's declarations become have distinct names. -/
theorem Factory.nodup_expand {factory : Factory} {list : AttributeList}
    (made : factory.expand = .ok list) : list.names.Nodup := by
  obtain ⟨inner, expanded, same⟩ := bind_eq_ok.1 made
  cases same
  have distinct : ({ overridable := factory.overridesAllowed } : AttributeList).names.Nodup :=
    List.nodup_nil
  exact show inner.names.Nodup from AttributeList.nodup_expand distinct expanded

namespace Registry

/-- A factory is linked to its parent as compiling links it. -/
structure Linked (registry : Registry) (factory : Factory) : Prop where
  /-- Compiled attributes have distinct names. -/
  distinct : ∀ {list}, factory.status = .sealed list → list.names.Nodup
  /-- It has inherited from the compiled factory registered under its parent's name. -/
  parent : ∀ {parentId}, factory.parent = some parentId → ∃ ref parent list,
    factory.parentName? = some ref ∧ registry.findText ref = .ok parentId ∧
      registry.factory? parentId = some parent ∧ parent.status = .sealed list
  /-- Once compiled it has inherited, if it names a parent. -/
  inherited : ∀ {list ref}, factory.status = .sealed list → factory.parentName? = some ref →
    factory.parent.isSome

namespace Linked

variable {registry after : Registry} {id : FactoryId} {factory later : Factory}
  {own : AttributeList}

/-- A compiled factory that names a parent has inherited from the compiled factory that is
registered under the name. -/
theorem exists_parent (linked : registry.Linked factory) (compiled : factory.status = .sealed own)
    {ref : String} (named : factory.parentName? = some ref) :
    ∃ parentId parent list, factory.parent = some parentId ∧
      registry.findText ref = .ok parentId ∧ registry.factory? parentId = some parent ∧
      parent.status = .sealed list := by
  obtain ⟨parentId, its⟩ := Option.isSome_iff_exists.1 (linked.inherited compiled named)
  obtain ⟨other, parent, list, same, registered, known, done⟩ := linked.parent its
  rw [named] at same
  cases same
  exact ⟨parentId, parent, list, its, registered, known, done⟩

/-- A new factory is linked. -/
theorem of_isNew (new : factory.IsNew) : registry.Linked factory := by
  refine ⟨?_, ?_, ?_⟩
  · intro list compiled
    rw [new.status] at compiled
    cases compiled
  · intro parentId linked
    rw [new.parent] at linked
    cases linked
  · intro list ref compiled
    rw [new.status] at compiled
    cases compiled

/-- A factory stays linked when another one is made. -/
theorem add (linked : registry.Linked factory) (other : Factory) :
    (registry.add other).1.Linked factory := by
  refine ⟨linked.distinct, ?_, linked.inherited⟩
  intro parentId its
  obtain ⟨ref, parent, list, named, found, known, compiled⟩ := linked.parent its
  exact ⟨ref, parent, list, named, found, factory?_add known, compiled⟩

/-- A factory stays linked in a move of the registry. -/
theorem move (linked : registry.Linked factory) (move : Move registry after) :
    after.Linked factory := by
  refine ⟨linked.distinct, ?_, linked.inherited⟩
  intro parentId its
  obtain ⟨ref, parent, list, named, found, known, compiled⟩ := linked.parent its
  obtain ⟨now, there, still⟩ := move.factory?_of_sealed known compiled
  have registered := findText_eq_ok.2 (move.lookup (findText_eq_ok.1 found))
  exact ⟨ref, now, list, named, registered, there, still⟩

/-- A factory that changes nothing but what is not read here stays linked. -/
theorem congr (linked : registry.Linked factory) (same : factory.SameOptions later)
    (status : ∀ {list}, later.status = .sealed list → factory.status = .sealed list)
    (parent : later.parent = factory.parent) : registry.Linked later := by
  refine ⟨fun compiled => linked.distinct (status compiled), ?_, ?_⟩
  · intro parentId its
    rw [same.parentName?]
    exact linked.parent (parent ▸ its)
  · intro list ref compiled named
    rw [same.parentName?] at named
    rw [parent]
    exact linked.inherited (status compiled) named

/-- A factory stays linked when it turns. -/
theorem turn (linked : registry.Linked factory) (turn : Turn registry id factory later) :
    registry.Linked later := by
  cases turn with
  | edited => exact linked.congr ⟨rfl, rfl, rfl, rfl⟩ (fun same => same) rfl
  | permitted => exact linked.congr ⟨rfl, rfl, rfl, rfl⟩ (fun same => same) rfl
  | followed => exact linked.congr ⟨rfl, rfl, rfl, rfl⟩ (fun same => same) rfl
  | classed => exact linked.congr ⟨rfl, rfl, rfl, rfl⟩ (fun same => same) rfl
  | started => exact linked.congr ⟨rfl, rfl, rfl, rfl⟩ (fun same => by cases same) rfl
  | abandoned => exact linked.congr ⟨rfl, rfl, rfl, rfl⟩ (fun same => by cases same) rfl
  | @inherited ref parentId parent list compiling named found known compiled =>
    refine ⟨linked.distinct, ?_, fun _ _ => rfl⟩
    intro other its
    cases its
    exact ⟨ref, parent, list, named, found, known, compiled⟩
  | completed compiling ready expanded =>
    refine ⟨?_, linked.parent, fun _ named => ready _ named⟩
    intro list compiled
    cases compiled
    exact Factory.nodup_expand expanded

end Linked

end Registry

/-- In a registry that is reached every factory is linked. -/
theorem History.Reached.linked {history : History} (reached : history.Reached) {id : FactoryId}
    {factory : Factory} (found : history.registry.factory? id = some factory) :
    history.registry.Linked factory :=
  reached.each (fun _ registry _ factory => registry.Linked factory)
    (fun new _ => .of_isNew new) (fun linked => linked.add _) (fun move linked => linked.move move)
    (fun turn _ linked => linked.turn turn) found

end Blueprint
