import Blueprint.Registry.Resolve
import Mathlib.Data.List.Basic
import Mathlib.Logic.Relation

/-!
# Moves of registries

Whatever is done with a registry after its factories are made is a sequence of small moves, and a
move changes at most one factory. `Turn` lists the ways in which a factory changes, each with the
circumstances in which it does; a property of factories that every turn keeps is kept by every
operation.
-/
namespace Blueprint

namespace Factory

/-- Two factories have the options in common that never change. -/
structure SameOptions (factory other : Factory) : Prop where
  /-- They have one name. -/
  name : other.name = factory.name
  /-- They refer to one parent. -/
  parentRef : other.parentRef = factory.parentRef
  /-- They have the same further names. -/
  aliases : other.aliases = factory.aliases
  /-- They refer to the same traits. -/
  traitRefs : other.traitRefs = factory.traitRefs

namespace SameOptions

variable {factory other third : Factory}

theorem refl (factory : Factory) : factory.SameOptions factory := ⟨rfl, rfl, rfl, rfl⟩

theorem trans (first : factory.SameOptions other) (second : other.SameOptions third) :
    factory.SameOptions third :=
  ⟨second.name.trans first.name, second.parentRef.trans first.parentRef,
    second.aliases.trans first.aliases, second.traitRefs.trans first.traitRefs⟩

/-- Factories with the same options have a parent of the same name. -/
theorem parentName? (same : factory.SameOptions other) :
    other.parentName? = factory.parentName? := by
  rw [Factory.parentName?, Factory.parentName?, same.parentRef]

end SameOptions

end Factory

namespace Registry

variable {registry after : Registry} {id other : FactoryId} {factory : Factory}

/-- A status that is sealed holds what is compiled. -/
theorem exists_of_isSealed {status : Status} (isSealed : status.isSealed = true) :
    ∃ list, status = .sealed list := by
  cases status with
  | «sealed» list => exact ⟨list, rfl⟩
  | unsealed => cases isSealed
  | compiling => cases isSealed

/-! ### Factories by number -/

/-- A factory that is there is found after it was put in. -/
theorem factory?_put_self {old : Factory} (found : registry.factory? id = some old) :
    (registry.put id factory).factory? id = some factory := by
  obtain ⟨inside, _⟩ := List.getElem?_eq_some_iff.1 found
  exact List.getElem?_set_self inside

/-- Putting in a factory leaves the others. -/
theorem factory?_put_ne (apart : id ≠ other) :
    (registry.put id factory).factory? other = registry.factory? other :=
  List.getElem?_set_ne apart

/-- A factory found after another one was put in is that one, or was there. -/
theorem factory?_put {later : Factory}
    (found : (registry.put id factory).factory? other = some later) :
    (other = id ∧ later = factory) ∨ (other ≠ id ∧ registry.factory? other = some later) := by
  by_cases same : other = id
  · subst same
    have inside : other < registry.factories.length := by
      have bound := (List.getElem?_eq_some_iff.1 found).1
      simpa [put] using bound
    have here : (registry.put other factory).factory? other = some factory :=
      List.getElem?_set_self inside
    exact .inl ⟨rfl, Option.some.inj (found.symm.trans here)⟩
  · rw [factory?_put_ne (Ne.symm same)] at found
    exact .inr ⟨same, found⟩

/-- Putting in a factory neither makes nor removes one. -/
theorem isSome_factory?_put (registry : Registry) (id : FactoryId) (factory : Factory)
    (other : FactoryId) :
    ((registry.put id factory).factory? other).isSome = (registry.factory? other).isSome := by
  unfold put factory?
  rw [List.getElem?_set]
  split
  · rename_i same
    subst same
    split <;> simp_all
  · rfl

/-- Changing a factory that is there is putting in the changed one. -/
theorem modify_eq_put (found : registry.factory? id = some factory)
    (change : Factory → Factory) :
    registry.modify id change = registry.put id (change factory) := by
  unfold modify put
  rw [List.modify_eq_set_getElem?, show registry.factories[id]? = some factory from found]
  rfl

/-- Giving a factory a status is putting it in with the status. -/
theorem withStatus_eq_put (found : registry.factory? id = some factory) (status : Status) :
    registry.withStatus id status = registry.put id { factory with status := status } :=
  modify_eq_put found _

/-! ### Turns and moves -/

/-- How one factory changes in a move of the registry. -/
inductive Turn (registry : Registry) (id : FactoryId) (factory : Factory) : Factory → Prop where
  /-- Something is declared or defined in it, while it is not compiled. -/
  | edited (unsealed : factory.status = .unsealed) (definition : AttributeList)
      (traits : List Trait) (finalizer : Option Handler)
      (overridable : definition.overridable = factory.definition.overridable) :
      Turn registry id factory
        { factory with definition := definition, traits := traits, finalizer := finalizer }
  /-- It allows overrides. -/
  | permitted : Turn registry id factory factory.allowOverrides
  /-- Its compilation starts. -/
  | started (unsealed : factory.status = .unsealed) :
      Turn registry id factory { factory with status := .compiling }
  /-- It inherits from the compiled factory that is registered under the name of its parent. -/
  | inherited {ref : String} {parentId : FactoryId} {parent : Factory} {list : AttributeList}
      (compiling : factory.status = .compiling) (named : factory.parentName? = some ref)
      (found : registry.findText ref = .ok parentId)
      (known : registry.factory? parentId = some parent) (compiled : parent.status = .sealed list) :
      Turn registry id factory (Registry.inherited factory parent parentId)
  /-- It has one more child. -/
  | followed {childId : FactoryId} {child : Factory} (new : childId ∉ factory.children)
      (known : registry.factory? childId = some child) (linked : child.parent = some id) :
      Turn registry id factory { factory with children := factory.children ++ [childId] }
  /-- Its compilation ends well, after it has inherited if it has a parent. -/
  | completed {list : AttributeList} (compiling : factory.status = .compiling)
      (linked : ∀ ref, factory.parentName? = some ref → factory.parent.isSome)
      (expanded : factory.expand = .ok list) :
      Turn registry id factory { factory with status := .sealed list }
  /-- Its compilation fails. -/
  | abandoned (compiling : factory.status = .compiling) :
      Turn registry id factory { factory with status := .unsealed }
  /-- Its model class is looked up. -/
  | classed {model : Value} (unset : factory.model = none)
      (found : registry.modelFor factory.classIdentifier = .ok model) :
      Turn registry id factory { factory with model := some model }

/-- All registered factories are compiled, and their model classes are looked up. -/
def Ready (registry : Registry) : Prop :=
  ∀ name id factory, registry.names.lookup name = some id → registry.factory? id = some factory →
    (∃ list, factory.status = .sealed list) ∧ ∃ model, factory.model = some model

/-- One small change of a registry. Nothing is registered once registration has ended, which it does
only when the registry is ready. -/
inductive Move (registry : Registry) : Registry → Prop where
  /-- One factory changes. -/
  | turned {id : FactoryId} {factory later : Factory}
      (found : registry.factory? id = some factory) (turn : Turn registry id factory later) :
      Move registry (registry.put id later)
  /-- A factory is bound under its names, none of which was bound. -/
  | bound {id : FactoryId} {factory : Factory} (isOpen : registry.isSealed = false)
      (found : registry.factory? id = some factory)
      (free : ∀ name ∈ factory.names, registry.names.has name = false) :
      Move registry
        { registry with names := registry.names.putAll (factory.names.map fun name => (name, id)) }
  /-- A trait is registered under its name, which was not taken. -/
  | trait (trait : Trait) (isOpen : registry.isSealed = false)
      (free : registry.traits.has trait.name = false) :
      Move registry { registry with traits := registry.traits.put trait.name trait }
  /-- A model class is registered, in the place of no other one. -/
  | model (key model : String) (isOpen : registry.isSealed = false)
      (free : ∀ other, registry.models.lookup key ≠ some (.model other)) :
      Move registry { registry with models := registry.models.put key (.model model) }
  /-- Registration ends. -/
  | closed (ready : registry.Ready) : Move registry { registry with isSealed := true }
  /-- An id is drawn for a stubbed instance. -/
  | drawn : Move registry { registry with nextStub := registry.nextStub + 1 }

/-- Moves in turn. -/
abbrev Moves : Registry → Registry → Prop := Relation.ReflTransGen Move

/-- A turn keeps the options. -/
theorem Turn.sameOptions {later : Factory} (turn : Turn registry id factory later) :
    factory.SameOptions later := by
  cases turn <;> exact ⟨rfl, rfl, rfl, rfl⟩

/-- A turn keeps a compiled factory compiled. -/
theorem Turn.status_of_sealed {later : Factory} {list : AttributeList}
    (turn : Turn registry id factory later) (compiled : factory.status = .sealed list) :
    later.status = .sealed list := by
  cases turn with
  | edited unsealed => rw [compiled] at unsealed; cases unsealed
  | started unsealed => rw [compiled] at unsealed; cases unsealed
  | completed compiling => rw [compiled] at compiling; cases compiling
  | abandoned compiling => rw [compiled] at compiling; cases compiling
  | permitted => exact compiled
  | inherited => exact compiled
  | followed => exact compiled
  | classed => exact compiled

/-- A factory that is there stays there in every move, changed by a turn at most. -/
theorem Move.factory? (move : Move registry after) (found : registry.factory? id = some factory) :
    ∃ later, after.factory? id = some later ∧
      (later = factory ∨ Turn registry id factory later) := by
  cases move with
  | @turned moved old later known turn =>
    by_cases same : moved = id
    · subst same
      rw [known] at found
      cases found
      exact ⟨later, factory?_put_self known, .inr turn⟩
    · exact ⟨factory, (factory?_put_ne same).trans found, .inl rfl⟩
  | bound => exact ⟨factory, found, .inl rfl⟩
  | trait => exact ⟨factory, found, .inl rfl⟩
  | model => exact ⟨factory, found, .inl rfl⟩
  | closed => exact ⟨factory, found, .inl rfl⟩
  | drawn => exact ⟨factory, found, .inl rfl⟩

/-- A factory that is there stays there in moves, with its options. -/
theorem Moves.factory? (moves : Moves registry after) (found : registry.factory? id = some factory) :
    ∃ later, after.factory? id = some later ∧ factory.SameOptions later := by
  induction moves with
  | refl => exact ⟨factory, found, .refl factory⟩
  | tail _ move ih =>
    obtain ⟨between, there, same⟩ := ih
    obtain ⟨later, still, rfl | turn⟩ := move.factory? there
    · exact ⟨later, still, same⟩
    · exact ⟨later, still, same.trans turn.sameOptions⟩

/-- A compiled factory stays compiled in every move. -/
theorem Move.factory?_of_sealed {list : AttributeList} (move : Move registry after)
    (found : registry.factory? id = some factory) (compiled : factory.status = .sealed list) :
    ∃ later, after.factory? id = some later ∧ later.status = .sealed list := by
  obtain ⟨later, there, same⟩ := move.factory? found
  obtain rfl | turn := same
  · exact ⟨later, there, compiled⟩
  · exact ⟨later, there, turn.status_of_sealed compiled⟩

/-- A compiled factory stays compiled in moves. -/
theorem Moves.factory?_of_sealed {list : AttributeList} (moves : Moves registry after)
    (found : registry.factory? id = some factory) (compiled : factory.status = .sealed list) :
    ∃ later, after.factory? id = some later ∧ later.status = .sealed list := by
  induction moves with
  | refl => exact ⟨factory, found, compiled⟩
  | tail _ move ih =>
    obtain ⟨between, there, still⟩ := ih
    exact move.factory?_of_sealed there still

/-- No factory is new after a move. -/
theorem Move.factory?_before {later : Factory} (move : Move registry after)
    (found : after.factory? id = some later) :
    ∃ factory, registry.factory? id = some factory ∧
      (later = factory ∨ Turn registry id factory later) := by
  cases move with
  | @turned moved old changed known turn =>
    obtain ⟨rfl, rfl⟩ | ⟨_, known⟩ := factory?_put found
    · exact ⟨old, known, .inr turn⟩
    · exact ⟨later, known, .inl rfl⟩
  | bound => exact ⟨later, found, .inl rfl⟩
  | trait => exact ⟨later, found, .inl rfl⟩
  | model => exact ⟨later, found, .inl rfl⟩
  | closed => exact ⟨later, found, .inl rfl⟩
  | drawn => exact ⟨later, found, .inl rfl⟩

/-- No factory is new after moves. -/
theorem Moves.factory?_before {later : Factory} (moves : Moves registry after)
    (found : after.factory? id = some later) : ∃ factory, registry.factory? id = some factory := by
  induction moves generalizing later with
  | refl => exact ⟨later, found⟩
  | tail _ move ih =>
    obtain ⟨factory, known, _⟩ := move.factory?_before found
    exact ih known

/-- A compiled factory stays compiled in moves, if it is one. -/
theorem Moves.compiled (moves : Moves registry after)
    (compiled : ∀ factory, registry.factory? id = some factory →
      ∃ list, factory.status = .sealed list)
    {later : Factory} (found : after.factory? id = some later) :
    ∃ list, later.status = .sealed list := by
  obtain ⟨factory, known⟩ := moves.factory?_before found
  obtain ⟨list, status⟩ := compiled factory known
  obtain ⟨now, there, still⟩ := moves.factory?_of_sealed known status
  rw [found] at there
  cases there
  exact ⟨list, still⟩

/-- Once its model class is looked up, a factory keeps it. -/
theorem Turn.model {later : Factory} {model : Value} (turn : Turn registry id factory later)
    (held : factory.model = some model) : later.model = some model := by
  cases turn with
  | classed unset =>
    rw [held] at unset
    cases unset
  | edited => exact held
  | permitted => exact held
  | started => exact held
  | inherited => exact held
  | followed => exact held
  | completed => exact held
  | abandoned => exact held

/-- A model class that is looked up is kept in moves. -/
theorem Moves.model (moves : Moves registry after)
    (held : ∀ factory, registry.factory? id = some factory → ∃ model, factory.model = some model)
    {later : Factory} (found : after.factory? id = some later) :
    ∃ model, later.model = some model := by
  induction moves generalizing later with
  | refl => exact held later found
  | tail _ move ih =>
    obtain ⟨factory, known, rfl | turn⟩ := move.factory?_before found
    · exact ih known
    · obtain ⟨model, its⟩ := ih known
      exact ⟨model, turn.model its⟩

/-- A move keeps the configuration. -/
theorem Move.settings_eq (move : Move registry after) : after.settings = registry.settings := by
  cases move <;> rfl

/-- Moves keep the configuration. -/
theorem Moves.settings_eq (moves : Moves registry after) :
    after.settings = registry.settings := by
  induction moves with
  | refl => rfl
  | tail _ move ih => exact move.settings_eq.trans ih

end Registry

end Blueprint
