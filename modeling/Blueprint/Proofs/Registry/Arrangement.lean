import Blueprint.Proofs.Attribute.Order
import Blueprint.Proofs.Registry.Extension

/-!
# The arrangement of attributes

A dynamic block can read what was set before it, so that the order of the attributes of a factory
matters beside what they are. The names of its traits, the last referred to first, and its own ones
come last, and what only the parent has comes before them; the callbacks of all of them follow each
other. The same holds of the parent, and so on up to a factory without one.
-/
namespace Blueprint.Registry

variable {registry after : Registry} {history : History} {id : FactoryId} {factory : Factory}
  {own list inherited : AttributeList} {traits : List Trait} {lists : List AttributeList}

/-! ### What a factory adds -/

/-- The traits to which a factory refers, in order, with their lists of attributes. -/
structure Refers (registry : Registry) (id : FactoryId) (factory : Factory) (traits : List Trait)
    (lists : List AttributeList) : Prop where
  /-- Each reference means a trait. -/
  means : List.Forall₂ (fun ref trait => registry.traitOf id (.text ref) = .ok trait)
    factory.traitRefs traits
  /-- Each trait has a list of attributes. -/
  expands : List.Forall₂ (fun trait list => Trait.attributes trait = .ok list) traits lists

/-- The names of traits, the last referred to first, and a factory's own ones, each where it comes
first. -/
def ownNames (lists : List AttributeList) (own : AttributeList) : List String :=
  (lists.reverse.flatMap AttributeList.names ++ own.names).eraseDups

/-- How the attributes of a factory are arranged that inherits some. -/
structure Arranges (factory : Factory) (own : AttributeList) (traits : List Trait)
    (lists : List AttributeList) (inherited list : AttributeList) : Prop where
  /-- What is only inherited comes first, in its order. -/
  names : list.names =
    inherited.names.filter (fun name => name ∉ ownNames lists own) ++ ownNames lists own
  /-- The callbacks of the traits come first, those of the last one referred to before the others,
  and the inherited ones last. -/
  callbacks : list.callbacks = traits.reverse.flatMap Trait.callbacks ++
    factory.definition.callbacks ++ inherited.callbacks

/-- The attributes of a compiled factory, as they are arranged from the top of its parents on. -/
inductive Arranged (registry : Registry) : FactoryId → AttributeList → Prop where
  /-- A factory without a parent inherits nothing. -/
  | top {id : FactoryId} {factory : Factory} {own list : AttributeList} {traits : List Trait}
      {lists : List AttributeList} (found : registry.factory? id = some factory)
      (compiled : factory.status = .sealed own) (orphan : factory.parentName? = none)
      (refers : registry.Refers id factory traits lists)
      (arranges : Arranges factory own traits lists {} list) : Arranged registry id list
  /-- A factory with a parent inherits the attributes that the parent gives. -/
  | heir {id parentId : FactoryId} {factory : Factory} {own inherited list : AttributeList}
      {traits : List Trait} {lists : List AttributeList} {ref : String}
      (found : registry.factory? id = some factory) (compiled : factory.status = .sealed own)
      (named : factory.parentName? = some ref) (registered : registry.findText ref = .ok parentId)
      (given : Registry.attributes parentId registry = (.ok inherited, registry))
      (above : Arranged registry parentId inherited)
      (refers : registry.Refers id factory traits lists)
      (arranges : Arranges factory own traits lists inherited list) : Arranged registry id list

/-! ### Layers -/

/-- The layers of a factory are the lists of its traits, in reverse order. -/
theorem refers_of_traitLists {layers : List AttributeList}
    (made : registry.traitLists id factory = .ok layers) :
    ∃ traits, registry.Refers id factory traits layers.reverse := by
  obtain ⟨reversed, sought, expanded⟩ := bind_eq_ok.1 made
  refine ⟨reversed.reverse, ?_, ?_⟩
  · rw [← List.forall₂_reverse_iff, List.reverse_reverse]
    exact mapM_eq_ok.1 sought
  · rw [List.forall₂_reverse_iff]
    exact mapM_eq_ok.1 expanded

/-- The list of a trait has the callbacks of the trait. -/
theorem callbacks_of_attributes {trait : Trait} (made : trait.attributes = .ok list) :
    list.callbacks = trait.callbacks := by
  obtain ⟨inner, _, same⟩ := bind_eq_ok.1 made
  cases same
  rfl

/-- The lists of traits have the callbacks of the traits. -/
theorem flatMap_callbacks
    (each : List.Forall₂ (fun trait list => Trait.attributes trait = .ok list) traits lists) :
    lists.flatMap AttributeList.callbacks = traits.flatMap Trait.callbacks := by
  induction each with
  | nil => rfl
  | cons made _ ih =>
    rw [List.flatMap_cons, List.flatMap_cons, callbacks_of_attributes made, ih]

/-- What a compiled factory is compiled to has the callbacks that were defined in it. -/
theorem callbacks_of_compiled (reached : history.Reached)
    (found : history.registry.factory? id = some factory) (compiled : factory.status = .sealed own) :
    own.callbacks = factory.definition.callbacks := by
  let Holds (factory : Factory) : Prop :=
    ∀ list, factory.status = .sealed list → list.callbacks = factory.definition.callbacks
  have holds : Holds factory := by
    refine reached.each (fun _ _ _ => Holds) ?_ (fun held => held) (fun _ held => held) ?_ found
    · intro made registry factory new _ list done
      rw [new.status] at done
      cases done
    · intro made registry id factory later turn _ held list done
      cases turn with
      | edited unsealed =>
        rw [show factory.status = .sealed list from done] at unsealed
        cases unsealed
      | completed compiling linked expanded =>
        cases done
        obtain ⟨inner, _, same⟩ := bind_eq_ok.1 expanded
        cases same
        rfl
      | started => cases done
      | abandoned => cases done
      | permitted => exact held list done
      | inherited => exact held list done
      | followed => exact held list done
      | classed => exact held list done
  exact holds own compiled

/-- Layers over what is inherited are arranged as the lists of the traits and the factory's own. -/
theorem arranges_of_layers (refers : registry.Refers id factory traits lists)
    (callbacks : own.callbacks = factory.definition.callbacks) (inherited : AttributeList) :
    Arranges factory own traits lists inherited
      ((layered lists.reverse own).inherit inherited) := by
  have names : (layered lists.reverse own).names = ownNames lists own := by
    have empty : ({} : AttributeList).names.Nodup := List.nodup_nil
    rw [layered, AttributeList.names_foldl_override _ empty, List.flatMap_append]
    simp [ownNames, AttributeList.names]
  have reversed := flatMap_callbacks (List.forall₂_reverse_iff.2 refers.expands)
  refine ⟨?_, ?_⟩
  · rw [AttributeList.names_inherit, names]
  · have layers : (layered lists.reverse own).callbacks =
        traits.reverse.flatMap Trait.callbacks ++ factory.definition.callbacks := by
      rw [layered, AttributeList.callbacks_foldl_override, List.flatMap_append, reversed]
      simp [callbacks]
    rw [AttributeList.inherit, layers]

/-! ### Along the parents -/

/-- What a compiled factory resolves to is arranged along its parents. -/
theorem arranged_of_resolve (reached : history.Reached)
    (found : history.registry.factory? id = some factory) (compiled : factory.status = .sealed own)
    {fuel : Nat} (enough : fuel ≤ history.registry.factories.length + 1)
    (resolved : history.registry.resolve fuel id = .ok list) :
    history.registry.Arranged id list := by
  induction fuel generalizing id factory own list with
  | zero => cases resolved
  | succ fuel ih =>
    obtain ⟨layers, inherited, made, above, rfl⟩ := (resolve_eq_ok found).1 resolved
    obtain ⟨traits, refers⟩ := refers_of_traitLists made
    have itsOwn : factory.compiled = own := by rw [Factory.compiled, compiled]
    have linked := reached.linked found
    have arranges := arranges_of_layers refers (callbacks_of_compiled reached found compiled)
      inherited
    rw [List.reverse_reverse, ← itsOwn] at arranges
    cases named : factory.parentName? with
    | none =>
      -- a factory that names no parent has inherited from none
      have alone : factory.parent = none := by
        cases its : factory.parent with
        | none => rfl
        | some parentId =>
          obtain ⟨ref, _, _, other, _⟩ := linked.parent its
          rw [named] at other
          cases other
      simp only [alone] at above
      subst above
      exact .top found (itsOwn ▸ compiled) named refers arranges
    | some ref =>
      obtain ⟨parentId, parent, its, linkedTo, registered, known, done⟩ :=
        linked.exists_parent compiled named
      simp only [linkedTo] at above
      have given := attributes_of_resolve known done (resolve_of_le (Nat.le_of_succ_le_succ enough)
        above)
      exact .heir found (itsOwn ▸ compiled) named registered given
        (ih known done (Nat.le_of_succ_le enough) above) refers arranges

/-- The attributes that a factory gives are arranged along its parents. -/
theorem arranged_of_attributes (reached : history.Reached)
    (given : Registry.attributes id history.registry = (.ok list, after))
    (found : after.factory? id = some factory) : after.Arranged id list := by
  obtain ⟨compiled, resolved⟩ := attributes_eq_ok given
  have reachedAfter : (history.withRegistry after).Reached := by
    have compiledOnce := reached.tail (.compiled id)
    rwa [compiled] at compiledOnce
  obtain ⟨own, status⟩ : ∃ own, factory.status = .sealed own := by
    have done := (compiles_compile history.registry id reached.bound).2
    rw [compiled] at done
    exact done rfl factory found
  exact arranged_of_resolve reachedAfter found status (Nat.le_refl _) resolved

/-- A guest has its parent's name, then the badge of its trait, and last a role, which the parent
has too; its callbacks are those of its trait, its own and its parent's. -/
theorem arranged_of_attributes_guest : ∃ (history : History) (list : AttributeList)
    (after : Registry) (guest : Factory),
      history.Reached ∧ Registry.attributes 1 history.registry = (.ok list, after) ∧
        after.factory? 1 = some guest ∧ list.names = ["name", "badge", "role"] ∧
        list.callbacks.map (fun callback => callback.handler.map Handler.label) =
          [some "vip", some "guest", some "user"] ∧ after.Arranged 1 list := by
  let role : Factory.Edit := .declare ⟨"role", false, [], .static (.text "any")⟩
  let user := History.blank.define (.text "user") []
  let named := (user.edit 0 role).edit 0 (.declare ⟨"name", false, [], .static (.text "Ann")⟩)
  let called := named.edit 0 (.addCallback (.text "after_build") (some { label := "user" }))
  let options : Dict := [(.text "parent", .text "user"), (.text "traits", .list [.text "vip"])]
  let guest := (called.define (.text "guest") options).edit 1 role
  let heard := guest.edit 1 (.addCallback (.text "after_build") (some { label := "guest" }))
  let badge : Declaration := ⟨"badge", false, [], .static (.text "gold")⟩
  let history := heard.edit 1
    (.defineTrait ⟨"vip", [badge], [⟨.afterBuild, some { label := "vip" }⟩]⟩)
  have reached : history.Reached :=
    (((((((History.reached_blank.define _ _).edit _ _).edit _ _).edit _ _).define _ _).edit _ _).edit
      _ _).edit _ _
  have listed : (Registry.attributes 1 history.registry).1.toOption.map (fun list =>
      (list.names, list.callbacks.map fun callback => callback.handler.map Handler.label)) =
        some (["name", "badge", "role"], [some "vip", some "guest", some "user"]) := by
    decide +kernel
  obtain ⟨factory, found⟩ : ∃ factory,
      (Registry.attributes 1 history.registry).2.factory? 1 = some factory :=
    Option.isSome_iff_exists.1 (by decide +kernel)
  obtain ⟨list, given, same⟩ := Option.map_eq_some_iff.1 listed
  obtain ⟨names, callbacks⟩ := Prod.mk.inj same
  have first : Registry.attributes 1 history.registry =
      (.ok list, (Registry.attributes 1 history.registry).2) :=
    Prod.ext (eq_ok_of_toOption given) rfl
  exact ⟨history, list, _, factory, reached, first, found, names, callbacks,
    arranged_of_attributes reached first found⟩

end Blueprint.Registry
