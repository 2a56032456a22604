import Blueprint.Proofs.Registry.Linked

/-!
# Precedence of attributes

The attributes of a factory are resolved by laying lists over each other and putting the parent's
under them. What is found under a name afterwards is the factory's own attribute, or else that of
the first trait referred to, or else what the parent finds.
-/
namespace Blueprint.Registry

variable {registry : Registry} {id : FactoryId} {factory : Factory}

/-! ### Traits -/

/-- The list of a trait that a factory refers to. -/
def TraitList (registry : Registry) (id : FactoryId) (ref : String) (list : AttributeList) : Prop :=
  ∃ trait, registry.traitOf id (.text ref) = .ok trait ∧ trait.attributes = .ok list

/-- Traits sought and expanded in turn give the lists of the traits. -/
theorem forall₂_traitList {refs : List String} {traits : List Trait} {lists : List AttributeList}
    (sought : List.Forall₂ (fun ref trait => registry.traitOf id (.text ref) = .ok trait) refs
      traits)
    (expanded : List.Forall₂ (fun trait list => trait.attributes = .ok list) traits lists) :
    List.Forall₂ (registry.TraitList id) refs lists := by
  induction sought generalizing lists with
  | nil =>
    cases expanded
    exact .nil
  | cons found _ ih =>
    cases expanded with
    | cons made rest => exact .cons ⟨_, found, made⟩ (ih rest)

/-- The lists of the traits of a factory are those of its references, in reverse order. -/
theorem traitLists_eq_ok {layers : List AttributeList}
    (made : registry.traitLists id factory = .ok layers) :
    List.Forall₂ (registry.TraitList id) factory.traitRefs layers.reverse := by
  obtain ⟨traits, sought, expanded⟩ := bind_eq_ok.1 made
  have lists := forall₂_traitList (mapM_eq_ok.1 sought) (mapM_eq_ok.1 expanded)
  rw [← List.forall₂_reverse_iff, List.reverse_reverse]
  exact lists

/-- The lists of traits have distinct names. -/
theorem nodup_of_traitLists {refs : List String} {lists : List AttributeList}
    (each : List.Forall₂ (registry.TraitList id) refs lists) :
    ∀ list ∈ lists, list.names.Nodup := by
  induction each with
  | nil =>
    intro list member
    cases member
  | cons found _ ih =>
    obtain ⟨trait, _, expanded⟩ := found
    intro list member
    cases member with
    | head => exact trait.nodup_attributes expanded
    | tail _ inside => exact ih list inside

/-! ### Layers -/

/-- The attributes of a factory's traits with its own ones over them. -/
def layered (layers : List AttributeList) (own : AttributeList) : AttributeList :=
  (layers ++ [own]).foldl AttributeList.override {}

/-- Layers with distinct names find by precedence. -/
theorem find?_layered {own : AttributeList} {layers : List AttributeList}
    (distinctOwn : own.names.Nodup) (distinct : ∀ layer ∈ layers, layer.names.Nodup)
    (name : String) :
    (layered layers own).find? name =
      (own.find? name).or (layers.reverse.findSome? fun layer => layer.find? name) := by
  have all : ∀ layer ∈ layers ++ [own], layer.names.Nodup := by
    intro layer member
    obtain inside | last := List.mem_append.1 member
    · exact distinct layer inside
    · rw [List.mem_singleton.1 last]
      exact distinctOwn
  have empty : ({} : AttributeList).find? name = none := rfl
  rw [layered, AttributeList.find?_foldl_override _ _ all, empty, Option.or_none,
    List.reverse_concat, List.findSome?_cons]
  cases own.find? name <;> simp

/-- Layers have distinct names. -/
theorem nodup_layered (layers : List AttributeList) (own : AttributeList) :
    (layered layers own).names.Nodup :=
  AttributeList.nodup_foldl_override _ List.nodup_nil

/-! ### Parents -/

/-- What a factory resolves to are its layers over what its parent resolves to. -/
theorem resolve_eq_ok {fuel : Nat} {list : AttributeList}
    (found : registry.factory? id = some factory) :
    registry.resolve (fuel + 1) id = .ok list ↔
      ∃ layers inherited, registry.traitLists id factory = .ok layers ∧
        (match factory.parent with
          | none => inherited = {}
          | some parent => registry.resolve fuel parent = .ok inherited) ∧
        list = (layered layers factory.compiled).inherit inherited := by
  rw [resolve]
  simp only [found]
  constructor
  · intro resolved
    obtain ⟨layers, made, resolved⟩ := bind_eq_ok.1 resolved
    cases linked : factory.parent with
    | none =>
      simp only [linked] at resolved
      cases resolved
      exact ⟨layers, {}, made, rfl, by simp [AttributeList.inherit, layered]⟩
    | some parent =>
      simp only [linked] at resolved
      obtain ⟨inherited, above, same⟩ := bind_eq_ok.1 resolved
      cases same
      exact ⟨layers, inherited, made, above, rfl⟩
  · rintro ⟨layers, inherited, made, above, rfl⟩
    refine bind_eq_ok.2 ⟨layers, made, ?_⟩
    cases linked : factory.parent with
    | none =>
      simp only [linked] at above ⊢
      simp [above, AttributeList.inherit, layered]
    | some parent =>
      simp only [linked] at above ⊢
      exact bind_eq_ok.2 ⟨inherited, above, rfl⟩

/-- Resolving further up gives the same, if resolving succeeds. -/
theorem resolve_succ {fuel : Nat} {list : AttributeList}
    (resolved : registry.resolve fuel id = .ok list) :
    registry.resolve (fuel + 1) id = .ok list := by
  induction fuel generalizing id list with
  | zero => cases resolved
  | succ fuel ih =>
    cases found : registry.factory? id with
    | none =>
      rw [resolve] at resolved ⊢
      simpa [found] using resolved
    | some factory =>
      obtain ⟨layers, inherited, made, above, same⟩ := (resolve_eq_ok found).1 resolved
      refine (resolve_eq_ok found).2 ⟨layers, inherited, made, ?_, same⟩
      cases linked : factory.parent with
      | none => simpa [linked] using above
      | some parent =>
        simp only [linked] at above ⊢
        exact ih above

/-- What a factory resolves to has distinct names. -/
theorem nodup_resolve {fuel : Nat} {list : AttributeList}
    (resolved : registry.resolve fuel id = .ok list) : list.names.Nodup := by
  induction fuel generalizing id list with
  | zero => cases resolved
  | succ fuel ih =>
    cases found : registry.factory? id with
    | none =>
      rw [resolve] at resolved
      simp only [found] at resolved
      cases resolved
      exact List.nodup_nil
    | some factory =>
      obtain ⟨layers, inherited, _, above, rfl⟩ := (resolve_eq_ok found).1 resolved
      refine AttributeList.nodup_inherit (nodup_layered _ _) ?_
      cases linked : factory.parent with
      | none =>
        simp only [linked] at above
        rw [above]
        exact List.nodup_nil
      | some parent =>
        simp only [linked] at above
        exact ih above

/-- What a compiled factory resolves to is what it gives, and giving it changes nothing. -/
theorem attributes_of_resolve {own list : AttributeList}
    (found : registry.factory? id = some factory) (compiled : factory.status = .sealed own)
    (resolved : registry.resolve registry.factories.length id = .ok list) :
    Registry.attributes id registry = (.ok list, registry) := by
  rw [attributes, compile_of_sealed found compiled]
  simp only [resolve_succ resolved]

/-- A factory whose attributes are given was compiled first. -/
theorem attributes_eq_ok {list : AttributeList} {after : Registry}
    (given : Registry.attributes id registry = (.ok list, after)) :
    registry.compile id = (.ok (), after) ∧
      after.resolve (after.factories.length + 1) id = .ok list := by
  rw [attributes] at given
  cases outcome : registry.compile id with
  | mk result middle =>
    rw [outcome] at given
    cases result with
    | error fault => cases given
    | ok done =>
      obtain ⟨resolved, rfl⟩ := Prod.mk.inj given
      exact ⟨rfl, resolved⟩

/-! ### Precedence -/

/-- The attributes of a factory have distinct names. What is found under a name is the factory's own
attribute; if it has none, that of the first of its traits, in the order of reference, that has one;
and otherwise what is found among the attributes of its parent. -/
theorem attributes_by_precedence {history : History} (reached : history.Reached)
    {list : AttributeList} {after : Registry}
    (given : Registry.attributes id history.registry = (.ok list, after))
    (found : after.factory? id = some factory) :
    list.names.Nodup ∧ ∃ own traits inherited,
      factory.status = .sealed own ∧
      List.Forall₂ (after.TraitList id) factory.traitRefs traits ∧
      (match factory.parentName? with
        | none => inherited = {}
        | some ref => ∃ parent, after.findText ref = .ok parent ∧
            Registry.attributes parent after = (.ok inherited, after)) ∧
      ∀ name, list.find? name =
        ((own.find? name).or (traits.findSome? fun trait => trait.find? name)).or
          (inherited.find? name) := by
  obtain ⟨compiled, resolved⟩ := attributes_eq_ok given
  have reachedAfter : (history.withRegistry after).Reached := by
    have compiledOnce := reached.tail (.compiled id)
    rwa [compiled] at compiledOnce
  have linked : after.Linked factory := reachedAfter.linked found
  -- the factory is compiled, so that its own attributes are there
  have isCompiled : after.IsCompiled id := by
    have done := (compiles_compile history.registry id reached.bound).2
    rw [compiled] at done
    exact done rfl
  obtain ⟨own, status⟩ := isCompiled factory found
  have itsOwn : factory.compiled = own := by rw [Factory.compiled, status]
  obtain ⟨layers, inherited, made, above, rfl⟩ := (resolve_eq_ok found).1 resolved
  have traits := traitLists_eq_ok made
  refine ⟨nodup_resolve resolved, own, layers.reverse, inherited, status, traits, ?_, ?_⟩
  · cases named : factory.parentName? with
    | none =>
      -- a factory without a parent's name has inherited from none
      cases its : factory.parent with
      | none => simpa [its] using above
      | some parentId =>
        obtain ⟨ref, _, _, other, _⟩ := linked.parent its
        rw [named] at other
        cases other
    | some ref =>
      obtain ⟨parentId, its⟩ := Option.isSome_iff_exists.1 (linked.inherited status named)
      obtain ⟨other, parent, listAbove, same, registered, known, done⟩ := linked.parent its
      rw [named] at same
      cases same
      simp only [its] at above
      exact ⟨parentId, registered, attributes_of_resolve known done above⟩
  · intro name
    have distinctTraits := nodup_of_traitLists traits
    have distinct : ∀ layer ∈ layers, layer.names.Nodup :=
      fun layer member => distinctTraits layer (List.mem_reverse.2 member)
    rw [AttributeList.find?_inherit, itsOwn, find?_layered (linked.distinct status) distinct]

/-- A guest has its parent's name, the badge of its trait, and a role of its own. -/
theorem attributes_by_precedence_guest :
    ∃ (history : History) (list : AttributeList) (after : Registry) (factory : Factory),
      history.Reached ∧ Registry.attributes 1 history.registry = (.ok list, after) ∧
        after.factory? 1 = some factory ∧ factory.parentName? = some "user" ∧
        list.names = ["name", "badge", "role"] ∧ list.names.Nodup := by
  let empty : Registry := { settings := ⟨.dict []⟩, nextStub := 1001 }
  have created : Registry.create ⟨.dict []⟩ = .ok empty := rfl
  let user := History.define ⟨empty, [], []⟩ (.text "user") []
  let named := user.edit 0 (.declare ⟨"name", false, [], .static (.text "Ann")⟩)
  let options : Dict := [(.text "parent", .text "user"), (.text "traits", .list [.text "vip"])]
  let guest := named.define (.text "guest") options
  let badge : Declaration := ⟨"badge", false, [], .static (.text "gold")⟩
  let vip := guest.edit 1 (.defineTrait ⟨"vip", [badge], []⟩)
  let ranked := vip.edit 1 (.declare ⟨"role", false, [], .static (.text "guest")⟩)
  have reached : ranked.Reached :=
    ((((History.Reached.start created).define _ _).edit _ _).define _ _).edit _ _ |>.edit _ _
  have names : (Registry.attributes 1 ranked.registry).1.toOption.map AttributeList.names =
      some ["name", "badge", "role"] := by decide +kernel
  have parent : ((Registry.attributes 1 ranked.registry).2.factory? 1).bind Factory.parentName? =
      some "user" := by decide +kernel
  cases given : Registry.attributes 1 ranked.registry with
  | mk outcome after =>
    rw [given] at names parent
    obtain ⟨factory, found, its⟩ := Option.bind_eq_some_iff.1 parent
    cases outcome with
    | error fault => cases names
    | ok list =>
      exact ⟨ranked, list, after, factory, reached, given, found, its, Option.some.inj names,
        (attributes_by_precedence reached given found).1⟩

end Blueprint.Registry
