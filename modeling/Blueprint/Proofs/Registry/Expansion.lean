import Blueprint.Proofs.Factory.Expansion
import Blueprint.Proofs.Registry.Permission

/-!
# Compiling declarations

A factory that is compiled has what its declarations become, as far as none of them is refused.
Whether names may be declared again is up to the factory, and to its parent: what compiling a parent
changes in the definitions of factories is that some come to allow overrides, and then the parent
allows them in the end.
-/
namespace Blueprint

namespace Factory

/-- A factory has the same names and definition later, unless it has come to allow overrides under
some condition. -/
structure Loosened (factory later : Factory) (condition : Prop) : Prop where
  /-- Its name is the same. -/
  name : later.name = factory.name
  /-- Its further names are the same. -/
  aliases : later.aliases = factory.aliases
  /-- It declares the same, and only overrides may be allowed. -/
  definition : later.definition = factory.definition ∨
    (condition ∧ later.definition = factory.definition.allowOverrides)

namespace Loosened

variable {factory middle later : Factory} {condition other : Prop}

/-- A factory with the same names and definition. -/
theorem of_eq (name : later.name = factory.name) (aliases : later.aliases = factory.aliases)
    (definition : later.definition = factory.definition) : factory.Loosened later condition :=
  ⟨name, aliases, .inl definition⟩

/-- What is so later and later again is so in the end. -/
theorem trans (first : factory.Loosened middle condition)
    (second : middle.Loosened later condition) : factory.Loosened later condition := by
  refine ⟨second.name.trans first.name, second.aliases.trans first.aliases, ?_⟩
  obtain same | ⟨holds, loose⟩ := second.definition
  · rw [same]
    exact first.definition
  · obtain before | ⟨_, before⟩ := first.definition
    · exact .inr ⟨holds, by rw [loose, before]⟩
    · exact .inr ⟨holds, by rw [loose, before]; rfl⟩

/-- The condition may be weakened. -/
theorem mono (loosened : factory.Loosened later condition) (implies : condition → other) :
    factory.Loosened later other :=
  ⟨loosened.name, loosened.aliases, loosened.definition.imp_right fun ⟨holds, loose⟩ =>
    ⟨implies holds, loose⟩⟩

/-- It has the same names. -/
theorem names (loosened : factory.Loosened later condition) : later.names = factory.names := by
  rw [Factory.names, loosened.name, loosened.aliases, Factory.names]

/-- It has the same declarations. -/
theorem declarations (loosened : factory.Loosened later condition) :
    later.definition.declarations = factory.definition.declarations := by
  obtain same | ⟨_, loose⟩ := loosened.definition
  · rw [same]
  · rw [loose]
    rfl

/-- It has the same callbacks. -/
theorem callbacks (loosened : factory.Loosened later condition) :
    later.definition.callbacks = factory.definition.callbacks := by
  obtain same | ⟨_, loose⟩ := loosened.definition
  · rw [same]
  · rw [loose]
    rfl

end Loosened

end Factory

namespace Registry

variable {registry middle after : Registry} {id other parentId : FactoryId}
  {factory later parent : Factory} {condition : Prop} {fault : Fault}

/-! ### What compiling does to definitions -/

/-- The factories of a registry have the same names and definitions later, unless they have come to
allow overrides under some condition. -/
structure Loosens (registry after : Registry) (condition : Prop) : Prop where
  /-- Each factory is still there. -/
  kept : ∀ {id factory}, registry.factory? id = some factory →
    ∃ later, after.factory? id = some later ∧ factory.Loosened later condition

namespace Loosens

/-- A registry that is left. -/
theorem refl (registry : Registry) : registry.Loosens registry condition :=
  ⟨fun {_ factory} found => ⟨factory, found, .of_eq rfl rfl rfl⟩⟩

/-- Two changes in turn. -/
theorem trans (first : registry.Loosens middle condition)
    (second : middle.Loosens after condition) : registry.Loosens after condition := by
  refine ⟨fun {id factory} found => ?_⟩
  obtain ⟨between, there, early⟩ := first.kept found
  obtain ⟨later, here, late⟩ := second.kept there
  exact ⟨later, here, early.trans late⟩

/-- The condition may be weakened. -/
theorem mono {other : Prop} (loosens : registry.Loosens after condition)
    (implies : condition → other) : registry.Loosens after other := by
  refine ⟨fun {id factory} found => ?_⟩
  obtain ⟨later, here, loosened⟩ := loosens.kept found
  exact ⟨later, here, loosened.mono implies⟩

/-- Putting in a factory with the same names and definition. -/
theorem put (found : registry.factory? id = some factory)
    (loosened : factory.Loosened later condition) :
    registry.Loosens (registry.put id later) condition := by
  refine ⟨fun {other there} known => ?_⟩
  by_cases same : other = id
  · subst same
    rw [found] at known
    cases known
    exact ⟨later, factory?_put_self found, loosened⟩
  · exact ⟨there, (factory?_put_ne (Ne.symm same)).trans known, .of_eq rfl rfl rfl⟩

/-- Letting factories allow overrides. -/
theorem of_relaxes (relaxes : Relaxes registry after) (holds : condition) :
    registry.Loosens after condition := by
  refine ⟨fun {id factory} found => ?_⟩
  obtain ⟨chosen, each⟩ := relaxes.factories
  rw [each, found]
  cases chosen id with
  | false => exact ⟨factory, by simp, .of_eq rfl rfl rfl⟩
  | true => exact ⟨factory.allowOverrides, by simp, rfl, rfl, .inr ⟨holds, rfl⟩⟩

/-- A change of one factory that leaves its names and its definition. -/
theorem modify {change : Factory → Factory}
    (kept : ∀ factory : Factory, factory.Loosened (change factory) condition) (registry : Registry)
    (id : FactoryId) : registry.Loosens (registry.modify id change) condition := by
  cases found : registry.factory? id with
  | some factory =>
    rw [modify_eq_put found]
    exact .put found (kept factory)
  | none =>
    have same : registry.factories.modify id change = registry.factories := by
      rw [List.modify_eq_set_getElem?, show registry.factories[id]? = none from found]
      rfl
    rw [Registry.modify, same]
    exact .refl registry

/-- What allows overrides does so later. -/
theorem allows (loosens : registry.Loosens after condition) (allows : registry.Allows id) :
    after.Allows id := by
  obtain ⟨factory, found⟩ := Option.isSome_iff_exists.1 allows.1
  obtain ⟨later, there, loosened⟩ := loosens.kept found
  rw [allows_iff found] at allows
  rw [allows_iff there, Factory.overridesAllowed]
  obtain same | ⟨_, loose⟩ := loosened.definition
  · rw [same]
    exact allows
  · rw [loose]
    rfl

/-- The start of a compilation leaves names and definitions. -/
theorem start (found : registry.factory? id = some factory) :
    registry.Loosens (registry.put id { factory with status := .compiling }) condition :=
  .put found (.of_eq rfl rfl rfl)

/-- So does the end of one. -/
theorem finish (id : FactoryId) (outcome : Except Fault Unit) (registry : Registry) :
    registry.Loosens (Registry.finish id (outcome, registry)).2 condition := by
  have reset : registry.Loosens (registry.withStatus id .unsealed) condition := by
    refine modify ?_ registry id
    exact fun factory => .of_eq rfl rfl rfl
  cases outcome with
  | error fault => exact reset
  | ok done =>
    cases found : registry.factory? id with
    | none =>
      simp only [Registry.finish, found, Option.map_none]
      exact .refl registry
    | some factory =>
      cases expanded : factory.expand with
      | ok list =>
        rw [finish_of_expand found expanded]
        exact .put found (.of_eq rfl rfl rfl)
      | error fault =>
        rw [finish_of_refused found expanded]
        exact .put found (.of_eq rfl rfl rfl)

end Loosens

/-- Inheriting loosens definitions only if the parent allows overrides, and then the child allows
them. -/
theorem loosens_adopt (found : registry.factory? id = some factory)
    (known : registry.factory? parentId = some parent) :
    registry.Loosens (registry.adopt id parentId) (parent.overridesAllowed = true) ∧
      (parent.overridesAllowed = true → (registry.adopt id parentId).Allows id) := by
  let linked := registry.put id (inherited factory parent parentId)
  let allowed := if parent.overridesAllowed then linked.allowOverrides id else linked
  have adopted : registry.adopt id parentId = allowed.addChild parentId id := by
    simp only [adopt, found, known, linked, allowed]
  have toLinked : registry.Loosens linked (parent.overridesAllowed = true) :=
    .put found (.of_eq rfl rfl rfl)
  have grows : ∀ {condition : Prop}, allowed.Loosens (allowed.addChild parentId id) condition :=
    .modify (fun factory => by split <;> exact .of_eq rfl rfl rfl) _ _
  rw [adopted]
  by_cases permitted : parent.overridesAllowed = true
  · have told : allowed = linked.allowOverrides id := if_pos permitted
    have toAllowed : linked.Loosens allowed (parent.overridesAllowed = true) := by
      rw [told]
      exact .of_relaxes (relaxes_allowOverrides linked id) permitted
    have there : (linked.factory? id).isSome := by
      rw [isSome_factory?_put, found]
      rfl
    have allows : allowed.Allows id := by
      rw [told]
      exact allows_allowOverrides there
    have still : allowed.Loosens (allowed.addChild parentId id) True := grows
    exact ⟨(toLinked.trans toAllowed).trans grows, fun _ => still.allows allows⟩
  · have same : allowed = linked := if_neg permitted
    refine ⟨toLinked.trans ?_, fun holds => absurd holds permitted⟩
    rw [same] at grows ⊢
    exact grows

/-- If a factory is compiled, others come to allow overrides only if it allows them in the end. -/
theorem loosens_compile (registry : Registry) (id : FactoryId)
    (done : (registry.compile id).1 = .ok ()) :
    registry.Loosens (registry.compile id).2 ((registry.compile id).2.Allows id) := by
  induction registry, id using compile.induct with
  | case1 registry id missing =>
    rw [compile_of_none missing]
    exact .refl registry
  | case2 registry id factory found list compiled =>
    rw [compile_of_sealed found compiled]
    exact .refl registry
  | case3 registry id factory found compiling =>
    rw [compile_of_compiling found compiling] at done
    cases done
  | case4 registry id factory found unsealed orphan =>
    rw [compile_of_orphan found unsealed orphan]
    exact (Loosens.start found).trans (.finish _ _ _)
  | case5 registry id factory found unsealed started ref named fault missing =>
    rw [compile_of_dangling found unsealed named missing] at done
    cases done
  | case6 registry id factory found unsealed started ref named parentId registered fault after
      failed =>
    rw [compile_of_failed found unsealed named registered failed] at done
    cases done
  | case7 registry id factory found unsealed started ref named parentId registered after
      done_ ih =>
    rw [done_] at ih
    have before : started.Loosens after (after.Allows parentId) := ih rfl
    rw [compile_of_done found unsealed named registered done_]
    obtain ⟨child, there, _⟩ := before.kept (factory?_put_self found)
    have ending : ∀ {condition : Prop}, (after.adopt id parentId).Loosens
        (Registry.finish id (.ok (), after.adopt id parentId)).2 condition := .finish _ _ _
    cases known : after.factory? parentId with
    | none =>
      have nothing : ¬ after.Allows parentId := by simp [Allows, known]
      have same : after.adopt id parentId = after := by simp only [adopt, known, there]
      rw [same] at ending ⊢
      exact (((Loosens.start found).trans before).mono fun holds => absurd holds nothing).trans
        ending
    | some parent =>
      obtain ⟨between, grants⟩ := loosens_adopt there known
      rw [allows_iff known] at before
      have still : (after.adopt id parentId).Loosens
          (Registry.finish id (.ok (), after.adopt id parentId)).2 True := ending
      have whole := (((Loosens.start found).trans before).trans between).trans ending
      exact whole.mono fun holds => still.allows (grants holds)

/-! ### What a factory is compiled to -/

/-- The parent of a factory, if it has one, compiles when the factory asks it to, and in the end
names may be declared again in the factory or not. -/
inductive ParentCompiles (registry : Registry) (id : FactoryId) (factory : Factory) : Bool → Prop where
  /-- A factory without a parent decides for itself. -/
  | orphan (none_ : factory.parentName? = none) :
      ParentCompiles registry id factory factory.overridesAllowed
  /-- A factory with a parent lets names be declared again if the parent does, too. -/
  | heir {ref : String} {parentId : FactoryId} {after : Registry} {parent : Factory}
      (named : factory.parentName? = some ref) (registered : registry.findText ref = .ok parentId)
      (done : (registry.put id { factory with status := .compiling }).compile parentId =
        (.ok (), after))
      (known : after.factory? parentId = some parent) :
      ParentCompiles registry id factory (factory.overridesAllowed || parent.overridesAllowed)

/-- A factory whose parent compiles ends its compilation with the declarations that it had, and with
what its parent allows. -/
theorem exists_finish_of_parentCompiles {allowed : Bool}
    (found : registry.factory? id = some factory) (unsealed : factory.status = .unsealed)
    (prepared : registry.ParentCompiles id factory allowed) :
    ∃ middle heir, registry.compile id = finish id (.ok (), middle) ∧
      middle.factory? id = some heir ∧ heir.name = factory.name ∧ heir.names = factory.names ∧
      heir.definition.declarations = factory.definition.declarations ∧
      heir.definition.callbacks = factory.definition.callbacks ∧
      heir.overridesAllowed = allowed := by
  cases prepared with
  | orphan none_ =>
    exact ⟨_, _, compile_of_orphan found unsealed none_, factory?_put_self found,
      rfl, rfl, rfl, rfl, rfl⟩
  | heir named registered done known =>
    rename_i ref parentId after parent
    have before := loosens_compile (registry.put id { factory with status := .compiling }) parentId
      (by rw [done])
    rw [done] at before
    replace before : (registry.put id _).Loosens after (parent.overridesAllowed = true) :=
      before.mono (allows_iff known).1
    obtain ⟨child, there, _⟩ := before.kept (factory?_put_self found)
    obtain ⟨between, grants⟩ := loosens_adopt there known
    obtain ⟨heir, here, loosened⟩ := (before.trans between).kept (factory?_put_self found)
    refine ⟨_, heir, compile_of_done found unsealed named registered done, here, loosened.name,
      loosened.names, loosened.declarations, loosened.callbacks, ?_⟩
    by_cases permitted : parent.overridesAllowed = true
    · rw [permitted, Bool.or_true]
      exact (allows_iff here).1 (grants permitted)
    · have same := loosened.definition.resolve_right fun ⟨holds, _⟩ => permitted holds
      rw [Bool.eq_false_iff.2 permitted, Bool.or_false, Factory.overridesAllowed, same]
      rfl

open AttributeList

/-- A factory whose parent compiles fails to be compiled just as the first of its declarations fails
that is refused, and is compiled to what its declarations become otherwise. A trait goes through its
declarations in the same way, without names of its own and without allowing overrides. -/
theorem compile_expands {allowed : Bool} (found : registry.factory? id = some factory)
    (unsealed : factory.status = .unsealed)
    (prepared : registry.ParentCompiles id factory allowed) :
    ((∀ fault, (registry.compile id).1 = .error fault ↔
        FirstRefused factory.name factory.names allowed factory.definition.declarations fault) ∧
      ((registry.compile id).1 = .ok () → ∃ later list,
        (registry.compile id).2.factory? id = some later ∧ later.status = .sealed list ∧
          list.Expands factory.definition.declarations ∧
          list.callbacks = factory.definition.callbacks)) ∧
      ∀ trait : Trait,
        (∀ fault, trait.attributes = .error fault ↔
          FirstRefused trait.name [] false trait.declarations fault) ∧
        ∀ list, trait.attributes = .ok list →
          list.Expands trait.declarations ∧ list.callbacks = trait.callbacks := by
  refine ⟨?_, fun trait => ⟨fun fault => Trait.attributes_eq_error, fun list made => ?_⟩⟩
  · obtain ⟨middle, heir, ending, there, name, names, declarations, callbacks, permission⟩ :=
      exists_finish_of_parentCompiles found unsealed prepared
    have refused : ∀ fault, heir.expand = .error fault ↔
        FirstRefused factory.name factory.names allowed factory.definition.declarations fault := by
      intro fault
      rw [Factory.expand_eq_error, name, names, permission, declarations]
    rw [ending]
    cases expanded : heir.expand with
    | ok list =>
      obtain ⟨expands, its, _⟩ := Factory.expands_of_expand expanded
      rw [finish_of_expand there expanded]
      refine ⟨fun fault => ?_, fun _ => ⟨_, list, factory?_put_self there, rfl, ?_, ?_⟩⟩
      · rw [← refused, expanded]
        exact ⟨nofun, nofun⟩
      · rw [← declarations]
        exact expands
      · rw [its, callbacks]
    | error fault =>
      rw [finish_of_refused there expanded]
      refine ⟨fun other => ?_, nofun⟩
      rw [← refused, expanded]
      simp
  · obtain ⟨expands, callbacks, _⟩ := Trait.expands_of_attributes made
    exact ⟨expands, callbacks⟩

/-- A base that allows overrides, and a user below it whose name is declared twice. -/
def familyRegistry : Registry where
  settings := ⟨.dict []⟩
  factories := [
    { name := "base", definition := { overridable := true } },
    { name := "user", parentRef := some "base", definition := { declarations := [
      ⟨"name", false, [], .static (.text "Ann")⟩, ⟨"friend", false, [], .implicit⟩,
      ⟨"name", false, [], .static (.text "Bob")⟩] } }]
  names := [("base", 0), ("user", 1)]
  nextStub := 1001

/-- The user is compiled to both names, and the second declaration of the one that is declared twice
counts, since the base allows it. -/
theorem compile_expands_user : ∃ later list,
    (familyRegistry.compile 1).1 = .ok () ∧ (familyRegistry.compile 1).2.factory? 1 = some later ∧
      later.status = .sealed list ∧ list.names = ["name", "friend"] ∧
      list.find? "name" = some ⟨"name", false, [], .static (.text "Bob")⟩ := by
  have parent : (familyRegistry.put 1 { familyRegistry.factories[1] with status := .compiling }).compile
      0 = _ := (compile_of_orphan rfl rfl rfl).trans (finish_of_expand rfl rfl)
  have prepared : familyRegistry.ParentCompiles 1 familyRegistry.factories[1] true :=
    .heir rfl rfl parent rfl
  obtain ⟨_, made⟩ := (compile_expands rfl rfl prepared).1
  have done : (familyRegistry.compile 1).1 = .ok () := eq_ok_of_toOption (by decide +kernel)
  obtain ⟨later, list, found, status, expands, _⟩ := made done
  obtain ⟨attr, its, last⟩ := expands.last [_, _] ⟨"name", false, [], .static (.text "Bob")⟩ [] rfl
    (by decide)
  cases its
  exact ⟨later, list, done, found, status, expands.names, last⟩

/-- A user with a declaration that lacks its block. -/
def blocklessUser : Factory :=
  { name := "user", definition := { declarations := [⟨"name", false, [], .dynamic none⟩] } }

/-- A registry with this user. -/
def blocklessRegistry : Registry where
  settings := ⟨.dict []⟩
  factories := [blocklessUser]
  nextStub := 1001

/-- The user cannot be compiled, though no declaration is an association and no name is declared
twice. -/
theorem compile_blockless : (blocklessRegistry.compile 0).1 = .error (.blockNotCallable "name") ∧
    blocklessRegistry.factory? 0 = some blocklessUser ∧ blocklessUser.status = .unsealed ∧
      blocklessUser.parentName? = none ∧
      blocklessUser.definition.declarations.map Declaration.target? = [none] ∧
      blocklessUser.definition.declarations.map Declaration.name = ["name"] := by
  have found : blocklessRegistry.factory? 0 = some blocklessUser := rfl
  refine ⟨?_, found, rfl, rfl, rfl, rfl⟩
  rw [compile_of_orphan found rfl rfl, finish_of_refused (factory?_put_self found) rfl]

end Registry

end Blueprint
