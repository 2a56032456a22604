import Blueprint.Proofs.Registry.Order
import Blueprint.Proofs.Registry.Pieces
import Blueprint.Proofs.Registry.Sealed

/-!
# Registries in use

Runs compile factories, look up their model classes and draw ids, and they keep what they have
found. All the same a run finds in a registry what it would find had the registry not been used:
every factory is compiled to the same or fails to be in the same way, and then it has the same model
class and the same attributes.
-/
namespace Blueprint

open Relation

namespace Registry

variable {registry after other : Registry} {id last parentId : FactoryId} {factory later : Factory}
  {outcome : Except Fault Factory}

/-! ### Factories in outline -/

/-- The model class of a factory: the one that was looked up, or else the one that would be
found. -/
def classOf (registry : Registry) (factory : Factory) : Except Fault Value :=
  match factory.model with
  | some model => .ok model
  | none => registry.modelFor factory.classIdentifier

/-- Looking up the model class of a factory gives its model class. -/
theorem fst_model (found : registry.factory? id = some factory) :
    (Registry.model id registry).1 = registry.classOf factory := by
  rw [Registry.model, classOf]
  simp only [found]
  cases factory.model with
  | some model => rfl
  | none =>
    simp only
    cases registry.modelFor factory.classIdentifier <;> rfl

/-- A factory without its children, and with its model class if it has one. -/
def outline (registry : Registry) (factory : Factory) : Factory :=
  { factory with children := [], model := (registry.classOf factory).toOption }

/-- Which model class a factory has depends on the classes that are registered only. -/
theorem classOf_congr (same : after.models = registry.models) : after.classOf = registry.classOf := by
  funext factory
  simp only [classOf, modelFor, same]

/-- The outline of a factory depends on the classes that are registered only. -/
theorem outline_congr (same : after.models = registry.models) : after.outline = registry.outline := by
  funext factory
  rw [outline, outline, classOf_congr same]

/-- Factories that are the same in outline differ in their children and in whether their model class
was looked up only. -/
theorem eq_of_outline (same : registry.outline later = registry.outline factory) :
    later = { factory with children := later.children, model := later.model } := by
  have whole : later = { registry.outline later with
      children := later.children, model := later.model } := rfl
  rw [same] at whole
  exact whole

/-- Factories that are the same in outline have the same model class. -/
theorem classOf_of_outline (same : registry.outline later = registry.outline factory) :
    registry.classOf later = registry.classOf factory := by
  have found : (registry.classOf later).toOption = (registry.classOf factory).toOption := by
    show (registry.outline later).model = (registry.outline factory).model
    rw [same]
  have identified : later.classIdentifier = factory.classIdentifier := by
    rw [eq_of_outline same]
    rfl
  unfold classOf at found ⊢
  cases own : later.model <;> cases its : factory.model <;> simp only [own, its] at found ⊢
  · rw [identified]
  · exact eq_ok_of_toOption found
  · exact (eq_ok_of_toOption found.symm).symm
  · cases found
    rfl

/-- A factory keeps its outline when its model class is looked up. -/
theorem outline_withModel {model : Value} (open_ : factory.model = none)
    (found : registry.modelFor factory.classIdentifier = .ok model) :
    registry.outline { factory with model := some model } = registry.outline factory := by
  have before : registry.classOf factory = .ok model := by
    rw [classOf, open_]
    exact found
  simp only [outline, before]
  rfl

/-- What is inherited is what the parent is in outline. -/
theorem bind_heir_congr {first second : Except Fault Factory}
    (same : second.map registry.outline = first.map registry.outline) (factory : Factory)
    (parentId : FactoryId) :
    (second >>= fun parent => (heir factory parent parentId).settled) =
      first >>= fun parent => (heir factory parent parentId).settled := by
  have outlined : ∀ outcome : Except Fault Factory,
      (outcome >>= fun parent => (heir factory parent parentId).settled) =
        outcome.map registry.outline >>= fun parent => (heir factory parent parentId).settled := by
    intro outcome
    cases outcome <;> rfl
  rw [outlined, same, ← outlined]

/-! ### Use -/

/-- A later registry has in it what an earlier one has, and tells the same of all factories. -/
structure Concurs (registry after : Registry) : Prop where
  /-- Only factories changed, and the next id. -/
  rest : after = { registry with factories := after.factories, nextStub := after.nextStub }
  /-- All code was there before. -/
  pieces : after.pieces ⊆ registry.pieces
  /-- Factories refer to the same parents. -/
  parents : registry.SameParents after
  /-- In outline, factories come to the same. -/
  yields : ∀ {id outcome}, registry.Yields id outcome → ∃ now, after.Yields id now ∧
    now.map registry.outline = outcome.map registry.outline
  /-- Compiling fails in the same way where it does not get to where it can begin. -/
  stuck : ∀ {id fault}, Ascent registry id (some fault) → Ascent after id (some fault)

namespace Concurs

theorem refl (registry : Registry) : registry.Concurs registry :=
  ⟨rfl, List.Subset.refl _, ⟨rfl, rfl⟩, fun yields => ⟨_, yields, rfl⟩, fun ascent => ascent⟩

theorem trans {last : Registry} (first : registry.Concurs after) (second : after.Concurs last) :
    registry.Concurs last := by
  refine ⟨by rw [second.rest, first.rest], List.Subset.trans second.pieces first.pieces,
    ⟨second.parents.names.trans first.parents.names,
      second.parents.parentRefs.trans first.parents.parentRefs⟩, fun yields => ?_,
    second.stuck ∘ first.stuck⟩
  obtain ⟨middle, between, same⟩ := first.yields yields
  obtain ⟨now, there, still⟩ := second.yields between
  have models : after.models = registry.models := by rw [first.rest]
  rw [outline_congr models] at still
  exact ⟨now, there, still.trans same⟩

/-- There are as many factories. -/
theorem length (concurs : registry.Concurs after) :
    after.factories.length = registry.factories.length := by
  simpa using congrArg List.length concurs.parents.parentRefs

/-- Compiling a factory, with whatever success, is such use. -/
theorem compile {history : History} (reached : history.Reached) (id : FactoryId) :
    history.registry.Concurs (history.registry.compile id).2 := by
  have reworks := Reworks.compile history.registry id
  have agrees := agrees_compile reached id
  obtain ⟨compiles, _⟩ := compiles_compile history.registry id reached.bound
  refine ⟨?_, reworks.pieces, Moves.sameParents compiles.moves compiles.names_eq,
    fun yields => ⟨_, agrees.yields yields, rfl⟩, agrees.stuck⟩
  rw [reworks.rest]

/-- Drawing an id is such use. -/
theorem drawStub (registry : Registry) : registry.Concurs registry.drawStub.2 := by
  have parents : registry.SameParents registry.drawStub.2 := ⟨rfl, rfl⟩
  refine ⟨rfl, List.Subset.refl _, parents, fun {id outcome} yields => ⟨outcome, ?_, rfl⟩,
    fun ascent => ascent.congr parents fun _ _ => rfl⟩
  induction yields with
  | compiled found compiled => exact .compiled found compiled
  | alone found unsealed orphan => exact .alone found unsealed orphan
  | heir found unsealed named registered _ ih => exact .heir found unsealed named registered ih

/-- Looking up the model class of a compiled factory is such use. -/
theorem model {history : History} (reached : history.Reached)
    (finished : history.registry.Finished id) :
    history.registry.Concurs (Registry.model id history.registry).2 := by
  obtain ⟨factory, list, found, compiled⟩ := finished
  have reworks := Reworks.model history.registry id
  unfold Registry.model at reworks ⊢
  simp only [found] at reworks ⊢
  cases known : factory.model with
  | some model => exact .refl _
  | none =>
    simp only [known] at reworks ⊢
    cases looked : history.registry.modelFor factory.classIdentifier with
    | error fault => exact .refl _
    | ok model =>
      simp only [looked] at reworks ⊢
      have apart : ∀ {other its}, history.registry.factory? other = some its →
          its.status = .unsealed → other ≠ id := by
        rintro other its there unsealed rfl
        rw [found] at there
        cases there
        rw [compiled] at unsealed
        cases unsealed
      have parents : history.registry.SameParents
          (history.registry.put id { factory with model := some model }) :=
        sameParents_put found rfl
      refine ⟨rfl, reworks.pieces, parents, fun {at_ outcome} yields => ?_, fun ascent => ?_⟩
      · induction yields with
        | @compiled other its own there done =>
          by_cases self : other = id
          · subst self
            rw [found] at there
            cases there
            refine ⟨_, .compiled (factory?_put_self found) compiled, ?_⟩
            exact congrArg Except.ok (outline_withModel known looked)
          · exact ⟨_, .compiled ((factory?_put_ne (Ne.symm self)).trans there) done, rfl⟩
        | alone there unsealed orphan =>
          exact ⟨_, .alone ((factory?_put_ne (apart there unsealed).symm).trans there) unsealed
            orphan, rfl⟩
        | heir there unsealed named registered _ ih =>
          obtain ⟨now, above, same⟩ := ih
          refine ⟨_, .heir ((factory?_put_ne (apart there unsealed).symm).trans there) unsealed
            named registered above, ?_⟩
          rw [bind_heir_congr same]
      · refine ascent.congr parents fun last walk => factory?_put_ne ?_
        -- compiling does not come by a factory that is compiled
        rintro rfl
        refine ascent.not_founded reached ⟨_, walk, fun its there => ?_⟩
        rw [found] at there
        cases there
        exact .inl ⟨list, compiled⟩

end Concurs

end Registry

open Registry

/-- A registry is what the registry of a history has become in use. -/
structure History.Used (history : History) (registry : Registry) : Prop where
  /-- It is reached. -/
  reached : (history.withRegistry registry).Reached
  /-- It tells the same of all factories. -/
  concurs : history.registry.Concurs registry

namespace History.Used

variable {history : History} {one other registry : Registry} {id : FactoryId}
  {factory later : Factory} {own list : AttributeList}

/-- A registry that is reached has been used when nothing has been done. -/
theorem start (reached : history.Reached) : history.Used history.registry :=
  ⟨reached, .refl _⟩

/-- A registry in use stays so when a factory is compiled. -/
theorem compile (used : history.Used registry) (id : FactoryId) :
    history.Used (registry.compile id).2 :=
  ⟨used.reached.tail (.compiled id), used.concurs.trans (Concurs.compile used.reached id)⟩

/-- A registry in use stays so when the model class of a compiled factory is looked up. -/
theorem model (used : history.Used registry) (finished : registry.Finished id) :
    history.Used (Registry.model id registry).2 :=
  ⟨used.reached.tail (.classed id), used.concurs.trans (Concurs.model used.reached finished)⟩

/-- A registry in use stays so when an id is drawn. -/
theorem drawStub (used : history.Used registry) : history.Used registry.drawStub.2 :=
  ⟨used.reached.tail .drawn, used.concurs.trans (Concurs.drawStub registry)⟩

/-- What a compiled factory is in outline is what it comes to before the registry is used. -/
theorem yields_of_compiled (reached : history.Reached) (used : history.Used registry)
    (found : registry.factory? id = some factory) (compiled : factory.status = .sealed own) :
    ∃ outcome, history.registry.Yields id outcome ∧
      outcome.map history.registry.outline = .ok (history.registry.outline factory) := by
  obtain ⟨before, known⟩ : ∃ before, history.registry.factory? id = some before := by
    have inside : id < history.registry.factories.length :=
      used.concurs.length ▸ (List.getElem?_eq_some_iff.1 found).1
    exact ⟨_, List.getElem?_eq_getElem inside⟩
  obtain ⟨outcome, yields⟩ | ⟨fault, ascent⟩ := exists_yields_or_stuck reached known
  · obtain ⟨now, there, same⟩ := used.concurs.yields yields
    rw [there.of_compiled found compiled] at same
    exact ⟨outcome, yields, same.symm⟩
  · exact absurd (Yields.compiled found compiled).founded
      ((used.concurs.stuck ascent).not_founded used.reached)

/-! ### What is found in two registries -/

/-- The factories of two registries in use refer to the same parents. -/
theorem sameParents (first : history.Used one) (second : history.Used other) :
    one.SameParents other :=
  ⟨second.concurs.parents.names.trans first.concurs.parents.names.symm,
    second.concurs.parents.parentRefs.trans first.concurs.parents.parentRefs.symm⟩

/-- The registries have as many factories. -/
theorem length_eq (first : history.Used one) (second : history.Used other) :
    other.factories.length = one.factories.length :=
  second.concurs.length.trans first.concurs.length.symm

/-- The registries are the same but for factories and the next id. -/
theorem rest_eq (first : history.Used one) (second : history.Used other) :
    other = { one with factories := other.factories, nextStub := other.nextStub } := by
  rw [second.concurs.rest, first.concurs.rest]

section

variable (reached : history.Reached) (first : history.Used one) (second : history.Used other)
include reached first second

/-- A compiled factory is the same in outline wherever it is compiled. -/
theorem outline_eq (found : one.factory? id = some factory) (compiled : factory.status = .sealed own)
    (there : other.factory? id = some later) (done : later.status = .sealed list) :
    history.registry.outline later = history.registry.outline factory := by
  obtain ⟨outcome, yields, same⟩ := first.yields_of_compiled reached found compiled
  obtain ⟨result, alike, again⟩ := second.yields_of_compiled reached there done
  rw [yields.unique alike, same] at again
  exact (Except.ok.inj again).symm

/-- A factory is compiled with the same success. -/
theorem compile_fst (id : FactoryId) : (one.compile id).1 = (other.compile id).1 := by
  cases found : history.registry.factory? id with
  | none =>
    have missing : ∀ {registry}, history.Used registry → registry.factory? id = none := by
      intro registry used
      have outside := List.getElem?_eq_none_iff.1 found
      rw [← used.concurs.length] at outside
      exact List.getElem?_eq_none_iff.2 outside
    rw [compile_of_none (missing first), compile_of_none (missing second)]
  | some factory =>
    obtain ⟨outcome, yields⟩ | ⟨fault, ascent⟩ := exists_yields_or_stuck reached found
    · have result : ∀ {registry}, history.Used registry →
          (registry.compile id).1 = (outcome.map history.registry.outline).map fun _ => () := by
        intro registry used
        obtain ⟨now, there, same⟩ := used.concurs.yields yields
        rw [← same]
        refine (there.compile_fst used.reached).trans ?_
        cases now <;> rfl
      rw [result first, result second]
    · rw [(first.concurs.stuck ascent).compile_eq rfl, (second.concurs.stuck ascent).compile_eq rfl]

end

section

variable (reached : history.Reached) (first : history.Used one) (second : history.Used other)
  (finished : one.Finished id) (ready : other.Finished id)
include reached first second finished ready

/-- A compiled factory is found in both registries, and is the same in outline. -/
theorem exists_outline : ∃ factory later, one.factory? id = some factory ∧
    other.factory? id = some later ∧ factory.status.isSealed = true ∧
    history.registry.outline later = history.registry.outline factory := by
  obtain ⟨factory, own, found, compiled⟩ := finished
  obtain ⟨later, list, there, done⟩ := ready
  exact ⟨factory, later, found, there, by rw [compiled]; rfl,
    first.outline_eq reached second found compiled there done⟩

/-- A compiled factory has the same model class. -/
theorem model_fst : (Registry.model id one).1 = (Registry.model id other).1 := by
  have class_ : ∀ {registry : Registry} {factory}, history.Used registry →
      registry.factory? id = some factory →
      (Registry.model id registry).1 = history.registry.classOf factory := by
    intro registry factory used found
    have models : registry.models = history.registry.models := by rw [used.concurs.rest]
    rw [← classOf_congr models]
    exact fst_model found
  obtain ⟨factory, later, found, there, _, same⟩ :=
    first.exists_outline reached second finished ready
  rw [class_ first found, class_ second there, classOf_of_outline same]

/-- A trait that is sought from a compiled factory on is the same. -/
theorem seekTrait_eq (name : String) (fuel : Nat) (seen : List String) :
    one.seekTrait name fuel seen id = other.seekTrait name fuel seen id := by
  have registered : one.trait (.text name) = other.trait (.text name) := by
    rw [Registry.trait, Registry.trait, first.concurs.rest, second.concurs.rest]
  have parents := first.sameParents second
  induction fuel generalizing seen id with
  | zero => rfl
  | succ fuel ih =>
    obtain ⟨factory, later, found, there, isSealed, same⟩ :=
      first.exists_outline reached second finished ready
    have alike := eq_of_outline same
    have named : later.name = factory.name := by rw [alike]
    have refs : later.parentRef = factory.parentRef := by rw [alike]
    have above : later.parentName? = factory.parentName? := by rw [alike]; rfl
    have traits : later.trait? name = factory.trait? name := by rw [alike]; rfl
    have fault : other.traitCycleFault later name = one.traitCycleFault factory name := by
      have chain : one.parentChain later = one.parentChain factory := by
        rw [Registry.parentChain, Registry.parentChain, named, refs]
      rw [traitCycleFault, traitCycleFault, parents.parentChain, chain]
    rw [Registry.seekTrait, Registry.seekTrait]
    simp only [found, there, above, traits, named, fault, parents.findText]
    cases factory.trait? name with
    | some trait => rfl
    | none =>
      cases its : factory.parentName? with
      | none => exact registered
      | some ref =>
        simp only
        split
        · rfl
        · -- the parent is compiled in both registries
          obtain ⟨own, compiled⟩ : ∃ own, factory.status = .sealed own :=
            exists_of_isSealed isSealed
          have done : later.status = .sealed own := by rw [alike, compiled]
          obtain ⟨parentId, parent, _, _, bound, known, compiled⟩ :=
            (first.reached.linked found).exists_parent compiled its
          obtain ⟨_, parent', _, _, bound', known', compiled'⟩ :=
            (second.reached.linked there).exists_parent done (above.trans its)
          have agree := (parents.findText ref).symm.trans bound'
          rw [show one.findText ref = _ from bound] at agree ⊢
          cases agree
          exact ih ⟨parent, _, known, compiled⟩ ⟨parent', _, known', compiled'⟩ _

/-- What a name means as a trait for a compiled factory is the same. -/
theorem traitOf_eq (name : Value) : one.traitOf id name = other.traitOf id name := by
  rw [traitOf, traitOf, first.length_eq second]
  exact first.seekTrait_eq reached second finished ready _ _ _

/-- A compiled factory resolves to the same. -/
theorem resolve_eq (fuel : Nat) : one.resolve fuel id = other.resolve fuel id := by
  induction fuel generalizing id with
  | zero => rfl
  | succ fuel ih =>
    obtain ⟨factory, later, found, there, _, same⟩ :=
      first.exists_outline reached second finished ready
    have alike := eq_of_outline same
    have refs : later.traitRefs = factory.traitRefs := by rw [alike]
    have own : later.compiled = factory.compiled := by rw [alike]; rfl
    have parent : later.parent = factory.parent := by rw [alike]
    have layers : other.traitLists id later = one.traitLists id factory := by
      simp only [traitLists, refs, first.traitOf_eq reached second finished ready]
    rw [resolve, resolve]
    simp only [found, there, layers, own, parent]
    cases its : factory.parent with
    | none => rfl
    | some parentId =>
      -- what it has inherited from is compiled in both registries
      obtain ⟨_, above, _, _, _, known, compiled⟩ := (first.reached.linked found).parent its
      obtain ⟨_, above', _, _, _, known', compiled'⟩ :=
        (second.reached.linked there).parent (parent.trans its)
      simp only
      rw [ih ⟨above, _, known, compiled⟩ ⟨above', _, known', compiled'⟩]

/-- A compiled factory gives the same attributes. -/
theorem attributes_fst : (Registry.attributes id one).1 = (Registry.attributes id other).1 := by
  obtain ⟨factory, own, found, compiled⟩ := finished
  obtain ⟨later, list, there, done⟩ := ready
  rw [Registry.attributes, Registry.attributes, compile_of_sealed found compiled,
    compile_of_sealed there done]
  simp only [first.length_eq second]
  exact first.resolve_eq reached second ⟨_, _, found, compiled⟩ ⟨_, _, there, done⟩ _

end

/-- Without a choice of its own a registered factory of a sealed registry has the same strategy. -/
theorem strategyOf_eq (reached : history.Reached) (isSealed : history.registry.isSealed = true)
    (used : history.Used registry) {name : Value} (found : registry.find name = .ok id) :
    registry.strategyOf id = history.registry.strategyOf id := by
  have registered : history.registry.names.lookup (Name.ofValue name) = some id := by
    rw [← used.concurs.parents.names]
    exact find_eq_ok.1 found
  obtain ⟨factory, list, _, known, compiled, _⟩ := exists_ready reached isSealed registered
  have still : registry.isSealed = true := by rw [used.concurs.rest]; exact isSealed
  obtain ⟨later, own, _, there, done, _⟩ :=
    exists_ready used.reached still (find_eq_ok.1 found)
  have alike := eq_of_outline ((start reached).outline_eq reached used known compiled there done)
  have same : later.strategy = factory.strategy := by rw [alike]
  have settings : registry.settings = history.registry.settings := by rw [used.concurs.rest]
  rw [strategyOf, strategyOf, known, show registry.factory? id = some later from there,
    Option.bind_some, Option.bind_some, same, settings]

end History.Used

end Blueprint
