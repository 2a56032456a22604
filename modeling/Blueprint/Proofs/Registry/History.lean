import Blueprint.Factory.Options
import Blueprint.Proofs.Outcome
import Blueprint.Proofs.Registry.Compile
import Blueprint.Proofs.Table

/-!
# Histories of registries

A registry is reached from an empty one by operations: factories are made, changed, registered and
compiled, model classes are looked up, ids are drawn. A history keeps, beside the registry, each
factory as it was made and which factories were told to allow overrides, so that what a registry
knows can be compared with what was asked for. A parent is inherited from only in the course of
compiling.
-/
namespace Blueprint

namespace Factory

/-- A change of the definition of a factory. -/
inductive Edit where
  /-- An attribute is declared. -/
  | declare (declaration : Declaration)
  /-- A trait is defined. -/
  | defineTrait (trait : Trait)
  /-- A callback is added. -/
  | addCallback (name : Value) (handler : Option Handler)
  /-- What saves an instance is set. -/
  | setFinalizer (handler : Option Handler)

/-- The factory with its definition changed. -/
def Edit.apply : Edit → Factory → Except Fault Factory
  | .declare declaration, factory => factory.declare declaration
  | .defineTrait trait, factory => factory.defineTrait trait
  | .addCallback name handler, factory => factory.addCallback name handler
  | .setFinalizer handler, factory => factory.setFinalizer handler

/-- A definition changes only in a factory that is not compiled. -/
theorem change_eq_ok {factory later : Factory} {what : Change} {subject : Option String}
    {apply : Factory → Except Fault Factory} :
    factory.change what subject apply = .ok later ↔
      factory.status = .unsealed ∧ apply factory = .ok later := by
  unfold change
  cases factory.status <;> simp [Status.isUnsealed]

/-- A factory as it is made: nothing is declared in it, and it is neither compiled nor linked. -/
structure IsNew (factory : Factory) : Prop where
  /-- It is not compiled. -/
  status : factory.status = .unsealed
  /-- It has not inherited. -/
  parent : factory.parent = none
  /-- Nothing has inherited from it. -/
  children : factory.children = []
  /-- Its model class is not looked up. -/
  model : factory.model = none

/-- What options describe is a factory as it is made. -/
theorem isNew_ofOptions {settings : Settings} {name : Value} {options : Dict} {factory : Factory}
    (made : ofOptions settings name options = .ok factory) : factory.IsNew := by
  obtain ⟨aliases, _, made⟩ := bind_eq_ok.1 made
  obtain ⟨traitRefs, _, made⟩ := bind_eq_ok.1 made
  simp only at made
  split at made
  · obtain ⟨strategy, _, made⟩ := bind_eq_ok.1 made
    obtain ⟨overridable, _, made⟩ := bind_eq_ok.1 made
    cases made
    exact ⟨rfl, rfl, rfl, rfl⟩
  · obtain ⟨strategy, _, made⟩ := bind_eq_ok.1 made
    obtain ⟨overridable, _, made⟩ := bind_eq_ok.1 made
    cases made
    exact ⟨rfl, rfl, rfl, rfl⟩

end Factory

/-- A registry with what was asked of it. -/
structure History where
  /-- The registry. -/
  registry : Registry
  /-- Each factory as it was made, by number. -/
  made : List Factory := []
  /-- The factories that were told to allow overrides. -/
  permitted : List FactoryId := []

namespace History

/-- The same history with another registry. -/
def withRegistry (history : History) (registry : Registry) : History :=
  { history with registry := registry }

/-- What is done with a registry from outside. -/
inductive Operation (history : History) : History → Prop where
  /-- A factory is made. -/
  | made {name : Value} {options : Dict} {warning : Option String} {factory : Factory}
      (checked : Factory.checkOptions history.registry.settings options = .ok warning)
      (given : Factory.ofOptions history.registry.settings name options = .ok factory) :
      Operation history
        { history with
          registry := (history.registry.add factory).1, made := history.made ++ [factory] }
  /-- A factory is registered. -/
  | registered {id : FactoryId} {after : Registry}
      (done : history.registry.register id = .ok after) :
      Operation history (history.withRegistry after)
  /-- A trait is registered. -/
  | traitRegistered {trait : Trait} {after : Registry}
      (done : history.registry.registerTrait trait = .ok after) :
      Operation history (history.withRegistry after)
  /-- A model class is registered. -/
  | modelRegistered {model identifier : String} {after : Registry}
      (done : history.registry.registerModel model identifier = .ok after) :
      Operation history (history.withRegistry after)
  /-- The definition of a factory is changed. -/
  | edited {id : FactoryId} {edit : Factory.Edit} {after : Registry}
      (done : history.registry.tryModify id edit.apply = .ok after) :
      Operation history (history.withRegistry after)
  /-- A factory is told to allow overrides. -/
  | permitted (id : FactoryId) :
      Operation history
        { history with
          registry := history.registry.allowOverrides id, permitted := id :: history.permitted }
  /-- A factory is compiled, or fails to be. -/
  | compiled (id : FactoryId) :
      Operation history (history.withRegistry (history.registry.compile id).2)
  /-- The model class of a factory is looked up. -/
  | classed (id : FactoryId) :
      Operation history (history.withRegistry (Registry.model id history.registry).2)
  /-- The registry is sealed, or fails to be. -/
  | closed : Operation history (history.withRegistry (Registry.close history.registry).2)
  /-- An id is drawn for a stubbed instance. -/
  | drawn : Operation history (history.withRegistry history.registry.drawStub.2)

/-- Operations in turn. -/
abbrev Operations : History → History → Prop := Relation.ReflTransGen Operation

/-- The histories of registries: they start with an empty registry. -/
def Reached (history : History) : Prop :=
  ∃ settings registry, Registry.create settings = .ok registry ∧
    Operations { registry := registry } history

/-- A history starts with an empty registry. -/
theorem Reached.start {settings : Settings} {registry : Registry}
    (created : Registry.create settings = .ok registry) : Reached { registry := registry } :=
  ⟨settings, registry, created, .refl⟩

/-- The history of a registry without settings in which nothing has been done. -/
def blank : History := { registry := { settings := ⟨.dict []⟩, nextStub := 1001 } }

/-- Every registry without settings starts like this. -/
theorem reached_blank : blank.Reached :=
  have created : Registry.create ⟨.dict []⟩ = .ok blank.registry := rfl
  .start created

/-- A history goes on with an operation. -/
theorem Reached.tail {history after : History} (reached : history.Reached)
    (operation : Operation history after) : after.Reached := by
  obtain ⟨settings, registry, created, operations⟩ := reached
  exact ⟨settings, registry, created, operations.tail operation⟩

/-- A history goes on with operations. -/
theorem Reached.trans {history after : History} (reached : history.Reached)
    (operations : Operations history after) : after.Reached := by
  obtain ⟨settings, registry, created, before⟩ := reached
  exact ⟨settings, registry, created, before.trans operations⟩

/-- The history where a factory is made and registered; the same one if either fails. -/
def define (history : History) (name : Value) (options : Dict) : History :=
  let settings := history.registry.settings
  match Factory.checkOptions settings options, Factory.ofOptions settings name options with
  | .ok _, .ok factory =>
    let (added, id) := history.registry.add factory
    match added.register id with
    | .ok registered => { history with registry := registered, made := history.made ++ [factory] }
    | .error _ => history
  | _, _ => history

/-- The history where the definition of a factory is changed; the same one if that fails. -/
def edit (history : History) (id : FactoryId) (edit : Factory.Edit) : History :=
  match history.registry.tryModify id edit.apply with
  | .ok after => history.withRegistry after
  | .error _ => history

/-- The history where a model class is registered; the same one if that fails. -/
def registerModel (history : History) (model identifier : String) : History :=
  match history.registry.registerModel model identifier with
  | .ok after => history.withRegistry after
  | .error _ => history

/-- A history goes on when a factory is defined. -/
theorem Reached.define {history : History} (reached : history.Reached) (name : Value)
    (options : Dict) : (history.define name options).Reached := by
  unfold History.define
  extract_lets settings
  split
  · rename_i checked given
    split
    rename_i added id grown
    have made := reached.tail (.made checked given)
    rw [grown] at made
    split
    · rename_i registered done
      exact made.tail (.registered done)
    · exact reached
  · exact reached

/-- A history goes on when the definition of a factory is changed. -/
theorem Reached.edit {history : History} (reached : history.Reached) (id : FactoryId)
    (edit : Factory.Edit) : (history.edit id edit).Reached := by
  unfold History.edit
  split
  · rename_i after done
    exact reached.tail (.edited done)
  · exact reached

/-- A history goes on when a model class is registered. -/
theorem Reached.registerModel {history : History} (reached : history.Reached)
    (model identifier : String) : (history.registerModel model identifier).Reached := by
  unfold History.registerModel
  split
  · rename_i after done
    exact reached.tail (.modelRegistered done)
  · exact reached

end History

/-! ### Operations as moves -/

namespace Registry

variable {registry after : Registry} {id : FactoryId} {factory : Factory}

/-- A move leaves a bound name bound to the same factory. -/
theorem Move.lookup (move : Move registry after) {name : String}
    (found : registry.names.lookup name = some id) : after.names.lookup name = some id := by
  cases move with
  | @bound other factory _ known free =>
    show (registry.names.putAll _).lookup name = some id
    rw [Table.lookup_putAll_of_absent _ _ ?_, found]
    intro pair member
    obtain ⟨new, inside, rfl⟩ := List.mem_map.1 member
    rw [beq_eq_false_iff_ne]
    rintro rfl
    have absent := free name inside
    simp [Table.has, found] at absent
  | turned => exact found
  | trait => exact found
  | model => exact found
  | closed => exact found
  | drawn => exact found

/-- A move leaves every name bound to a factory that has it. -/
theorem Move.keeps_bound (move : Move registry after) (bound : registry.Bound) : after.Bound := by
  intro name id found
  have kept : ∀ {factory : Factory}, registry.factory? id = some factory → name ∈ factory.names →
      ∃ later, after.factory? id = some later ∧ name ∈ later.names := by
    intro factory known named
    obtain ⟨later, there, same⟩ := move.factory? known
    refine ⟨later, there, ?_⟩
    obtain rfl | turn := same
    · exact named
    · rwa [Factory.names, turn.sameOptions.name, turn.sameOptions.aliases]
  cases move with
  | @bound other factory _ known free =>
    obtain ⟨pair, member, same, rfl⟩ | before := Table.lookup_putAll found
    · obtain ⟨new, inside, rfl⟩ := List.mem_map.1 member
      obtain rfl : name = new := by simpa using same
      exact ⟨factory, known, inside⟩
    · obtain ⟨factory, known, named⟩ := bound name id before
      exact kept known named
  | turned =>
    obtain ⟨factory, known, named⟩ := bound name id found
    exact kept known named
  | trait => exact bound name id found
  | model => exact bound name id found
  | closed => exact bound name id found
  | drawn => exact bound name id found

/-- A move neither makes nor removes a factory. -/
theorem Move.length_factories (move : Move registry after) :
    after.factories.length = registry.factories.length := by
  cases move with
  | turned => exact List.length_set
  | bound => rfl
  | trait => rfl
  | model => rfl
  | closed => rfl
  | drawn => rfl

/-- Moves leave every name bound to a factory that has it. -/
theorem Moves.keeps_bound (moves : Moves registry after) (bound : registry.Bound) :
    after.Bound := by
  induction moves with
  | refl => exact bound
  | tail _ move ih => exact move.keeps_bound ih

/-- Moves keep what each move keeps. -/
theorem Moves.keeps {Holds : Registry → Prop}
    (each : ∀ {registry after}, Move registry after → registry.Bound → Holds registry → Holds after)
    (moves : Moves registry after) (bound : registry.Bound) (held : Holds registry) :
    Holds after := by
  induction moves with
  | refl => exact held
  | tail before move ih => exact each move (Moves.keeps_bound before bound) ih

/-- A factory that is there stays there when another one is made. -/
theorem factory?_add {new : Factory} (found : registry.factory? id = some factory) :
    (registry.add new).1.factory? id = some factory := by
  obtain ⟨inside, _⟩ := List.getElem?_eq_some_iff.1 found
  exact (List.getElem?_append_left inside).trans found

/-- A factory that is there after one was made is that one, or was there. -/
theorem factory?_of_add {new : Factory} (found : (registry.add new).1.factory? id = some factory) :
    (id = registry.factories.length ∧ factory = new) ∨ registry.factory? id = some factory := by
  have inside : id < registry.factories.length + 1 := by
    simpa [add] using (List.getElem?_eq_some_iff.1 found).1
  by_cases last : id = registry.factories.length
  · subst last
    have here : (registry.add new).1.factory? registry.factories.length = some new :=
      List.getElem?_concat_length
    exact .inl ⟨rfl, Option.some.inj (found.symm.trans here)⟩
  · have before : id < registry.factories.length :=
      Nat.lt_of_le_of_ne (Nat.le_of_lt_succ inside) last
    exact .inr ((List.getElem?_append_left before).symm.trans found)

/-- Making a factory leaves every name bound to a factory that has it. -/
theorem bound_add {new : Factory} (bound : registry.Bound) : (registry.add new).1.Bound := by
  intro name id found
  obtain ⟨factory, known, named⟩ := bound name id found
  exact ⟨factory, factory?_add known, named⟩

/-- A changed definition is of an uncompiled factory, and all else of the factory stays. -/
theorem apply_edit_eq_ok {edit : Factory.Edit} {later : Factory}
    (done : edit.apply factory = .ok later) :
    factory.status = .unsealed ∧ ∃ definition traits finalizer,
      definition.overridable = factory.definition.overridable ∧
        later =
          { factory with definition := definition, traits := traits, finalizer := finalizer } := by
  cases edit with
  | declare declaration =>
    rw [Factory.Edit.apply, Factory.declare] at done
    obtain ⟨unsealed, changed⟩ := Factory.change_eq_ok.1 done
    cases changed
    exact ⟨unsealed, factory.definition.declare declaration, factory.traits, factory.finalizer, rfl,
      rfl⟩
  | defineTrait trait =>
    rw [Factory.Edit.apply, Factory.defineTrait] at done
    obtain ⟨unsealed, changed⟩ := Factory.change_eq_ok.1 done
    cases changed
    exact ⟨unsealed, factory.definition, _, factory.finalizer, rfl, rfl⟩
  | addCallback name handler =>
    rw [Factory.Edit.apply, Factory.addCallback] at done
    obtain ⟨unsealed, changed⟩ := Factory.change_eq_ok.1 done
    obtain ⟨callback, _, added⟩ := bind_eq_ok.1 changed
    cases added
    exact ⟨unsealed, factory.definition.addCallback callback, factory.traits, factory.finalizer, rfl,
      rfl⟩
  | setFinalizer handler =>
    rw [Factory.Edit.apply, Factory.setFinalizer] at done
    obtain ⟨unsealed, changed⟩ := Factory.change_eq_ok.1 done
    cases changed
    exact ⟨unsealed, factory.definition, factory.traits, _, rfl, rfl⟩

/-- Changing the definition of a factory is a turn. -/
theorem Turn.of_edit {edit : Factory.Edit} {later : Factory}
    (done : edit.apply factory = .ok later) :
    Turn registry id factory later := by
  obtain ⟨unsealed, definition, traits, finalizer, overridable, rfl⟩ := apply_edit_eq_ok done
  exact .edited unsealed definition traits finalizer overridable

/-- Trying to change the definition of a factory moves the registry. -/
theorem moves_tryModify {edit : Factory.Edit}
    (done : registry.tryModify id edit.apply = .ok after) : Moves registry after := by
  unfold tryModify at done
  cases found : registry.factory? id with
  | none =>
    simp only [found] at done
    cases done
    exact .refl
  | some factory =>
    simp only [found] at done
    obtain ⟨later, changed, put⟩ := bind_eq_ok.1 done
    cases put
    exact .single (.turned found (.of_edit changed))

/-- What is done while a registry is open is done to an open one. -/
theorem whileOpen_eq_ok {what : Registrable} {subject : String} {register : Except Fault Registry} :
    registry.whileOpen what subject register = .ok after ↔
      registry.isSealed = false ∧ register = .ok after := by
  unfold whileOpen
  cases registry.isSealed <;> simp

/-- Registering a factory moves the registry. -/
theorem moves_register (done : registry.register id = .ok after) : Moves registry after := by
  unfold register at done
  cases found : registry.factory? id with
  | none =>
    simp only [found] at done
    cases done
    exact .refl
  | some factory =>
    simp only [found] at done
    obtain ⟨isOpen, bound⟩ := whileOpen_eq_ok.1 done
    cases taken : factory.names.find? registry.names.has with
    | some name =>
      simp only [taken] at bound
      cases bound
    | none =>
      simp only [taken] at bound
      cases bound
      refine .single (.bound isOpen found fun name member => ?_)
      simpa using List.find?_eq_none.1 taken name member

/-- Registering a trait moves the registry. -/
theorem moves_registerTrait {trait : Trait} (done : registry.registerTrait trait = .ok after) :
    Moves registry after := by
  obtain ⟨isOpen, entered⟩ := whileOpen_eq_ok.1 done
  split at entered
  · cases entered
  · rename_i free
    cases entered
    exact .single (.trait trait isOpen (Bool.eq_false_iff.2 free))

/-- Registering a model class moves the registry. -/
theorem moves_registerModel {model identifier : String}
    (done : registry.registerModel model identifier = .ok after) : Moves registry after := by
  unfold registerModel at done
  extract_lets name key at done
  obtain ⟨isOpen, entered⟩ := whileOpen_eq_ok.1 done
  split at entered
  · split at entered
    · cases entered
      exact .refl
    · cases entered
  · rename_i free
    cases entered
    exact .single (.model _ model isOpen free)

/-- Looking up the model class of a factory moves the registry. -/
theorem moves_model (registry : Registry) (id : FactoryId) :
    Moves registry (Registry.model id registry).2 := by
  unfold model
  cases found : registry.factory? id with
  | none => exact .refl
  | some factory =>
    cases held : factory.model with
    | some model => simpa [held] using Relation.ReflTransGen.refl
    | none =>
      cases sought : registry.modelFor factory.classIdentifier with
      | error fault => simpa [held, sought] using Relation.ReflTransGen.refl
      | ok model => simpa [held, sought] using
          Relation.ReflTransGen.single (Move.turned found (.classed held sought))

/-- Looking up the model class of a factory leaves the names. -/
theorem names_model (registry : Registry) (id : FactoryId) :
    (Registry.model id registry).2.names = registry.names := by
  unfold model
  split
  · rfl
  · split
    · rfl
    · split <;> rfl

/-- The model class of a factory has been looked up, if there is such a factory. -/
def IsClassed (registry : Registry) (id : FactoryId) : Prop :=
  ∀ factory, registry.factory? id = some factory → ∃ model, factory.model = some model

/-- A model class that is looked up is kept. -/
theorem model_eq_ok {model : Value} (done : Registry.model id registry = (.ok model, after))
    (found : after.factory? id = some factory) : factory.model = some model := by
  unfold Registry.model at done
  cases known : registry.factory? id with
  | none =>
    simp only [known] at done
    cases done
  | some its =>
    cases held : its.model with
    | some own =>
      simp only [known, held] at done
      cases done
      rw [known] at found
      cases found
      exact held
    | none =>
      cases sought : registry.modelFor its.classIdentifier with
      | error fault =>
        simp only [known, held, sought] at done
        cases done
      | ok own =>
        simp only [known, held, sought] at done
        cases done
        rw [factory?_put_self known] at found
        cases found
        rfl

/-- Giving the attributes of a factory does to the registry what compiling the factory does. -/
theorem snd_attributes (registry : Registry) (id : FactoryId) :
    (Registry.attributes id registry).2 = (registry.compile id).2 := by
  rw [attributes]
  cases registry.compile id with
  | mk outcome after => cases outcome <;> rfl

/-! ### Sealing a registry -/

/-- Doing something for several factories moves the registry and leaves the names if each time it
does. -/
theorem moves_forEach {α : Type} {step : FactoryId → Step α}
    (each : ∀ id {registry : Registry}, registry.Bound →
      Moves registry (step id registry).2 ∧ (step id registry).2.names = registry.names)
    (ids : List FactoryId) (bound : registry.Bound) :
    Moves registry (forEach step ids registry).2 ∧
      (forEach step ids registry).2.names = registry.names := by
  induction ids generalizing registry with
  | nil => exact ⟨.refl, rfl⟩
  | cons id rest ih =>
    obtain ⟨moves, same⟩ := each id bound
    rw [forEach]
    cases outcome : step id registry with
    | mk result middle =>
      rw [outcome] at moves same
      cases result with
      | error fault => exact ⟨moves, same⟩
      | ok value =>
        obtain ⟨onward, alike⟩ := ih (moves.keeps_bound bound)
        exact ⟨moves.trans onward, alike.trans same⟩

/-- What doing something for a factory achieves, and moves keep, is achieved for several factories
for which it is done in turn. -/
theorem holds_of_forEach {α : Type} {step : FactoryId → Step α}
    {Holds : Registry → FactoryId → Prop}
    (each : ∀ id {registry : Registry}, registry.Bound →
      Moves registry (step id registry).2 ∧ (step id registry).2.names = registry.names)
    (achieved : ∀ {id registry after value}, registry.Bound →
      step id registry = (.ok value, after) → Holds after id)
    (kept : ∀ {registry after id}, Moves registry after → Holds registry id → Holds after id)
    {ids : List FactoryId} (bound : registry.Bound)
    (done : forEach step ids registry = (.ok (), after)) : ∀ id ∈ ids, Holds after id := by
  induction ids generalizing registry with
  | nil =>
    intro id never
    cases never
  | cons first rest ih =>
    have moved := (each first bound).1
    rw [forEach] at done
    cases outcome : step first registry with
    | mk result middle =>
      rw [outcome] at done moved
      cases result with
      | error fault => cases done
      | ok value =>
        have still : middle.Bound := Moves.keeps_bound moved bound
        have onward := (moves_forEach each rest still).1
        rw [show forEach step rest middle = _ from done] at onward
        intro id member
        obtain rfl | inside := List.mem_cons.1 member
        · exact kept onward (achieved bound outcome)
        · exact ih still done id inside

/-- Compiling a factory moves the registry and leaves the names. -/
theorem moves_compile (id : FactoryId) (bound : registry.Bound) :
    Moves registry (registry.compile id).2 ∧ (registry.compile id).2.names = registry.names :=
  have compiles := (compiles_compile registry id bound).1
  ⟨compiles.moves, compiles.names_eq⟩

/-- Compiling several factories moves the registry and leaves the names. -/
theorem moves_compileAll (ids : List FactoryId) (bound : registry.Bound) :
    Moves registry (forEach (fun id registry => registry.compile id) ids registry).2 ∧
      (forEach (fun id registry => registry.compile id) ids registry).2.names = registry.names :=
  moves_forEach (fun id _ bound => moves_compile id bound) ids bound

/-- Looking up the model classes of several factories moves the registry and leaves the names. -/
theorem moves_modelAll (ids : List FactoryId) (bound : registry.Bound) :
    Moves registry (forEach model ids registry).2 ∧
      (forEach model ids registry).2.names = registry.names :=
  moves_forEach (fun id registry _ => ⟨moves_model registry id, names_model registry id⟩) ids bound

/-- If several factories are compiled in turn, they are all compiled in the end. -/
theorem isCompiled_of_forEach {ids : List FactoryId} (bound : registry.Bound)
    (done : forEach (fun id registry => registry.compile id) ids registry = (.ok (), after)) :
    ∀ id ∈ ids, after.IsCompiled id := by
  refine holds_of_forEach (fun id _ bound => moves_compile id bound) ?_ ?_ bound done
  · intro id registry after value bound compiled
    have isCompiled := (compiles_compile registry id bound).2
    rw [compiled] at isCompiled
    exact isCompiled rfl
  · exact fun moves compiled _ found => moves.compiled compiled found

/-- If the model classes of several factories are looked up in turn, they all have one in the
end. -/
theorem isClassed_of_forEach {ids : List FactoryId} (bound : registry.Bound)
    (done : forEach model ids registry = (.ok (), after)) : ∀ id ∈ ids, after.IsClassed id := by
  refine holds_of_forEach (fun id registry _ => ⟨moves_model registry id, names_model registry id⟩)
    ?_ ?_ bound done
  · exact fun {_ _ _ model} _ classed factory found => ⟨model, model_eq_ok classed found⟩
  · exact fun moves held _ found => moves.model held found

/-- A factory that is found under a name is among the registered ones. -/
theorem mem_registered {name : String} (found : registry.names.lookup name = some id) :
    id ∈ registry.registered := by
  rw [registered, List.mem_eraseDups, Table.values, List.mem_map]
  obtain ⟨before, after, split, _⟩ := List.lookup_eq_some_iff.1 found
  exact ⟨(name, id), by simp [split], rfl⟩

/-- A registry in which all registered factories have been compiled, and then all their model
classes looked up, is ready. -/
theorem ready_of_forEach {compiled : Registry} (bound : registry.Bound)
    (compiles : forEach (fun id registry => registry.compile id) registry.registered registry =
      (.ok (), compiled))
    (classes : forEach model compiled.registered compiled = (.ok (), after)) : after.Ready := by
  obtain ⟨moves, names⟩ := moves_compileAll registry.registered bound
  rw [compiles] at moves names
  have still : compiled.Bound := moves.keeps_bound bound
  obtain ⟨onward, alike⟩ := moves_modelAll compiled.registered still
  rw [classes] at onward alike
  intro name id factory registered found
  rw [show after.names = compiled.names from alike] at registered
  have isRegistered : id ∈ registry.registered := mem_registered (names ▸ registered)
  exact ⟨onward.compiled (isCompiled_of_forEach bound compiles id isRegistered) found,
    isClassed_of_forEach still classes id (mem_registered registered) factory found⟩

/-- Sealing a registry moves it. -/
theorem moves_close (bound : registry.Bound) : Moves registry (close registry).2 := by
  have compiling := (moves_compileAll registry.registered bound).1
  unfold close
  split
  · exact .refl
  · split
    · rename_i failed
      rwa [failed] at compiling
    · rename_i after compiled
      rw [compiled] at compiling
      have classing := (moves_modelAll after.registered (compiling.keeps_bound bound)).1
      split
      · rename_i failed
        rw [failed] at classing
        exact compiling.trans classing
      · rename_i classed
        rw [classed] at classing
        exact (compiling.trans classing).tail (.closed (ready_of_forEach bound compiled classed))

end Registry

namespace History

open Registry

/-- An operation makes a factory of options, or moves the registry. -/
theorem Operation.given_or_moves {history after : History} (operation : Operation history after)
    (bound : history.registry.Bound) :
    (∃ settings name options factory, Factory.ofOptions settings name options = .ok factory ∧
        after.made = history.made ++ [factory] ∧
        after.registry = (history.registry.add factory).1) ∨
      (after.made = history.made ∧ Moves history.registry after.registry) := by
  cases operation with
  | made checked given => exact .inl ⟨_, _, _, _, given, rfl, rfl⟩
  | registered done => exact .inr ⟨rfl, moves_register done⟩
  | traitRegistered done => exact .inr ⟨rfl, moves_registerTrait done⟩
  | modelRegistered done => exact .inr ⟨rfl, moves_registerModel done⟩
  | edited done => exact .inr ⟨rfl, moves_tryModify done⟩
  | permitted id => exact .inr ⟨rfl, (relaxes_allowOverrides _ id).moves⟩
  | compiled id => exact .inr ⟨rfl, (compiles_compile _ id bound).1.moves⟩
  | classed id => exact .inr ⟨rfl, moves_model _ id⟩
  | closed => exact .inr ⟨rfl, moves_close bound⟩
  | drawn => exact .inr ⟨rfl, .single .drawn⟩

/-- An operation other than making a factory moves the registry. -/
theorem Operation.made_or_moves {history after : History} (operation : Operation history after)
    (bound : history.registry.Bound) :
    (∃ factory : Factory, factory.IsNew ∧ after.made = history.made ++ [factory] ∧
        after.registry = (history.registry.add factory).1) ∨
      (after.made = history.made ∧ Moves history.registry after.registry) := by
  obtain ⟨_, _, _, factory, given, grown, added⟩ | moves := operation.given_or_moves bound
  · exact .inl ⟨factory, Factory.isNew_ofOptions given, grown, added⟩
  · exact .inr moves

/-- A registry starts with what its configuration gives, and nothing else. -/
theorem create_eq_ok {settings : Settings} {registry : Registry}
    (created : Registry.create settings = .ok registry) : ∃ patterns start,
      registry = { settings := settings, patterns := patterns, nextStub := start } := by
  obtain ⟨start, _, created⟩ := bind_eq_ok.1 created
  obtain ⟨sources, _, created⟩ := bind_eq_ok.1 created
  obtain ⟨patterns, _, created⟩ := bind_eq_ok.1 created
  cases created
  exact ⟨patterns, start, rfl⟩

/-- A registry starts without factories and names. -/
theorem factories_create {settings : Settings} {registry : Registry}
    (created : Registry.create settings = .ok registry) :
    registry.factories = [] ∧ registry.names = [] := by
  obtain ⟨patterns, start, rfl⟩ := create_eq_ok created
  exact ⟨rfl, rfl⟩

/-- What holds of a registry when it is created, is kept when a factory is made, and is kept in
every move, holds of every registry that is reached. -/
theorem Reached.induct (Holds : List Factory → Registry → Prop)
    (created : ∀ {settings registry}, Registry.create settings = .ok registry → Holds [] registry)
    (made : ∀ {made : List Factory} {registry : Registry} {factory : Factory}, factory.IsNew →
      registry.Bound →
      Holds made registry → Holds (made ++ [factory]) (registry.add factory).1)
    (moved : ∀ {made : List Factory} {registry after}, Move registry after → registry.Bound →
      Holds made registry → Holds made after)
    {history : History} (reached : history.Reached) :
    history.registry.Bound ∧ Holds history.made history.registry := by
  obtain ⟨settings, registry, start, operations⟩ := reached
  induction operations with
  | refl =>
    refine ⟨fun name id found => ?_, created start⟩
    rw [(factories_create start).2] at found
    cases found
  | tail _ operation ih =>
    obtain ⟨bound, held⟩ := ih
    obtain ⟨factory, new, grown, added⟩ | ⟨same, moves⟩ := operation.made_or_moves bound
    · rw [grown, added]
      exact ⟨bound_add bound, made new bound held⟩
    · rw [same]
      exact ⟨moves.keeps_bound bound, moves.keeps moved bound held⟩

/-- What holds of a new factory, and is kept when other factories are made, in every move of the
registry and in every turn of the factory itself, holds of every factory that is reached. Moves may
be taken to start from registries of which something holds that they keep. -/
theorem Reached.each_while (Always : Registry → Prop)
    (created : ∀ {settings registry}, Registry.create settings = .ok registry → Always registry)
    (added : ∀ {registry factory}, Always registry → Always (registry.add factory).1)
    (kept : ∀ {registry after}, Move registry after → Always registry → Always after)
    (Holds : List Factory → Registry → FactoryId → Factory → Prop)
    (new : ∀ {made : List Factory} {registry : Registry} {factory : Factory}, factory.IsNew →
      made.length = registry.factories.length →
      Holds (made ++ [factory]) (registry.add factory).1 registry.factories.length factory)
    (grown : ∀ {made : List Factory} {registry : Registry} {id factory other},
      Holds made registry id factory →
      Holds (made ++ [other]) (registry.add other).1 id factory)
    (moved : ∀ {made registry after id factory}, Move registry after → Always registry →
      Holds made registry id factory → Holds made after id factory)
    (turned : ∀ {made : List Factory} {registry : Registry} {id factory later},
      Turn registry id factory later →
      (∀ id factory, registry.factory? id = some factory → Holds made registry id factory) →
      Holds made registry id factory → Holds made registry id later)
    {history : History} (reached : history.Reached) {id : FactoryId} {factory : Factory}
    (found : history.registry.factory? id = some factory) :
    Holds history.made history.registry id factory := by
  let All (made : List Factory) (registry : Registry) : Prop :=
    Always registry ∧ made.length = registry.factories.length ∧
      ∀ id factory, registry.factory? id = some factory → Holds made registry id factory
  have all : All history.made history.registry := by
    refine (reached.induct All ?_ ?_ ?_).2
    · intro settings registry start
      have empty := (factories_create start).1
      refine ⟨created start, by rw [empty], fun id factory found => ?_⟩
      simp [Registry.factory?, empty] at found
    · rintro made registry factory isNew _ ⟨always, length, each⟩
      refine ⟨added always, by simp [Registry.add, length], fun id other found => ?_⟩
      obtain ⟨rfl, rfl⟩ | before := factory?_of_add found
      · exact new isNew length
      · exact grown (each id other before)
    · rintro made registry after move _ ⟨always, length, each⟩
      refine ⟨kept move always, length.trans move.length_factories.symm, fun id later found => ?_⟩
      obtain ⟨factory, before, rfl | turn⟩ := move.factory?_before found
      · exact moved move always (each id later before)
      · exact moved move always (turned turn each (each id factory before))
  exact all.2.2 id factory found

/-- What holds of a new factory, and is kept when other factories are made, in every move of the
registry and in every turn of the factory itself, holds of every factory that is reached. -/
theorem Reached.each (Holds : List Factory → Registry → FactoryId → Factory → Prop)
    (new : ∀ {made : List Factory} {registry : Registry} {factory : Factory}, factory.IsNew →
      made.length = registry.factories.length →
      Holds (made ++ [factory]) (registry.add factory).1 registry.factories.length factory)
    (grown : ∀ {made : List Factory} {registry : Registry} {id factory other},
      Holds made registry id factory →
      Holds (made ++ [other]) (registry.add other).1 id factory)
    (moved : ∀ {made registry after id factory}, Move registry after →
      Holds made registry id factory → Holds made after id factory)
    (turned : ∀ {made : List Factory} {registry : Registry} {id factory later},
      Turn registry id factory later →
      (∀ id factory, registry.factory? id = some factory → Holds made registry id factory) →
      Holds made registry id factory → Holds made registry id later)
    {history : History} (reached : history.Reached) {id : FactoryId} {factory : Factory}
    (found : history.registry.factory? id = some factory) :
    Holds history.made history.registry id factory :=
  reached.each_while (fun _ => True) (fun _ => trivial) (fun _ => trivial) (fun _ _ => trivial)
    Holds new grown (fun move _ => moved move) turned found

/-- In a registry that is reached every name is bound to a factory that has it. -/
theorem Reached.bound {history : History} (reached : history.Reached) : history.registry.Bound :=
  (reached.induct (fun _ _ => True) (fun _ => trivial) (fun _ _ _ => trivial)
    fun _ _ _ => trivial).1

/-- In a registry that is reached what is found under a name is a factory. -/
theorem Reached.factory?_of_find {history : History} (reached : history.Reached) {name : Value}
    {id : FactoryId} (found : history.registry.find name = .ok id) :
    ∃ factory, history.registry.factory? id = some factory := by
  obtain ⟨factory, known, _⟩ := reached.bound _ _ (find_eq_ok.1 found)
  exact ⟨factory, known⟩

end History

end Blueprint
