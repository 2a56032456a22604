import Blueprint.Proofs.Registry.Calm
import Blueprint.Proofs.Registry.Sealed

/-!
# Stages of registries

While a factory inherits, it refers to its parent before the parent counts it among its children. So
moves are too small for what holds between relatives. `Stage` lists larger steps, after each of
which relatives know of each other again: a factory changes in nothing that concerns its relatives,
or it is adopted as a whole. Compiling, looking up classes and sealing proceed in such stages.
-/
namespace Blueprint

/-- Two forms of a factory have the same relatives, and allow overrides alike. -/
structure Factory.SameKin (factory later : Factory) : Prop where
  /-- They have inherited from the same factory. -/
  parent : later.parent = factory.parent
  /-- The same factories have inherited from them. -/
  children : later.children = factory.children
  /-- They allow overrides alike. -/
  overridesAllowed : later.overridesAllowed = factory.overridesAllowed

namespace Registry

variable {registry middle after : Registry} {id parentId : FactoryId}
  {factory later child parent : Factory}

/-- One stage of a registry. -/
inductive Stage (registry : Registry) : Registry → Prop where
  /-- A factory changes in nothing that concerns its relatives. -/
  | turned {id : FactoryId} {factory later : Factory}
      (found : registry.factory? id = some factory) (same : factory.SameKin later) :
      Stage registry (registry.put id later)
  /-- A factory without children is adopted by the parent that it has, or by its first one. -/
  | adopted {id parentId : FactoryId} {child parent : Factory}
      (found : registry.factory? id = some child) (childless : child.children = [])
      (known : registry.factory? parentId = some parent) (apart : id ≠ parentId)
      (again : ∀ other, child.parent = some other → other = parentId) :
      Stage registry
        ((registry.put id (heir child parent parentId)).put parentId (parent.follow id))
  /-- Registration ends. -/
  | closed : Stage registry { registry with isSealed := true }
  /-- An id is drawn for a stubbed instance. -/
  | drawn : Stage registry { registry with nextStub := registry.nextStub + 1 }

/-- Stages in turn. -/
abbrev Stages : Registry → Registry → Prop := Relation.ReflTransGen Stage

/-- In a stage nothing is registered. -/
theorem Stage.sameRegistered (stage : Stage registry after) : registry.SameRegistered after := by
  cases stage <;> exact ⟨rfl, rfl, rfl⟩

/-- In stages nothing is registered. -/
theorem Stages.sameRegistered (stages : Stages registry after) :
    registry.SameRegistered after := by
  induction stages with
  | refl => exact .refl registry
  | tail _ stage ih => exact ih.trans stage.sameRegistered

/-- Stages keep the configuration. -/
theorem Stages.settings_eq (stages : Stages registry after) :
    after.settings = registry.settings := by
  induction stages with
  | refl => rfl
  | tail _ stage ih => cases stage <;> exact ih

/-! ### Compiling in stages -/

/-- Every factory that has a parent has the one that is registered under its parent's name. -/
def Steady (registry : Registry) : Prop :=
  ∀ {id factory ref parentId other}, registry.factory? id = some factory →
    factory.parentName? = some ref → registry.findText ref = .ok parentId →
    factory.parent = some other → other = parentId

/-- Where factories are linked, they have the parents that are registered. -/
theorem steady_of_linked
    (linked : ∀ {id factory}, registry.factory? id = some factory → registry.Linked factory) :
    registry.Steady := by
  intro id factory ref parentId other found named registered its
  obtain ⟨own, _, _, same, bound, _⟩ := (linked found).parent its
  rw [named] at same
  cases same
  rw [registered] at bound
  cases bound
  rfl

/-- Starting to compile a factory leaves the parents as they are. -/
theorem steady_start (found : registry.factory? id = some factory) (steady : registry.Steady) :
    (registry.put id { factory with status := .compiling }).Steady := by
  intro other its ref above parent known named registered linked
  obtain ⟨rfl, rfl⟩ | ⟨_, before⟩ := factory?_put known
  · exact steady found named registered linked
  · exact steady before named registered linked

/-- The end of a compilation is a stage, whatever its outcome. -/
theorem stage_finish (found : registry.factory? id = some factory) (outcome : Except Fault Unit) :
    Stage registry (finish id (outcome, registry)).2 := by
  have given : ∀ status, Stage registry (registry.put id { factory with status := status }) :=
    fun status => .turned found ⟨rfl, rfl, rfl⟩
  cases outcome with
  | error fault =>
    rw [finish_of_error found]
    exact given .unsealed
  | ok done =>
    cases expanded : factory.expand with
    | ok list =>
      rw [finish_of_expand found expanded]
      exact given (.sealed list)
    | error fault =>
      rw [finish_of_refused found expanded]
      exact given .unsealed

/-- Compiling a factory proceeds in stages. -/
theorem stages_compile (registry : Registry) (id : FactoryId) (bound : registry.Bound)
    (childless : registry.Childless) (steady : registry.Steady) :
    Stages registry (registry.compile id).2 := by
  induction registry, id using compile.induct with
  | case1 registry id missing =>
    rw [compile_of_none missing]
  | case2 registry id factory found list compiled =>
    rw [compile_of_sealed found compiled]
  | case3 registry id factory found compiling =>
    rw [compile_of_compiling found compiling]
  | case4 registry id factory found unsealed orphan =>
    rw [compile_of_orphan found unsealed orphan]
    have start : Stage registry (registry.put id { factory with status := .compiling }) :=
      .turned found ⟨rfl, rfl, rfl⟩
    exact (Relation.ReflTransGen.single start).tail (stage_finish (factory?_put_self found) _)
  | case5 registry id factory found unsealed started ref named fault missing =>
    rw [compile_of_dangling found unsealed named missing]
  | case6 registry id factory found unsealed started ref named parentId registered fault after
      failed ih =>
    have start : Stage registry started := .turned found ⟨rfl, rfl, rfl⟩
    have boundStarted : started.Bound := (compiles_start found unsealed).bound bound
    have childlessStarted : started.Childless := childless_start found unsealed childless
    have inner := ih boundStarted childlessStarted (steady_start found steady)
    obtain ⟨_, compilation, _⟩ :=
      compilation_compile started parentId boundStarted childlessStarted
    rw [failed] at inner compilation
    rw [compile_of_failed found unsealed named registered failed]
    exact (inner.head start).tail (stage_finish (compilation.factory?_compiling found) _)
  | case7 registry id factory found unsealed started ref named parentId registered after
      done ih =>
    have start : Stage registry started := .turned found ⟨rfl, rfl, rfl⟩
    have boundStarted : started.Bound := (compiles_start found unsealed).bound bound
    have childlessStarted : started.Childless := childless_start found unsealed childless
    have inner := ih boundStarted childlessStarted (steady_start found steady)
    obtain ⟨_, compilation, _⟩ :=
      compilation_compile started parentId boundStarted childlessStarted
    obtain ⟨compiles, parentDone⟩ := compiles_compile started parentId boundStarted
    rw [done] at inner compilation compiles parentDone
    -- the parent is compiled by now, and so it is not the factory itself
    obtain ⟨parent, known, _⟩ := compiles.bound boundStarted _ _
      (findText_eq_ok.1 ((compiles.findText_eq ref).trans registered))
    obtain ⟨list, compiled⟩ := parentDone rfl parent known
    have apart : id ≠ parentId :=
      (compilation.finished_ne found ⟨parent, list, known, compiled⟩).symm
    have noChildren : factory.children = [] := childless found (by rw [unsealed]; rfl)
    let opened : Factory := { factory with status := .compiling }
    have child : after.factory? id = some opened := compilation.factory?_compiling found
    let linked : Registry :=
      (after.put id (heir opened parent parentId)).put parentId (parent.follow id)
    have adopted : Stage after linked :=
      .adopted child noChildren known apart fun other its => steady found named registered its
    have heirThere : linked.factory? id = some (heir opened parent parentId) :=
      (factory?_put_ne apart.symm).trans (factory?_put_self child)
    rw [compile_of_done found unsealed named registered done,
      adopt_eq child noChildren known apart]
    exact ((inner.head start).tail adopted).tail (stage_finish heirThere _)

end Registry

/-! ### Operations in stages -/

namespace History

open Registry

variable {history after : History}

/-- In a registry that is reached compiling a factory proceeds in stages. -/
theorem Reached.stages_compile (reached : history.Reached) (id : FactoryId) :
    Stages history.registry (history.registry.compile id).2 :=
  Registry.stages_compile history.registry id reached.bound reached.calm.childless
    (steady_of_linked fun found => reached.linked found)

/-- Looking up the model class of a factory is a stage at most. -/
theorem stages_model (registry : Registry) (id : FactoryId) :
    Stages registry (Registry.model id registry).2 := by
  unfold Registry.model
  split
  · exact .refl
  · rename_i factory found
    split
    · exact .refl
    · split
      · exact .single (.turned found ⟨rfl, rfl, rfl⟩)
      · exact .refl

/-- Changing the definition of a factory is a stage at most. -/
theorem stages_tryModify {registry after : Registry} {id : FactoryId} {edit : Factory.Edit}
    (done : registry.tryModify id edit.apply = .ok after) : Stages registry after := by
  unfold tryModify at done
  cases found : registry.factory? id with
  | none =>
    simp only [found] at done
    cases done
    exact .refl
  | some factory =>
    simp only [found] at done
    obtain ⟨later, changed, put⟩ := bind_eq_ok.1 done
    cases put
    obtain ⟨_, definition, traits, finalizer, overridable, rfl⟩ := apply_edit_eq_ok changed
    exact .single (.turned found ⟨rfl, rfl, overridable⟩)

/-- Sealing a registry, or failing to, proceeds in stages. -/
theorem Reached.stages_close (reached : history.Reached) :
    Stages history.registry (close history.registry).2 := by
  let Holds (registry : Registry) : Prop :=
    (history.withRegistry registry).Reached ∧ Stages history.registry registry
  have compiling : Holds (forEach (fun id registry => registry.compile id)
      history.registry.registered history.registry).2 :=
    forEach_keeps (fun id registry held =>
      ⟨held.1.tail (.compiled id), held.2.trans (held.1.stages_compile id)⟩) _ ⟨reached, .refl⟩
  unfold close
  split
  · exact .refl
  · split
    · rename_i failed
      rw [failed] at compiling
      exact compiling.2
    · rename_i after compiled
      rw [compiled] at compiling
      have each : ∀ id registry, Stages history.registry registry →
          Stages history.registry (Registry.model id registry).2 :=
        fun id registry held => held.trans (stages_model registry id)
      have classing : Stages history.registry (forEach model after.registered after).2 :=
        forEach_keeps each _ compiling.2
      split
      · rename_i failed
        rwa [failed] at classing
      · rename_i classed
        rw [classed] at classing
        exact classing.tail .closed

/-- What an operation comes to for the relations between factories. -/
inductive Outline (history : History) : History → Prop where
  /-- A factory is made. -/
  | made {name : Value} {options : Dict} {factory : Factory}
      (given : Factory.ofOptions history.registry.settings name options = .ok factory) :
      Outline history
        { history with
          registry := (history.registry.add factory).1, made := history.made ++ [factory] }
  /-- Something is registered, and all factories stay as they are. -/
  | entered {after : Registry} (factories : after.factories = history.registry.factories)
      (settings : after.settings = history.registry.settings) :
      Outline history (history.withRegistry after)
  /-- A factory is told to allow overrides. -/
  | permitted (id : FactoryId) :
      Outline history
        { history with
          registry := history.registry.allowOverrides id, permitted := id :: history.permitted }
  /-- The registry proceeds in stages. -/
  | staged {after : Registry} (stages : Stages history.registry after) :
      Outline history (history.withRegistry after)

/-- Every operation comes to one of these. -/
theorem Operation.outline (operation : Operation history after) (reached : history.Reached) :
    Outline history after := by
  cases operation with
  | made checked given => exact .made given
  | registered done => exact .entered (factories_register done) (moves_register done).settings_eq
  | traitRegistered done =>
    exact .entered (factories_registerTrait done) (moves_registerTrait done).settings_eq
  | modelRegistered done =>
    exact .entered (factories_registerModel done) (moves_registerModel done).settings_eq
  | edited done => exact .staged (stages_tryModify done)
  | permitted id => exact .permitted id
  | compiled id => exact .staged (reached.stages_compile id)
  | classed id => exact .staged (stages_model _ id)
  | closed => exact .staged reached.stages_close
  | drawn => exact .staged (.single .drawn)

end History

end Blueprint
