import Blueprint.Proofs.Registry.Fate

/-!
# Registries between operations

Between operations no factory is being compiled, and only compiled factories have children. Apart
from compiling, no operation changes how far a factory is compiled, or its children.
-/
namespace Blueprint

namespace Registry

variable {registry after : Registry} {id : FactoryId} {factory later : Factory}

/-- A registry between operations. -/
structure Calm (registry : Registry) : Prop where
  /-- No factory is being compiled. -/
  settled : ∀ {id factory}, registry.factory? id = some factory → factory.status ≠ .compiling
  /-- Only compiled factories have children. -/
  childless : registry.Childless

/-- No factory changes how far it is compiled, or its children. -/
def Idles (registry after : Registry) : Prop :=
  ∀ id later, after.factory? id = some later → ∃ factory, registry.factory? id = some factory ∧
    later.status = factory.status ∧ later.children = factory.children

/-- Where the factories are the same, they idle. -/
theorem Idles.of_factories (same : after.factories = registry.factories) : Idles registry after := by
  intro id later found
  rw [factory?, same] at found
  exact ⟨later, found, rfl, rfl⟩

/-- Where one factory changes neither its status nor its children, all idle. -/
theorem Idles.put (found : registry.factory? id = some factory)
    (status : later.status = factory.status) (children : later.children = factory.children) :
    Idles registry (registry.put id later) := by
  intro other now known
  obtain ⟨rfl, rfl⟩ | ⟨_, before⟩ := factory?_put known
  · exact ⟨factory, found, status, children⟩
  · exact ⟨now, before, rfl, rfl⟩

/-- Letting factories allow overrides leaves them idle. -/
theorem Relaxes.idles (relaxes : Relaxes registry after) : Idles registry after := by
  intro id later found
  obtain ⟨chosen, each⟩ := relaxes.factories
  rw [each] at found
  obtain ⟨factory, known, rfl⟩ := Option.map_eq_some_iff.1 found
  refine ⟨factory, known, ?_⟩
  split
  · exact ⟨rfl, rfl⟩
  · exact ⟨rfl, rfl⟩

namespace Calm

/-- A registry stays calm while its factories idle. -/
theorem idle (calm : registry.Calm) (idles : Idles registry after) : after.Calm := by
  refine ⟨fun found => ?_, fun found uncompiled => ?_⟩
  · obtain ⟨factory, known, status, _⟩ := idles _ _ found
    rw [status]
    exact calm.settled known
  · obtain ⟨factory, known, status, children⟩ := idles _ _ found
    rw [children]
    exact calm.childless known (status ▸ uncompiled)

/-- A registry is calm again after a factory is compiled, or fails to be. -/
theorem compile (calm : registry.Calm) (bound : registry.Bound) (id : FactoryId) :
    (registry.compile id).2.Calm := by
  obtain ⟨stopped, compilation, _⟩ := compilation_compile registry id bound calm.childless
  have moves := (compiles_compile registry id bound).1.moves
  have each : ∀ {other later}, (registry.compile id).2.factory? other = some later →
      later.status ≠ .compiling ∧ (later.status.isSealed = false → later.children = []) := by
    intro other later found
    obtain ⟨factory, known⟩ := moves.factory?_before found
    obtain ⟨now, there, fate | ⟨fault, halted⟩⟩ := compilation.each known
    · rw [found] at there
      cases there
      cases fate with
      | kept => exact ⟨calm.settled known, calm.childless known⟩
      | compiled _ compiled => simp [compiled, Status.isSealed]
      | followed compiled children => simp [compiled, Status.isSealed]
    · obtain ⟨before, unsealed, _, _, _, _, _, stays, _⟩ := compilation.stops halted
      rw [stays] at found
      cases found
      rw [heir_status, heir_children, unsealed]
      exact ⟨by simp, fun _ => calm.childless before (by rw [unsealed]; rfl)⟩
  exact ⟨fun found => (each found).1, fun found => (each found).2⟩

end Calm

/-! ### Operations -/

/-- Registering a factory changes no factory. -/
theorem factories_register (done : registry.register id = .ok after) :
    after.factories = registry.factories := by
  unfold register at done
  split at done
  · cases done
    rfl
  · obtain ⟨_, bound⟩ := whileOpen_eq_ok.1 done
    split at bound
    · cases bound
    · cases bound
      rfl

/-- Registering a trait changes no factory. -/
theorem factories_registerTrait {trait : Trait} (done : registry.registerTrait trait = .ok after) :
    after.factories = registry.factories := by
  obtain ⟨_, entered⟩ := whileOpen_eq_ok.1 done
  split at entered
  · cases entered
  · cases entered
    rfl

/-- Registering a model class changes no factory. -/
theorem factories_registerModel {model identifier : String}
    (done : registry.registerModel model identifier = .ok after) :
    after.factories = registry.factories := by
  unfold registerModel at done
  extract_lets name key at done
  obtain ⟨_, entered⟩ := whileOpen_eq_ok.1 done
  split at entered
  · split at entered
    · cases entered
      rfl
    · cases entered
  · cases entered
    rfl

/-- Changing the definition of a factory leaves all idle. -/
theorem idles_tryModify {edit : Factory.Edit}
    (done : registry.tryModify id edit.apply = .ok after) : Idles registry after := by
  unfold tryModify at done
  cases found : registry.factory? id with
  | none =>
    simp only [found] at done
    cases done
    exact .of_factories rfl
  | some factory =>
    simp only [found] at done
    obtain ⟨later, changed, put⟩ := bind_eq_ok.1 done
    cases put
    obtain ⟨_, _, _, _, _, rfl⟩ := apply_edit_eq_ok changed
    exact .put found rfl rfl

/-- Looking up the model class of a factory leaves all idle. -/
theorem idles_model (registry : Registry) (id : FactoryId) :
    Idles registry (Registry.model id registry).2 := by
  unfold model
  split
  · exact .of_factories rfl
  · rename_i factory found
    split
    · exact .of_factories rfl
    · split
      · exact .put found rfl rfl
      · exact .of_factories rfl

/-- Doing something for several factories keeps what doing it for one keeps. -/
theorem forEach_keeps {α : Type} {step : FactoryId → Step α} {Holds : Registry → Prop}
    (each : ∀ id registry, Holds registry → Holds (step id registry).2) (ids : List FactoryId)
    (held : Holds registry) : Holds (forEach step ids registry).2 := by
  induction ids generalizing registry with
  | nil => exact held
  | cons id rest ih =>
    have next := each id registry held
    rw [forEach]
    split
    · rename_i done
      rw [done] at next
      exact ih next
    · rename_i failed
      rwa [failed] at next

/-- Sealing a registry, or failing to, leaves it calm. -/
theorem calm_close (bound : registry.Bound) (calm : registry.Calm) :
    (close registry).2.Calm := by
  let Holds (registry : Registry) : Prop := registry.Bound ∧ registry.Calm
  have compiling : Holds
      (forEach (fun id registry => registry.compile id) registry.registered registry).2 :=
    forEach_keeps (fun id registry held =>
      ⟨(compiles_compile registry id held.1).1.bound held.1, held.2.compile held.1 id⟩) _
      ⟨bound, calm⟩
  unfold close
  split
  · exact calm
  · split
    · rename_i failed
      rw [failed] at compiling
      exact compiling.2
    · rename_i after compiled
      rw [compiled] at compiling
      have classing : (forEach model after.registered after).2.Calm :=
        forEach_keeps (fun id registry calm => calm.idle (idles_model registry id)) _ compiling.2
      split
      · rename_i failed
        rwa [failed] at classing
      · rename_i classed
        rw [classed] at classing
        exact classing.idle (.of_factories rfl)

end Registry

namespace History

open Registry

/-- A registry that is reached is calm. -/
theorem Reached.calm {history : History} (reached : history.Reached) : history.registry.Calm := by
  obtain ⟨settings, registry, start, operations⟩ := reached
  induction operations with
  | refl =>
    have empty := (factories_create start).1
    refine ⟨fun found => ?_, fun found => ?_⟩
    · simp [Registry.factory?, empty] at found
    · simp [Registry.factory?, empty] at found
  | tail before operation ih =>
    have bound := Reached.bound ⟨settings, registry, start, before⟩
    cases operation with
    | made checked given =>
      have new := Factory.isNew_ofOptions given
      refine ⟨fun found => ?_, fun found uncompiled => ?_⟩
      · obtain ⟨_, rfl⟩ | known := factory?_of_add found
        · simp [new.status]
        · exact ih.settled known
      · obtain ⟨_, rfl⟩ | known := factory?_of_add found
        · exact new.children
        · exact ih.childless known uncompiled
    | registered done => exact ih.idle (.of_factories (factories_register done))
    | traitRegistered done => exact ih.idle (.of_factories (factories_registerTrait done))
    | modelRegistered done => exact ih.idle (.of_factories (factories_registerModel done))
    | edited done => exact ih.idle (idles_tryModify done)
    | permitted id => exact ih.idle (relaxes_allowOverrides _ id).idles
    | compiled id => exact ih.compile bound id
    | classed id => exact ih.idle (idles_model _ id)
    | closed => exact calm_close bound ih
    | drawn => exact ih.idle (.of_factories rfl)

end History

end Blueprint
