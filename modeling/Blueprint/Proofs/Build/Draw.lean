import Blueprint.Proofs.Build.Quiet
import Blueprint.Proofs.Build.Session

/-!
# Ids of stubbed instances

A registry gives out ids one after the other. In whatever a session does, the ids that are drawn are
consecutive from the first one that the configuration names.
-/
namespace Blueprint

/-! ### Consecutive ids -/

/-- Some ids, one after the other from a first one on. -/
def idsFrom (first : Int) (count : Nat) : List Int :=
  (List.range count).map fun n : Nat => first + (n : Int)

/-- Ids go on with the next one. -/
theorem idsFrom_add (first : Int) (count more : Nat) :
    idsFrom first (count + more) = idsFrom first count ++ idsFrom (first + count) more := by
  simp only [idsFrom, List.range_add, List.map_append, List.map_map]
  refine congrArg _ (List.map_congr_left fun n _ => ?_)
  simp only [Function.comp_apply, Int.natCast_add]
  omega

/-- Ids are given out in ascending order, so that no two of them are the same. -/
theorem pairwise_idsFrom (first : Int) (count : Nat) : (idsFrom first count).Pairwise (· < ·) := by
  refine List.pairwise_map.2 (List.pairwise_lt_range.imp fun {n m} less => ?_)
  omega

/-- All that is drawn between two worlds are the next ids of the registry, one after the other. -/
def World.Numbers (world after : World) : Prop :=
  ∃ count, after.seen Event.drawn? =
      world.seen Event.drawn? ++ idsFrom world.registry.nextStub count ∧
    after.registry.nextStub = world.registry.nextStub + count

namespace World.Numbers

variable {world after : World}

instance : Std.Refl World.Numbers := ⟨fun _ => ⟨0, by simp [idsFrom]⟩⟩

instance : IsTrans World World.Numbers := ⟨fun world middle last first second => by
  obtain ⟨count, drawn, next⟩ := first
  obtain ⟨more, further, then_⟩ := second
  refine ⟨count + more, ?_, ?_⟩
  · rw [further, drawn, next, idsFrom_add, List.append_assoc]
  · rw [then_, next, Int.natCast_add, Int.add_assoc]⟩

/-- Nothing is drawn where the next id and the log are the same, but for what draws no id. -/
theorem of_same (drawn : after.seen Event.drawn? = world.seen Event.drawn?)
    (next : after.registry.nextStub = world.registry.nextStub) : world.Numbers after :=
  ⟨0, by simp [drawn, next, idsFrom]⟩

/-- A step draws the next id or none. -/
theorem of_step (step : World.Step world after) : world.Numbers after := by
  cases step with
  | logged event drawsNone => exact of_same (by simp [seen, drawsNone]) rfl
  | counted name n => exact of_same rfl rfl
  | altered serial fields => exact of_same rfl rfl
  | drawn => exact ⟨1, by simp [seen, Event.drawn?, Registry.drawStub, idsFrom], rfl⟩
  | constructed name arguments => exact of_same (by simp [seen, Event.drawn?]) rfl
  | compiled id =>
    exact of_same rfl (Registry.Reworks.compile world.registry id).nextStub
  | classed id =>
    exact of_same rfl (Registry.Reworks.model world.registry id).nextStub

/-- Steps in turn draw the next ids. -/
theorem of_steps (steps : World.Steps world after) : world.Numbers after := by
  induction steps with
  | refl => exact refl_of World.Numbers world
  | tail _ step ih => exact IsTrans.trans _ _ _ ih (of_step step)

end World.Numbers

/-! ### What sessions draw -/

namespace Registry

variable {registry after : Registry}

/-- Work on factories that is done for several of them brings in no code. -/
theorem Reworks.forEach {α : Type} {step : FactoryId → Step α}
    (each : ∀ id registry, Reworks registry (step id registry).2) (ids : List FactoryId)
    (registry : Registry) : registry.Reworks (forEach step ids registry).2 := by
  induction ids generalizing registry with
  | nil => exact .refl registry
  | cons id rest ih =>
    have first := each id registry
    rw [Registry.forEach]
    cases done : step id registry with
    | mk outcome middle =>
      rw [done] at first
      cases outcome with
      | error fault => exact first
      | ok value => exact first.trans (ih middle)

/-- Sealing a registry draws no id. -/
theorem nextStub_close (registry : Registry) : (close registry).2.nextStub = registry.nextStub := by
  have compiled := Reworks.forEach (fun id registry => .compile registry id) registry.registered
    registry
  unfold close
  split
  · rfl
  · split
    · rename_i fault after failed
      rw [failed] at compiled
      exact compiled.nextStub
    · rename_i after done
      rw [done] at compiled
      have same : after.nextStub = registry.nextStub := compiled.nextStub
      have classed := Reworks.forEach (fun id registry => .model registry id) after.registered after
      split
      · rename_i fault last failed
        rw [failed] at classed
        exact classed.nextStub.trans same
      · rename_i last done
        rw [done] at classed
        exact classed.nextStub.trans same

/-- Registering a factory draws no id. -/
theorem nextStub_register {id : FactoryId} (done : registry.register id = .ok after) :
    after.nextStub = registry.nextStub := by
  unfold register at done
  split at done
  · cases done
    rfl
  · obtain ⟨_, registered⟩ := whileOpen_eq_ok.1 done
    split at registered
    · cases registered
    · cases registered
      rfl

/-- Registering a trait draws no id. -/
theorem nextStub_registerTrait {trait : Trait} (done : registry.registerTrait trait = .ok after) :
    after.nextStub = registry.nextStub := by
  obtain ⟨_, registered⟩ := whileOpen_eq_ok.1 done
  split at registered
  · cases registered
  · cases registered
    rfl

/-- Registering a model class draws no id. -/
theorem nextStub_registerModel {model identifier : String}
    (done : registry.registerModel model identifier = .ok after) :
    after.nextStub = registry.nextStub := by
  unfold registerModel at done
  extract_lets name key at done
  obtain ⟨_, registered⟩ := whileOpen_eq_ok.1 done
  split at registered
  · split at registered
    · cases registered
      rfl
    · cases registered
  · cases registered
    rfl

/-- Changing a factory draws no id. -/
theorem nextStub_tryModify {id : FactoryId} {change : Factory → Except Fault Factory}
    (done : registry.tryModify id change = .ok after) : after.nextStub = registry.nextStub := by
  unfold tryModify at done
  split at done
  · obtain ⟨factory, _, same⟩ := bind_eq_ok.1 done
    cases same
    rfl
  · cases done
    rfl

end Registry

namespace Build

variable {α : Type}

/-- A change of the registry that keeps the next id draws none. -/
theorem numbers_changeRegistry {change : Registry → Except Fault Registry}
    (keeps : ∀ registry after, change registry = .ok after → after.nextStub = registry.nextStub) :
    Keeps World.Numbers (changeRegistry change) := by
  intro world
  cases done : change world.registry with
  | error fault =>
    rw [changeRegistry_of_error done]
    exact refl_of World.Numbers world
  | ok after =>
    rw [changeRegistry_of_ok done]
    exact .of_same rfl (keeps _ _ done)

/-- An operation on the registry that keeps the next id draws none. -/
theorem numbers_onRegistry {step : Registry.Step α}
    (keeps : ∀ registry, (step registry).2.nextStub = registry.nextStub) :
    Keeps World.Numbers (onRegistry step) :=
  fun world => .of_same rfl (keeps world.registry)

/-- What walks draws the next ids. -/
theorem Walks.numbers {build : Build α} (walks : build.Walks) : Keeps World.Numbers build :=
  fun world => .of_steps (walks world)

/-- What is about a factory draws what is drawn if it is there. -/
theorem numbers_about {build : Build α} (numbers : Keeps World.Numbers build) (id : FactoryId) :
    Keeps World.Numbers (about id build) := by
  intro world
  cases found : world.registry.factory? id with
  | none =>
    rw [run_about_of_none found]
    exact refl_of World.Numbers world
  | some factory =>
    rw [run_about_of_some found]
    exact numbers world

/-- A reply draws nothing more. -/
theorem numbers_replying {build : Build α} (numbers : Keeps World.Numbers build)
    (reply : α → Reply) : Keeps World.Numbers (replying reply build) := by
  intro world
  rw [run_replying]
  exact numbers world

/-- Making a factory draws no id. -/
theorem numbers_makeFactory (name : Value) (options : Dict) :
    Keeps World.Numbers (makeFactory name options) := by
  have asked : ∀ {α : Type} (view : World → Except Fault α), Keeps World.Numbers (ask view) :=
    fun view => (walks_ask view).numbers
  refine (asked _).bind fun warning => ?_
  cases warning with
  | none => exact (asked _)
  | some text => exact (walks_emit rfl).numbers.bind fun _ => asked _

end Build

namespace Request

open Build

/-- Serving a request draws the next ids. -/
theorem numbers_serve (request : Request) : Keeps World.Numbers request.serve := by
  have counts := Runner.walks_standard
  cases request with
  | define name options named =>
    refine numbers_replying ?_ _
    refine (walks_ofExcept _).numbers.bind fun given => (numbers_makeFactory _ _).bind fun made => ?_
    refine numbers_onRegistry fun registry => ?_
    cases done : (registry.add made).1.register (registry.add made).2 with
    | error fault => simp only [done]
    | ok after =>
      simp only [done]
      exact (Registry.nextStub_register done).trans rfl
  | make name options =>
    exact numbers_replying
      ((numbers_makeFactory _ _).bind fun made => numbers_onRegistry fun registry => rfl) _
  | register id =>
    exact numbers_about (numbers_replying
      (numbers_changeRegistry fun _ _ => Registry.nextStub_register) _) id
  | registerTrait trait =>
    exact numbers_replying (numbers_changeRegistry fun _ _ => Registry.nextStub_registerTrait) _
  | registerModel name identifier =>
    exact numbers_replying (numbers_changeRegistry fun _ _ => Registry.nextStub_registerModel) _
  | allowOverrides id =>
    refine numbers_about (numbers_replying (numbers_changeRegistry fun registry after done => ?_) _)
      id
    cases done
    exact (Registry.Reworks.allowOverrides registry id).nextStub
  | edit id change =>
    exact numbers_about (numbers_replying
      (numbers_changeRegistry fun _ _ => Registry.nextStub_tryModify) _) id
  | compile id => exact numbers_about (numbers_replying (walks_compile id).numbers _) id
  | attributes id => exact numbers_about (numbers_replying (walks_attributes id).numbers _) id
  | model id => exact numbers_about (numbers_replying (walks_model id).numbers _) id
  | run id choice overrides =>
    exact numbers_about (numbers_replying (counts id choice overrides).numbers _) id
  | runNamed name choice overrides =>
    exact numbers_replying (counts.named name choice overrides).numbers _
  | drawStub => exact numbers_replying walks_drawStub.numbers _
  | close => exact numbers_replying (numbers_onRegistry Registry.nextStub_close) _

end Request

/-- Requests in turn draw the next ids. -/
theorem World.numbers_after (world : World) (requests : List Request) :
    world.Numbers (world.after requests) := by
  induction requests generalizing world with
  | nil => exact refl_of World.Numbers world
  | cons request rest ih => exact IsTrans.trans _ _ _ (request.numbers_serve world) (ih _)

end Blueprint
