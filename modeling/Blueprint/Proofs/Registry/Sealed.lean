import Blueprint.Proofs.Registry.Extension

/-!
# Sealed registries

Once a registry is sealed nothing more is registered in it. Every factory that is registered then is
compiled, and its model class is known.
-/
namespace Blueprint.Registry

variable {registry after : Registry}

/-! ### What is registered -/

/-- Two registries have the same factories, traits and model classes registered. -/
structure SameRegistered (registry after : Registry) : Prop where
  /-- They have the same factories by name. -/
  names : after.names = registry.names
  /-- They have the same traits. -/
  traits : after.traits = registry.traits
  /-- They have the same model classes. -/
  models : after.models = registry.models

theorem SameRegistered.refl (registry : Registry) : registry.SameRegistered registry :=
  ⟨rfl, rfl, rfl⟩

theorem SameRegistered.trans {last : Registry} (first : registry.SameRegistered after)
    (second : after.SameRegistered last) : registry.SameRegistered last :=
  ⟨second.names.trans first.names, second.traits.trans first.traits,
    second.models.trans first.models⟩

/-- In a move of a sealed registry nothing more is registered. -/
theorem Move.sameRegistered (move : Move registry after) (isSealed : registry.isSealed = true) :
    registry.SameRegistered after := by
  cases move with
  | bound isOpen | trait _ isOpen | model _ _ isOpen _ =>
    rw [isSealed] at isOpen
    cases isOpen
  | turned => exact ⟨rfl, rfl, rfl⟩
  | closed => exact ⟨rfl, rfl, rfl⟩
  | drawn => exact ⟨rfl, rfl, rfl⟩

/-- Whatever is done with a sealed registry, nothing more is registered. -/
theorem sameRegistered_of_sealed {history later : History} (reached : history.Reached)
    (isSealed : history.registry.isSealed = true) (operations : History.Operations history later) :
    history.registry.SameRegistered later.registry := by
  induction operations with
  | refl => exact .refl _
  | @tail middle _ before operation ih =>
    have bound : middle.registry.Bound := (reached.trans before).bound
    have still : middle.registry.isSealed = true :=
      (History.Operations.extends before reached.bound).isSealed isSealed
    obtain ⟨factory, _, _, added⟩ | ⟨_, moves⟩ := operation.made_or_moves bound
    · rw [added]
      exact ⟨ih.names, ih.traits, ih.models⟩
    · let Held (other : Registry) : Prop :=
        middle.registry.SameRegistered other ∧ other.isSealed = true
      have step : ∀ {one next}, Move one next → one.Bound → Held one → Held next :=
        fun move _ held => ⟨held.1.trans (move.sameRegistered held.2), move.isSealed held.2⟩
      exact ih.trans (moves.keeps step bound ⟨.refl _, still⟩).1

/-! ### What is ready -/

/-- A registry that is ready once it is sealed is so after a move. -/
theorem Move.ready (move : Move registry after) (ready : registry.isSealed = true → registry.Ready)
    (isSealed : after.isSealed = true) : after.Ready := by
  cases move with
  | turned found turn =>
    intro name id later bound there
    obtain ⟨before, known, rfl | turn⟩ := (Move.turned found turn).factory?_before there
    · exact ready isSealed name id later bound known
    · obtain ⟨⟨list, compiled⟩, model, held⟩ := ready isSealed name id before bound known
      exact ⟨⟨list, turn.status_of_sealed compiled⟩, model, turn.model held⟩
  | bound isOpen | trait _ isOpen | model _ _ isOpen _ =>
    rw [show registry.isSealed = true from isSealed] at isOpen
    cases isOpen
  | closed ready => exact ready
  | drawn => exact ready isSealed

/-- In a sealed registry that is reached every registered factory is compiled, and its model class
is known. -/
theorem ready_of_sealed {history : History} (reached : history.Reached)
    (isSealed : history.registry.isSealed = true) : history.registry.Ready := by
  have all := (reached.induct (fun _ registry => registry.isSealed = true → registry.Ready) ?_ ?_
    fun move _ ready => move.ready ready).2
  · exact all isSealed
  · intro settings registry created _ name id factory registered
    rw [(History.factories_create created).2] at registered
    cases registered
  · intro made registry new _ bound ready isSealed name id factory registered found
    obtain ⟨old, known, _⟩ := bound name id registered
    rw [factory?_add known] at found
    cases found
    exact ready isSealed name id factory registered known

/-- What is registered in a sealed registry that is reached is a compiled factory with its model
class. -/
theorem exists_ready {history : History} (reached : history.Reached)
    (isSealed : history.registry.isSealed = true) {name : String} {id : FactoryId}
    (registered : history.registry.names.lookup name = some id) :
    ∃ factory list model, history.registry.factory? id = some factory ∧
      factory.status = .sealed list ∧ factory.model = some model := by
  obtain ⟨factory, found, _⟩ := reached.bound _ _ registered
  obtain ⟨⟨list, compiled⟩, model, held⟩ :=
    ready_of_sealed reached isSealed _ _ _ registered found
  exact ⟨factory, list, model, found, compiled, held⟩

/-- A registry is sealed once sealing it succeeds. -/
theorem isSealed_of_close (closed : close registry = (.ok (), after)) : after.isSealed = true := by
  unfold close at closed
  split at closed
  · rename_i isSealed
    cases closed
    exact isSealed
  · split at closed
    · cases closed
    · split at closed
      · cases closed
      · cases closed
        rfl

end Blueprint.Registry
