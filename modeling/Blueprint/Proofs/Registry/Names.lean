import Blueprint.Proofs.Name
import Blueprint.Proofs.Registry.History

/-!
# Names in a registry

In a registry that is reached the names of a factory and the name by which it refers to its parent
are canonical, and a factory that is bound under one of its names is bound under all of them. So a
factory refers to the one that is bound under the very text that it holds.
-/
namespace Blueprint

namespace Factory

variable {factory later : Factory}

/-- The names of a factory and that of its parent are canonical. -/
structure Canonical (factory : Factory) : Prop where
  /-- Its names are canonical. -/
  names : ∀ name ∈ factory.names, Name.ofText name = name
  /-- The name of its parent is. -/
  parentRef : ∀ ref, factory.parentRef = some ref → Name.ofText ref = ref

/-- Names taken from an option are canonical. -/
theorem canonical_namesIn {options : Dict} {name : String} {names : List String}
    (given : namesIn options name = .ok names) : ∀ name ∈ names, Name.ofText name = name := by
  obtain ⟨items, _, same⟩ := bind_eq_ok.1 given
  cases same
  intro name member
  obtain ⟨item, _, rfl⟩ := List.mem_map.1 member
  exact Name.ofText_ofValue item

/-- The names of a factory are what the options and the name given with them say. -/
theorem named_ofOptions {settings : Settings} {name : Value} {options : Dict}
    (made : ofOptions settings name options = .ok factory) :
    factory.name = Name.ofValue name ∧ namesIn options "aliases" = .ok factory.aliases ∧
      factory.parentRef = if (option options "parent").truthy then
        some (Name.ofValue (option options "parent")) else none := by
  obtain ⟨aliases, given, made⟩ := bind_eq_ok.1 made
  obtain ⟨traitRefs, _, made⟩ := bind_eq_ok.1 made
  simp only at made
  split at made
  · obtain ⟨strategy, _, made⟩ := bind_eq_ok.1 made
    obtain ⟨overridable, _, made⟩ := bind_eq_ok.1 made
    cases made
    exact ⟨rfl, given, rfl⟩
  · obtain ⟨strategy, _, made⟩ := bind_eq_ok.1 made
    obtain ⟨overridable, _, made⟩ := bind_eq_ok.1 made
    cases made
    exact ⟨rfl, given, rfl⟩

/-- What options describe has canonical names. -/
theorem canonical_ofOptions {settings : Settings} {name : Value} {options : Dict}
    (made : ofOptions settings name options = .ok factory) : factory.Canonical := by
  obtain ⟨own, further, parent⟩ := named_ofOptions made
  refine ⟨fun other member => ?_, fun ref refers => ?_⟩
  · obtain rfl | inside := List.mem_cons.1 member
    · rw [own, Name.ofText_ofValue]
    · exact canonical_namesIn further other inside
  · rw [parent] at refers
    split at refers
    · cases refers
      exact Name.ofText_ofValue _
    · cases refers

/-- Names stay canonical while the options stay. -/
theorem Canonical.congr (canonical : factory.Canonical) (same : factory.SameOptions later) :
    later.Canonical := by
  refine ⟨?_, ?_⟩
  · rw [Factory.names, same.name, same.aliases]
    exact canonical.names
  · rw [same.parentRef]
    exact canonical.parentRef

/-- The parent's name is what a factory refers to by, unless that is empty. -/
theorem parentName?_eq_some {ref : String} :
    factory.parentName? = some ref ↔ factory.parentRef = some ref ∧ ref ≠ "" := by
  simp [parentName?, Option.filter_eq_some_iff]

/-- The parent's name is canonical. -/
theorem Canonical.parentName? {ref : String} (canonical : factory.Canonical)
    (named : factory.parentName? = some ref) : Name.ofText ref = ref :=
  canonical.parentRef ref (parentName?_eq_some.1 named).1

end Factory

namespace Registry

variable {registry after : Registry} {id : FactoryId} {factory : Factory}

/-- A factory that is bound under one of its names is bound under all of them. -/
def Whole (registry : Registry) : Prop :=
  ∀ {name id factory}, registry.names.lookup name = some id →
    registry.factory? id = some factory → ∀ other ∈ factory.names,
      registry.names.lookup other = some id

/-- A name that is bound after a move was bound before, or is bound with all others of a factory. -/
theorem Move.lookup_before {name : String} (move : Move registry after)
    (found : after.names.lookup name = some id) :
    registry.names.lookup name = some id ∨ ∃ factory, registry.factory? id = some factory ∧
      ∀ other ∈ factory.names, after.names.lookup other = some id := by
  cases move with
  | @bound new factory _ known free =>
    obtain ⟨pair, member, _, rfl⟩ | before := Table.lookup_putAll found
    · obtain ⟨own, _, rfl⟩ := List.mem_map.1 member
      exact .inr ⟨factory, known, fun other inside => Table.lookup_putAll_const (.inl inside)⟩
    · exact .inl before
  | turned => exact .inl found
  | trait => exact .inl found
  | model => exact .inl found
  | closed => exact .inl found
  | drawn => exact .inl found

/-- A move keeps factories bound under all of their names. -/
theorem Move.keeps_whole (move : Move registry after) (whole : registry.Whole) : after.Whole := by
  intro name id later bound found other member
  obtain ⟨factory, known, same⟩ := move.factory?_before found
  have named : other ∈ factory.names := by
    obtain rfl | turn := same
    · exact member
    · rwa [Factory.names, ← turn.sameOptions.name, ← turn.sameOptions.aliases]
  obtain before | ⟨its, knownToo, all⟩ := move.lookup_before bound
  · exact move.lookup (whole before known other named)
  · rw [known] at knownToo
    cases knownToo
    exact all other named

/-- A name that is not bound is not found. -/
theorem findText_eq_error {ref : String} {fault : Fault} :
    registry.findText ref = .error fault ↔
      registry.names.lookup (Name.ofText ref) = none ∧
        fault = .notFound .factory (Name.ofText ref) := by
  show registry.find (.text ref) = _ ↔ registry.names.lookup (Name.ofValue (.text ref)) = none ∧
    fault = .notFound .factory (Name.ofValue (.text ref))
  unfold find
  cases missing : registry.names.lookup (Name.ofValue (.text ref)) with
  | none => simp [missing, eq_comm]
  | some other => simp [missing]

end Registry

namespace History

open Registry

variable {history : History} {id : FactoryId} {factory : Factory}

/-- In a registry that is reached names are canonical. -/
theorem Reached.canonical (reached : history.Reached)
    (found : history.registry.factory? id = some factory) : factory.Canonical := by
  obtain ⟨settings, registry, start, operations⟩ := reached
  induction operations generalizing id factory with
  | refl =>
    have empty := (factories_create start).1
    simp [Registry.factory?, empty] at found
  | tail before operation ih =>
    have bound := Reached.bound ⟨settings, registry, start, before⟩
    obtain ⟨_, _, _, new, given, _, added⟩ | ⟨_, moves⟩ := operation.given_or_moves bound
    · rw [added] at found
      obtain ⟨_, rfl⟩ | known := factory?_of_add found
      · exact Factory.canonical_ofOptions given
      · exact ih known
    · let All (registry : Registry) : Prop :=
        ∀ id factory, registry.factory? id = some factory → factory.Canonical
      have each : ∀ {registry after}, Move registry after → registry.Bound → All registry →
          All after := by
        intro registry after move _ all id later found
        obtain ⟨factory, known, rfl | turn⟩ := move.factory?_before found
        · exact all id later known
        · exact (all id factory known).congr turn.sameOptions
      exact moves.keeps each bound (fun _ _ known => ih known) id factory found

/-- In a registry that is reached factories are bound under all of their names. -/
theorem Reached.whole (reached : history.Reached) : history.registry.Whole := by
  refine (reached.induct (fun _ registry => registry.Whole) ?_ ?_ ?_).2
  · intro settings registry created name id factory bound
    rw [(factories_create created).2] at bound
    cases bound
  · intro made registry new _ isBound whole name id factory bound found
    obtain ⟨old, known, _⟩ := isBound name id bound
    rw [factory?_add known] at found
    cases found
    exact whole bound known
  · intro _ registry after move _ whole
    exact move.keeps_whole whole

/-- In a registry that is reached what is registered under a name is a factory that is found under
its own name. -/
theorem Reached.registered (reached : history.Reached) {ref : String}
    (registered : history.registry.findText ref = .ok id) :
    ∃ factory, history.registry.factory? id = some factory ∧
      history.registry.findText factory.name = .ok id := by
  obtain ⟨factory, found, _⟩ := reached.bound _ _ (findText_eq_ok.1 registered)
  have own : factory.name ∈ factory.names := List.mem_cons_self
  refine ⟨factory, found, ?_⟩
  rw [findText_eq_ok, (reached.canonical found).names _ own]
  exact reached.whole (findText_eq_ok.1 registered) found _ own

end History

end Blueprint
