import Blueprint.Registry.Compile
import Blueprint.Strategy.Choice

/-!
# Resolving traits, attributes and classes

A trait is sought in the factory that refers to it, then along its parents as the registry knows
them now, and last in the registry. The attributes of a factory are those of its traits, of which
the first referred to wins, under its own ones and over those of the parent from which it has
inherited.
-/
namespace Blueprint.Registry

/-- What is wrong when the search for a trait comes back to a factory. -/
def traitCycleFault (registry : Registry) (factory : Factory) (name : String) : Fault :=
  match registry.parentChain factory with
  | .ok chain => .traitCycle name chain
  | .error fault => fault

/-- `Factory._resolve_trait` — seeks a trait from a factory on; `seen` holds the names of the
factories sought before. -/
def seekTrait (registry : Registry) (name : String) :
    Nat → List String → FactoryId → Except Fault Trait
  | 0, _, _ => .error .tooDeep
  | fuel + 1, seen, id =>
    match registry.factory? id with
    | none => registry.trait (.text name)
    | some factory =>
      match factory.trait? name with
      | some trait => .ok trait
      | none =>
        match factory.parentName? with
        | none => registry.trait (.text name)
        | some ref =>
          let seen := factory.name :: seen
          if seen.contains ref then .error (registry.traitCycleFault factory name)
          else do
            let parent ← registry.findText ref
            seekTrait registry name fuel seen parent

/-- `Factory.trait_by_name` — the trait that a name means for a factory. -/
def traitOf (registry : Registry) (id : FactoryId) (name : Value) : Except Fault Trait :=
  registry.seekTrait (Name.ofValue name) (2 * registry.factories.length + 2) [] id

/-- `Factory.attributes` — its first loop: the attributes of the traits of a factory, the last
referred to first. -/
def traitLists (registry : Registry) (id : FactoryId) (factory : Factory) :
    Except Fault (List AttributeList) := do
  let traits ← factory.traitRefs.reverse.mapM fun name => registry.traitOf id (.text name)
  traits.mapM Trait.attributes

/-- `Factory.attributes` — once compiled: the attributes of a factory and of those from which it has
inherited, at most `fuel` of them. -/
def resolve (registry : Registry) : Nat → FactoryId → Except Fault AttributeList
  | 0, _ => .error .tooDeep
  | fuel + 1, id =>
    match registry.factory? id with
    | none => .ok {}
    | some factory => do
      let layers := (← registry.traitLists id factory) ++ [factory.compiled]
      let list := layers.foldl AttributeList.override {}
      match factory.parent with
      | none => .ok list
      | some parent => do .ok (list.inherit (← resolve registry fuel parent))

/-- `Factory.attributes` — the attributes of a factory, which is compiled first. -/
def attributes (id : FactoryId) : Step AttributeList := fun registry =>
  match registry.compile id with
  | (.ok (), after) => (after.resolve (after.factories.length + 1) id, after)
  | (.error fault, after) => (.error fault, after)

/-- An operation with a view of what it gives. -/
def Step.map {α β : Type} (view : α → β) (step : Step α) : Step β := fun registry =>
  let (outcome, after) := step registry
  (outcome.map view, after)

/-- `Factory.callbacks` — the callbacks of a factory, which is compiled first. -/
def callbacks (id : FactoryId) : Step (List Callback) :=
  (attributes id).map AttributeList.callbacks

/-- `Factory.associations` — the associations among the attributes of a factory, which is compiled
first. -/
def associations (id : FactoryId) : Step (List Attribute) :=
  (attributes id).map AttributeList.associations

/-- `Factory.default_strategy` — the strategy of a factory when none is asked for. -/
def strategyOf (registry : Registry) (id : FactoryId) : Except Fault Strategy :=
  match (registry.factory? id).bind Factory.strategy with
  | some strategy => .ok strategy
  | none => do Strategy.ofValue (.text (← registry.settings.defaultStrategy))

/-- `Factory.build_class` — the model class of a factory, which is looked up once and kept. -/
def model (id : FactoryId) : Step Value := fun registry =>
  match registry.factory? id with
  | none => (.error .wrongType, registry)
  | some factory =>
    match factory.model with
    | some model => (.ok model, registry)
    | none =>
      match registry.modelFor factory.classIdentifier with
      | .ok model => (.ok model, registry.put id { factory with model := some model })
      | .error fault => (.error fault, registry)

/-- Does something for several factories in turn, until it fails for one. -/
def forEach {α : Type} (step : FactoryId → Step α) : List FactoryId → Step Unit
  | [], registry => (.ok (), registry)
  | id :: ids, registry =>
    match step id registry with
    | (.ok _, after) => forEach step ids after
    | (.error fault, after) => (.error fault, after)

/-- `Registry.seal` — compiles all registered factories, looks up their model classes, and ends
registration. -/
def close : Step Unit := fun registry =>
  if registry.isSealed then (.ok (), registry)
  else
    match forEach (fun id registry => registry.compile id) registry.registered registry with
    | (.error fault, after) => (.error fault, after)
    | (.ok (), after) =>
      match forEach model after.registered after with
      | (.error fault, after) => (.error fault, after)
      | (.ok (), after) => (.ok (), { after with isSealed := true })

end Blueprint.Registry
