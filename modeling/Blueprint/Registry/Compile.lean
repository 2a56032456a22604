import Blueprint.Registry.Overrides

/-!
# Compiling factories

To compile a factory, its parent is compiled first and what it leaves to be inherited is taken
over; then its declarations become attributes. A factory that is met again while it is being
compiled closes a cycle of parents. Whatever goes wrong leaves the factory unsealed, but what was
inherited stays.
-/
namespace Blueprint.Registry

/-- An operation on a registry: its outcome, and the registry afterwards. -/
abbrev Step (α : Type) := Registry → Except Fault α × Registry

/-- The names from one parent to the next, up to the first that is met again. -/
def chainFrom (registry : Registry) : Nat → List String → Option String → Except Fault (List String)
  | 0, chain, _ => .ok chain
  | fuel + 1, chain, ref =>
    match ref with
    | none => .ok chain
    | some ref =>
      if ref.isEmpty then .ok chain
      else if chain.contains ref then .ok (chain ++ [ref])
      else do
        let id ← registry.findText ref
        let next := (registry.factory? id).bind Factory.parentRef
        chainFrom registry fuel (chain ++ [ref]) next

/-- `Factory._parent_chain` — the names from a factory to its parent, the parent's parent and so on,
up to the first name that is met again. -/
def parentChain (registry : Registry) (factory : Factory) : Except Fault (List String) :=
  registry.chainFrom (registry.factories.length + 2) [factory.name] factory.parentRef

/-- What is wrong when a factory is met again while it is being compiled. -/
def cycleFault (registry : Registry) (factory : Factory) : Fault :=
  match registry.parentChain factory with
  | .ok chain => .compileCycle factory.name chain
  | .error fault => fault

/-- `Factory.inherit_factory` — what it sets: a factory with what it inherits from its parent. -/
def inherited (child parent : Factory) (parentId : FactoryId) : Factory :=
  { child with
    identifier := match child.identifier with
      | .null => parent.classIdentifier
      | identifier => identifier
    strategy := child.strategy <|> parent.strategy
    parent := some parentId }

/-- `Factory.add_child` — the registry where a factory has one more child, unless it is one
already. -/
def addChild (registry : Registry) (id child : FactoryId) : Registry :=
  registry.modify id fun factory =>
    if factory.children.contains child then factory
    else { factory with children := factory.children ++ [child] }

/-- `Factory.inherit_factory` — the registry where a factory has inherited from another one that is
compiled. -/
def adopt (registry : Registry) (id parentId : FactoryId) : Registry :=
  match registry.factory? id, registry.factory? parentId with
  | some child, some parent =>
    let linked := registry.put id (inherited child parent parentId)
    let allowed := if parent.overridesAllowed then linked.allowOverrides id else linked
    allowed.addChild parentId id
  | _, _ => registry

/-- The registry where a factory has a status. -/
def withStatus (registry : Registry) (id : FactoryId) (status : Status) : Registry :=
  registry.modify id fun factory => { factory with status := status }

/-- `Factory.compile` — its end: turns the declarations of a factory into attributes, after it has
inherited. -/
def finish (id : FactoryId) : Except Fault Unit × Registry → Except Fault Unit × Registry
  | (.error fault, registry) => (.error fault, registry.withStatus id .unsealed)
  | (.ok (), registry) =>
    match (registry.factory? id).map Factory.expand with
    | some (.ok list) => (.ok (), registry.withStatus id (.sealed list))
    | some (.error fault) => (.error fault, registry.withStatus id .unsealed)
    | none => (.ok (), registry)

/-- The number of factories that are neither compiled nor being compiled. -/
def unsealed (registry : Registry) : Nat :=
  registry.factories.countP fun factory => factory.status.isUnsealed

/-- A factory whose compilation starts is no longer among the unsealed ones. -/
theorem unsealed_put_lt {registry : Registry} {id : FactoryId} {factory : Factory}
    (found : registry.factory? id = some factory) (open_ : factory.status = .unsealed) :
    (registry.put id { factory with status := .compiling }).unsealed < registry.unsealed :=
  countP_set_lt found (by simp [open_, Status.isUnsealed]) rfl

/-- `Factory.compile` — compiles a factory; one that is compiled stays as it is. -/
def compile (registry : Registry) (id : FactoryId) : Except Fault Unit × Registry :=
  match _found : registry.factory? id with
  | none => (.ok (), registry)
  | some factory =>
    match _status : factory.status with
    | .sealed _ => (.ok (), registry)
    | .compiling => (.error (registry.cycleFault factory), registry)
    | .unsealed =>
      let started := registry.put id { factory with status := .compiling }
      match factory.parentName? with
      | none => finish id (.ok (), started)
      | some ref =>
        match started.findText ref with
        | .error fault => finish id (.error fault, started)
        | .ok parent =>
          match compile started parent with
          | (.error fault, after) => finish id (.error fault, after)
          | (.ok (), after) => finish id (.ok (), after.adopt id parent)
termination_by registry.unsealed
decreasing_by exact unsealed_put_lt _found _status

/-- Compiles a parent and lets a factory inherit from it. -/
def inheritFrom (id parent : FactoryId) : Step Unit := fun registry =>
  match registry.compile parent with
  | (.ok (), after) => (.ok (), after.adopt id parent)
  | (.error fault, after) => (.error fault, after)

end Blueprint.Registry
