import Blueprint.Build.Model
import Blueprint.Factory.Options
import Blueprint.Registry.Resolve

/-!
# The world of a build

A build works on a registry, makes instances of models, counts, and leaves a log. An operation that
fails keeps what it changed before. A value that is an instance stands for that instance wherever it
stands: when code changes one of its fields in place, the change is seen at all of these places.
-/
namespace Blueprint

/-- What happens in the course of an operation. -/
inductive Event where
  /-- A warning is given. -/
  | warning (text : String)
  /-- A method of an instance is called. -/
  | method (name model : String) (serial : Nat)
  /-- A handler is called for an instance. -/
  | call (label : String) (arguments serial : Nat)
  /-- A mark is reached. -/
  | tick (label : String)
  /-- A value is marked. -/
  | note (label : String) (value : Value)
  /-- An instance is made from arguments. -/
  | made (model : String) (serial : Nat) (arguments : Table String Value)
  /-- An id is drawn for a stubbed instance. -/
  | drawn (id : Int)
deriving Repr

/-- What a build works on. -/
structure World where
  /-- The registry. -/
  registry : Registry
  /-- The models by name. -/
  models : Table String Model := []
  /-- The number of instances that were made. -/
  made : Nat := 0
  /-- The counters. -/
  counters : Table String Nat := []
  /-- What has happened, in order. -/
  log : List Event := []
  /-- The fields of instances that were changed in place, by the numbers of the instances. -/
  altered : Table Nat (Table String Value) := []

/-- The fields of an instance as they are now. -/
def World.fieldsOf (world : World) (serial : Nat) (fields : Table String Value) :
    Table String Value :=
  (world.altered.lookup serial).getD fields

/-- A field of a value, which has to be an instance with such a field. -/
def World.part (world : World) (value : Value) (name : String) : Except Fault Value :=
  match value with
  | .object _ serial _ fields =>
    match (world.fieldsOf serial fields).lookup name with
    | some part => .ok part
    | none => .error .noMembers
  | _ => .error .noMembers

/-- An operation on the world. -/
abbrev Build (α : Type) := ExceptT Fault (StateM World) α

namespace Build

/-- Fails. -/
def fail {α : Type} (fault : Fault) : Build α := ExceptT.mk fun world => (.error fault, world)

/-- An outcome that does not depend on the world. -/
def ofExcept {α : Type} (outcome : Except Fault α) : Build α :=
  ExceptT.mk fun world => (outcome, world)

/-- Something computed from the world. -/
def ask {α : Type} (view : World → Except Fault α) : Build α :=
  ExceptT.mk fun world => (view world, world)

/-- An operation on the registry. -/
def onRegistry {α : Type} (step : Registry.Step α) : Build α := ExceptT.mk fun world =>
  let (outcome, registry) := step world.registry
  (outcome, { world with registry := registry })

/-- A change of the registry that is made as a whole or not at all. -/
def changeRegistry (change : Registry → Except Fault Registry) : Build Unit :=
  ExceptT.mk fun world =>
    match change world.registry with
    | .ok registry => (.ok (), { world with registry := registry })
    | .error fault => (.error fault, world)

/-- Adds an event to the log. -/
def emit (event : Event) : Build Unit := ExceptT.mk fun world =>
  (.ok (), { world with log := world.log ++ [event] })

/-- The next number of a counter. -/
def count (name : String) : Build Nat := ExceptT.mk fun world =>
  let n := (world.counters.lookup name).getD 0 + 1
  (.ok n, { world with counters := world.counters.put name n })

/-- Changes a field of a value in place, which has to be an instance. -/
def alter (value : Value) (name : String) (part : Value) : Build Unit := ExceptT.mk fun world =>
  match value with
  | .object _ serial _ fields =>
    let changed := (world.fieldsOf serial fields).put name part
    (.ok (), { world with altered := world.altered.put serial changed })
  | _ => (.error .noMembers, world)

/-- `Registry.next_stub_id` — draws an id for a stubbed instance, and logs it. -/
def drawStub : Build Int := ExceptT.mk fun world =>
  let (id, registry) := world.registry.drawStub
  (.ok id, { world with registry := registry, log := world.log ++ [.drawn id] })

/-- Makes an instance of a model class. -/
def construct (model : Value) (arguments : Table String Value) : Build Instance :=
  ExceptT.mk fun world =>
    match model with
    | .model name =>
      match world.models.lookup name with
      | some model =>
        let serial := world.made + 1
        match model.construct serial arguments with
        | .ok made =>
          let log := world.log ++ [.made name serial arguments]
          (.ok made, { world with made := serial, log := log })
        | .error fault => (.error fault, world)
      | none => (.error .wrongType, world)
    | _ => (.error .wrongType, world)

/-- `Factory.__init__` — makes a factory from a name and options. -/
def makeFactory (name : Value) (options : Dict) : Build Factory := do
  let warning ← ask fun world => Factory.checkOptions world.registry.settings options
  match warning with
  | some text => emit (.warning text)
  | none => pure ()
  ask fun world => Factory.ofOptions world.registry.settings name options

/-- Makes a factory that is not registered. -/
def newFactory (name : Value) (options : Dict) : Build FactoryId := do
  let factory ← makeFactory name options
  onRegistry fun registry =>
    let (registry, id) := registry.add factory
    (.ok id, registry)

/-- `Registry.define_factory` — makes a factory and registers it. -/
def defineFactory (name : Value) (options named : Dict) : Build FactoryId := do
  let options ← ofExcept (Factory.withNamed options named)
  let factory ← makeFactory name options
  onRegistry fun registry =>
    let (added, id) := registry.add factory
    match added.register id with
    | .ok registered => (.ok id, registered)
    | .error fault => (.error fault, registry)

end Build

end Blueprint
