import Blueprint.Factory.Basic
import Blueprint.Config.Settings
import Blueprint.Pattern.Template

/-!
# Registries

A registry finds factories, traits and model classes by their canonical names. Every factory made
for a registry has a number in it, registered or not; a registered one is bound under all of its
names. A name that is bound stays bound to the same thing, and a registration that fails binds
nothing. Once a registry is sealed nothing more is registered.
-/
namespace Blueprint

/-- A pattern of override keys with the template of the attribute that they also feed. -/
structure AliasPattern where
  /-- The pattern. -/
  pattern : Pattern
  /-- The template. -/
  template : String

/-- `Registry` — factories, traits and model classes under their names, with the configuration. -/
structure Registry where
  /-- The configuration. -/
  settings : Settings
  /-- The patterns of override keys. -/
  patterns : List AliasPattern := []
  /-- The factories by number. -/
  factories : List Factory := []
  /-- The numbers of registered factories by name. -/
  names : Table String FactoryId := []
  /-- The registered traits by name. -/
  traits : Table String Trait := []
  /-- The registered model classes by identifier. -/
  models : Table String Value := []
  /-- Nothing more can be registered. -/
  isSealed : Bool := false
  /-- The id of the next stubbed instance. -/
  nextStub : Int

namespace Registry

/-- The compiled form of a pattern of the configuration. -/
def aliasPattern (source : AliasSource) : Except Fault AliasPattern := do
  .ok ⟨← Pattern.read source.pattern.toList, source.template⟩

/-- `Registry.__init__` — an empty registry with a configuration. -/
def create (settings : Settings) : Except Fault Registry := do
  let start ← settings.stubIdStart
  let patterns ← (← settings.aliasSources).mapM aliasPattern
  .ok { settings := settings, patterns := patterns, nextStub := start }

/-! ### Look-up -/

/-- The factory of a number. -/
def factory? (registry : Registry) (id : FactoryId) : Option Factory := registry.factories[id]?

/-- `Registry.factory_by_name` — the number of the factory registered under a name. -/
def find (registry : Registry) (name : Value) : Except Fault FactoryId :=
  let key := Name.ofValue name
  match registry.names.lookup key with
  | some id => .ok id
  | none => .error (.notFound .factory key)

/-- The number of the factory registered under a text. -/
def findText (registry : Registry) (name : String) : Except Fault FactoryId :=
  registry.find (.text name)

/-- `Registry.__contains__` — a factory is registered under a name; only texts are names here. -/
def has (registry : Registry) (name : Value) : Bool :=
  match name with
  | .text _ | .strategy _ => registry.names.has (Name.ofValue name)
  | _ => false

/-- `Registry.trait_by_name` — the trait registered under a name. -/
def trait (registry : Registry) (name : Value) : Except Fault Trait :=
  let key := Name.ofValue name
  match registry.traits.lookup key with
  | some trait => .ok trait
  | none => .error (.notFound .trait key)

/-- `Registry.class_for` — the model class of an identifier: a class stands for itself. -/
def modelFor (registry : Registry) (identifier : Value) : Except Fault Value :=
  match identifier with
  | .model _ | .proxy _ => .ok identifier
  | identifier =>
    let key := Name.ofValue identifier
    match registry.models.lookup key with
    | some model => .ok model
    | none => .error (.notFound .model key)

/-- `Registry.factories` — the numbers of the registered factories, each once, in the order of
registration. -/
def registered (registry : Registry) : List FactoryId := registry.names.values.eraseDups

/-- `Registry.aliases_for` — the names of attributes that an override key feeds by the patterns, and
the key itself. -/
def aliasesFor (registry : Registry) (key : String) : Except Fault (List String) := do
  let found ← registry.patterns.mapM fun entry => entry.pattern.substitute? entry.template key
  .ok (found.filterMap id ++ [key])

/-- The same for a key of any type: patterns take texts only. -/
def aliasesForValue (registry : Registry) (key : Value) : Except Fault (List Value) :=
  match key with
  | .text key => do .ok ((← registry.aliasesFor key).map .text)
  | .strategy strategy => do
    let tag := strategy.tag
    let found ← registry.patterns.mapM fun entry => entry.pattern.substitute? entry.template tag
    .ok ((found.filterMap id).map .text ++ [key])
  | key => if registry.patterns.isEmpty then .ok [key] else .error .wrongType

/-! ### Changing factories -/

/-- The registry with another factory under a number. -/
def put (registry : Registry) (id : FactoryId) (factory : Factory) : Registry :=
  { registry with factories := registry.factories.set id factory }

/-- The registry with a factory changed. -/
def modify (registry : Registry) (id : FactoryId) (change : Factory → Factory) : Registry :=
  { registry with factories := registry.factories.modify id change }

/-- Tries to change a factory. -/
def tryModify (registry : Registry) (id : FactoryId) (change : Factory → Except Fault Factory) :
    Except Fault Registry :=
  match registry.factory? id with
  | some factory => do .ok (registry.put id (← change factory))
  | none => .ok registry

/-- The registry with one more factory, and its number. -/
def add (registry : Registry) (factory : Factory) : Registry × FactoryId :=
  ({ registry with factories := registry.factories ++ [factory] }, registry.factories.length)

/-! ### Registration -/

/-- `Registry._assert_defining` — nothing is registered in a sealed registry. -/
def whileOpen (registry : Registry) (what : Registrable) (subject : String)
    (register : Except Fault Registry) : Except Fault Registry :=
  if registry.isSealed then .error (.registrySealed what subject) else register

/-- `Registry.register_factory` — registers a factory under all of its names, or under none if one
of them is taken. -/
def register (registry : Registry) (id : FactoryId) : Except Fault Registry :=
  match registry.factory? id with
  | none => .ok registry
  | some factory =>
    registry.whileOpen .factory factory.name
      (match factory.names.find? registry.names.has with
      | some name => .error (.registeredAlready .factory name)
      | none =>
        let bound := factory.names.map fun name => (name, id)
        .ok { registry with names := registry.names.putAll bound })

/-- `Registry.register_trait` — registers a trait. -/
def registerTrait (registry : Registry) (trait : Trait) : Except Fault Registry :=
  registry.whileOpen .trait trait.name
    (if registry.traits.has trait.name then .error (.registeredAlready .trait trait.name)
    else .ok { registry with traits := registry.traits.put trait.name trait })

/-- `Registry.register_class` — registers a model class under an identifier, or under its own name
if the identifier is empty. The same class may be registered again. -/
def registerModel (registry : Registry) (model identifier : String) : Except Fault Registry :=
  let name := if identifier.isEmpty then model else identifier
  registry.whileOpen .model name
    (let key := Name.ofText name
    match registry.models.lookup key with
    | some (.model other) =>
      if other == model then .ok registry else .error (.registeredAlready .model key)
    | _ => .ok { registry with models := registry.models.put key (.model model) })

/-- `Registry.next_stub_id` — the next id of a stubbed instance. -/
def drawStub (registry : Registry) : Int × Registry :=
  (registry.nextStub, { registry with nextStub := registry.nextStub + 1 })

end Registry

end Blueprint
