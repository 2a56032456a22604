import Blueprint.Trait

/-!
# Factories

A factory says how instances of one kind are made: what it declares, which traits it uses, and
what it has from its parent. Its declarations become attributes when it is compiled; afterwards it
is sealed. Factories refer to each other by their numbers in a registry.
-/
namespace Blueprint

/-- The number of a factory in a registry. -/
abbrev FactoryId := Nat

/-- `CompileState` — how far the compilation of a factory is. -/
inductive Status where
  /-- The factory can still be changed. -/
  | unsealed
  /-- The factory is being compiled. -/
  | compiling
  /-- The factory is compiled, and what it declares has become a list of attributes. -/
  | sealed (compiled : AttributeList)
deriving Repr

namespace Status

/-- A status in a word. -/
def word : Status → String
  | unsealed => "unsealed"
  | compiling => "compiling"
  | sealed _ => "sealed"

/-- The factory can still be changed. -/
def isUnsealed : Status → Bool
  | unsealed => true
  | _ => false

/-- The factory is compiled. -/
def isSealed : Status → Bool
  | sealed _ => true
  | _ => false

end Status

/-- `Factory` — how instances of a model class are made. -/
structure Factory where
  /-- Its name. -/
  name : String
  /-- The name of its parent, if it is given one. -/
  parentRef : Option String := none
  /-- Further names. -/
  aliases : List String := []
  /-- The names of the traits that it uses. -/
  traitRefs : List String := []
  /-- What identifies its model class, missing if nothing does. -/
  identifier : Value := .null
  /-- The strategy that is used when none is asked for. -/
  strategy : Option Strategy := none
  /-- The traits defined in it. -/
  traits : List Trait := []
  /-- Its declarations and callbacks, and whether a name may be declared again. -/
  definition : AttributeList := {}
  /-- What saves an instance, if not a method of the instance. -/
  finalizer : Option Handler := none
  /-- How far its compilation is. -/
  status : Status := .unsealed
  /-- The factory from which it has inherited. -/
  parent : Option FactoryId := none
  /-- The factories that have inherited from it. -/
  children : List FactoryId := []
  /-- Its model class, once it has been looked up. -/
  model : Option Value := none
deriving Repr

namespace Factory

/-- `Factory.names` — all names of a factory. -/
def names (factory : Factory) : List String := factory.name :: factory.aliases

/-- `Factory.human_names` — all names of a factory as phrases. -/
def humanNames (factory : Factory) : List String := factory.names.map Name.human

/-- The name of the parent, if there is one that is not empty. -/
def parentName? (factory : Factory) : Option String :=
  factory.parentRef.filter fun ref => !ref.isEmpty

/-- `Factory.class_identifier` — what identifies the model class: the factory's name, if nothing
else does. -/
def classIdentifier (factory : Factory) : Value :=
  match factory.identifier with
  | .null => .text factory.name
  | identifier => identifier

/-- `Factory.overrides_allowed` — a name may be declared again. -/
def overridesAllowed (factory : Factory) : Bool := factory.definition.overridable

/-- `Factory._trait_for` — the trait of a name that is defined in the factory. -/
def trait? (factory : Factory) (name : String) : Option Trait :=
  factory.traits.find? fun trait => trait.name == name

/-- The attributes that the declarations have become. -/
def compiled (factory : Factory) : AttributeList :=
  match factory.status with
  | .sealed list => list
  | _ => {}

/-- `Factory._define_attribute` — an attribute of a factory is no association with the factory
itself. -/
def accept (factory : Factory) (attr : Attribute) : Except Fault Unit :=
  match attr.factory? with
  | some target =>
    if factory.names.contains target then .error (.selfAssociation factory.name attr.name)
    else .ok ()
  | none => .ok ()

/-- `Factory.compile` — its loop: the attributes that the declarations become, with the
callbacks. -/
def expand (factory : Factory) : Except Fault AttributeList := do
  let list ← AttributeList.expand factory.accept { overridable := factory.overridesAllowed }
    factory.definition.declarations
  .ok { list with callbacks := factory.definition.callbacks }

/-- `Factory.__repr__` — a factory in a text. -/
def shown (factory : Factory) : String :=
  let name := Text.quote factory.name
  let status := Text.quote factory.status.word
  s!"Factory({name}, state={status})"

/-- `Factory._assert_unsealed` — a change to a factory that is not yet compiled. -/
def change (factory : Factory) (what : Change) (subject : Option String)
    (apply : Factory → Except Fault Factory) : Except Fault Factory :=
  if factory.status.isUnsealed then apply factory
  else .error (.factorySealed what factory.name subject)

/-- `Factory.declare_attribute` — declares an attribute. -/
def declare (factory : Factory) (declaration : Declaration) : Except Fault Factory :=
  factory.change .declareAttribute (some declaration.name) fun factory =>
    .ok { factory with definition := factory.definition.declare declaration }

/-- `Factory.define_trait` — defines a trait. -/
def defineTrait (factory : Factory) (trait : Trait) : Except Fault Factory :=
  factory.change .defineTrait (some trait.name) fun factory =>
    .ok { factory with traits := factory.traits ++ [trait] }

/-- `Factory.add_callback` — adds a callback for the moment that a value names. -/
def addCallback (factory : Factory) (name : Value) (handler : Option Handler) :
    Except Fault Factory :=
  factory.change .addCallback (some name.plain) fun factory => do
    let callback ← Callback.make name handler
    .ok { factory with definition := factory.definition.addCallback callback }

/-- `Factory.set_finalizer` — sets what saves an instance. -/
def setFinalizer (factory : Factory) (handler : Option Handler) : Except Fault Factory :=
  factory.change .setFinalizer none fun factory => .ok { factory with finalizer := handler }

end Factory

end Blueprint
