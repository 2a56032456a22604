import Blueprint.Error.Fault

/-!
# Models and instances

A model is a class of instances: its fields with their defaults, whether instances may have further
fields, and the methods that save an instance.
-/
namespace Blueprint

/-- A model class. -/
structure Model where
  /-- Its name. -/
  name : String
  /-- Its fields with their defaults. -/
  fields : Table String Value := []
  /-- Instances may have further fields. -/
  isOpen : Bool := false
  /-- Its methods. -/
  methods : List String := ["save"]
deriving Repr

/-- An instance of a model. -/
structure Instance where
  /-- The name of its model. -/
  model : String
  /-- Its number among all instances that were made. -/
  serial : Nat
  /-- It is saved. -/
  persisted : Bool := false
  /-- Its fields. -/
  fields : Table String Value
deriving Repr

namespace Model

/-- The first argument that is no field of the model. -/
def strangeArgument? (model : Model) (arguments : Table String Value) : Option String :=
  if model.isOpen then none else arguments.keys.find? fun name => !model.fields.has name

/-- The fields of a new instance: the declared ones in order, each with its argument or its default,
then the other arguments. -/
def fill (model : Model) (arguments : Table String Value) : Table String Value :=
  model.fields.map (fun field => (field.1, (arguments.lookup field.1).getD field.2)) ++
    arguments.filter fun argument => !model.fields.has argument.1

/-- A new instance. -/
def construct (model : Model) (serial : Nat) (arguments : Table String Value) :
    Except Fault Instance :=
  match model.strangeArgument? arguments with
  | some name => .error (.noField model.name name)
  | none => .ok { model := model.name, serial := serial, fields := model.fill arguments }

end Model

namespace Instance

/-- An instance as a value. -/
def value (instance_ : Instance) : Value :=
  .object instance_.model instance_.serial instance_.persisted instance_.fields

end Instance

end Blueprint
