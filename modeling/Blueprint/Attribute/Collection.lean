import Blueprint.Attribute.Declaration
import Blueprint.Handler

/-!
# Attribute lists

An attribute list holds attributes under distinct names, in order, and callbacks. Defining a name
again replaces the attribute in its place if the list is overridable, and fails otherwise. Another
list is laid over it (`override`), so that the other's attributes win, or put under it
(`inherit`), so that only new names are taken, in front of the old ones. Callbacks are kept in the
order of application.
-/
namespace Blueprint

/-- `AttributeList` — attributes under distinct names, with callbacks. -/
structure AttributeList where
  /-- The attributes in order. -/
  attributes : List Attribute := []
  /-- The callbacks in order. -/
  callbacks : List Callback := []
  /-- A name may be defined again. -/
  overridable : Bool := false
  /-- What is declared but not yet defined. -/
  declarations : List Declaration := []
deriving Repr

/-- `MergeMode` — how one list is applied to another. -/
inductive Application where
  /-- The applied list wins. -/
  | override
  /-- The list to which it is applied wins. -/
  | inherit
deriving DecidableEq, Repr

namespace AttributeList

/-- `AttributeList.names` — the names in order. -/
def names (list : AttributeList) : List String := list.attributes.map Attribute.name

/-- `Factory.associations` — the attributes that are associations, in order. -/
def associations (list : AttributeList) : List Attribute :=
  list.attributes.filter Attribute.isAssociation

/-- `AttributeList.find` — the attribute under a name. -/
def find? (list : AttributeList) (name : String) : Option Attribute :=
  list.attributes.find? fun attr => attr.name == name

/-- `AttributeList.__contains__` — there is an attribute under a name. -/
def has (list : AttributeList) (name : String) : Bool := (list.find? name).isSome

/-- Attributes with one more: in the place of that of its name, or at the end. -/
def place (attr : Attribute) : List Attribute → List Attribute
  | [] => [attr]
  | first :: rest =>
    if first.name == attr.name then attr :: rest else first :: place attr rest

/-- `AttributeList.define_attribute` — defines an attribute. -/
def define (list : AttributeList) (attr : Attribute) : Except Fault AttributeList :=
  if list.has attr.name && !list.overridable then .error (.definedAlready attr.name)
  else .ok { list with attributes := place attr list.attributes }

/-- Defines attributes in turn. -/
def defineAll (list : AttributeList) (attributes : List Attribute) : Except Fault AttributeList :=
  attributes.foldlM define list

/-- `AttributeList.apply_attributes` — `MergeMode.OVERRIDE`: another list laid over a list. -/
def override (list other : AttributeList) : AttributeList :=
  { list with
    attributes := other.attributes.foldl (fun placed attr => place attr placed)
      list.attributes
    callbacks := list.callbacks ++ other.callbacks }

/-- `AttributeList.apply_attributes` — `MergeMode.INHERIT`: another list put under a list. -/
def inherit (list other : AttributeList) : AttributeList :=
  { list with
    attributes := other.attributes.filter (fun attr => !list.has attr.name) ++ list.attributes
    callbacks := list.callbacks ++ other.callbacks }

/-- `AttributeList.apply_attributes` — applies another list. -/
def apply (list other : AttributeList) : Application → AttributeList
  | .override => list.override other
  | .inherit => list.inherit other

/-- `AttributeList.add_callback` — adds a callback. -/
def addCallback (list : AttributeList) (callback : Callback) : AttributeList :=
  { list with callbacks := list.callbacks ++ [callback] }

/-- `AttributeList.declare_attribute` — adds a declaration. -/
def declare (list : AttributeList) (declaration : Declaration) : AttributeList :=
  { list with declarations := list.declarations ++ [declaration] }

/-- `AttributeList.overridable` — allows names to be defined again. -/
def allowOverrides (list : AttributeList) : AttributeList := { list with overridable := true }

/-- `AttributeList.__repr__` — a list in a text. -/
def shown (list : AttributeList) : String :=
  let names := (Value.list (list.names.map .text)).shown
  s!"AttributeList({names})"

/-- `Factory.compile`, `Trait.attributes` — their loop: turns declarations into attributes and
defines them in turn; each attribute has to be admitted first. -/
def expand (accept : Attribute → Except Fault Unit) (list : AttributeList)
    (declarations : List Declaration) : Except Fault AttributeList :=
  declarations.foldlM (fun list declaration => do
    let attr ← declaration.attribute?
    accept attr
    list.define attr) list

end AttributeList

end Blueprint
