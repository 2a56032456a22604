import Blueprint.Expr
import Blueprint.Error.Fault
import Blueprint.Name

/-!
# Attributes

An attribute gives a proxy one value: a fixed one, one that a block computes, or one that another
factory builds. It has a name and further names, all canonical, under which overrides reach it.
-/
namespace Blueprint

/-- `StaticAttribute`, `DynamicAttribute`, `AssociationAttribute` — where the value of an attribute
comes from. -/
inductive Source where
  /-- A fixed value. -/
  | static (value : Value)
  /-- A block, computed for every build. -/
  | dynamic (block : Expr)
  /-- Another factory. -/
  | association (factory : String) (overrides : Dict) (strategy : Value)
deriving Repr

/-- `Attribute` — a name with the source of its value. -/
structure Attribute where
  /-- Its name. -/
  name : String
  /-- Its value does not reach the instance. -/
  ignored : Bool := false
  /-- Further names. -/
  aliases : List String := []
  /-- Where its value comes from. -/
  source : Source
deriving Repr

namespace Attribute

/-- `Attribute.aliases_for` — an override under this key is meant for the attribute. -/
def answersTo (attr : Attribute) (key : String) : Bool :=
  key == attr.name || attr.aliases.contains key

/-- `AssociationAttribute.factory` — the factory that builds the value, if one does. -/
def factory? (attr : Attribute) : Option String :=
  match attr.source with
  | .association factory _ _ => some factory
  | _ => none

/-- `Attribute.is_association` — the value is built by another factory. -/
def isAssociation (attr : Attribute) : Bool := attr.factory?.isSome

/-- `Attribute.__repr__` — an attribute in a text. -/
def shown (attr : Attribute) : String :=
  let name := Text.quote attr.name
  match attr.source with
  | .static _ => s!"StaticAttribute({name})"
  | .dynamic _ => s!"DynamicAttribute({name})"
  | .association factory _ _ =>
    let target := Text.quote factory
    s!"AssociationAttribute({name}, factory={target})"

end Attribute

end Blueprint
