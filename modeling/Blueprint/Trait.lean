import Blueprint.Attribute.Collection

/-!
# Traits

A trait is a named bundle of declarations and callbacks to which factories refer. A name may be
declared only once in a trait.
-/
namespace Blueprint

/-- `Trait` — declarations and callbacks under a name. -/
structure Trait where
  /-- Its name. -/
  name : String
  /-- What it declares. -/
  declarations : List Declaration := []
  /-- Its callbacks. -/
  callbacks : List Callback := []
deriving Repr

namespace Trait

/-- `Trait.__init__` — a trait under the name that a value gives. -/
def make (name : Value) (declarations : List Declaration) (callbacks : List Callback) : Trait :=
  ⟨Name.ofValue name, declarations, callbacks⟩

/-- `Trait.names` — the names that a trait declares. -/
def names (trait : Trait) : List String := trait.declarations.map Declaration.name

/-- `Trait.attributes` — the attributes and callbacks of a trait. -/
def attributes (trait : Trait) : Except Fault AttributeList := do
  let list ← AttributeList.expand (fun _ => .ok ()) {} trait.declarations
  .ok { list with callbacks := trait.callbacks }

/-- `Trait.__repr__` — a trait in a text. -/
def shown (trait : Trait) : String :=
  let name := Text.quote trait.name
  s!"Trait({name})"

end Trait

end Blueprint
