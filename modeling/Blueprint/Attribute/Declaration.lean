import Blueprint.Attribute.Basic

/-!
# Declarations

A declaration says what an attribute will be; it becomes the attribute when its factory is compiled.
A bare name stands for an association with the factory of that name.
-/
namespace Blueprint

/-- `StaticDeclaration`, `DynamicDeclaration`, `AssociationDeclaration`, `ImplicitDeclaration` —
what a declaration says of the value. -/
inductive Content where
  /-- A fixed value. -/
  | static (value : Value)
  /-- A block; without one the declaration cannot become an attribute. -/
  | dynamic (block : Option Expr)
  /-- A factory that builds the value. -/
  | association (factory : String) (overrides : Dict) (strategy : Value)
  /-- The factory of the same name builds the value. -/
  | implicit
deriving Repr

/-- `Declaration` — what becomes an attribute when a factory is compiled. -/
structure Declaration where
  /-- The name of the attribute. -/
  name : String
  /-- The value does not reach the instance. -/
  ignored : Bool := false
  /-- Further names. -/
  aliases : List Value := []
  /-- What is said of the value. -/
  content : Content
deriving Repr

namespace Declaration

/-- `Declaration.__init__` — a declaration under the name that a value gives. An association without
a factory is one with the factory of the attribute's own name. -/
def make (name : Value) (ignored : Bool) (aliases : List Value) (content : Content) : Declaration :=
  let name := Name.ofValue name
  let content := match content with
    | .association factory overrides strategy =>
      .association (if factory.isEmpty then name else Name.ofText factory) overrides strategy
    | content => content
  ⟨name, ignored, aliases, content⟩

/-- The source of the attribute. -/
def source (declaration : Declaration) : Except Fault Source :=
  match declaration.content with
  | .static value => .ok (.static value)
  | .dynamic (some block) => .ok (.dynamic block)
  | .dynamic none => .error (.blockNotCallable declaration.name)
  | .association factory overrides strategy => .ok (.association factory overrides strategy)
  | .implicit => .ok (.association declaration.name [] .null)

/-- `Declaration.to_attributes` — the attribute that a declaration becomes. -/
def attribute? (declaration : Declaration) : Except Fault Attribute := do
  let source ← declaration.source
  .ok ⟨declaration.name, declaration.ignored, declaration.aliases.map Name.ofValue, source⟩

/-- `Declaration.__repr__` — a declaration in a text. -/
def shown (declaration : Declaration) : String :=
  let name := Text.quote declaration.name
  match declaration.content with
  | .static _ => s!"StaticDeclaration({name})"
  | .dynamic _ => s!"DynamicDeclaration({name})"
  | .association _ _ _ => s!"AssociationDeclaration({name})"
  | .implicit => s!"ImplicitDeclaration({name})"

end Declaration

/-- `Attribute.__init__` — an attribute under the name that a value gives. -/
def Attribute.make (name : Value) (ignored : Bool) (aliases : List Value) (content : Content) :
    Except Fault Attribute :=
  let content := match content with
    | .association factory overrides strategy =>
      .association (Name.ofText factory) overrides strategy
    | content => content
  Declaration.attribute? ⟨Name.ofValue name, ignored, aliases, content⟩

end Blueprint
