import Blueprint.Text.Blank
import Blueprint.Text.Case.Lower

/-!
# Build strategies

A factory run follows one of four strategies. A strategy is named by its tag, in any case and with
any white space around it.
-/
namespace Blueprint

/-- `Strategy` — how a factory run makes its result. -/
inductive Strategy where
  /-- An instance that is not saved. -/
  | build
  /-- An instance that is saved. -/
  | create
  /-- The values alone. -/
  | attributesFor
  /-- An instance that looks saved. -/
  | stub
deriving DecidableEq, Repr, Inhabited

namespace Strategy

/-- The tag of a strategy. -/
def tag : Strategy → String
  | build => "build"
  | create => "create"
  | attributesFor => "attributes_for"
  | stub => "stub"

/-- The name of a strategy among its kin. -/
def memberName : Strategy → String
  | build => "BUILD"
  | create => "CREATE"
  | attributesFor => "ATTRIBUTES_FOR"
  | stub => "STUB"

/-- The name of the proxy that carries out a strategy. -/
def proxyName : Strategy → String
  | build => "BuildProxy"
  | create => "CreateProxy"
  | attributesFor => "AttributesForProxy"
  | stub => "StubProxy"

/-- All strategies. -/
def all : List Strategy := [build, create, attributesFor, stub]

/-- The strategy with exactly this tag. -/
def ofTag? (tag : String) : Option Strategy := all.find? fun strategy => strategy.tag == tag

/-- The strategy that a text names. -/
def ofText? (text : String) : Option Strategy :=
  ofTag? (String.ofList (Text.lower (Text.trim text.toList)))

end Strategy

end Blueprint
