import Blueprint.Error.Fault
import Blueprint.Expr

/-!
# Handlers and callbacks

A handler takes the instance, or the instance and the proxy: the proxy is handed over when the
handler has places for two arguments. A callback binds a handler to a moment in the making of an
instance.
-/
namespace Blueprint

/-- A parameter of a handler. -/
inductive Parameter where
  /-- Given by position only. -/
  | byPosition
  /-- Given by position or by name. -/
  | byEither
  /-- All further positions. -/
  | positions
  /-- Given by name only. -/
  | byName
  /-- All further names. -/
  | names
deriving DecidableEq, Repr

namespace Parameter

/-- The parameter is one place for an argument. -/
def isPlace : Parameter → Bool
  | byPosition | byEither => true
  | _ => false

/-- `_positional_arity` — the number of places for arguments. One that takes all further positions
makes them two. -/
def arity (parameters : List Parameter) : Nat :=
  if parameters.contains positions then 2 else parameters.countP isPlace

end Parameter

/-- A handler. -/
structure Handler where
  /-- The label under which its calls are logged. -/
  label : String
  /-- Its parameters, if they are known. -/
  parameters : Option (List Parameter) := some [.byEither]
  /-- What it does. -/
  body : Expr := .const .null
deriving Repr

namespace Handler

/-- The number of places of a handler, one if its parameters are not known. -/
def arity (handler : Handler) : Nat := (handler.parameters.map Parameter.arity).getD 1

end Handler

/-- A moment in the making of an instance. -/
inductive Moment where
  /-- The instance is built. -/
  | afterBuild
  /-- The instance is saved. -/
  | afterCreate
  /-- The instance is stubbed. -/
  | afterStub
deriving DecidableEq, Repr

namespace Moment

/-- The name of a moment. -/
def name : Moment → String
  | afterBuild => "after_build"
  | afterCreate => "after_create"
  | afterStub => "after_stub"

/-- All moments. -/
def all : List Moment := [afterBuild, afterCreate, afterStub]

/-- The moment of a name. -/
def ofName? (name : String) : Option Moment := all.find? fun moment => moment.name == name

end Moment

/-- `Callback` — a handler bound to a moment; a callback without a handler cannot be run. -/
structure Callback where
  /-- When the handler is called. -/
  moment : Moment
  /-- The handler. -/
  handler : Option Handler
deriving Repr

namespace Callback

/-- `Callback.__init__` — a callback for the moment that a value names. -/
def make (name : Value) (handler : Option Handler) : Except Fault Callback :=
  match Moment.ofName? name.plain with
  | some moment => .ok ⟨moment, handler⟩
  | none => .error (.invalidCallbackName name.plain)

/-- The number of places of the handler. -/
def arity (callback : Callback) : Nat := (callback.handler.map Handler.arity).getD 1

/-- The handler is given the proxy. -/
def wantsProxy (callback : Callback) : Bool := 2 ≤ callback.arity

/-- The number of arguments that the handler is called with. -/
def argumentCount (callback : Callback) : Nat := if callback.wantsProxy then 2 else 1

end Callback

end Blueprint
