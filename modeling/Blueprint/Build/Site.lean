import Blueprint.Build.Proxy
import Blueprint.Build.World

/-!
# Evaluating expressions

An expression is evaluated where a proxy, and after it is made also an instance, is at hand. A block
reaches the proxy always, a handler only when the proxy is among its arguments. How another build is
run is a parameter: what an expression means does not depend on how deep builds are nested.
-/
namespace Blueprint

/-- Where expressions are evaluated. -/
structure Site where
  /-- The world. -/
  world : World
  /-- The proxy at hand. -/
  proxy : Proxy
  /-- The instance at hand, once it is made. -/
  subject : Option Instance := none

/-- An operation on a site. -/
abbrev Act (α : Type) := ExceptT Fault (StateM Site) α

/-- A way to run a factory: with a choice of strategy and overrides. -/
abbrev Runner := FactoryId → Value → Dict → Build Value

namespace Act

/-- Fails. -/
def fail {α : Type} (fault : Fault) : Act α := ExceptT.mk fun site => (.error fault, site)

/-- An outcome that does not depend on the site. -/
def ofExcept {α : Type} (outcome : Except Fault α) : Act α := ExceptT.mk fun site => (outcome, site)

/-- An operation on the world of the site. -/
def ofBuild {α : Type} (build : Build α) : Act α := ExceptT.mk fun site =>
  let (outcome, world) := build.run site.world
  (outcome, { site with world := world })

/-- Something computed from the site. -/
def ask {α : Type} (view : Site → Except Fault α) : Act α :=
  ExceptT.mk fun site => (view site, site)

/-- Changes the proxy. -/
def onProxy (change : Proxy → Proxy) : Act Unit := ExceptT.mk fun site =>
  (.ok (), { site with proxy := change site.proxy })

/-- Changes the instance, which has to be there. -/
def onSubject (change : Instance → Instance) : Act Unit := ExceptT.mk fun site =>
  match site.subject with
  | some subject => (.ok (), { site with subject := some (change subject) })
  | none => (.error .noMembers, site)

/-- Something computed from the instance, which has to be there. -/
def askSubject {α : Type} (view : Instance → α) : Act α := ask fun site =>
  match site.subject with
  | some subject => .ok (view subject)
  | none => .error .noMembers

/-- Adds an event to the log. -/
def emit (event : Event) : Act Unit := ofBuild (Build.emit event)

end Act

/-- `Registry.run` — runs the factory of a name; without a choice it follows its default
strategy. -/
def Runner.named (runner : Runner) (name choice : Value) (overrides : Dict) : Build Value := do
  let id ← Build.ask fun world => world.registry.find name
  match choice with
  | .null =>
    let strategy ← Build.ask fun world => world.registry.strategyOf id
    runner id (.strategy strategy) overrides
  | choice => runner id choice overrides

namespace Expr

/-- The proxy can be reached. -/
def reach (seesProxy : Bool) : Act Unit :=
  if seesProxy then pure () else Act.fail (.raised "no proxy")

mutual

/-- The value of an expression. -/
def eval (runner : Runner) (seesProxy : Bool) : Expr → Act Value
  | const value => pure value
  | get name => do
    reach seesProxy
    Act.ask fun site => site.proxy.get name
  | has name => do
    reach seesProxy
    Act.ask fun site => .ok (.bool (site.proxy.has name))
  | put name value ignored => do
    reach seesProxy
    let value ← eval runner seesProxy value
    Act.onProxy fun proxy => proxy.set name value ignored
    pure .null
  | strategyTag => do
    reach seesProxy
    Act.ask fun site => .ok (.text site.proxy.strategy.tag)
  | field name => Act.askSubject fun subject => (subject.fields.lookup name).getD .null
  | setField name value => do
    let value ← eval runner seesProxy value
    Act.onSubject fun subject => { subject with fields := subject.fields.put name value }
    pure .null
  | persisted => Act.askSubject fun subject => .bool subject.persisted
  | part owner name => do
    let owner ← eval runner seesProxy owner
    Act.ask fun site => site.world.part owner name
  | alter owner name value => do
    let owner ← eval runner seesProxy owner
    let value ← eval runner seesProxy value
    Act.ofBuild (Build.alter owner name value)
    pure .null
  | concat parts => do
    let values ← evalAll runner seesProxy parts
    pure (.text (String.join (values.map textOf)))
  | upper value => do pure (changed plainUpper (← eval runner seesProxy value))
  | lower value => do pure (changed plainLower (← eval runner seesProxy value))
  | choose condition yes no => do
    let condition ← eval runner seesProxy condition
    if condition.truthy then eval runner seesProxy yes else eval runner seesProxy no
  | sequence steps => do
    let values ← evalAll runner seesProxy steps
    pure (values.getLast?.getD .null)
  | tick label value => do
    Act.emit (.tick label)
    eval runner seesProxy value
  | note label value => do
    let value ← eval runner seesProxy value
    Act.emit (.note label value)
    pure value
  | counter name => do
    let n ← Act.ofBuild (Build.count name)
    pure (.int n)
  | fail message => Act.fail (.raised message)
  | build factory strategy overrides => Act.ofBuild (runner.named factory strategy overrides)
termination_by structural expr => expr

/-- The values of expressions in order. -/
def evalAll (runner : Runner) (seesProxy : Bool) : List Expr → Act (List Value)
  | [] => pure []
  | expr :: exprs => do
    let value ← eval runner seesProxy expr
    let values ← evalAll runner seesProxy exprs
    pure (value :: values)
termination_by structural exprs => exprs

end

end Expr

namespace Handler

/-- Calls a handler for the instance at hand; with two arguments it is given the proxy. -/
def call (runner : Runner) (handler : Handler) (arguments : Nat) : Act Unit := do
  let serial ← Act.askSubject Instance.serial
  Act.emit (.call handler.label arguments serial)
  let _ ← handler.body.eval runner (2 ≤ arguments)

end Handler

namespace Callback

/-- `Callback.run` — runs a callback for the instance at hand. -/
def run (runner : Runner) (callback : Callback) : Act Unit :=
  match callback.handler with
  | some handler => handler.call runner callback.argumentCount
  | none => Act.fail .wrongType

end Callback

end Blueprint
