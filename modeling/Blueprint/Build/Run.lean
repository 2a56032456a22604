import Blueprint.Build.Plan
import Blueprint.Build.Site

/-!
# Runs

A run of a factory fills a proxy by its plan and then makes the result. The strategy decides what
the result is and how associations are built. Runs are nested through associations and
expressions; `Runner.within` bounds how deep, and `Runner.standard` bounds it by more than any
chain of distinct factories.
-/
namespace Blueprint

namespace Act

/-- `Proxy.build_association` — builds the value of an association through another factory. -/
def buildAssociation (runner : Runner) (factory : String) (choice : Value) (overrides : Dict) :
    Act Value := do
  let strategy ← ofExcept (Strategy.ofProxy choice)
  let id ← ask fun site => site.world.registry.findText factory
  ofBuild (runner id (.proxy strategy) overrides)

/-- `Proxy.associate` — sets the value of an association, as the strategy of the proxy has it: where
only values are wanted there is none, a stubbed instance has stubbed ones, and any other one follows
the strategy of the association or is created. -/
def associate (runner : Runner) (name factory : String) (overrides : Dict) (choice : Value) :
    Act Unit := do
  let strategy ← ask fun site => .ok site.proxy.strategy
  match strategy with
  | .attributesFor => pure ()
  | .stub =>
    let value ← buildAssociation runner factory (.strategy .stub) overrides
    onProxy fun proxy => proxy.set name value false
  | .build | .create =>
    let choice := if choice.truthy then choice else .strategy .create
    let value ← buildAssociation runner factory choice overrides
    onProxy fun proxy => proxy.set name value false

end Act

namespace Attribute

/-- `Attribute.add_to` — lets an attribute give its value to the proxy. -/
def addTo (runner : Runner) (attr : Attribute) : Act Unit :=
  match attr.source with
  | .static value => Act.onProxy fun proxy => proxy.set attr.name value attr.ignored
  | .dynamic block => do
    let value ← block.eval runner true
    Act.onProxy fun proxy => proxy.set attr.name value attr.ignored
  | .association factory overrides strategy =>
    Act.associate runner attr.name factory overrides strategy

end Attribute

namespace Plan

/-- Does one step of a plan. -/
def perform (runner : Runner) : Action → Act Unit
  | .assign key value ignored => Act.onProxy fun proxy => proxy.set key value ignored
  | .evaluate attr => attr.addTo runner

/-- Does the steps of a plan in order. -/
def performAll (runner : Runner) : List Action → Act Unit
  | [] => pure ()
  | action :: actions => do
    perform runner action
    performAll runner actions

/-- Carries out a plan. -/
def carryOut (runner : Runner) (plan : Plan) : Act Unit := do
  performAll runner plan.actions
  match plan.fault with
  | some fault => Act.fail fault
  | none => pure ()

end Plan

namespace Proxy

/-- `Proxy.instantiate` — makes the instance from the values of the proxy. -/
def instantiate : Act Unit := ExceptT.mk fun site =>
  match (Build.construct site.proxy.model site.proxy.persistedValues).run site.world with
  | (.ok made, world) => (.ok (), { site with world := world, subject := some made })
  | (.error fault, world) => (.error fault, { site with world := world })

/-- `Proxy.run_callbacks` — its loop: runs callbacks in order. -/
def runAll (runner : Runner) : List Callback → Act Unit
  | [] => pure ()
  | callback :: callbacks => do
    callback.run runner
    runAll runner callbacks

/-- `Proxy.run_callbacks` — runs the callbacks of a moment. -/
def runCallbacks (runner : Runner) (moment : Moment) : Act Unit := do
  let callbacks ← Act.ask fun site => .ok (site.proxy.callbacksAt moment)
  runAll runner callbacks

/-- `CreateProxy.persist` — its test: the method of a name can be called on an instance, since its
model has it and no field hides it. -/
def canCall (models : Table String Model) (subject : Instance) (method : String) : Bool :=
  !subject.fields.has method &&
    ((models.lookup subject.model).map fun model => model.methods.contains method).getD false

/-- `CreateProxy.persist` — saves the instance by the method that the configuration names. -/
def persist : Act Unit := do
  let method ← Act.ask fun site => site.world.registry.settings.persistMethod
  let callable ← Act.ask fun site =>
    .ok ((site.subject.map fun subject => canCall site.world.models subject method).getD false)
  let model ← Act.askSubject Instance.model
  let serial ← Act.askSubject Instance.serial
  if callable then
    Act.emit (.method method model serial)
    Act.onSubject fun subject => { subject with persisted := true }
  else Act.fail (.noPersistMethod model method)

/-- `CreateProxy.result` — its middle: saves the instance, by a finalizer if there is one. -/
def finalize (runner : Runner) (finalizer : Option Handler) : Act Unit :=
  match finalizer with
  | some handler => handler.call runner 1
  | none => persist

/-- `StubProxy.result` — its first step: gives the proxy an id unless it has one. -/
def drawId : Act Unit := do
  let present ← Act.ask fun site => .ok (site.proxy.has "id")
  if present then pure ()
  else
    let id ← Act.ofBuild Build.drawStub
    Act.onProxy fun proxy => proxy.set "id" (.int id) false

/-- `Proxy.result` — the result that the strategy of the proxy makes of its values. -/
def result (runner : Runner) (finalizer : Option Handler) : Act Value := do
  let strategy ← Act.ask fun site => .ok site.proxy.strategy
  match strategy with
  | .attributesFor => Act.ask fun site => .ok site.proxy.valueMap
  | .build =>
    instantiate
    runCallbacks runner .afterBuild
    Act.askSubject Instance.value
  | .create =>
    instantiate
    runCallbacks runner .afterBuild
    finalize runner finalizer
    runCallbacks runner .afterCreate
    Act.askSubject Instance.value
  | .stub =>
    drawId
    instantiate
    runCallbacks runner .afterStub
    Act.askSubject Instance.value

/-- `Proxy.__init__` — a proxy before any value is set. -/
def fresh (strategy : Strategy) (model : Value) (callbacks : List Callback) : Proxy :=
  { strategy := strategy, model := model, callbacks := callbacks }

end Proxy

namespace Build

/-- `Factory._canonical_overrides` — its loop: canonical overrides in order, from those read so far
on. `given` holds the key under which each was given. -/
def canonicalFrom (factory : String) (pending : List Override) (given : Table String Key) :
    List (Key × Value) → Except Fault (List Override)
  | [] => .ok pending
  | (key, value) :: rest =>
    let name := Name.ofKey key
    match given.lookup name with
    | some first => .error (.ambiguousOverride factory name first key)
    | none => canonicalFrom factory (pending ++ [(name, value)]) (given ++ [(name, key)]) rest

/-- `Factory._canonical_overrides` — overrides under canonical keys, no two of which are the
same. -/
def canonicalOverrides (factory : String) (overrides : Dict) : Except Fault (List Override) :=
  canonicalFrom factory [] [] overrides

/-- Fills a proxy by a plan and makes the result. -/
def carryOut (runner : Runner) (proxy : Proxy) (plan : Plan) (finalizer : Option Handler) :
    Build Value :=
  ExceptT.mk fun world =>
    let act : Act Value := do
      plan.carryOut runner
      Proxy.result runner finalizer
    let (outcome, site) := act.run { world := world, proxy := proxy }
    (outcome, site.world)

end Build

namespace Runner

/-- `Factory.run` — one run of a factory, in which other runs are made by `runner`. -/
def next (runner : Runner) : Runner := fun id choice overrides => do
  Build.onRegistry fun registry => registry.compile id
  let strategy ← Build.ofExcept (Strategy.ofProxy choice)
  let model ← Build.onRegistry (Registry.model id)
  let list ← Build.onRegistry (Registry.attributes id)
  let name ← Build.ask fun world => .ok (((world.registry.factory? id).map Factory.name).getD "")
  let pending ← Build.ofExcept (Build.canonicalOverrides name overrides)
  let plan ← Build.ask fun world =>
    .ok (Plan.make world.registry.aliasesFor list.attributes pending)
  let finalizer ← Build.ask fun world => .ok ((world.registry.factory? id).bind Factory.finalizer)
  Build.carryOut runner (Proxy.fresh strategy model list.callbacks) plan finalizer

/-- Runs of factories in which runs are nested at most `depth` deep. -/
def within : Nat → Runner
  | 0 => fun _ _ _ => Build.fail .tooDeep
  | depth + 1 => (within depth).next

/-- How deep runs may be nested beyond one for every factory. -/
def depthLimit : Nat := 1000

/-- Runs of factories. -/
def standard : Runner := fun id choice overrides => do
  let count ← Build.ask fun world => .ok world.registry.factories.length
  within (count + depthLimit) id choice overrides

/-- `Registry.build_list`, `Registry.create_list` — several runs of the factory of a name with a
strategy; their results in order. -/
def several (runner : Runner) (name : Value) (strategy : Strategy) (overrides : Dict) :
    Nat → Build (List Value)
  | 0 => pure []
  | count + 1 => do
    let value ← runner.named name (.strategy strategy) overrides
    let values ← several runner name strategy overrides count
    pure (value :: values)

end Runner

end Blueprint
