import Blueprint.Proofs.Build.Keep
import Blueprint.Proofs.Registry.History

/-!
# Runs as steps of the world

Whatever an operation of a build does to the world, it does in steps: an event is logged, a counter
goes on, an instance is made or changed in place, a factory is compiled or its class looked up, an
id is drawn. A run of a factory, with all the runs nested in it, is a sequence of such steps,
whether it succeeds or not, so that what every step keeps is kept by every run.
-/
namespace Blueprint

/-! ### Steps -/

/-- The id that an event draws, if it draws one. -/
def Event.drawn? : Event → Option Int
  | .drawn id => some id
  | _ => none

/-- One small change of the world in the course of a build. -/
inductive World.Step (world : World) : World → Prop where
  /-- An event is logged that draws no id. -/
  | logged (event : Event) (drawsNone : event.drawn? = none) :
      Step world { world with log := world.log ++ [event] }
  /-- A counter goes on. -/
  | counted (name : String) (n : Nat) :
      Step world { world with counters := world.counters.put name n }
  /-- An instance is changed in place. -/
  | altered (serial : Nat) (fields : Table String Value) :
      Step world { world with altered := world.altered.put serial fields }
  /-- An id is drawn. -/
  | drawn :
      Step world
        { world with
          registry := world.registry.drawStub.2
          log := world.log ++ [.drawn world.registry.drawStub.1] }
  /-- An instance is made. -/
  | constructed (name : String) (arguments : Table String Value) :
      Step world
        { world with
          made := world.made + 1
          log := world.log ++ [.made name (world.made + 1) arguments] }
  /-- A factory is compiled, or fails to be. -/
  | compiled (id : FactoryId) :
      Step world { world with registry := (world.registry.compile id).2 }
  /-- The model class of a factory is looked up. -/
  | classed (id : FactoryId) :
      Step world { world with registry := (Registry.model id world.registry).2 }

/-- Steps in turn. -/
abbrev World.Steps : World → World → Prop := Relation.ReflTransGen World.Step

/-- A build does to the world nothing but steps. -/
abbrev Build.Walks {α : Type} (build : Build α) : Prop := Keeps World.Steps build

/-- An operation on a site does to its world nothing but steps. -/
abbrev Act.Walks {α : Type} (act : Act α) : Prop :=
  Keeps (Function.onFun World.Steps Site.world) act

namespace Build

variable {α : Type}

/-- Asking gives what is asked for, and changes nothing. -/
theorem run_ask (view : World → Except Fault α) (world : World) :
    (ask view).run world = (view world, world) := rfl

/-- An operation on the registry changes nothing else. -/
theorem run_onRegistry (step : Registry.Step α) (world : World) :
    (onRegistry step).run world =
      ((step world.registry).1, { world with registry := (step world.registry).2 }) := rfl

/-- A change of the registry that succeeds changes nothing else. -/
theorem changeRegistry_of_ok {change : Registry → Except Fault Registry} {world : World}
    {registry : Registry} (done : change world.registry = .ok registry) :
    (changeRegistry change).run world = (.ok (), { world with registry := registry }) := by
  simp [changeRegistry, ExceptT.run, ExceptT.mk, done]

/-- A change of the registry that fails changes nothing. -/
theorem changeRegistry_of_error {change : Registry → Except Fault Registry} {world : World}
    {fault : Fault} (failed : change world.registry = .error fault) :
    (changeRegistry change).run world = (.error fault, world) := by
  simp [changeRegistry, ExceptT.run, ExceptT.mk, failed]

/-- What fails walks. -/
theorem walks_fail (fault : Fault) : (fail fault : Build α).Walks := fun _ => .refl

/-- An outcome that does not depend on the world walks. -/
theorem walks_ofExcept (outcome : Except Fault α) : (ofExcept outcome).Walks := fun _ => .refl

/-- What only asks walks. -/
theorem walks_ask (view : World → Except Fault α) : (ask view).Walks := fun _ => .refl

/-- Logging an event that draws no id walks. -/
theorem walks_emit {event : Event} (drawsNone : event.drawn? = none) : (emit event).Walks :=
  fun _ => .single (.logged event drawsNone)

/-- Counting walks. -/
theorem walks_count (name : String) : (count name).Walks := fun _ => .single (.counted name _)

/-- Changing an instance in place walks. -/
theorem walks_alter (value : Value) (name : String) (part : Value) :
    (alter value name part).Walks := by
  intro world
  obtain same | ⟨serial, fields, same⟩ := alter_cases value name part world
  · rw [same]
  · rw [same]
    exact .single (.altered serial fields)

/-- Drawing an id walks. -/
theorem walks_drawStub : drawStub.Walks := fun _ => .single .drawn

/-- Making an instance walks. -/
theorem walks_construct (model : Value) (arguments : Table String Value) :
    (construct model arguments).Walks := by
  intro world
  unfold construct
  rw [ExceptT.run_mk]
  dsimp only
  split
  · split
    · split
      · exact .single (.constructed _ arguments)
      · exact .refl
    · exact .refl
  · exact .refl

/-- Compiling a factory walks. -/
theorem walks_compile (id : FactoryId) :
    (onRegistry fun registry => registry.compile id).Walks := fun _ => .single (.compiled id)

/-- Looking up a model class walks. -/
theorem walks_model (id : FactoryId) : (onRegistry (Registry.model id)).Walks :=
  fun _ => .single (.classed id)

/-- Giving the attributes of a factory walks. -/
theorem walks_attributes (id : FactoryId) : (onRegistry (Registry.attributes id)).Walks := by
  intro world
  show World.Steps world { world with registry := (Registry.attributes id world.registry).2 }
  rw [Registry.snd_attributes]
  exact .single (.compiled id)

end Build

namespace Act

variable {α : Type}

/-- Changing the proxy walks. -/
theorem walks_onProxy (change : Proxy → Proxy) : (onProxy change).Walks := fun _ => .refl

/-- Changing the instance walks. -/
theorem walks_onSubject (change : Instance → Instance) : (onSubject change).Walks := by
  intro site
  unfold onSubject
  rw [ExceptT.run_mk]
  show World.Steps site.world _
  split
  · exact .refl
  · exact .refl

/-- What a build does to the world is all that it does to a site. -/
theorem walks_ofBuild {build : Build α} (walks : build.Walks) : (ofBuild build).Walks :=
  fun site => walks site.world

/-- Logging an event that draws no id walks. -/
theorem walks_emit {event : Event} (drawsNone : event.drawn? = none) : (emit event).Walks :=
  walks_ofBuild (Build.walks_emit drawsNone)

end Act

/-! ### Runs -/

/-- All runs of a runner walk. -/
def Runner.Walks (runner : Runner) : Prop :=
  ∀ id choice overrides, (runner id choice overrides).Walks

/-- Running the factory of a name walks. -/
theorem Runner.Walks.named {runner : Runner} (walks : runner.Walks) (name choice : Value)
    (overrides : Dict) : (runner.named name choice overrides).Walks := by
  refine (Build.walks_ask _).bind fun id => ?_
  cases choice with
  | null =>
    exact (Build.walks_ask _).bind fun strategy => walks id (.strategy strategy) overrides
  | _ => exact walks id _ overrides

variable {runner : Runner}

/-- All that fills a proxy walks. -/
theorem Runner.Walks.keeping (walks : runner.Walks) :
    Keeping runner (Function.onFun World.Steps Site.world) fun _ => True where
  ticked _ := Act.walks_emit rfl
  noted _ _ := Act.walks_emit rfl
  counted name := Act.walks_ofBuild (Build.walks_count name)
  altered value name part := Act.walks_ofBuild (Build.walks_alter value name part)
  ran id choice overrides := Act.walks_ofBuild (walks id choice overrides)
  ranNamed factory strategy overrides := Act.walks_ofBuild (walks.named factory strategy overrides)
  set _ _ _ _ := Act.walks_onProxy _
  fieldSet _ _ := Act.walks_onSubject _

/-- Calling a handler walks. -/
theorem Handler.walks_call (walks : runner.Walks) (handler : Handler) (arguments : Nat) :
    (handler.call runner arguments).Walks :=
  (Act.keeps_askSubject _).bind fun _ => (Act.walks_emit rfl).bind fun _ =>
    (Expr.keeps_eval walks.keeping _ handler.body fun _ _ => trivial).bind fun _ => .pure _

/-- Running a callback walks. -/
theorem Callback.walks_run (walks : runner.Walks) (callback : Callback) :
    (callback.run runner).Walks := by
  unfold Callback.run
  cases callback.handler with
  | none => exact Act.keeps_fail _
  | some handler => exact Handler.walks_call walks handler _

/-- Carrying out a plan walks. -/
theorem Plan.walks_carryOut (walks : runner.Walks) (plan : Plan) :
    (plan.carryOut runner).Walks := by
  refine (Plan.keeps_performAll walks.keeping plan.actions fun _ _ _ _ => trivial).bind fun _ => ?_
  cases plan.fault with
  | none => exact .pure ()
  | some fault => exact Act.keeps_fail fault

namespace Proxy

/-- Making the instance walks. -/
theorem walks_instantiate : instantiate.Walks := by
  intro site
  have made := Build.walks_construct site.proxy.model site.proxy.persistedValues site.world
  unfold instantiate
  rw [ExceptT.run_mk]
  show World.Steps site.world _
  split
  · rename_i done
    rwa [done] at made
  · rename_i failed
    rwa [failed] at made

/-- Running callbacks walks. -/
theorem walks_runAll (walks : runner.Walks) (callbacks : List Callback) :
    (runAll runner callbacks).Walks := by
  induction callbacks with
  | nil => exact .pure ()
  | cons callback rest ih => exact (callback.walks_run walks).bind fun _ => ih

/-- Running the callbacks of a moment walks. -/
theorem walks_runCallbacks (walks : runner.Walks) (moment : Moment) :
    (runCallbacks runner moment).Walks :=
  (Act.keeps_ask _).bind fun callbacks => walks_runAll walks callbacks

/-- Saving the instance by a method walks. -/
theorem walks_persist : persist.Walks := by
  refine (Act.keeps_ask _).bind fun method => (Act.keeps_ask _).bind fun callable => ?_
  refine (Act.keeps_askSubject _).bind fun model => (Act.keeps_askSubject _).bind fun serial => ?_
  cases callable with
  | true => exact (Act.walks_emit rfl).bind fun _ => Act.walks_onSubject _
  | false => exact Act.keeps_fail _

/-- Saving the instance walks. -/
theorem walks_finalize (walks : runner.Walks) (finalizer : Option Handler) :
    (finalize runner finalizer).Walks := by
  cases finalizer with
  | none => exact walks_persist
  | some handler => exact handler.walks_call walks 1

/-- Giving the proxy an id walks. -/
theorem walks_drawId : drawId.Walks := by
  refine (Act.keeps_ask _).bind fun present => ?_
  cases present with
  | true => exact .pure ()
  | false => exact (Act.walks_ofBuild Build.walks_drawStub).bind fun _ => Act.walks_onProxy _

/-- Making the result walks. -/
theorem walks_result (walks : runner.Walks) (finalizer : Option Handler) :
    (result runner finalizer).Walks := by
  refine (Act.keeps_ask _).bind fun strategy => ?_
  cases strategy with
  | attributesFor => exact Act.keeps_ask _
  | build =>
    exact walks_instantiate.bind fun _ => (walks_runCallbacks walks _).bind fun _ =>
      Act.keeps_askSubject _
  | create =>
    exact walks_instantiate.bind fun _ => (walks_runCallbacks walks _).bind fun _ =>
      (walks_finalize walks finalizer).bind fun _ => (walks_runCallbacks walks _).bind fun _ =>
        Act.keeps_askSubject _
  | stub =>
    exact walks_drawId.bind fun _ => walks_instantiate.bind fun _ =>
      (walks_runCallbacks walks _).bind fun _ => Act.keeps_askSubject _

end Proxy

/-- Filling a proxy and making the result walks. -/
theorem Build.walks_carryOut (walks : runner.Walks) (proxy : Proxy) (plan : Plan)
    (finalizer : Option Handler) : (carryOut runner proxy plan finalizer).Walks := by
  have act := (plan.walks_carryOut walks).bind fun _ => Proxy.walks_result walks finalizer
  exact fun world => act { world := world, proxy := proxy }

/-- What a run has prepared when it starts to fill the proxy. -/
structure Prepared where
  /-- The proxy, without values. -/
  proxy : Proxy
  /-- The attributes of the factory. -/
  attributes : List Attribute
  /-- The overrides under canonical keys. -/
  overrides : List Override
  /-- The names that the patterns find for a key. -/
  aliases : String → Except Fault (List String)
  /-- What saves the instance, if not a method of the instance. -/
  finalizer : Option Handler

/-- The plan of a run. -/
def Prepared.plan (run : Prepared) : Plan := Plan.make run.aliases run.attributes run.overrides

namespace Runner

/-- What a run does after its factory is compiled and before it fills the proxy. -/
def prepare (id : FactoryId) (choice : Value) (overrides : Dict) : Build Prepared := do
  let strategy ← Build.ofExcept (Strategy.ofProxy choice)
  let model ← Build.onRegistry (Registry.model id)
  let list ← Build.onRegistry (Registry.attributes id)
  let name ← Build.ask fun world => .ok (((world.registry.factory? id).map Factory.name).getD "")
  let pending ← Build.ofExcept (Build.canonicalOverrides name overrides)
  let aliases ← Build.ask fun world => .ok world.registry.aliasesFor
  let finalizer ← Build.ask fun world => .ok ((world.registry.factory? id).bind Factory.finalizer)
  pure ⟨Proxy.fresh strategy model list.callbacks, list.attributes, pending, aliases, finalizer⟩

/-- A run compiles its factory, prepares, and carries out the plan. -/
theorem next_eq (runner : Runner) (id : FactoryId) (choice : Value) (overrides : Dict) :
    runner.next id choice overrides = (do
      Build.onRegistry fun registry => registry.compile id
      let run ← prepare id choice overrides
      Build.carryOut runner run.proxy run.plan run.finalizer) := by
  simp only [next, prepare, bind_assoc, pure_bind]
  rfl

/-- Preparing walks. -/
theorem walks_prepare (id : FactoryId) (choice : Value) (overrides : Dict) :
    (prepare id choice overrides).Walks := by
  refine (Build.walks_ofExcept _).bind fun strategy => (Build.walks_model id).bind fun model => ?_
  refine (Build.walks_attributes id).bind fun list => (Build.walks_ask _).bind fun name => ?_
  refine (Build.walks_ofExcept _).bind fun pending => (Build.walks_ask _).bind fun aliases => ?_
  exact (Build.walks_ask _).bind fun finalizer => .pure _

/-- After its factory is compiled, a run walks if the runs nested in it do. -/
theorem Walks.prepared (walks : runner.Walks) (id : FactoryId) (choice : Value) (overrides : Dict) :
    Build.Walks (do
      let run ← prepare id choice overrides
      Build.carryOut runner run.proxy run.plan run.finalizer) :=
  (walks_prepare id choice overrides).bind fun _ => Build.walks_carryOut walks _ _ _

/-- A run of a factory walks if the runs nested in it do. -/
theorem Walks.next (walks : runner.Walks) : runner.next.Walks := by
  intro id choice overrides
  rw [next_eq]
  exact (Build.walks_compile id).bind fun _ => walks.prepared id choice overrides

/-- Runs walk, however deep they are nested. -/
theorem walks_within (depth : Nat) : (within depth).Walks := by
  induction depth with
  | zero => exact fun _ _ _ => Build.walks_fail _
  | succ depth ih => exact ih.next

/-- Every run of a factory walks. -/
theorem walks_standard : standard.Walks := by
  intro id choice overrides
  exact (Build.walks_ask _).bind fun count => walks_within _ id choice overrides

/-- A run starts with compiling its factory, and what it does afterwards are steps. -/
theorem steps_standard (id : FactoryId) (choice : Value) (overrides : Dict) (world : World) :
    World.Steps { world with registry := (world.registry.compile id).2 }
      ((standard id choice overrides).run world).2 := by
  obtain ⟨depth, deep⟩ : ∃ depth, world.registry.factories.length + depthLimit = depth + 1 :=
    ⟨_, rfl⟩
  unfold standard
  rw [run_bind, Build.run_ask]
  simp only
  rw [deep, within, next_eq, run_bind, Build.run_onRegistry]
  cases (world.registry.compile id).1 with
  | error fault => exact .refl
  | ok done => exact (walks_within depth).prepared id choice overrides _

end Runner

/-! ### Runs as operations -/

namespace History

/-- Steps of the world are operations on its registry. -/
theorem operations_of_steps {world after : World} (steps : World.Steps world after)
    (made : List Factory) (permitted : List FactoryId) :
    Operations ⟨world.registry, made, permitted⟩ ⟨after.registry, made, permitted⟩ := by
  induction steps with
  | refl => exact .refl
  | tail _ step ih =>
    cases step with
    | logged => exact ih
    | counted name n => exact ih
    | altered serial fields => exact ih
    | constructed name arguments => exact ih
    | drawn => exact ih.tail .drawn
    | compiled id => exact ih.tail (.compiled id)
    | classed id => exact ih.tail (.classed id)

/-- Steps of the world are moves of its registry. -/
theorem moves_of_steps {world after : World} (steps : World.Steps world after)
    (bound : world.registry.Bound) : Registry.Moves world.registry after.registry := by
  induction steps with
  | refl => exact .refl
  | @tail middle _ _ step ih =>
    have still : middle.registry.Bound := Registry.Moves.keeps_bound ih bound
    cases step with
    | logged => exact ih
    | counted name n => exact ih
    | altered serial fields => exact ih
    | constructed name arguments => exact ih
    | drawn => exact ih.tail .drawn
    | compiled id => exact ih.trans (Registry.compiles_compile _ id still).1.moves
    | classed id => exact ih.trans (Registry.moves_model _ id)

/-- A run leads from a registry that is reached to a registry that is reached. -/
theorem Reached.run {history : History} (reached : history.Reached) {world : World}
    (same : world.registry = history.registry) (id : FactoryId) (choice : Value)
    (overrides : Dict) :
    (history.withRegistry
      ((Runner.standard id choice overrides).run world).2.registry).Reached := by
  have operations := operations_of_steps (Runner.walks_standard id choice overrides world)
    history.made history.permitted
  rw [same] at operations
  exact reached.trans operations

end History

end Blueprint
