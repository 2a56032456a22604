import Blueprint.Proofs.Build.Step
import Blueprint.Proofs.Registry.Stage

/-!
# Sessions

A session is what a caller asks of a world, one request after the other, whatever comes of each. Its
record keeps every request with its answer, so that what a registry has become can be told from what
was asked for and granted. `Served` says what each request comes to for the history of the registry:
if it fails it changes nothing, unless it compiles on the way.
-/
namespace Blueprint

open Registry

/-! ### Requests and answers -/

/-- What can be asked of a world. -/
inductive Request where
  /-- A factory is made and registered. -/
  | define (name : Value) (options named : Dict)
  /-- A factory is made. -/
  | make (name : Value) (options : Dict)
  /-- A factory is registered. -/
  | register (id : FactoryId)
  /-- A trait is registered. -/
  | registerTrait (trait : Trait)
  /-- A model class is registered. -/
  | registerModel (model identifier : String)
  /-- A factory is told to allow overrides. -/
  | allowOverrides (id : FactoryId)
  /-- The definition of a factory is changed. -/
  | edit (id : FactoryId) (edit : Factory.Edit)
  /-- A factory is compiled. -/
  | compile (id : FactoryId)
  /-- The attributes of a factory are asked for. -/
  | attributes (id : FactoryId)
  /-- The model class of a factory is looked up. -/
  | model (id : FactoryId)
  /-- A factory is run. -/
  | run (id : FactoryId) (choice : Value) (overrides : Dict)
  /-- The factory that is registered under a name is run. -/
  | runNamed (name choice : Value) (overrides : Dict)
  /-- An id is drawn for a stubbed instance. -/
  | drawStub
  /-- The registry is sealed. -/
  | close

/-- What is answered when a request is granted. -/
inductive Reply where
  /-- It is done. -/
  | done
  /-- A factory is made. -/
  | factory (id : FactoryId)
  /-- Attributes are given. -/
  | attributes (list : AttributeList)
  /-- A value is given. -/
  | value (value : Value)

/-- A request with what has come of it. -/
structure Exchange where
  /-- The request. -/
  request : Request
  /-- What has come of it. -/
  outcome : Except Fault Reply

namespace Build

/-- A build about a factory, which has to be there. -/
def about {α : Type} (id : FactoryId) (build : Build α) : Build α := ExceptT.mk fun world =>
  match world.registry.factory? id with
  | some _ => build.run world
  | none => (.error .wrongType, world)

/-- A build whose result is put into a reply. -/
def replying {α : Type} (reply : α → Reply) (build : Build α) : Build Reply := do
  let value ← build
  pure (reply value)

end Build

namespace Request

open Build

/-- Serves a request. -/
def serve : Request → Build Reply
  | .define name options named => replying .factory (defineFactory name options named)
  | .make name options => replying .factory (newFactory name options)
  | .register id =>
    about id (replying (fun _ => .done) (changeRegistry fun registry => registry.register id))
  | .registerTrait trait =>
    replying (fun _ => .done) (changeRegistry fun registry => registry.registerTrait trait)
  | .registerModel name identifier =>
    replying (fun _ => .done)
      (changeRegistry fun registry => registry.registerModel name identifier)
  | .allowOverrides id =>
    about id
      (replying (fun _ => .done) (changeRegistry fun registry => .ok (registry.allowOverrides id)))
  | .edit id change =>
    about id
      (replying (fun _ => .done)
        (changeRegistry fun registry => registry.tryModify id change.apply))
  | .compile id =>
    about id (replying (fun _ => .done) (onRegistry fun registry => registry.compile id))
  | .attributes id => about id (replying .attributes (onRegistry (Registry.attributes id)))
  | .model id => about id (replying .value (onRegistry (Registry.model id)))
  | .run id choice overrides =>
    about id (replying .value (Runner.standard id choice overrides))
  | .runNamed name choice overrides =>
    replying .value (Runner.standard.named name choice overrides)
  | .drawStub => replying (fun id => .value (.int id)) Build.drawStub
  | .close => replying (fun _ => .done) (onRegistry Registry.close)

/-- The request neither makes nor registers anything, nor lets a factory allow overrides. -/
def isQuiet : Request → Bool
  | .define .. | .make .. | .register _ | .registerTrait _ | .registerModel .. => false
  | .allowOverrides _ => false
  | _ => true

end Request

namespace World

/-- The world after requests. -/
def after (world : World) : List Request → World
  | [] => world
  | request :: rest => after (request.serve.run world).2 rest

/-- The requests with what has come of each. -/
def record (world : World) : List Request → List Exchange
  | [] => []
  | request :: rest =>
    ⟨request, (request.serve.run world).1⟩ :: record (request.serve.run world).2 rest

end World

namespace Exchange

/-- The factory that was registered, if one was. -/
def enrolled? : Exchange → Option FactoryId
  | ⟨.define _ _ _, .ok (.factory id)⟩ => some id
  | ⟨.register id, .ok _⟩ => some id
  | _ => none

/-- The factory that was told to allow overrides, if one was. -/
def told? : Exchange → Option FactoryId
  | ⟨.allowOverrides id, .ok _⟩ => some id
  | _ => none

end Exchange

/-! ### What requests come to -/

/-- What serving a request comes to for the history of the registry. -/
inductive Served (history : History) : Exchange → History → Prop where
  /-- It fails, and changes nothing. -/
  | refused (request : Request) (fault : Fault) : Served history ⟨request, .error fault⟩ history
  /-- A factory is made and registered. -/
  | defined {name : Value} {options named given : Dict} {warning : Option String}
      {factory : Factory} {after : Registry}
      (checked : Factory.checkOptions history.registry.settings given = .ok warning)
      (described : Factory.ofOptions history.registry.settings name given = .ok factory)
      (done : (history.registry.add factory).1.register history.registry.factories.length =
        .ok after) :
      Served history ⟨.define name options named, .ok (.factory history.registry.factories.length)⟩
        { history with registry := after, made := history.made ++ [factory] }
  /-- A factory is made. -/
  | made {name : Value} {options : Dict} {warning : Option String} {factory : Factory}
      (checked : Factory.checkOptions history.registry.settings options = .ok warning)
      (described : Factory.ofOptions history.registry.settings name options = .ok factory) :
      Served history ⟨.make name options, .ok (.factory history.registry.factories.length)⟩
        { history with
          registry := (history.registry.add factory).1, made := history.made ++ [factory] }
  /-- A factory is registered. -/
  | registered {id : FactoryId} {factory : Factory} {after : Registry}
      (found : history.registry.factory? id = some factory)
      (done : history.registry.register id = .ok after) :
      Served history ⟨.register id, .ok .done⟩ (history.withRegistry after)
  /-- A trait is registered. -/
  | traitRegistered {trait : Trait} {after : Registry}
      (done : history.registry.registerTrait trait = .ok after) :
      Served history ⟨.registerTrait trait, .ok .done⟩ (history.withRegistry after)
  /-- A model class is registered. -/
  | modelRegistered {model identifier : String} {after : Registry}
      (done : history.registry.registerModel model identifier = .ok after) :
      Served history ⟨.registerModel model identifier, .ok .done⟩ (history.withRegistry after)
  /-- A factory is told to allow overrides. -/
  | permitted {id : FactoryId} {factory : Factory}
      (found : history.registry.factory? id = some factory) :
      Served history ⟨.allowOverrides id, .ok .done⟩
        { history with
          registry := history.registry.allowOverrides id, permitted := id :: history.permitted }
  /-- Whatever comes of it, the registry proceeds in stages. -/
  | staged {request : Request} {after : Registry} (outcome : Except Fault Reply)
      (quiet : request.isQuiet = true)
      (operations : History.Operations history (history.withRegistry after))
      (stages : Stages history.registry after) :
      Served history ⟨request, outcome⟩ (history.withRegistry after)

namespace Served

variable {history later : History} {exchange : Exchange}

/-- Serving a request consists of operations. -/
theorem operations (served : Served history exchange later) :
    History.Operations history later := by
  cases served with
  | refused => exact .refl
  | defined checked described done =>
    exact (Relation.ReflTransGen.single (.made checked described)).tail (.registered done)
  | made checked described => exact .single (.made checked described)
  | registered found done => exact .single (.registered done)
  | traitRegistered done => exact .single (.traitRegistered done)
  | modelRegistered done => exact .single (.modelRegistered done)
  | permitted found => exact .single (.permitted _)
  | staged outcome quiet operations stages => exact operations

/-- A quiet request neither registers a factory nor tells one to allow overrides. -/
theorem none_of_quiet {request : Request} (quiet : request.isQuiet = true)
    (outcome : Except Fault Reply) : Exchange.enrolled? ⟨request, outcome⟩ = none ∧
      Exchange.told? ⟨request, outcome⟩ = none := by
  cases request with
  | define | make | register | registerTrait | registerModel | allowOverrides => cases quiet
  | _ => exact ⟨rfl, rfl⟩

/-- The factories that are told to allow overrides are kept, the last one first. -/
theorem permitted_eq (served : Served history exchange later) :
    later.permitted = exchange.told?.toList ++ history.permitted := by
  cases served with
  | refused request fault => cases request <;> rfl
  | staged outcome quiet =>
    rw [(none_of_quiet quiet outcome).2]
    rfl
  | _ => rfl

end Served

/-! ### Serving -/

namespace Build

variable {α : Type} {world : World}

/-- Replying changes the result only. -/
theorem run_replying (reply : α → Reply) (build : Build α) (world : World) :
    (replying reply build).run world =
      ((build.run world).1.map reply, (build.run world).2) := by
  unfold replying
  rw [run_bind]
  cases build.run world with
  | mk outcome after => cases outcome <;> rfl

/-- An outcome that does not depend on the world is what it is, and changes nothing. -/
theorem run_ofExcept (outcome : Except Fault α) (world : World) :
    (ofExcept outcome).run world = (outcome, world) := rfl

/-- Making a factory leaves the registry, and gives what the checked options describe. -/
theorem run_makeFactory (name : Value) (options : Dict) (world : World) :
    ∃ after : World, after.registry = world.registry ∧
      ((∃ fault, (makeFactory name options).run world = (.error fault, after)) ∨
        ∃ warning factory, Factory.checkOptions world.registry.settings options = .ok warning ∧
          Factory.ofOptions world.registry.settings name options = .ok factory ∧
          (makeFactory name options).run world = (.ok factory, after)) := by
  unfold makeFactory
  rw [run_bind, run_ask]
  cases checked : Factory.checkOptions world.registry.settings options with
  | error fault => exact ⟨world, rfl, .inl ⟨fault, rfl⟩⟩
  | ok warning =>
    -- a warning is logged, which the registry does not see
    let warned : World := match warning with
      | some text => { world with log := world.log ++ [.warning text] }
      | none => world
    have same : warned.registry = world.registry := by cases warning <;> rfl
    refine ⟨warned, same, ?_⟩
    cases described : Factory.ofOptions world.registry.settings name options with
    | error fault =>
      refine .inl ⟨fault, ?_⟩
      cases warning with
      | none => exact congrArg (·, world) described
      | some text => exact congrArg (·, warned) described
    | ok factory =>
      refine .inr ⟨warning, factory, rfl, rfl, ?_⟩
      cases warning with
      | none => exact congrArg (·, world) described
      | some text => exact congrArg (·, warned) described

/-- A build about a factory that is there. -/
theorem run_about_of_some {id : FactoryId} {factory : Factory}
    (found : world.registry.factory? id = some factory) (build : Build α) :
    (about id build).run world = build.run world := by
  simp [about, found]

/-- A build about a factory that is not there. -/
theorem run_about_of_none {id : FactoryId} (missing : world.registry.factory? id = none)
    (build : Build α) : (about id build).run world = (.error .wrongType, world) := by
  simp [about, missing]

end Build

namespace History

variable {history : History} {world after : World}

/-- In a registry that is reached, steps of the world are stages of the registry. -/
theorem Reached.stages_of_steps (reached : history.Reached)
    (same : world.registry = history.registry) (steps : World.Steps world after) :
    Stages history.registry after.registry := by
  induction steps with
  | refl => rw [same]
  | @tail middle _ before step ih =>
    have operations := operations_of_steps before history.made history.permitted
    rw [same] at operations
    have onward := reached.trans operations
    cases step with
    | logged => exact ih
    | counted name n => exact ih
    | altered serial fields => exact ih
    | constructed name arguments => exact ih
    | drawn => exact ih.tail .drawn
    | compiled id => exact ih.trans (onward.stages_compile id)
    | classed id => exact ih.trans (stages_model _ id)

end History

namespace Request

open Build History

variable {history : History} {world : World}

/-- What a request has come to, and that the world has the registry to which it has come. -/
def Comes (history : History) (request : Request) (result : Except Fault Reply × World) : Prop :=
  ∃ later, Served history ⟨request, result.1⟩ later ∧ result.2.registry = later.registry

/-- A request that fails and leaves the registry. -/
theorem comes_refused (same : world.registry = history.registry) (request : Request)
    (fault : Fault) : Comes history request (.error fault, world) :=
  ⟨history, .refused request fault, same⟩

/-- A request about a factory comes to what it does if the factory is there. -/
theorem comes_about (same : world.registry = history.registry) (request : Request) {id : FactoryId}
    {build : Build Reply} (there : ∀ {factory}, history.registry.factory? id = some factory →
      Comes history request (build.run world)) :
    Comes history request ((about id build).run world) := by
  cases found : history.registry.factory? id with
  | none =>
    rw [run_about_of_none (by rw [same, found])]
    exact comes_refused same request _
  | some factory =>
    rw [run_about_of_some (by rw [same, found])]
    exact there found

/-- A quiet request that does steps only. -/
theorem comes_of_walks {α : Type} (reached : history.Reached)
    (same : world.registry = history.registry) {request : Request} (quiet : request.isQuiet = true)
    {build : Build α} (walks : build.Walks) (reply : α → Reply) :
    Comes history request ((replying reply build).run world) := by
  rw [run_replying]
  have operations := operations_of_steps (walks world) history.made history.permitted
  rw [same] at operations
  exact ⟨_, .staged _ quiet operations (reached.stages_of_steps same (walks world)), rfl⟩

/-- A change of the registry that is made as a whole or not at all. -/
theorem comes_changeRegistry (same : world.registry = history.registry) {request : Request}
    {change : Registry → Except Fault Registry}
    (made : ∀ {after}, change history.registry = .ok after →
      ∃ later, Served history ⟨request, .ok .done⟩ later ∧ after = later.registry) :
    Comes history request ((replying (fun _ => .done) (changeRegistry change)).run world) := by
  rw [run_replying]
  cases done : change history.registry with
  | error fault =>
    rw [changeRegistry_of_error (by rw [same, done])]
    exact comes_refused same request fault
  | ok after =>
    rw [changeRegistry_of_ok (by rw [same, done])]
    exact made done

/-- Making a factory comes to nothing or to one that the options describe. -/
theorem comes_make (same : world.registry = history.registry) (name : Value) (options : Dict) :
    Comes history (.make name options) ((make name options).serve.run world) := by
  show Comes _ _ ((replying .factory (newFactory name options)).run world)
  rw [run_replying, newFactory, run_bind]
  obtain ⟨after, still, ⟨fault, failed⟩ | ⟨warning, factory, checked, described, done⟩⟩ :=
    run_makeFactory name options world
  · rw [failed]
    exact comes_refused (still.trans same) _ fault
  · rw [same] at checked described
    rw [done]
    simp only
    rw [run_onRegistry, still, same]
    exact ⟨_, .made checked described, rfl⟩

/-- Defining a factory comes to nothing, or a factory is made and registered. -/
theorem comes_define (same : world.registry = history.registry) (name : Value)
    (options named : Dict) :
    Comes history (.define name options named) ((define name options named).serve.run world) := by
  show Comes _ _ ((replying .factory (defineFactory name options named)).run world)
  rw [run_replying, defineFactory, run_bind, run_ofExcept]
  cases given : Factory.withNamed options named with
  | error fault => exact comes_refused same _ fault
  | ok all =>
    simp only
    rw [run_bind]
    obtain ⟨after, still, ⟨fault, failed⟩ | ⟨warning, factory, checked, described, done⟩⟩ :=
      run_makeFactory name all world
    · rw [failed]
      exact comes_refused (still.trans same) _ fault
    · rw [same] at checked described
      rw [done]
      simp only
      rw [run_onRegistry, still, same]
      let id := history.registry.factories.length
      cases entered : (history.registry.add factory).1.register id with
      | error fault =>
        simp only [show (history.registry.add factory).2 = id from rfl, entered]
        exact comes_refused rfl _ fault
      | ok registered =>
        simp only [show (history.registry.add factory).2 = id from rfl, entered]
        exact ⟨_, .defined checked described entered, rfl⟩

/-- In a registry that is reached every request comes to what is served. -/
theorem comes_serve (reached : history.Reached) (same : world.registry = history.registry)
    (request : Request) : Comes history request (request.serve.run world) := by
  cases request with
  | define name options named => exact comes_define same name options named
  | make name options => exact comes_make same name options
  | register id =>
    exact comes_about same _ fun found =>
      comes_changeRegistry same fun done => ⟨_, .registered found done, rfl⟩
  | registerTrait trait =>
    exact comes_changeRegistry same fun done => ⟨_, .traitRegistered done, rfl⟩
  | registerModel name identifier =>
    exact comes_changeRegistry same fun done => ⟨_, .modelRegistered done, rfl⟩
  | allowOverrides id =>
    refine comes_about same _ fun found => comes_changeRegistry same fun done => ?_
    cases done
    exact ⟨_, .permitted found, rfl⟩
  | edit id change =>
    refine comes_about same _ fun found => comes_changeRegistry same fun done => ?_
    exact ⟨_, .staged _ rfl (.single (.edited done)) (stages_tryModify done), rfl⟩
  | compile id =>
    exact comes_about same _ fun _ => comes_of_walks reached same rfl (walks_compile id) _
  | attributes id =>
    exact comes_about same _ fun _ => comes_of_walks reached same rfl (walks_attributes id) _
  | model id =>
    exact comes_about same _ fun _ => comes_of_walks reached same rfl (walks_model id) _
  | run id choice overrides =>
    exact comes_about same _ fun _ =>
      comes_of_walks reached same rfl (Runner.walks_standard id choice overrides) _
  | runNamed name choice overrides =>
    exact comes_of_walks reached same rfl (Runner.walks_standard.named name choice overrides) _
  | drawStub => exact comes_of_walks reached same rfl walks_drawStub _
  | close =>
    show Comes _ _ ((replying (fun _ => .done) (onRegistry Registry.close)).run world)
    rw [run_replying, run_onRegistry, same]
    exact ⟨_, .staged _ rfl (.single .closed) reached.stages_close, rfl⟩

end Request

/-! ### Sessions -/

/-- Requests served in turn. -/
inductive Session : History → List Exchange → History → Prop where
  /-- Nothing is asked. -/
  | idle {history : History} : Session history [] history
  /-- A request is served, and then the others are. -/
  | served {history middle last : History} {exchange : Exchange} {rest : List Exchange}
      (first : Served history exchange middle) (onward : Session middle rest last) :
      Session history (exchange :: rest) last

/-- A session consists of operations. -/
theorem Session.operations {history last : History} {exchanges : List Exchange}
    (session : Session history exchanges last) : History.Operations history last := by
  induction session with
  | idle => exact .refl
  | served first _ ih => exact first.operations.trans ih

/-- What was told to allow overrides in a session is kept. -/
theorem Session.mem_permitted {history last : History} {exchanges : List Exchange}
    (session : Session history exchanges last) {id : FactoryId} :
    id ∈ last.permitted ↔ id ∈ exchanges.filterMap Exchange.told? ∨ id ∈ history.permitted := by
  induction session with
  | idle => simp
  | @served history middle last exchange rest first _ ih =>
    rw [ih, first.permitted_eq, List.mem_append, List.filterMap_cons]
    cases exchange.told? with
    | none => simp
    | some told => simp [or_assoc, or_left_comm]

/-- Serving requests in a registry that is reached is a session with their record. -/
theorem World.exists_session {history : History} (reached : history.Reached) {world : World}
    (same : world.registry = history.registry) (requests : List Request) :
    ∃ last, Session history (world.record requests) last ∧
      (world.after requests).registry = last.registry := by
  induction requests generalizing history world with
  | nil => exact ⟨history, .idle, same⟩
  | cons request rest ih =>
    obtain ⟨middle, served, after⟩ := request.comes_serve reached same
    obtain ⟨last, onward, still⟩ := ih (reached.trans served.operations) after
    exact ⟨last, .served served onward, still⟩

end Blueprint
