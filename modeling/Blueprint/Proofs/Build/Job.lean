import Blueprint.Proofs.Build.Deed
import Blueprint.Proofs.Build.Filled
import Blueprint.Proofs.Build.Silent
import Blueprint.Proofs.Registry.Names

/-!
# Jobs

A job is one run of a factory, seen from where it starts: it names the factory, the strategy, the
overrides and the world. The jobs nested in it are those that it asks for by associations while its
proxy is filled, in order, up to one that fails. With all that is nested deeper they form its
course, where every job comes after those nested in it. What the log shows of a job is what it shows
of its course, if blocks run no factories.
-/
namespace Blueprint

/-! ### From the start to the plan -/

/-- What a run has prepared is what the registry resolves for its factory. -/
structure Prepared.Resolves (run : Prepared) (registry : Registry) (id : FactoryId)
    (list : AttributeList) : Prop where
  /-- The factory resolves to the list. -/
  resolved : registry.resolve (registry.factories.length + 1) id = .ok list
  /-- The attributes are those of the list. -/
  attributes : run.attributes = list.attributes
  /-- The callbacks are those of the list. -/
  callbacks : run.proxy.callbacks = list.callbacks
  /-- The finalizer is the factory's own. -/
  finalizer : run.finalizer = (registry.factory? id).bind Factory.finalizer
  /-- The proxy has no values yet. -/
  values : run.proxy.values = []

/-- Nothing but the registry changed in a world. -/
def World.SameRest (world after : World) : Prop := after = { world with registry := after.registry }

instance : Std.Refl World.SameRest := ⟨fun _ => rfl⟩

instance : IsTrans World World.SameRest := ⟨by
  intro world middle last first second
  unfold World.SameRest at first second ⊢
  rw [second, first]⟩

namespace Runner

/-- What a run does until its plan is made. -/
def begin (id : FactoryId) (choice : Value) (overrides : Dict) : Build Prepared := do
  Build.onRegistry fun registry => registry.compile id
  prepare id choice overrides

/-- Filling a proxy begins with making the plan. -/
theorem fill_eq_begin (runner : Runner) (id : FactoryId) (choice : Value) (overrides : Dict) :
    runner.fill id choice overrides = begin id choice overrides >>= Prepared.fill runner := by
  rw [fill, begin, bind_assoc]

/-- Until the plan is made nothing but the registry changes. -/
theorem sameRest_begin (id : FactoryId) (choice : Value) (overrides : Dict) :
    Keeps World.SameRest (begin id choice overrides) := by
  have asked : ∀ {α : Type} (view : World → Except Fault α),
      Keeps World.SameRest (Build.ask view) := fun _ _ => rfl
  have done : ∀ {α : Type} (step : Registry.Step α),
      Keeps World.SameRest (Build.onRegistry step) := fun _ _ => rfl
  have given : ∀ {α : Type} (outcome : Except Fault α),
      Keeps World.SameRest (Build.ofExcept outcome) := fun _ _ => rfl
  refine (done _).bind fun _ => (given _).bind fun strategy => (done _).bind fun model => ?_
  refine (done _).bind fun list => (asked _).bind fun name => (given _).bind fun pending => ?_
  exact (asked _).bind fun aliases => (asked _).bind fun finalizer => .pure _

/-- Until the plan is made a run walks. -/
theorem walks_begin (id : FactoryId) (choice : Value) (overrides : Dict) :
    (begin id choice overrides).Walks :=
  (Build.walks_compile id).bind fun _ => walks_prepare id choice overrides

/-- What is prepared is prepared for what is asked, and resolved in the registry that results. -/
theorem begin_eq_ok {id : FactoryId} {choice : Value} {overrides : Dict} {run : Prepared}
    {world ready : World} (done : (begin id choice overrides).run world = (.ok run, ready)) :
    run.For choice overrides ∧ ∃ list, run.Resolves ready.registry id list := by
  obtain ⟨_, compiled, _, done⟩ := run_bind_eq_ok.1 done
  refine ⟨prepare_eq_ok done, ?_⟩
  obtain ⟨strategy, first, _, done⟩ := run_bind_eq_ok.1 done
  obtain ⟨model, second, _, done⟩ := run_bind_eq_ok.1 done
  obtain ⟨list, third, given, done⟩ := run_bind_eq_ok.1 done
  obtain ⟨name, fourth, named, done⟩ := run_bind_eq_ok.1 done
  obtain ⟨pending, fifth, read, done⟩ := run_bind_eq_ok.1 done
  obtain ⟨aliases, sixth, found, done⟩ := run_bind_eq_ok.1 done
  obtain ⟨finalizer, seventh, owned, done⟩ := run_bind_eq_ok.1 done
  obtain ⟨_, rfl⟩ := Prod.mk.inj named
  obtain ⟨_, rfl⟩ := Prod.mk.inj read
  obtain ⟨_, rfl⟩ := Prod.mk.inj found
  obtain ⟨owns, rfl⟩ := Prod.mk.inj owned
  obtain rfl := Except.ok.inj owns
  cases done
  obtain ⟨isGiven, same⟩ := Prod.mk.inj given
  have resolved := (Registry.attributes_eq_ok (Prod.ext isGiven (congrArg World.registry same))).2
  exact ⟨list, resolved, rfl, rfl, rfl, rfl⟩

/-- Does what a run does until its proxy is filled, in which runs are nested at most `depth` deep,
it included. -/
def fillWithin : Nat → FactoryId → Value → Dict → Build Filled
  | 0 => fun _ _ _ => Build.fail .tooDeep
  | depth + 1 => (within depth).fill

/-- A run fills its proxy and makes the result, however deep runs may be nested. -/
theorem within_eq_fillWithin (depth : Nat) (id : FactoryId) (choice : Value) (overrides : Dict) :
    within depth id choice overrides =
      fillWithin depth id choice overrides >>= Filled.finish (within (depth - 1)) := by
  cases depth with
  | zero => rfl
  | succ depth => exact next_eq_fill id choice overrides

/-- A run depends on the choice of a strategy only through the strategy that is chosen. -/
theorem within_of_ofProxy {choice other : Value}
    (same : Strategy.ofProxy choice = Strategy.ofProxy other) (depth : Nat) (id : FactoryId)
    (overrides : Dict) : within depth id choice overrides = within depth id other overrides := by
  cases depth with
  | zero => rfl
  | succ depth => simp only [within, next, same]

end Runner

/-! ### Jobs -/

/-- A run of a factory, seen from where it starts. -/
structure Job where
  /-- How deep runs may be nested, it included. -/
  depth : Nat
  /-- The factory. -/
  id : FactoryId
  /-- The strategy. -/
  strategy : Strategy
  /-- The overrides. -/
  overrides : Dict
  /-- Where it starts. -/
  world : World

/-- A run of a factory that is not nested in another one, as a job. -/
def Job.standard (world : World) (id : FactoryId) (strategy : Strategy) (overrides : Dict) : Job :=
  ⟨world.registry.factories.length + Runner.depthLimit, id, strategy, overrides, world⟩

/-- The strategy by which an association is built, if it is built and there is such a strategy. -/
def Strategy.forAssociation (owner : Strategy) (choice : Value) : Option Strategy :=
  match owner with
  | .attributesFor => none
  | .stub => some .stub
  | .build | .create =>
    (Strategy.ofProxy (if choice.truthy then choice else .strategy .create)).toOption

/-- The job that an attribute asks for, if it is an association that is built. -/
def Attribute.job? (depth : Nat) (site : Site) (attr : Attribute) : Option Job :=
  match attr.source with
  | .association factory overrides choice => do
    let strategy ← site.proxy.strategy.forAssociation choice
    let id ← (site.world.registry.findText factory).toOption
    some ⟨depth, id, strategy, overrides, site.world⟩
  | _ => none

namespace Plan

/-- The job that a step of a plan asks for, if it asks for one. -/
def job? (depth : Nat) (site : Site) : Action → Option Job
  | .assign _ _ _ => none
  | .evaluate attr => attr.job? depth site

/-- The jobs that steps of a plan ask for when they are done in turn, until one fails. -/
def jobs (depth : Nat) : List Action → Site → List Job
  | [], _ => []
  | action :: rest, site =>
    match (perform (Runner.within depth) action).run site with
    | (.ok (), after) => (job? depth site action).toList ++ jobs depth rest after
    | (.error _, _) => (job? depth site action).toList

end Plan

namespace Job

/-- Does the job. -/
def run (job : Job) : Except Fault Value × World :=
  (Runner.within job.depth job.id (.proxy job.strategy) job.overrides).run job.world

/-- What makes the runs that are nested in the job. -/
def runner (job : Job) : Runner := Runner.within (job.depth - 1)

/-- Does the job until its plan is made. -/
def begin (job : Job) : Except Fault Prepared × World :=
  (Runner.begin job.id (.proxy job.strategy) job.overrides).run job.world

/-- Does the job until its proxy is filled. -/
def fill (job : Job) : Except Fault Filled × World :=
  (Runner.fillWithin job.depth job.id (.proxy job.strategy) job.overrides).run job.world

/-- The jobs that are nested in the job: those that the steps of its plan ask for. -/
def nested (job : Job) : List Job :=
  match job.depth, job.begin with
  | depth + 1, (.ok run, ready) =>
    Plan.jobs depth run.plan.actions { world := ready, proxy := run.proxy }
  | _, _ => []

/-- A job after all that is nested in it, at most `fuel` deep. -/
def unfold : Nat → Job → List Job
  | 0, job => [job]
  | fuel + 1, job => job.nested.flatMap (unfold fuel) ++ [job]

/-- All that belongs to a job: the jobs nested in it at any depth, each after those nested in it,
and last the job itself. -/
def course (job : Job) : List Job := unfold job.depth job

variable {job inner : Job}

/-- Doing a job is filling its proxy and making the result. -/
theorem run_eq (job : Job) :
    job.run = match job.fill with
      | (.ok filled, world) => (filled.finish job.runner).run world
      | (.error fault, world) => (.error fault, world) := by
  rw [run, Runner.within_eq_fillWithin, run_bind]
  cases filled : job.fill with
  | mk outcome world =>
    rw [fill] at filled
    rw [filled]
    cases outcome <;> rfl

/-- A job whose proxy cannot be filled comes to nothing else. -/
theorem run_of_fill_error {fault : Fault} {after : World} (failed : job.fill = (.error fault, after)) :
    job.run = (.error fault, after) := by
  rw [run_eq, failed]

/-- A job whose proxy is filled makes the result where it is filled. -/
theorem run_of_fill_ok {filled : Filled} {after : World} (fills : job.fill = (.ok filled, after)) :
    job.run = (filled.finish job.runner).run after := by
  rw [run_eq, fills]

/-- A job without depth comes to nothing. -/
theorem fill_of_zero (shallow : job.depth = 0) : job.fill = (.error .tooDeep, job.world) := by
  rw [fill, shallow]
  rfl

/-- A job fills its proxy by the plan that it has made. -/
theorem fill_of_succ {depth : Nat} (deep : job.depth = depth + 1) :
    job.fill = match job.begin with
      | (.ok run, ready) => (run.fill (Runner.within depth)).run ready
      | (.error fault, ready) => (.error fault, ready) := by
  rw [fill, deep, Runner.fillWithin, Runner.fill_eq_begin, run_bind]
  cases begun : job.begin with
  | mk outcome ready =>
    rw [begin] at begun
    rw [begun]
    cases outcome <;> rfl

/-- What is filled is filled for what the job asks. -/
theorem filled_for {filled : Filled} {after : World} (fills : job.fill = (.ok filled, after)) :
    filled.For job.runner (.proxy job.strategy) job.overrides ∧ after = filled.site.world := by
  cases deep : job.depth with
  | zero =>
    rw [fill_of_zero deep] at fills
    cases fills
  | succ depth =>
    rw [fill, deep] at fills
    rw [runner, deep]
    exact Runner.fill_eq_ok fills

/-- A job whose proxy is filled comes to the result that is made where it is filled. -/
theorem run_eq_result {filled : Filled} {after : World} (fills : job.fill = (.ok filled, after)) :
    job.run = (((Proxy.result job.runner filled.run.finalizer).run filled.site).1,
      ((Proxy.result job.runner filled.run.finalizer).run filled.site).2.world) := by
  obtain ⟨_, rfl⟩ := filled_for fills
  rw [run_of_fill_ok fills]
  rfl

end Job

/-! ### How a plan is carried out -/

/-- A value that names no strategy is refused as such. -/
theorem Strategy.exists_of_ofProxy_eq_error {choice : Value} {fault : Fault}
    (failed : ofProxy choice = .error fault) : ∃ tag, fault = .unknownStrategy tag := by
  unfold ofProxy ofValue at failed
  split at failed
  · cases failed
  · split at failed
    · cases failed
    · split at failed
      · cases failed
      · cases failed
        exact ⟨_, rfl⟩

namespace Act

variable {runner : Runner} {factory : String} {choice : Value} {overrides : Dict} {site : Site}
  {strategy : Strategy} {id : FactoryId}

/-- To build the value of an association is to run its factory. -/
theorem run_buildAssociation (chosen : Strategy.ofProxy choice = .ok strategy)
    (found : site.world.registry.findText factory = .ok id) :
    (buildAssociation runner factory choice overrides).run site =
      (((runner id (.proxy strategy) overrides).run site.world).1,
        { site with world := ((runner id (.proxy strategy) overrides).run site.world).2 }) := by
  have strategyGiven : (ofExcept (Strategy.ofProxy choice)).run site = (.ok strategy, site) := by
    rw [chosen]
    rfl
  have idGiven : (ask fun site => site.world.registry.findText factory).run site =
      (.ok id, site) := by
    rw [← found]
    rfl
  rw [buildAssociation, run_bind, strategyGiven]
  simp only
  rw [run_bind, idGiven]
  rfl

/-- Without a strategy or a factory there is no value of an association, and nothing changes,
whatever runs factories. -/
theorem run_buildAssociation_of_none (overrides : Dict)
    (missing : (Strategy.ofProxy choice).toOption = none ∨
      (site.world.registry.findText factory).toOption = none) :
    ∃ fault, fault ≠ .tooDeep ∧ ∀ runner : Runner,
      (buildAssociation runner factory choice overrides).run site = (.error fault, site) := by
  cases chosen : Strategy.ofProxy choice with
  | error fault =>
    obtain ⟨tag, rfl⟩ := Strategy.exists_of_ofProxy_eq_error chosen
    refine ⟨.unknownStrategy tag, nofun, fun runner => ?_⟩
    rw [buildAssociation, run_bind, chosen]
    rfl
  | ok strategy =>
    have absent : (site.world.registry.findText factory).toOption = none := by
      obtain none_ | none_ := missing
      · rw [chosen] at none_
        cases none_
      · exact none_
    cases found : site.world.registry.findText factory with
    | ok id =>
      rw [found] at absent
      cases absent
    | error fault =>
      obtain ⟨_, rfl⟩ := Registry.findText_eq_error.1 found
      have asked : (ask fun site => site.world.registry.findText factory).run site =
          (.error (.notFound .factory (Name.ofText factory)), site) := by
        rw [← found]
        rfl
      refine ⟨.notFound .factory (Name.ofText factory), nofun, fun runner => ?_⟩
      rw [buildAssociation, run_bind, chosen]
      show ((ask fun site => site.world.registry.findText factory) >>= fun id =>
        ofBuild (runner id (.proxy strategy) overrides)).run site = _
      rw [run_bind, asked]

end Act

namespace Plan

variable {depth : Nat} {site last : Site} {action : Action} {actions : List Action} {job : Job}
  {jobs : List Job} {outcome : Except Fault Unit}

/-- A step that asks for a job does it, and sets what the job makes under the name of the
attribute. -/
theorem run_perform_of_job (asks : job? depth site action = some job) :
    ∃ attr, action = .evaluate attr ∧ attr.isAssociation ∧ job.world = site.world ∧
      (perform (Runner.within depth) action).run site =
        match job.run with
        | (.ok value, world) =>
          (.ok (), { site with world := world, proxy := site.proxy.set attr.name value false })
        | (.error fault, world) => (.error fault, { site with world := world }) := by
  cases action with
  | assign key value ignored => cases asks
  | evaluate attr =>
    rw [job?, Attribute.job?] at asks
    cases source : attr.source with
    | static value => simp [source] at asks
    | dynamic block => simp [source] at asks
    | association factory overrides choice =>
      simp only [source] at asks
      obtain ⟨strategy, chosen, asks⟩ := Option.bind_eq_some_iff.1 asks
      obtain ⟨id, found, same⟩ := Option.bind_eq_some_iff.1 asks
      obtain rfl := Option.some.inj same
      refine ⟨attr, rfl, by simp [Attribute.isAssociation, Attribute.factory?, source], rfl, ?_⟩
      have built : ∀ {choice}, Strategy.ofProxy choice = .ok strategy →
          (do
            let value ← Act.buildAssociation (Runner.within depth) factory choice overrides
            Act.onProxy fun proxy => proxy.set attr.name value false : Act Unit).run site =
          match Job.run ⟨depth, id, strategy, overrides, site.world⟩ with
          | (.ok value, world) =>
            (.ok (), { site with world := world, proxy := site.proxy.set attr.name value false })
          | (.error fault, world) => (.error fault, { site with world := world }) := by
        intro choice chosen
        rw [run_bind, Act.run_buildAssociation chosen (eq_ok_of_toOption found), Job.run]
        dsimp only
        cases (Runner.within depth id (.proxy strategy) overrides).run site.world with
        | mk result world => cases result <;> rfl
      show (attr.addTo (Runner.within depth)).run site = _
      unfold Attribute.addTo
      simp only [source]
      rw [Act.associate, Act.run_ask_bind]
      cases owner : site.proxy.strategy with
      | attributesFor =>
        rw [owner] at chosen
        cases chosen
      | stub =>
        rw [owner] at chosen
        obtain rfl := Option.some.inj chosen
        exact built rfl
      | build =>
        rw [owner] at chosen
        exact built (eq_ok_of_toOption chosen)
      | create =>
        rw [owner] at chosen
        exact built (eq_ok_of_toOption chosen)

/-- The block of a step, if it has one, runs no factory. -/
def IsSilent (action : Action) : Prop :=
  ∀ {attr block}, action = .evaluate attr → attr.source = .dynamic block →
    block.any Expr.isBuild = false

/-- Where associations are built, one that asks for no job fails, and changes nothing, whatever runs
factories. -/
theorem run_addTo_of_no_job {attr : Attribute} (asks : attr.job? depth site = none)
    (association : attr.isAssociation) (builds : site.proxy.strategy ≠ .attributesFor) :
    ∃ fault, fault ≠ .tooDeep ∧ ∀ runner : Runner,
      (attr.addTo runner).run site = (.error fault, site) := by
  cases source : attr.source with
  | static value => simp [Attribute.isAssociation, Attribute.factory?, source] at association
  | dynamic block => simp [Attribute.isAssociation, Attribute.factory?, source] at association
  | association factory overrides choice =>
    rw [Attribute.job?] at asks
    simp only [source] at asks
    have missing : ∀ {strategy : Option Strategy},
        (strategy.bind fun strategy =>
          (site.world.registry.findText factory).toOption.bind fun id =>
            some (⟨depth, id, strategy, overrides, site.world⟩ : Job)) = none →
        strategy = none ∨ (site.world.registry.findText factory).toOption = none := by
      intro strategy none_
      cases strategy with
      | none => exact .inl rfl
      | some strategy =>
        cases found : (site.world.registry.findText factory).toOption with
        | none => exact .inr rfl
        | some id =>
          rw [found] at none_
          cases none_
    have failed : ∀ {choice}, (Strategy.ofProxy choice).toOption = none ∨
        (site.world.registry.findText factory).toOption = none →
        ∃ fault, fault ≠ .tooDeep ∧ ∀ runner : Runner, (do
          let value ← Act.buildAssociation runner factory choice overrides
          Act.onProxy fun proxy => proxy.set attr.name value false : Act Unit).run site =
            (.error fault, site) := by
      intro choice missing
      obtain ⟨fault, shallow, same⟩ := Act.run_buildAssociation_of_none overrides missing
      refine ⟨fault, shallow, fun runner => ?_⟩
      rw [run_bind, same]
    unfold Attribute.addTo
    simp only [source, Act.associate, Act.run_ask_bind]
    cases owner : site.proxy.strategy with
    | attributesFor => exact absurd owner builds
    | stub =>
      rw [owner] at asks
      exact failed ((missing asks).imp_left fun never => by cases never)
    | build =>
      rw [owner] at asks
      exact failed (missing asks)
    | create =>
      rw [owner] at asks
      exact failed (missing asks)

/-- All that a step does to the world that asks for no job and whose block runs no factory is to
leave marks and count. -/
theorem marked_perform (asks : job? depth site action = none) (silent : IsSilent action) :
    World.Marked site.world ((perform (Runner.within depth) action).run site).2.world := by
  cases action with
  | assign key value ignored => exact .refl site.world
  | evaluate attr =>
    show World.Marked site.world ((attr.addTo (Runner.within depth)).run site).2.world
    by_cases association : attr.isAssociation
    · by_cases owner : site.proxy.strategy = .attributesFor
      · rw [Attribute.run_addTo_of_skipped (by simp [Attribute.isSkipped, association, owner])]
        exact .refl site.world
      · obtain ⟨fault, _, same⟩ := run_addTo_of_no_job asks association owner
        rw [same]
        exact .refl site.world
    · unfold Attribute.addTo
      cases source : attr.source with
      | static value => exact .refl site.world
      | dynamic block =>
        have inner := Expr.marked_eval (Runner.within depth) true (silent rfl source)
        have whole : Keeps (Function.onFun World.Marked Site.world) (do
            let value ← block.eval (Runner.within depth) true
            Act.onProxy fun proxy => proxy.set attr.name value attr.ignored) :=
          inner.bind fun value => fun site => .refl site.world
        exact whole site
      | association factory overrides choice =>
        simp [Attribute.isAssociation, Attribute.factory?, source] at association

/-- How the steps of a plan are done in turn, with the jobs that they ask for. -/
inductive Path (depth : Nat) : Site → List Action → List Job → Except Fault Unit → Site → Prop where
  /-- All steps are done. -/
  | done {site : Site} : Path depth site [] [] (.ok ()) site
  /-- A job is done that a step asks for, and what it makes is set. -/
  | built {site last : Site} {attr : Attribute} {rest : List Action} {job : Job} {jobs : List Job}
      {value : Value} {world : World} {outcome : Except Fault Unit}
      (asks : attr.job? depth site = some job) (ran : job.run = (.ok value, world))
      (onward : Path depth
        { site with world := world, proxy := site.proxy.set attr.name value false } rest jobs
        outcome last) :
      Path depth site (.evaluate attr :: rest) (job :: jobs) outcome last
  /-- A job fails that a step asks for. -/
  | broken {site : Site} {attr : Attribute} {rest : List Action} {job : Job} {fault : Fault}
      {world : World} (asks : attr.job? depth site = some job)
      (failed : job.run = (.error fault, world)) :
      Path depth site (.evaluate attr :: rest) [job] (.error fault) { site with world := world }
  /-- A step is done that asks for no job. -/
  | passed {site middle last : Site} {action : Action} {rest : List Action} {jobs : List Job}
      {outcome : Except Fault Unit} (asks : job? depth site action = none)
      (did : (perform (Runner.within depth) action).run site = (.ok (), middle))
      (onward : Path depth middle rest jobs outcome last) :
      Path depth site (action :: rest) jobs outcome last
  /-- A step fails that asks for no job. -/
  | stopped {site last : Site} {action : Action} {rest : List Action} {fault : Fault}
      (asks : job? depth site action = none)
      (failed : (perform (Runner.within depth) action).run site = (.error fault, last)) :
      Path depth site (action :: rest) [] (.error fault) last

/-- The steps of a plan are done in turn with the jobs that they ask for. -/
theorem path_performAll
    (did : (performAll (Runner.within depth) actions).run site = (outcome, last)) :
    Path depth site actions (Plan.jobs depth actions site) outcome last := by
  induction actions generalizing site with
  | nil =>
    cases did
    exact .done
  | cons action rest ih =>
    rw [performAll, run_bind] at did
    rw [Plan.jobs]
    cases first : (perform (Runner.within depth) action).run site with
    | mk result middle =>
      rw [first] at did
      cases asks : job? depth site action with
      | none =>
        cases result with
        | error fault =>
          cases did
          exact .stopped asks first
        | ok _ => exact .passed asks first (ih did)
      | some job =>
        obtain ⟨attr, rfl, _, _, performs⟩ := run_perform_of_job asks
        rw [first] at performs
        cases ran : job.run with
        | mk made world =>
          rw [ran] at performs
          cases made with
          | error fault =>
            cases performs
            cases did
            exact .broken asks ran
          | ok value =>
            cases performs
            exact .built asks ran (ih did)

end Plan

end Blueprint
