import Blueprint.Proofs.Build.Step

/-!
# What a run fails by

Two faults come from one place each: that override keys clash is found out by the run to which they
are given, and that runs are nested too deeply by the bound on their depth. All other faults are
usual. What a run does with code, with its instance and with its plan fails by usual faults only, or
by what the runs that are nested in it fail by.
-/
namespace Blueprint

/-- Two override keys of one canonical name are what is wrong. -/
def Fault.isClash : Fault → Bool
  | ambiguousOverride _ _ _ _ => true
  | _ => false

/-- A fault that has no place of its own. -/
def Fault.isUsual : Fault → Bool
  | ambiguousOverride _ _ _ _ => false
  | tooDeep => false
  | _ => true

/-- A kind of faults takes in all usual ones. -/
def TakesUsual (kind : Fault → Prop) : Prop := ∀ fault, fault.isUsual → kind fault

/-! ### Outcomes -/

/-- If an outcome is a fault, it is one of a kind. -/
def FailsBy {α : Type} (kind : Fault → Prop) (outcome : Except Fault α) : Prop :=
  ∀ fault, outcome = .error fault → kind fault

namespace FailsBy

variable {kind : Fault → Prop} {α β : Type}

/-- What succeeds does not fail. -/
theorem ok (value : α) : FailsBy kind (.ok value : Except Fault α) := nofun

/-- What fails, fails by its fault. -/
theorem error {fault : Fault} (its : kind fault) :
    FailsBy kind (.error fault : Except Fault α) := by
  rintro _ ⟨⟩
  exact its

/-- Two operations in turn fail by what each of them fails by. -/
theorem bind {first : Except Fault α} {second : α → Except Fault β} (before : FailsBy kind first)
    (after : ∀ value, FailsBy kind (second value)) : FailsBy kind (first >>= second) := by
  intro fault failed
  obtain same | ⟨value, _, same⟩ := bind_eq_error.1 failed
  · exact before fault same
  · exact after value fault same

/-- Doing an operation for all items fails by what it fails by for one of them. -/
theorem mapM {step : α → Except Fault β} (each : ∀ item, FailsBy kind (step item))
    (items : List α) : FailsBy kind (items.mapM step) := by
  intro fault failed
  obtain ⟨item, _, same⟩ := exists_of_mapM_eq_error failed
  exact each item fault same

end FailsBy

/-! ### Operations -/

section

variable {kind : Fault → Prop} {σ α β : Type}

/-- Wherever an operation starts, it fails by faults of a kind. -/
def AlwaysFailsBy (kind : Fault → Prop) (act : ExceptT Fault (StateM σ) α) : Prop :=
  ∀ state, FailsBy kind (act.run state).1

namespace AlwaysFailsBy

/-- Doing nothing does not fail. -/
theorem pure (value : α) : AlwaysFailsBy kind (pure value : ExceptT Fault (StateM σ) α) :=
  fun _ => .ok value

/-- Two operations in turn fail by what each of them fails by. -/
theorem bind {first : ExceptT Fault (StateM σ) α} {second : α → ExceptT Fault (StateM σ) β}
    (before : AlwaysFailsBy kind first) (after : ∀ value, AlwaysFailsBy kind (second value)) :
    AlwaysFailsBy kind (first >>= second) := by
  intro state
  have here := before state
  rw [run_bind]
  cases outcome : first.run state with
  | mk result middle =>
    rw [outcome] at here
    cases result with
    | error fault => exact .error (here fault rfl)
    | ok value => exact after value middle

end AlwaysFailsBy

end

/-- Runs of factories fail by faults of a kind. -/
def Runner.RunsFailBy (kind : Fault → Prop) (runner : Runner) : Prop :=
  ∀ id choice overrides, AlwaysFailsBy kind (runner id choice overrides)

namespace Act

variable {kind : Fault → Prop} {α : Type}

/-- Failing fails by its fault. -/
theorem failsBy_fail {fault : Fault} (its : kind fault) : AlwaysFailsBy kind (fail fault : Act α) :=
  fun _ => .error its

/-- Asking fails by what the answers fail by. -/
theorem failsBy_ask {view : Site → Except Fault α} (each : ∀ site, FailsBy kind (view site)) :
    AlwaysFailsBy kind (ask view) := each

/-- An operation on the world of a site fails by what it fails by on its own. -/
theorem failsBy_ofBuild {build : Build α} (its : AlwaysFailsBy kind build) :
    AlwaysFailsBy kind (ofBuild build) := fun site => its site.world

/-- Changing the proxy does not fail. -/
theorem failsBy_onProxy (change : Proxy → Proxy) : AlwaysFailsBy kind (onProxy change) :=
  fun _ => .ok ()

/-- Logging an event does not fail. -/
theorem failsBy_emit (event : Event) : AlwaysFailsBy kind (emit event) := fun _ => .ok ()

variable (usual : TakesUsual kind)
include usual

/-- Changing the instance fails by a usual fault. -/
theorem failsBy_onSubject (change : Instance → Instance) :
    AlwaysFailsBy kind (onSubject change) := by
  intro site
  unfold onSubject
  rw [ExceptT.run_mk]
  split
  · exact .ok ()
  · exact .error (usual _ rfl)

/-- Asking the instance fails by a usual fault. -/
theorem failsBy_askSubject (view : Instance → α) : AlwaysFailsBy kind (askSubject view) := by
  refine failsBy_ask fun site => ?_
  split
  · exact .ok _
  · exact .error (usual _ rfl)

end Act

section

variable {kind : Fault → Prop} (usual : TakesUsual kind)
include usual

/-! ### Look-ups and settings -/

/-- Looking up a factory fails by a usual fault. -/
theorem Registry.failsBy_find (registry : Registry) (name : Value) :
    FailsBy kind (registry.find name) := by
  unfold find
  simp only
  split
  · exact .ok _
  · exact .error (usual _ rfl)

/-- Choosing a strategy fails by a usual fault. -/
theorem Strategy.failsBy_ofValue (tag : Value) : FailsBy kind (ofValue tag) := by
  unfold ofValue
  split
  · exact .ok _
  · split
    · exact .ok _
    · exact .error (usual _ rfl)

/-- Choosing the strategy of a proxy fails by a usual fault. -/
theorem Strategy.failsBy_ofProxy (choice : Value) : FailsBy kind (ofProxy choice) := by
  unfold ofProxy
  split
  · exact .ok _
  · exact failsBy_ofValue usual _

namespace Settings

/-- Reading a member of a configuration fails by a usual fault. -/
theorem failsBy_member (container : Value) (name : String) :
    FailsBy kind (member container name) := by
  unfold member
  split
  · exact .ok _
  · exact .error (usual _ rfl)

variable (settings : Settings)

/-- Reading a member of a section fails by a usual fault. -/
theorem failsBy_entry (name key : String) : FailsBy kind (settings.entry name key) :=
  ((failsBy_member usual _ _).bind fun _ => .ok _).bind fun _ => failsBy_member usual _ _

/-- Reading the default strategy fails by a usual fault. -/
theorem failsBy_defaultStrategy : FailsBy kind settings.defaultStrategy :=
  (failsBy_entry usual settings _ _).bind fun _ => .ok _

/-- Reading the method that saves instances fails by a usual fault. -/
theorem failsBy_persistMethod : FailsBy kind settings.persistMethod :=
  FailsBy.bind ((failsBy_entry usual settings _ _).bind fun _ => failsBy_member usual _ _)
    fun _ => .ok _

end Settings

/-- Finding the strategy of a factory fails by a usual fault. -/
theorem Registry.failsBy_strategyOf (registry : Registry) (id : FactoryId) :
    FailsBy kind (registry.strategyOf id) := by
  unfold strategyOf
  split
  · exact .ok _
  · exact (Settings.failsBy_defaultStrategy usual _).bind fun _ => Strategy.failsBy_ofValue usual _

/-- Running the factory of a name fails as runs of factories do, or by a usual fault. -/
theorem Runner.failsBy_named {runner : Runner} (nested : runner.RunsFailBy kind)
    (name choice : Value) (overrides : Dict) :
    AlwaysFailsBy kind (runner.named name choice overrides) := by
  have sought : AlwaysFailsBy kind (Build.ask fun world => world.registry.find name) :=
    fun world => Registry.failsBy_find usual world.registry name
  refine sought.bind fun id => ?_
  split
  · have chosen : AlwaysFailsBy kind (Build.ask fun world => world.registry.strategyOf id) :=
      fun world => Registry.failsBy_strategyOf usual world.registry id
    exact chosen.bind fun _ => nested _ _ _
  · exact nested _ _ _

end

/-! ### Expressions -/

mutual

/-- Evaluating an expression fails as runs of factories do, or by a usual fault. -/
theorem Expr.failsBy_eval {kind : Fault → Prop} (usual : TakesUsual kind) {runner : Runner}
    (nested : runner.RunsFailBy kind) (seesProxy : Bool) (expr : Expr) :
    AlwaysFailsBy kind (expr.eval runner seesProxy) := by
  have reach : AlwaysFailsBy kind (Expr.reach seesProxy) := by
    cases seesProxy with
    | false => exact Act.failsBy_fail (usual _ rfl)
    | true => exact .pure ()
  cases expr with
  | const value => exact .pure value
  | get name =>
    refine reach.bind fun _ => Act.failsBy_ask fun site => ?_
    unfold Proxy.get
    split
    · exact .ok _
    · exact .error (usual _ rfl)
  | has name => exact reach.bind fun _ => Act.failsBy_ask fun _ => .ok _
  | strategyTag => exact reach.bind fun _ => Act.failsBy_ask fun _ => .ok _
  | put name value ignored =>
    have inner := Expr.failsBy_eval usual nested seesProxy value
    exact reach.bind fun _ => inner.bind fun _ => (Act.failsBy_onProxy _).bind fun _ => .pure _
  | field name => exact Act.failsBy_askSubject usual _
  | setField name value =>
    have inner := Expr.failsBy_eval usual nested seesProxy value
    exact inner.bind fun _ => (Act.failsBy_onSubject usual _).bind fun _ => .pure _
  | persisted => exact Act.failsBy_askSubject usual _
  | part owner name =>
    have inner := Expr.failsBy_eval usual nested seesProxy owner
    refine inner.bind fun value => Act.failsBy_ask fun site => ?_
    unfold World.part
    split
    · split
      · exact .ok _
      · exact .error (usual _ rfl)
    · exact .error (usual _ rfl)
  | alter owner name value =>
    have first := Expr.failsBy_eval usual nested seesProxy owner
    have second := Expr.failsBy_eval usual nested seesProxy value
    refine first.bind fun value => second.bind fun part =>
      (Act.failsBy_ofBuild fun world => ?_).bind fun _ => .pure _
    unfold Build.alter
    rw [ExceptT.run_mk]
    split
    · exact .ok _
    · exact .error (usual _ rfl)
  | concat parts =>
    have inner := Expr.failsBy_evalAll usual nested seesProxy parts
    exact inner.bind fun _ => .pure _
  | upper value =>
    have inner := Expr.failsBy_eval usual nested seesProxy value
    exact inner.bind fun _ => .pure _
  | lower value =>
    have inner := Expr.failsBy_eval usual nested seesProxy value
    exact inner.bind fun _ => .pure _
  | choose condition yes no =>
    have first := Expr.failsBy_eval usual nested seesProxy condition
    have second := Expr.failsBy_eval usual nested seesProxy yes
    have third := Expr.failsBy_eval usual nested seesProxy no
    refine first.bind fun value => ?_
    cases value.truthy with
    | true => exact second
    | false => exact third
  | sequence steps =>
    have inner := Expr.failsBy_evalAll usual nested seesProxy steps
    exact inner.bind fun _ => .pure _
  | tick label value =>
    have inner := Expr.failsBy_eval usual nested seesProxy value
    exact (Act.failsBy_emit _).bind fun _ => inner
  | note label value =>
    have inner := Expr.failsBy_eval usual nested seesProxy value
    exact inner.bind fun _ => (Act.failsBy_emit _).bind fun _ => .pure _
  | counter name => exact fun _ => .ok _
  | fail message => exact Act.failsBy_fail (usual _ rfl)
  | build factory strategy overrides =>
    exact Act.failsBy_ofBuild (Runner.failsBy_named usual nested _ _ _)
termination_by structural expr

/-- Evaluating expressions fails as runs of factories do, or by a usual fault. -/
theorem Expr.failsBy_evalAll {kind : Fault → Prop} (usual : TakesUsual kind) {runner : Runner}
    (nested : runner.RunsFailBy kind) (seesProxy : Bool) (exprs : List Expr) :
    AlwaysFailsBy kind (evalAll runner seesProxy exprs) := by
  cases exprs with
  | nil => exact .pure []
  | cons expr rest =>
    have first := Expr.failsBy_eval usual nested seesProxy expr
    have later := Expr.failsBy_evalAll usual nested seesProxy rest
    exact first.bind fun _ => later.bind fun _ => .pure _
termination_by structural exprs

end

section

variable {kind : Fault → Prop} (usual : TakesUsual kind) {runner : Runner}
  (nested : runner.RunsFailBy kind)
include usual nested

/-! ### Handlers and associations -/

/-- Calling a handler fails as runs of factories do, or by a usual fault. -/
theorem Handler.failsBy_call (handler : Handler) (arguments : Nat) :
    AlwaysFailsBy kind (handler.call runner arguments) :=
  (Act.failsBy_askSubject usual _).bind fun _ => (Act.failsBy_emit _).bind fun _ =>
    (Expr.failsBy_eval usual nested _ _).bind fun _ => .pure _

/-- Running a callback fails as runs of factories do, or by a usual fault. -/
theorem Callback.failsBy_run (callback : Callback) : AlwaysFailsBy kind (callback.run runner) := by
  unfold run
  split
  · exact Handler.failsBy_call usual nested _ _
  · exact Act.failsBy_fail (usual _ rfl)

/-- Building an association fails as runs of factories do, or by a usual fault. -/
theorem Act.failsBy_buildAssociation (factory : String) (choice : Value) (overrides : Dict) :
    AlwaysFailsBy kind (buildAssociation runner factory choice overrides) := by
  have chosen : AlwaysFailsBy kind (ofExcept (Strategy.ofProxy choice)) :=
    fun _ => Strategy.failsBy_ofProxy usual choice
  have sought : AlwaysFailsBy kind (ask fun site => site.world.registry.findText factory) :=
    failsBy_ask fun site => Registry.failsBy_find usual site.world.registry _
  exact chosen.bind fun _ => sought.bind fun _ => failsBy_ofBuild (nested _ _ _)

/-- An attribute that gives its value fails as runs of factories do, or by a usual fault. -/
theorem Attribute.failsBy_addTo (attr : Attribute) : AlwaysFailsBy kind (attr.addTo runner) := by
  have built := Act.failsBy_buildAssociation usual nested
  unfold addTo
  split
  · exact Act.failsBy_onProxy _
  · exact (Expr.failsBy_eval usual nested _ _).bind fun _ => Act.failsBy_onProxy _
  · refine (Act.failsBy_ask fun _ => .ok _).bind fun strategy => ?_
    cases strategy with
    | attributesFor => exact .pure ()
    | stub => exact (built _ _ _).bind fun _ => Act.failsBy_onProxy _
    | build => exact (built _ _ _).bind fun _ => Act.failsBy_onProxy _
    | create => exact (built _ _ _).bind fun _ => Act.failsBy_onProxy _

end

/-! ### Making the instance -/

section

variable {kind : Fault → Prop} (usual : TakesUsual kind)
include usual

/-- Making an instance of a model class fails by a usual fault. -/
theorem Build.failsBy_construct (model : Value) (arguments : Table String Value) :
    AlwaysFailsBy kind (construct model arguments) := by
  intro world
  unfold construct
  rw [ExceptT.run_mk]
  split
  · split
    · simp only
      split
      · exact .ok _
      · rename_i failed
        unfold Model.construct at failed
        split at failed <;> cases failed
        exact .error (usual _ rfl)
    · exact .error (usual _ rfl)
  · exact .error (usual _ rfl)

namespace Proxy

/-- Making the instance fails by a usual fault. -/
theorem failsBy_instantiate : AlwaysFailsBy kind instantiate := by
  intro site
  have made := Build.failsBy_construct usual site.proxy.model site.proxy.persistedValues site.world
  unfold instantiate
  rw [ExceptT.run_mk]
  split
  · exact .ok ()
  · rename_i failed
    rw [failed] at made
    exact .error (made _ rfl)

omit usual in
/-- Drawing an id does not fail. -/
theorem failsBy_drawId : AlwaysFailsBy kind drawId := by
  refine (Act.failsBy_ask fun _ => .ok _).bind fun present => ?_
  cases present with
  | true => exact .pure ()
  | false => exact AlwaysFailsBy.bind (fun _ => .ok _) fun _ => Act.failsBy_onProxy _

/-- Saving the instance by a method fails by a usual fault. -/
theorem failsBy_persist : AlwaysFailsBy kind persist := by
  have asked := Act.failsBy_ask fun site =>
    Settings.failsBy_persistMethod usual site.world.registry.settings
  refine asked.bind fun method => (Act.failsBy_ask fun _ => .ok _).bind fun able => ?_
  refine (Act.failsBy_askSubject usual _).bind fun _ =>
    (Act.failsBy_askSubject usual _).bind fun _ => ?_
  cases able with
  | true => exact (Act.failsBy_emit _).bind fun _ => Act.failsBy_onSubject usual _
  | false => exact Act.failsBy_fail (usual _ rfl)

variable {runner : Runner} (nested : runner.RunsFailBy kind)
include nested

/-- Running callbacks fails as runs of factories do, or by a usual fault. -/
theorem failsBy_runCallbacks (moment : Moment) :
    AlwaysFailsBy kind (runCallbacks runner moment) := by
  have all : ∀ callbacks, AlwaysFailsBy kind (runAll runner callbacks) := by
    intro callbacks
    induction callbacks with
    | nil => exact .pure ()
    | cons callback rest ih => exact (Callback.failsBy_run usual nested callback).bind fun _ => ih
  exact (Act.failsBy_ask fun _ => .ok _).bind fun _ => all _

/-- Saving the instance fails as runs of factories do, or by a usual fault. -/
theorem failsBy_finalize (finalizer : Option Handler) :
    AlwaysFailsBy kind (finalize runner finalizer) := by
  cases finalizer with
  | some handler => exact Handler.failsBy_call usual nested handler 1
  | none => exact failsBy_persist usual

/-- Making the result fails as runs of factories do, or by a usual fault. -/
theorem failsBy_result (finalizer : Option Handler) :
    AlwaysFailsBy kind (result runner finalizer) := by
  have made := failsBy_instantiate usual
  have called := failsBy_runCallbacks usual nested
  have saved := failsBy_finalize usual nested finalizer
  have told : AlwaysFailsBy kind (Act.askSubject Instance.value) := Act.failsBy_askSubject usual _
  refine (Act.failsBy_ask fun _ => .ok _).bind fun strategy => ?_
  cases strategy with
  | attributesFor => exact Act.failsBy_ask fun _ => .ok _
  | build => exact made.bind fun _ => (called _).bind fun _ => told
  | create =>
    exact made.bind fun _ => (called _).bind fun _ => saved.bind fun _ =>
      (called _).bind fun _ => told
  | stub => exact failsBy_drawId.bind fun _ => made.bind fun _ => (called _).bind fun _ => told

end Proxy

/-! ### Plans -/

namespace Pattern

variable (pattern : Pattern)

/-- A group in a template is refused by a usual fault. -/
theorem failsBy_groupPiece (index : Nat) : FailsBy kind (groupPiece pattern index) := by
  unfold groupPiece
  split
  · exact .ok _
  · exact .error (usual _ rfl)

/-- A group in angle brackets is refused by a usual fault. -/
theorem failsBy_namedGroup (name after : List Char) :
    FailsBy kind (namedGroup pattern name after) := by
  unfold namedGroup
  split
  · split
    · exact .ok _
    · split <;> exact .error (usual _ rfl)
  · split
    · split
      · exact .error (usual _ rfl)
      · exact failsBy_groupPiece usual pattern _
    · exact .error (usual _ rfl)

/-- A number after a backslash is refused by a usual fault. -/
theorem failsBy_readNumber (cs : List Char) : FailsBy kind (readNumber pattern cs) := by
  unfold readNumber
  simp only
  split
  · split
    · exact .ok _
    · exact .error (usual _ rfl)
  · exact (failsBy_groupPiece usual pattern _).bind fun _ => .ok _

/-- What a backslash in a template gives is refused by a usual fault. -/
theorem failsBy_readTemplateEscape (cs : List Char) :
    FailsBy kind (readTemplateEscape pattern cs) := by
  unfold readTemplateEscape
  split
  · exact .error (usual _ rfl)
  · simp only
    split
    · exact (failsBy_namedGroup usual pattern _ _).bind fun _ => .ok _
    · exact .error (usual _ rfl)
  · exact .ok _
  · split
    · exact failsBy_readNumber usual pattern _
    · split
      · exact .ok _
      · split
        · exact .ok _
        · split
          · exact .error (usual _ rfl)
          · exact .ok _

/-- The pieces of a template are refused by a usual fault. -/
theorem failsBy_readPieces (fuel : Nat) (cs : List Char) :
    FailsBy kind (readPieces pattern fuel cs) := by
  fun_induction readPieces pattern fuel cs with
  | case1 => exact .ok _
  | case2 => exact .error (usual _ rfl)
  | case3 fuel rest ih =>
    exact (failsBy_readTemplateEscape usual pattern rest).bind fun piece =>
      (ih piece.2).bind fun _ => .ok _
  | case4 fuel c rest _ ih => exact ih.bind fun _ => .ok _

/-- A template is refused by a usual fault. -/
theorem failsBy_substitute? (template text : String) :
    FailsBy kind (pattern.substitute? template text) := by
  unfold substitute?
  split
  · exact FailsBy.bind ((failsBy_readPieces usual pattern _ _).bind fun _ => .ok _) fun _ => .ok _
  · exact .ok _

end Pattern

/-- Asking the patterns for a key fails by a usual fault. -/
theorem Registry.failsBy_aliasesFor (registry : Registry) (key : String) :
    FailsBy kind (registry.aliasesFor key) :=
  (FailsBy.mapM (fun entry => entry.pattern.failsBy_substitute? usual _ _) _).bind fun _ => .ok _

end

namespace Plan

variable {kind : Fault → Prop} {aliases : String → Except Fault (List String)}
  {attributes : List Attribute}

/-- A plan stops by what asking the patterns fails by. -/
theorem failsBy_fault (each : ∀ key, FailsBy kind (aliases key)) (overrides : List Override) :
    ∀ fault, (make aliases attributes overrides).fault = some fault → kind fault := by
  have targeted : ∀ attr key, FailsBy kind (targets aliases attributes attr key) := by
    intro attr key
    unfold targets
    split
    · exact .ok _
    · exact (each key).bind fun _ => .ok _
  have divided : ∀ attr pending, FailsBy kind (split (targets aliases attributes attr) pending) := by
    intro attr pending
    induction pending with
    | nil => exact .ok _
    | cons pair rest ih =>
      rw [split]
      refine (targeted attr pair.1).bind fun chosen => ih.bind fun parts => ?_
      cases chosen <;> exact .ok _
  have rest : ∀ rest pending fault,
      (distribute aliases attributes rest pending).fault = some fault → kind fault := by
    intro rest
    induction rest with
    | nil => exact fun _ _ never => by cases never
    | cons attr rest ih =>
      intro pending fault stops
      rw [distribute] at stops
      split at stops
      · rename_i failed
        cases stops
        exact divided attr pending _ failed
      · exact ih _ _ stops
      · exact ih _ _ stops
  exact rest attributes overrides

variable (usual : TakesUsual kind) {runner : Runner} (nested : runner.RunsFailBy kind)
include usual nested

/-- The steps of a plan fail as runs of factories do, or by a usual fault. -/
theorem failsBy_performAll (actions : List Action) :
    AlwaysFailsBy kind (performAll runner actions) := by
  induction actions with
  | nil => exact .pure ()
  | cons action rest ih =>
    have first : AlwaysFailsBy kind (perform runner action) := by
      cases action with
      | assign key value ignored => exact Act.failsBy_onProxy _
      | evaluate attr => exact Attribute.failsBy_addTo usual nested attr
    exact first.bind fun _ => ih

end Plan

/-- Carrying out a plan fails as runs of factories do, by a usual fault, or by what stops the
plan. -/
theorem Build.failsBy_carryOut {kind : Fault → Prop} (usual : TakesUsual kind) {runner : Runner}
    (nested : runner.RunsFailBy kind) (proxy : Proxy) {plan : Plan}
    (stops : ∀ fault, plan.fault = some fault → kind fault) (finalizer : Option Handler) :
    AlwaysFailsBy kind (carryOut runner proxy plan finalizer) := by
  have whole : AlwaysFailsBy kind (do
      plan.carryOut runner
      Proxy.result runner finalizer) := by
    refine AlwaysFailsBy.bind ((Plan.failsBy_performAll usual nested _).bind fun _ => ?_)
      fun _ => Proxy.failsBy_result usual nested finalizer
    split
    · rename_i fault its
      exact Act.failsBy_fail (stops fault its)
    · exact .pure ()
  exact fun world => whole { world := world, proxy := proxy }

end Blueprint
