import Blueprint.Proofs.Build.Sites

/-!
# Runs abreast

In two worlds of which one is ahead, a run goes abreast. Its proxies hold matching values all the
time: what blocks and callbacks compute depends on nothing else. Only after an id is drawn for a
stubbed instance does the id itself stand among the values.
-/
namespace Blueprint

open Registry

/-! ### Runs of named factories -/

/-- All runs of a runner go abreast, and what they make looks the same. -/
def Runner.Steady (runner : Runner) (lead : Lead) : Prop :=
  ∀ id choice overrides, Abreast lead.Worlds (Value.Match lead.Ids true)
    (runner id choice overrides) (runner id choice overrides)

variable {lead : Lead} {seen : Bool} {runner : Runner}

/-- Runs of the factory of a name go abreast. -/
theorem Runner.Steady.named (steady : runner.Steady lead) (fair : lead.Fair)
    (name choice : Value) (overrides : Dict) :
    Abreast lead.Worlds (Value.Match lead.Ids true) (runner.named name choice overrides)
      (runner.named name choice overrides) := by
  let Found : FactoryId → FactoryId → Prop := fun id twin =>
    id = twin ∧ lead.history.registry.find name = .ok id
  have sought : Abreast lead.Worlds Found (Build.ask fun world => world.registry.find name)
      (Build.ask fun world => world.registry.find name) := by
    refine Build.abreast_ask fun worlds => ?_
    rw [(worlds.find name).1, (worlds.find name).2]
    cases found : lead.history.registry.find name with
    | error fault => exact .error fault
    | ok id => exact .ok ⟨rfl, found⟩
  refine sought.bind ?_
  rintro id _ ⟨rfl, found⟩
  cases choice with
  | null =>
    have asked : Abreast lead.Worlds Eq (Build.ask fun world => world.registry.strategyOf id)
        (Build.ask fun world => world.registry.strategyOf id) := by
      refine Build.abreast_ask fun {world other} worlds => ?_
      rw [worlds.used.strategyOf_eq fair.reached fair.isSealed ((worlds.find name).1.trans found),
        worlds.usedOther.strategyOf_eq fair.reached fair.isSealed
          ((worlds.find name).2.trans found)]
      exact .refl (fun _ => rfl) _
    refine asked.bind ?_
    rintro strategy _ rfl
    exact steady id _ overrides
  | _ => exact steady id _ overrides

/-! ### Expressions -/

mutual

/-- An expression is evaluated abreast if it does nothing that is barred. -/
theorem Expr.abreast_eval (fair : lead.Fair) (steady : runner.Steady lead) (seesProxy : Bool)
    (expr : Expr) (admitted : expr.any (lead.bars seen) = false) :
    Abreast (lead.Sites seen) (Value.Match lead.Ids seen) (expr.eval runner seesProxy)
      (expr.eval runner seesProxy) := by
  have reach : Abreast (lead.Sites seen) Eq (Expr.reach seesProxy) (Expr.reach seesProxy) := by
    cases seesProxy with
    | false => exact Act.abreast_fail _
    | true => exact .pure rfl
  have own : lead.bars seen expr = false := by
    cases expr <;> simp_all [any]
  -- where an expression looks into values, no ids stand among them
  have open_ : expr.isInspection = true → seen = true := by
    cases seen <;> simp_all [Lead.bars]
  have level : expr.isPart = true → lead.late = true := by
    cases late : lead.late <;> simp_all [Lead.bars]
  cases expr with
  | const value => exact .pure (.refl _ _ _)
  | get name =>
    exact reach.bind fun _ => Act.abreast_ask fun sites => sites.proxies.get name
  | has name =>
    refine reach.bind fun _ => Act.abreast_ask fun {site other} sites => ?_
    rw [sites.proxies.has name]
    exact .ok (.refl _ _ _)
  | put name value ignored =>
    have inner := Expr.abreast_eval fair steady seesProxy value (by simp_all [any])
    exact reach.bind fun _ => inner.bind fun same => (Act.abreast_set same name ignored).bind
      fun _ => .pure (.refl _ _ _)
  | strategyTag =>
    refine reach.bind fun _ => Act.abreast_ask fun {site other} sites => ?_
    rw [sites.proxies.strategy]
    exact .ok (.refl _ _ _)
  | part owner name =>
    have inner := Expr.abreast_eval fair steady seesProxy owner (by simp_all [any])
    exact inner.bind fun same => Act.abreast_part (level rfl) same name
  | alter owner name value => simp [Lead.bars, isAlter] at own
  | field name =>
    exact Act.abreast_askSubject fun same => rel_getD (same.fields.lookup name) (.refl _ _ _)
  | setField name value =>
    have inner := Expr.abreast_eval fair steady seesProxy value (by simp_all [any])
    refine inner.bind fun same => (Act.abreast_onSubject fun subjects => ?_).bind
      fun _ => .pure (.refl _ _ _)
    exact ⟨subjects.model, subjects.persisted, subjects.fields.put name same⟩
  | persisted =>
    refine Act.abreast_askSubject fun same => ?_
    rw [same.persisted]
    exact .refl _ _ _
  | concat parts =>
    have inner := Expr.abreast_evalAll fair steady seesProxy parts (by simp_all [any])
    refine inner.bind fun {values twins} each => .pure ?_
    have texts : values.map textOf = twins.map textOf := by
      induction each with
      | nil => rfl
      | cons same _ ih => rw [List.map_cons, List.map_cons, same.text (open_ rfl), ih]
    rw [texts]
    exact .refl _ _ _
  | upper value =>
    have inner := Expr.abreast_eval fair steady seesProxy value (by simp_all [any])
    refine inner.bind fun same => .pure ?_
    rw [changed, changed, same.text (open_ rfl)]
    exact .refl _ _ _
  | lower value =>
    have inner := Expr.abreast_eval fair steady seesProxy value (by simp_all [any])
    refine inner.bind fun same => .pure ?_
    rw [changed, changed, same.text (open_ rfl)]
    exact .refl _ _ _
  | choose condition yes no =>
    have first := Expr.abreast_eval fair steady seesProxy condition (by simp_all [any])
    have second := Expr.abreast_eval fair steady seesProxy yes (by simp_all [any])
    have third := Expr.abreast_eval fair steady seesProxy no (by simp_all [any])
    refine first.bind fun {value twin} same => ?_
    rw [same.truthy (open_ rfl)]
    cases twin.truthy with
    | true => exact second
    | false => exact third
  | sequence steps =>
    have inner := Expr.abreast_evalAll fair steady seesProxy steps (by simp_all [any])
    refine inner.bind fun {values twins} each => .pure ?_
    rw [List.getLast?_eq_head?_reverse, List.getLast?_eq_head?_reverse]
    have reversed := List.forall₂_reverse_iff.2 each
    generalize values.reverse = one at reversed ⊢
    generalize twins.reverse = two at reversed ⊢
    cases reversed with
    | nil => exact .refl _ _ _
    | cons same _ => exact same
  | tick label value =>
    have inner := Expr.abreast_eval fair steady seesProxy value (by simp_all [any])
    exact (Act.abreast_emit (.tick label)).bind fun _ => inner
  | note label value =>
    have inner := Expr.abreast_eval fair steady seesProxy value (by simp_all [any])
    exact inner.bind fun same => (Act.abreast_emit (.note label same.alike)).bind
      fun _ => .pure same
  | counter name => simp [Lead.bars, isCounter] at own
  | fail message => exact Act.abreast_fail _
  | build factory strategy overrides =>
    exact Act.abreast_ofBuild ((steady.named fair factory strategy overrides).imp
      Value.Match.of_seen)
termination_by structural expr

/-- Expressions in turn are evaluated abreast. -/
theorem Expr.abreast_evalAll (fair : lead.Fair) (steady : runner.Steady lead) (seesProxy : Bool)
    (exprs : List Expr) (admitted : anyOf (lead.bars seen) exprs = false) :
    Abreast (lead.Sites seen) (List.Forall₂ (Value.Match lead.Ids seen))
      (evalAll runner seesProxy exprs) (evalAll runner seesProxy exprs) := by
  cases exprs with
  | nil => exact .pure .nil
  | cons expr rest =>
    have first := Expr.abreast_eval fair steady seesProxy expr (by simp_all [anyOf])
    have later := Expr.abreast_evalAll fair steady seesProxy rest (by simp_all [anyOf])
    exact first.bind fun same => later.bind fun each => .pure (.cons same each)
termination_by structural exprs

end

/-! ### Plans -/

namespace Act

/-- The value of an association is built abreast. -/
theorem abreast_buildAssociation (steady : runner.Steady lead) (factory : String)
    (choice : Value) (overrides : Dict) :
    Abreast (lead.Sites seen) (Value.Match lead.Ids seen)
      (buildAssociation runner factory choice overrides)
      (buildAssociation runner factory choice overrides) := by
  have chosen : Abreast (lead.Sites seen) Eq (ofExcept (Strategy.ofProxy choice))
      (ofExcept (Strategy.ofProxy choice)) :=
    fun _ _ sites => ⟨.refl (fun _ => rfl) _, sites⟩
  have sought : Abreast (lead.Sites seen) Eq (ask fun site => site.world.registry.findText factory)
      (ask fun site => site.world.registry.findText factory) := by
    refine abreast_ask fun {site other} sites => ?_
    rw [findText, findText, (sites.worlds.find _).1, (sites.worlds.find _).2]
    exact .refl (fun _ => rfl) _
  refine chosen.bind ?_
  rintro strategy _ rfl
  refine sought.bind ?_
  rintro id _ rfl
  exact abreast_ofBuild ((steady id _ overrides).imp Value.Match.of_seen)

/-- The value of an association is set abreast. -/
theorem abreast_associate (steady : runner.Steady lead) (name factory : String)
    (overrides : Dict) (choice : Value) :
    Abreast (lead.Sites seen) Eq (associate runner name factory overrides choice)
      (associate runner name factory overrides choice) := by
  have built : ∀ choice, Abreast (lead.Sites seen) Eq
      (buildAssociation runner factory choice overrides >>= fun value =>
        onProxy fun proxy => proxy.set name value false)
      (buildAssociation runner factory choice overrides >>= fun value =>
        onProxy fun proxy => proxy.set name value false) :=
    fun choice => (abreast_buildAssociation steady factory choice overrides).bind
      fun same => abreast_set same name false
  refine (abreast_ask_eq fun sites => sites.proxies.strategy.symm).bind ?_
  rintro strategy _ rfl
  cases strategy with
  | attributesFor => exact .pure rfl
  | stub => exact built _
  | build => exact built _
  | create => exact built _

end Act

namespace Plan

/-- A step of a plan goes abreast if its block is code of the registry. -/
theorem abreast_perform (fair : lead.Fair) (steady : runner.Steady lead) (action : Action)
    (own : ∀ attr, action = .evaluate attr → lead.Holds attr.piece?) :
    Abreast (lead.Sites true) Eq (perform runner action) (perform runner action) := by
  cases action with
  | assign key value ignored => exact Act.abreast_set (.refl _ _ _) key ignored
  | evaluate attr =>
    show Abreast _ _ (attr.addTo runner) (attr.addTo runner)
    unfold Attribute.addTo
    cases source : attr.source with
    | static value => exact Act.abreast_set (.refl _ _ _) attr.name attr.ignored
    | dynamic block =>
      have held : .block block ∈ lead.history.registry.pieces :=
        own attr rfl _ (by simp [Attribute.piece?, source])
      have evaluated := Expr.abreast_eval fair steady true block
        (fair.admits held fun never : true = false => by cases never)
      exact evaluated.bind fun same => Act.abreast_set same attr.name attr.ignored
    | association factory overrides strategy =>
      exact Act.abreast_associate steady attr.name factory overrides strategy

/-- A plan is carried out abreast if its blocks are code of the registry. -/
theorem abreast_carryOut (fair : lead.Fair) (steady : runner.Steady lead) (plan : Plan)
    (own : ∀ attr, .evaluate attr ∈ plan.actions → lead.Holds attr.piece?) :
    Abreast (lead.Sites true) Eq (plan.carryOut runner) (plan.carryOut runner) := by
  have all : ∀ actions : List Action,
      (∀ attr, .evaluate attr ∈ actions → lead.Holds attr.piece?) →
        Abreast (lead.Sites true) Eq (performAll runner actions) (performAll runner actions) := by
    intro actions own
    induction actions with
    | nil => exact .pure rfl
    | cons action rest ih =>
      refine (abreast_perform fair steady action ?_).bind fun _ =>
        ih fun attr member => own attr (List.mem_cons_of_mem _ member)
      rintro attr rfl
      exact own attr List.mem_cons_self
  refine (all plan.actions own).bind fun _ => ?_
  cases plan.fault with
  | none => exact .pure rfl
  | some fault => exact Act.abreast_fail fault

end Plan

/-! ### Results -/

/-- A handler is called abreast if it does nothing that is barred. -/
theorem Handler.abreast_call (fair : lead.Fair) (steady : runner.Steady lead) (handler : Handler)
    (arguments : Nat) (admitted : handler.body.any (lead.bars seen) = false) :
    Abreast (lead.Sites seen) Eq (handler.call runner arguments) (handler.call runner arguments) := by
  -- the numbers of the instances differ, but only the log tells
  have asked : Abreast (lead.Sites seen) (fun _ _ => True) (Act.askSubject Instance.serial)
      (Act.askSubject Instance.serial) := Act.abreast_askSubject fun _ => trivial
  exact asked.bind fun _ => (Act.abreast_emit (.call handler.label arguments _ _)).bind fun _ =>
    (Expr.abreast_eval fair steady _ handler.body admitted).bind fun _ => .pure rfl

namespace Proxy

/-- The instance is made abreast. -/
theorem abreast_instantiate : Abreast (lead.Sites seen) Eq instantiate instantiate := by
  intro site other sites
  have made := Build.abreast_construct site.proxy.model sites.proxies.persistedValues sites.worlds
  rw [sites.proxies.model] at made
  simp only [instantiate, ExceptT.run_mk]
  rw [sites.proxies.model]
  generalize (Build.construct other.proxy.model site.proxy.persistedValues).run site.world = one
    at made ⊢
  generalize (Build.construct other.proxy.model other.proxy.persistedValues).run other.world = two
    at made ⊢
  obtain ⟨outcome, world⟩ := one
  obtain ⟨result, twin⟩ := two
  obtain ⟨agree, worlds⟩ := made
  cases agree with
  | ok same => exact ⟨.ok rfl, worlds, sites.proxies, .some same⟩
  | error fault => exact ⟨.error fault, sites.withWorld worlds⟩

/-- The callbacks of a moment are run abreast, if they look into no values where drawn ids stand
among them. -/
theorem abreast_runCallbacks (fair : lead.Fair) (steady : runner.Steady lead) (moment : Moment)
    (blind : seen = false → ∀ handler, .callback moment handler ∈ lead.history.registry.pieces →
      handler.body.any Expr.isInspection = false) :
    Abreast (lead.Sites seen) Eq (runCallbacks runner moment) (runCallbacks runner moment) := by
  have all : ∀ callbacks : List Callback,
      (∀ callback ∈ callbacks, callback.moment = moment ∧ lead.Holds callback.piece?) →
        Abreast (lead.Sites seen) Eq (runAll runner callbacks) (runAll runner callbacks) := by
    intro callbacks each
    induction callbacks with
    | nil => exact .pure rfl
    | cons callback rest ih =>
      have others := ih fun other member => each other (List.mem_cons_of_mem _ member)
      obtain ⟨rfl, holds⟩ := each callback List.mem_cons_self
      have first : Abreast (lead.Sites seen) Eq (callback.run runner) (callback.run runner) := by
        unfold Callback.run
        cases own : callback.handler with
        | none => exact Act.abreast_fail _
        | some handler =>
          have held : .callback callback.moment handler ∈ lead.history.registry.pieces :=
            holds _ (by rw [Callback.piece?, own]; rfl)
          exact handler.abreast_call fair steady _
            (fair.admits held fun hidden => blind hidden handler held)
      exact first.bind fun _ => others
  let Due : List Callback → List Callback → Prop := fun callbacks twins => callbacks = twins ∧
    ∀ callback ∈ callbacks, callback.moment = moment ∧ lead.Holds callback.piece?
  have asked : Abreast (lead.Sites seen) Due
      (Act.ask fun site => .ok (site.proxy.callbacksAt moment))
      (Act.ask fun site => .ok (site.proxy.callbacksAt moment)) := by
    refine Act.abreast_ask fun {site other} sites => .ok ⟨?_, fun callback member => ?_⟩
    · rw [callbacksAt, callbacksAt, sites.proxies.callbacks]
    · obtain ⟨inside, same⟩ := List.mem_filter.1 member
      exact ⟨by simpa using same, sites.proxies.pieces callback inside⟩
  refine asked.bind ?_
  rintro callbacks _ ⟨rfl, each⟩
  exact all callbacks each

/-- The instance is saved abreast by its method. -/
theorem abreast_persist : Abreast (lead.Sites seen) Eq persist persist := by
  have configured : Abreast (lead.Sites seen) Eq
      (Act.ask fun site => site.world.registry.settings.persistMethod)
      (Act.ask fun site => site.world.registry.settings.persistMethod) := by
    refine Act.abreast_ask fun sites => ?_
    rw [sites.worlds.settings]
    exact .refl (fun _ => rfl) _
  refine configured.bind ?_
  rintro method _ rfl
  refine (Act.abreast_ask_eq fun {site other} sites => ?_).bind ?_
  · obtain ⟨here, there⟩ | ⟨subject, twin, here, there, same⟩ := cases_of_rel sites.subjects
    · rw [here, there]
      rfl
    · rw [here, there, Option.map_some, Option.map_some, canCall, canCall, same.model,
        same.fields.has method, sites.worlds.models, sites.worlds.modelsOther]
  rintro callable _ rfl
  have asked : Abreast (lead.Sites seen) (fun _ _ => True) (Act.askSubject Instance.serial)
      (Act.askSubject Instance.serial) := Act.abreast_askSubject fun _ => trivial
  refine (Act.abreast_askSubject fun same => same.model).bind ?_
  rintro model _ rfl
  refine asked.bind fun _ => ?_
  cases callable with
  | false => exact Act.abreast_fail _
  | true =>
    exact (Act.abreast_emit (.method method model _ _)).bind fun _ =>
      Act.abreast_onSubject fun same => ⟨same.model, rfl, same.fields⟩

/-- The instance is saved abreast, by a finalizer that is code of the registry if there is one. -/
theorem abreast_finalize (fair : lead.Fair) (steady : runner.Steady lead)
    (finalizer : Option Handler) (own : lead.Holds (finalizer.map .finalizer)) :
    Abreast (lead.Sites true) Eq (finalize runner finalizer) (finalize runner finalizer) := by
  cases finalizer with
  | none => exact abreast_persist
  | some handler =>
    exact handler.abreast_call fair steady 1
      (fair.admits (own _ rfl) fun never : true = false => by cases never)

/-- An id is drawn abreast; afterwards it stands among the values. -/
theorem abreast_drawId {site other : Site} (sites : lead.Sites true site other) :
    Tally Eq (drawId.run site).1 (drawId.run other).1 ∧
      lead.Sites lead.late (drawId.run site).2 (drawId.run other).2 := by
  rw [drawId, Act.run_ask_bind, Act.run_ask_bind, sites.proxies.has]
  cases site.proxy.has "id" with
  | true => exact ⟨.ok rfl, sites.of_seen⟩
  | false =>
    obtain ⟨_, worlds⟩ := Build.abreast_drawStub sites.worlds
    refine ⟨.ok rfl, worlds, ?_, sites.of_seen.subjects⟩
    have ids : lead.Ids site.world.registry.nextStub other.world.registry.nextStub :=
      ⟨sites.worlds.first, sites.worlds.ahead⟩
    refine sites.proxies.of_seen.set "id" (.drawn ids fun visible => ?_) false
    rw [sites.worlds.ahead, of_decide_eq_true visible, Int.add_zero]

/-- Results are made abreast, by a finalizer that is code of the registry if there is one. -/
theorem abreast_result (fair : lead.Fair) (steady : runner.Steady lead)
    (finalizer : Option Handler) (own : lead.Holds (finalizer.map .finalizer)) {site other : Site}
    (sites : lead.Sites true site other) :
    Tally (Value.Match lead.Ids true) ((result runner finalizer).run site).1
        ((result runner finalizer).run other).1 ∧
      lead.Worlds ((result runner finalizer).run site).2.world
        ((result runner finalizer).run other).2.world := by
  have visible : ∀ moment, true = false → ∀ handler,
      .callback moment handler ∈ lead.history.registry.pieces →
        handler.body.any Expr.isInspection = false := fun _ never => by cases never
  have given : ∀ seen, Abreast (lead.Sites seen) (Value.Match lead.Ids true)
      (Act.askSubject Instance.value) (Act.askSubject Instance.value) :=
    fun _ => Act.abreast_askSubject fun same => same.value
  -- what goes abreast with one flag all the time ends in related worlds
  have whole : ∀ {seen} {act : Act Value} {site other : Site}, lead.Sites seen site other →
      Abreast (lead.Sites seen) (Value.Match lead.Ids true) act act →
        Tally (Value.Match lead.Ids true) (act.run site).1 (act.run other).1 ∧
          lead.Worlds (act.run site).2.world (act.run other).2.world :=
    fun sites abreast => ⟨(abreast sites).1, (abreast sites).2.worlds⟩
  rw [result, Act.run_ask_bind, Act.run_ask_bind, ← sites.proxies.strategy]
  cases site.proxy.strategy with
  | attributesFor =>
    exact ⟨.ok (.ofFields sites.proxies.persistedValues), sites.worlds⟩
  | build =>
    exact whole sites (abreast_instantiate.bind fun _ =>
      (abreast_runCallbacks fair steady .afterBuild (visible _)).bind fun _ => given _)
  | create =>
    exact whole sites (abreast_instantiate.bind fun _ =>
      (abreast_runCallbacks fair steady .afterBuild (visible _)).bind fun _ =>
        (abreast_finalize fair steady finalizer own).bind fun _ =>
          (abreast_runCallbacks fair steady .afterCreate (visible _)).bind fun _ => given _)
  | stub =>
    have rest : Abreast (lead.Sites lead.late) (Value.Match lead.Ids true)
        (do
          instantiate
          runCallbacks runner .afterStub
          Act.askSubject Instance.value)
        (do
          instantiate
          runCallbacks runner .afterStub
          Act.askSubject Instance.value) := by
      refine abreast_instantiate.bind fun _ =>
        (abreast_runCallbacks fair steady .afterStub fun hidden => ?_).bind fun _ => given _
      exact fair.blind.resolve_left (of_decide_eq_false hidden)
    obtain ⟨agree, drawn⟩ := abreast_drawId sites
    simp only
    rw [run_bind, run_bind]
    cases here : drawId.run site with
    | mk outcome after =>
      cases there : drawId.run other with
      | mk outcome' afterOther =>
        rw [here, there] at agree drawn
        cases agree with
        | error fault => exact ⟨.error fault, drawn.worlds⟩
        | ok _ => exact whole drawn rest

end Proxy

/-! ### Runs -/

/-- A prepared run is carried out abreast. -/
theorem Build.abreast_carryOut (fair : lead.Fair) (steady : runner.Steady lead) {run : Prepared}
    (owns : lead.Owns run) :
    Abreast lead.Worlds (Value.Match lead.Ids true)
      (carryOut runner run.proxy run.plan run.finalizer)
      (carryOut runner run.proxy run.plan run.finalizer) := by
  intro world other worlds
  have sites : lead.Sites true ⟨world, run.proxy, none⟩ ⟨other, run.proxy, none⟩ :=
    ⟨worlds, ⟨rfl, rfl, .refl (.refl _ _) _, rfl, rfl, owns.callbacks⟩, .none⟩
  have planned : ∀ attr, .evaluate attr ∈ run.plan.actions → lead.Holds attr.piece? :=
    fun attr member => owns.attributes attr (Plan.mem_of_evaluate member)
  obtain ⟨agree, filled⟩ := run.plan.abreast_carryOut fair steady planned sites
  simp only [carryOut, ExceptT.run_mk]
  rw [run_bind, run_bind]
  cases here : (run.plan.carryOut runner).run ⟨world, run.proxy, none⟩ with
  | mk outcome site =>
    cases there : (run.plan.carryOut runner).run ⟨other, run.proxy, none⟩ with
    | mk outcome' siteOther =>
      rw [here, there] at agree filled
      cases agree with
      | error fault => exact ⟨.error fault, filled.worlds⟩
      | ok _ => exact Proxy.abreast_result fair steady run.finalizer owns.finalizer filled

namespace Runner

/-- A run goes abreast if those nested in it do. -/
theorem Steady.next (steady : runner.Steady lead) (fair : lead.Fair) : runner.next.Steady lead := by
  intro id choice overrides
  have same : runner.next id choice overrides = (do
      let run ← begin id choice overrides
      Build.carryOut runner run.proxy run.plan run.finalizer) := by
    rw [next_eq, begin, bind_assoc]
  rw [same]
  refine (abreast_begin fair id choice overrides).bind ?_
  rintro run _ ⟨rfl, owns⟩
  exact Build.abreast_carryOut fair steady owns

/-- Runs go abreast however deep they are nested. -/
theorem steady_within (fair : lead.Fair) (depth : Nat) : (within depth).Steady lead := by
  induction depth with
  | zero => exact fun _ _ _ => Build.abreast_fail _
  | succ depth ih => exact ih.next fair

/-- All runs go abreast. -/
theorem steady_standard (fair : lead.Fair) : standard.Steady lead := by
  intro id choice overrides
  have asked : Abreast lead.Worlds Eq
      (Build.ask fun world => .ok world.registry.factories.length)
      (Build.ask fun world => .ok world.registry.factories.length) :=
    Build.abreast_ask fun worlds => .ok (worlds.used.length_eq worlds.usedOther).symm
  refine asked.bind ?_
  rintro count _ rfl
  exact steady_within fair _ id choice overrides

end Runner

end Blueprint
