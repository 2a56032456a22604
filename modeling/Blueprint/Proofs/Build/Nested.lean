import Blueprint.Proofs.Build.Course

/-!
# Which jobs are nested

An association that is not overridden asks for one job, unless only values are wanted: a stubbed
owner has it stubbed, and any other owner follows the strategy of the association. Where a proxy is
filled, its associations have asked for the jobs nested in it, in order, and all of these came to
values.
-/
namespace Blueprint

/-- An attribute of an owner that follows a strategy is an association that asks for a job: it names
the factory, the overrides, and the strategy as far as the owner heeds it. -/
def Attribute.Asks (attr : Attribute) (owner : Strategy) (job : Job) : Prop :=
  ∃ factory choice, attr.source = .association factory job.overrides choice ∧
    owner.forAssociation choice = some job.strategy ∧
    job.world.registry.findText factory = .ok job.id

/-- An attribute asks for the job that it asks for. -/
theorem Attribute.asks_of_job? {depth : Nat} {attr : Attribute} {site : Site} {job : Job}
    (requested : attr.job? depth site = some job) : attr.Asks site.proxy.strategy job := by
  unfold Attribute.job? at requested
  split at requested
  · rename_i factory overrides choice source
    obtain ⟨strategy, chosen, asks⟩ := Option.bind_eq_some_iff.1 requested
    obtain ⟨id, found, same⟩ := Option.bind_eq_some_iff.1 asks
    cases same
    exact ⟨factory, choice, source, chosen, eq_ok_of_toOption found⟩
  · cases requested

/-- What asks for a job is an association, of an owner that is not only asked for values. -/
theorem Attribute.Asks.association {attr : Attribute} {owner : Strategy} {job : Job}
    (asks : attr.Asks owner job) : attr.isAssociation ∧ owner ≠ .attributesFor := by
  obtain ⟨factory, choice, source, chosen, _⟩ := asks
  refine ⟨by simp [isAssociation, factory?, source], ?_⟩
  rintro rfl
  cases chosen

/-- A stubbed owner asks for stubbed instances. -/
theorem Attribute.Asks.stub {attr : Attribute} {job : Job} (asks : attr.Asks .stub job) :
    job.strategy = .stub := by
  obtain ⟨factory, choice, _, chosen, _⟩ := asks
  exact (Option.some.inj chosen).symm

namespace Plan

/-- The attributes that give their values in steps of a plan, in order. -/
def evaluated (actions : List Action) : List Attribute :=
  actions.filterMap fun
    | .assign _ _ _ => none
    | .evaluate attr => some attr

/-- The associations that give their values in steps of a plan, in order. -/
def associations (actions : List Action) : List Attribute :=
  (evaluated actions).filter Attribute.isAssociation

/-- One step keeps the strategy. -/
theorem strategy_perform {runner : Runner} {action : Action} {site after : Site}
    (did : (perform runner action).run site = (.ok (), after)) :
    after.proxy.strategy = site.proxy.strategy := by
  have alone : (performAll runner [action]).run site = (.ok (), after) :=
    run_bind_eq_ok.2 ⟨(), after, did, rfl⟩
  exact strategy_performAll alone

namespace Path

variable {depth : Nat} {site last : Site} {actions : List Action} {jobs : List Job}
  {outcome : Except Fault Unit}

/-- Each job is asked for by an association. -/
theorem asks (path : Path depth site actions jobs outcome last) :
    ∀ job ∈ jobs, ∃ attr ∈ evaluated actions, attr.Asks site.proxy.strategy job := by
  induction path with
  | done => simp
  | built asks ran onward ih =>
    intro job member
    obtain rfl | inside := List.mem_cons.1 member
    · exact ⟨_, List.mem_cons_self, Attribute.asks_of_job? asks⟩
    · obtain ⟨attr, later, its⟩ := ih job inside
      exact ⟨attr, List.mem_cons_of_mem _ later, its⟩
  | broken asks failed =>
    intro job member
    obtain rfl := List.mem_singleton.1 member
    exact ⟨_, List.mem_cons_self, Attribute.asks_of_job? asks⟩
  | @passed site middle last action rest jobs outcome asks did onward ih =>
    intro job member
    rw [strategy_perform did] at ih
    obtain ⟨attr, later, its⟩ := ih job member
    refine ⟨attr, ?_, its⟩
    rw [evaluated, List.filterMap_cons]
    split
    · exact later
    · exact List.mem_cons_of_mem _ later
  | stopped => simp

/-- When all steps are done, the associations have asked for the jobs in order, and each job came to
a value. -/
theorem forall₂_associations (path : Path depth site actions jobs outcome last)
    (finished : outcome = .ok ()) (builds : site.proxy.strategy ≠ .attributesFor) :
    List.Forall₂ (fun attr job =>
      attr.Asks site.proxy.strategy job ∧ ∃ value, job.run.1 = .ok value)
      (associations actions) jobs := by
  induction path with
  | done => exact .nil
  | @built site last attr rest job jobs value world outcome asks ran onward ih =>
    have its := Attribute.asks_of_job? asks
    have here : associations (.evaluate attr :: rest) = attr :: associations rest :=
      List.filter_cons_of_pos its.association.1
    rw [here]
    exact .cons ⟨its, value, by rw [ran]⟩ (ih finished builds)
  | broken | stopped => cases finished
  | @passed site middle last action rest jobs outcome asks did onward ih =>
    rw [strategy_perform did] at ih
    -- a step that asks for no job and succeeds is not about an association
    have plain : associations (action :: rest) = associations rest := by
      cases action with
      | assign key value ignored => rfl
      | evaluate attr =>
        refine List.filter_cons_of_neg fun association => ?_
        obtain ⟨fault, _, failed⟩ := run_addTo_of_no_job asks association builds
        rw [perform, failed] at did
        cases did
    rw [plain]
    exact ih finished builds

end Path

end Plan

namespace Prepared

/-- The associations that are not overridden, in order. -/
def associations (run : Prepared) : List Attribute :=
  run.attributes.filter fun attr => attr.isAssociation && (run.sent attr).isEmpty

/-- The plan has the attributes give their values in order to which no override is sent. -/
theorem For.evaluated_plan {run : Prepared} {choice : Value} {overrides : Dict}
    (prepared : run.For choice overrides) (whole : run.plan.fault = none) :
    Plan.evaluated run.plan.actions = run.attributes.filter fun attr => (run.sent attr).isEmpty := by
  have assigned : ∀ (ignored : Bool) (pending : List Override),
      Plan.evaluated (Plan.assignAll ignored pending) = [] := by
    intro ignored pending
    rw [Plan.evaluated, List.filterMap_eq_nil_iff]
    intro action member
    obtain ⟨pair, _, rfl⟩ := List.mem_map.1 member
    rfl
  have portions : ∀ attributes : List Attribute,
      Plan.evaluated (attributes.flatMap fun attr => Plan.portion attr (run.sent attr)) =
        attributes.filter fun attr => (run.sent attr).isEmpty := by
    intro attributes
    induction attributes with
    | nil => rfl
    | cons attr rest ih =>
      rw [List.flatMap_cons, Plan.evaluated, List.filterMap_append, ← Plan.evaluated,
        ← Plan.evaluated, ih, Plan.portion]
      cases sent : (run.sent attr).isEmpty with
      | true => simp [sent, Plan.evaluated]
      | false => simp [sent, assigned]
  rw [prepared.actions_plan whole, Plan.evaluated, List.filterMap_append, ← Plan.evaluated,
    ← Plan.evaluated, portions, assigned, List.append_nil]

end Prepared

namespace Job

variable {job inner : Job}

/-- The strategy that is prepared is that of the job. -/
theorem strategy_of_for {run : Prepared} (prepared : run.For (.proxy job.strategy) job.overrides) :
    run.proxy.strategy = job.strategy :=
  (Except.ok.inj prepared.strategy).symm

/-- Each job that is nested is asked for by an attribute of its owner, to which no override is sent
if the plan has no fault. -/
theorem asks_of_mem_nested (member : inner ∈ job.nested) :
    ∃ run ready attr, job.begin = (.ok run, ready) ∧ attr ∈ run.attributes ∧
      attr.Asks job.strategy inner ∧ (run.plan.fault = none → run.sent attr = []) := by
  cases job.begins with
  | refused alone =>
    rw [alone] at member
    cases member
  | @started depth run start last outcome deep begun proxy path fills =>
    obtain ⟨prepared, _⟩ := Runner.begin_eq_ok begun
    obtain ⟨attr, planned, asks⟩ := path.asks inner member
    rw [proxy, strategy_of_for prepared] at asks
    have evaluates : .evaluate attr ∈ run.plan.actions := by
      obtain ⟨action, inside, same⟩ := List.mem_filterMap.1 planned
      cases action with
      | assign key value ignored => cases same
      | evaluate other =>
        cases same
        exact inside
    exact ⟨run, _, attr, begun, Plan.mem_of_evaluate evaluates, asks, fun whole =>
      ((prepared.evaluate_mem_actions whole).1 evaluates).2⟩

/-- No job is nested where only values are wanted. -/
theorem nested_of_attributesFor (values : job.strategy = .attributesFor) : job.nested = [] := by
  rw [List.eq_nil_iff_forall_not_mem]
  intro inner member
  obtain ⟨_, _, _, _, _, asks, _⟩ := asks_of_mem_nested member
  exact asks.association.2 values

/-- What is nested in a job whose proxy is filled are the jobs that the associations ask for to
which no override is sent, in order, and each of them came to a value. -/
theorem forall₂_nested {filled : Filled} {after : World} (fills : job.fill = (.ok filled, after))
    (builds : job.strategy ≠ .attributesFor) :
    List.Forall₂ (fun attr inner =>
      attr.Asks job.strategy inner ∧ ∃ value, inner.run.1 = .ok value)
      filled.run.associations job.nested := by
  obtain ⟨whole, _⟩ := filled_for fills
  obtain ⟨depth, deep, begun, path⟩ := path_of_fill fills
  have strategy := strategy_of_for whole.prepared
  rw [← strategy, ← whole.start] at builds
  have each := path.forall₂_associations rfl builds
  rw [whole.start, strategy, Plan.associations, whole.prepared.evaluated_plan whole.whole,
    List.filter_filter] at each
  exact each

end Job

end Blueprint
