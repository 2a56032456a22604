import Blueprint.Proofs.Build.Beside
import Blueprint.Proofs.Build.Lifecycle

/-!
# Values and instances

Where only values are wanted, a run gives the arguments from which an instance would be built, less
the associations to which no override is sent. The plan is the same, and its steps come to the same
as long as blocks can tell nothing of the associations.
-/
namespace Blueprint

/-- The block of an attribute, if it has one. -/
def Attribute.block? (attr : Attribute) : Option Expr :=
  match attr.source with
  | .dynamic block => some block
  | _ => none

/-- The block of a later attribute can tell nothing of what is built for an earlier association: it
runs no factory, takes no number from a counter that was changed, and handles no fields of instances
if any were changed in place. -/
def Attribute.Spares (jobs : List Job) (earlier later : Attribute) : Prop :=
  earlier.isAssociation → ∀ block, later.block? = some block →
    block.any Expr.isBuild = false ∧
    ∀ job ∈ jobs, earlier.Asks .build job →
      (∀ name, job.run.2.counters.lookup name ≠ job.world.counters.lookup name →
        block.any (Expr.takes name) = false) ∧
      (job.run.2.altered ≠ job.world.altered → block.any Expr.handles = false)

namespace Plan

variable {names : List String} {depth : Nat} {bare full last : Site} {action : Action}
  {actions rest : List Action} {jobs : List Job} {outcome : Except Fault Unit} {attr : Attribute}

/-- The blocks that are evaluated in steps of a plan, in order. -/
def blocks (actions : List Action) : List Expr := (evaluated actions).filterMap Attribute.block?

/-- The blocks of later steps are blocks of the plan. -/
theorem blocks_subset_cons : blocks rest ⊆ blocks (action :: rest) := by
  intro block member
  obtain ⟨attr, inside, its⟩ := List.mem_filterMap.1 member
  refine List.mem_filterMap.2 ⟨attr, ?_, its⟩
  cases action with
  | assign => exact inside
  | evaluate => exact List.mem_cons_of_mem _ inside

/-- The names of associations are known: no step sets one or evaluates an attribute of such a name
that is no association, and no block touches one or asks for the strategy. -/
structure Knows (names : List String) (actions : List Action) : Prop where
  /-- No override is set under one. -/
  assigned : ∀ {key value ignored}, .assign key value ignored ∈ actions → key ∉ names
  /-- They are the names of the associations. -/
  evaluated : ∀ {attr}, .evaluate attr ∈ actions → (attr.isAssociation ↔ attr.name ∈ names)
  /-- No block touches one. -/
  blocks : ∀ block ∈ blocks actions, block.any (Expr.touches names) = false
  /-- No block asks for the strategy. -/
  unaware : ∀ block ∈ Plan.blocks actions, block.any Expr.isStrategyTag = false

/-- What is known of steps is known of the later ones. -/
theorem Knows.tail (knows : Knows names (action :: rest)) : Knows names rest where
  assigned member := knows.assigned (List.mem_cons_of_mem _ member)
  evaluated member := knows.evaluated (List.mem_cons_of_mem _ member)
  blocks block member := knows.blocks block (blocks_subset_cons member)
  unaware block member := knows.unaware block (blocks_subset_cons member)

/-- A step that is not about an association goes abreast. -/
theorem beside_perform (runner : Runner) (knows : Knows names (action :: rest))
    (plain : ∀ attr, action = .evaluate attr → attr.isAssociation = false) :
    Abreast (Site.Beside names (blocks (action :: rest))) Eq (perform runner action)
      (perform runner action) := by
  cases action with
  | assign key value ignored =>
    exact Act.beside_set (knows.assigned List.mem_cons_self) value ignored
  | evaluate attr =>
    have other : attr.name ∉ names := by
      rw [← knows.evaluated List.mem_cons_self, plain attr rfl]
      exact Bool.false_ne_true
    show Abreast _ _ (attr.addTo runner) (attr.addTo runner)
    unfold Attribute.addTo
    cases source : attr.source with
    | static value => exact Act.beside_set other value attr.ignored
    | dynamic block =>
      have inside : block ∈ blocks (.evaluate attr :: rest) :=
        List.mem_filterMap.2 ⟨attr, List.mem_cons_self, by rw [Attribute.block?, source]⟩
      have evaluated := block.beside_eval runner true (knows.blocks block inside)
        (knows.unaware block inside) fun test is => ⟨block, inside, is⟩
      exact evaluated.bind_eq fun value => Act.beside_set other value attr.ignored
    | association factory overrides choice =>
      have association := plain attr rfl
      simp [Attribute.isAssociation, Attribute.factory?, source] at association

/-- What a block can tell is still the same if it cannot tell what was changed. -/
theorem eq_of_spared {α : Type} {here before after : α} {tells : Bool} (same : here = before)
    (spares : after ≠ before → tells = false) (told : tells = true) : here = after := by
  by_contra changed
  have never := spares fun still => changed (same.trans still.symm)
  rw [told] at never
  cases never

/-- After an association is built sites are still beside each other, if the later blocks are spared.
-/
theorem beside_built {job : Job} {value : Value} {world : World}
    (beside : Site.Beside names (blocks (.evaluate attr :: rest)) bare full)
    (knows : Knows names (.evaluate attr :: rest)) (asks : attr.job? depth full = some job)
    (spared : ∀ later ∈ evaluated rest, Attribute.Spares [job] attr later)
    (ran : job.run = (.ok value, world)) :
    Site.Beside names (blocks rest) bare
      { full with world := world, proxy := full.proxy.set attr.name value false } := by
  have its := Attribute.asks_of_job? asks
  have association := its.association.1
  rw [beside.built] at its
  have taken : attr.name ∈ names := (knows.evaluated List.mem_cons_self).1 association
  refine ⟨?_, fun key other => ?_, beside.valued, beside.built, beside.subject, .inr ?_⟩
  · rw [beside.values]
    exact (Table.filter_put_of_not (fun name => !names.contains name) (by simpa using taken) _
      value).symm
  · have apart : (key == attr.name) = false := by
      rw [beq_eq_false_iff_ne]
      rintro rfl
      exact other taken
    rw [Proxy.contains_ignored_set, apart, if_neg Bool.false_ne_true, beside.ignored key other]
  · intro block member
    obtain ⟨later, inside, own⟩ := List.mem_filterMap.1 member
    obtain ⟨silent, spares⟩ := spared later inside association block own
    obtain ⟨untaken, unhandled⟩ := spares job List.mem_cons_self its
    have start := Attribute.world_of_job? asks
    rw [ran, start] at untaken unhandled
    refine ⟨silent, fun name takes => ?_, fun handles => ?_⟩
    · exact eq_of_spared (beside.worlds.counters (blocks_subset_cons member) takes) (untaken name)
        takes
    · exact eq_of_spared (beside.worlds.altered (blocks_subset_cons member) handles) unhandled
        handles

/-- A plan that is carried out where an instance is to be built is carried out beside it where only
values are wanted. -/
theorem Path.beside (path : Path depth full actions jobs outcome last) (finished : outcome = .ok ())
    (knows : Knows names actions)
    (spared : (evaluated actions).Pairwise (Attribute.Spares jobs))
    (beside : Site.Beside names (blocks actions) bare full) :
    ∃ after, (performAll (Runner.within depth) actions).run bare = (.ok (), after) ∧
      Site.Beside names [] after last := by
  induction path generalizing bare with
  | done => exact ⟨bare, rfl, beside.mono (List.nil_subset _)⟩
  | @built full last attr rest job jobs value world outcome asks ran onward ih =>
    obtain ⟨first, later⟩ :=
      List.pairwise_cons.1 (show (attr :: evaluated rest).Pairwise _ from spared)
    have fewer : ∀ {earlier next}, Attribute.Spares (job :: jobs) earlier next →
        Attribute.Spares jobs earlier next :=
      fun spares association block own => ⟨(spares association block own).1, fun other member =>
        (spares association block own).2 other (List.mem_cons_of_mem _ member)⟩
    have own : ∀ next ∈ evaluated rest, Attribute.Spares [job] attr next := by
      intro next member association block own
      obtain ⟨silent, spares⟩ := first next member association block own
      refine ⟨silent, fun other inside => ?_⟩
      obtain rfl := List.mem_singleton.1 inside
      exact spares other List.mem_cons_self
    obtain ⟨after, did, still⟩ := ih finished knows.tail (later.imp fewer)
      (beside_built beside knows asks own ran)
    have skipped : attr.isSkipped bare.proxy.strategy := by
      rw [Attribute.isSkipped, beside.valued, (Attribute.asks_of_job? asks).association.1]
      rfl
    refine ⟨after, ?_, still⟩
    rw [performAll, run_bind, perform, Attribute.run_addTo_of_skipped skipped]
    exact did
  | broken | stopped => cases finished
  | @passed full middle last action rest jobs outcome asks did onward ih =>
    have plain : ∀ attr, action = .evaluate attr → attr.isAssociation = false := by
      rintro attr rfl
      rw [Bool.eq_false_iff]
      intro association
      have builds : full.proxy.strategy ≠ .attributesFor := by
        rw [beside.built]
        decide
      obtain ⟨fault, _, failed⟩ := run_addTo_of_no_job asks association builds
      rw [perform, failed] at did
      cases did
    obtain ⟨agree, still⟩ := beside_perform (Runner.within depth) knows plain beside
    rw [did] at agree still
    have later : (evaluated rest).Pairwise (Attribute.Spares jobs) := by
      cases action with
      | assign => exact spared
      | evaluate attr =>
        exact (List.pairwise_cons.1 (show (attr :: evaluated rest).Pairwise _ from spared)).2
    obtain ⟨after, finishes, end_⟩ := ih finished knows.tail later (still.mono blocks_subset_cons)
    refine ⟨after, ?_, end_⟩
    rw [performAll, run_bind]
    cases done : (perform (Runner.within depth) action).run bare with
    | mk result between =>
      rw [done] at agree finishes
      cases agree
      exact finishes

end Plan

/-! ### The same run for values alone -/

/-- What is prepared where only values are wanted. -/
def Prepared.valued (run : Prepared) : Prepared :=
  { run with proxy := { run.proxy with strategy := .attributesFor } }

/-- The job of which only the values are wanted. -/
def Job.valued (job : Job) : Job := { job with strategy := .attributesFor }

namespace Prepared

variable {run : Prepared} {choice : Value} {overrides : Dict} {jobs : List Job}

/-- The names of the associations that are not overridden. -/
def associationNames (run : Prepared) : List String := run.associations.map Attribute.name

/-- Nothing else in a run has to do with the associations that are not overridden, of which the jobs
are done. -/
structure Apart (run : Prepared) (jobs : List Job) : Prop where
  /-- No attribute has the name of another one as a further name. -/
  names : ∀ attr ∈ run.attributes, ∀ other ∈ run.attributes, other.name ∈ attr.aliases →
    attr.name = other.name
  /-- No block reads or sets the value of such an association, or tests for it. -/
  blocks : ∀ attr ∈ run.attributes, ∀ block, attr.block? = some block →
    block.any (Expr.touches run.associationNames) = false
  /-- No block asks for the strategy. -/
  unaware : ∀ attr ∈ run.attributes, ∀ block, attr.block? = some block →
    block.any Expr.isStrategyTag = false
  /-- No block that comes after such an association runs a factory, takes a number from a counter
  that building it changed, or handles fields of instances if building it changed any in place. -/
  later : run.attributes.Pairwise fun earlier attr =>
    run.sent earlier = [] → earlier.Spares jobs attr

/-- The associations that are not overridden are attributes to which no override is sent. -/
theorem mem_associations {attr : Attribute} : attr ∈ run.associations ↔
    attr ∈ run.attributes ∧ attr.isAssociation ∧ run.sent attr = [] := by
  rw [associations, List.mem_filter, Bool.and_eq_true, List.isEmpty_iff]

/-- No override is set under the name of an association that is not overridden. -/
theorem Apart.not_mem_associationNames (apart : run.Apart jobs)
    (prepared : run.For choice overrides) {key : String} {value : Value}
    (given : (key, value) ∈ run.overrides) :
    key ∉ run.associationNames := by
  intro member
  obtain ⟨attr, its, rfl⟩ := List.mem_map.1 member
  obtain ⟨inside, _, unsent⟩ := mem_associations.1 its
  obtain ⟨front, rest, split⟩ := List.append_of_mem inside
  obtain ⟨owner, _, answers, found⟩ := prepared.target?_name split
  have there : owner ∈ run.attributes := List.mem_of_find?_eq_some found
  have same : owner.name = attr.name := by
    simp only [Attribute.answersTo, Bool.or_eq_true, beq_iff_eq, List.contains_iff_mem] at answers
    obtain same | further := answers
    · exact same.symm
    · exact apart.names owner there attr inside further
  obtain rfl := prepared.eq_of_name there inside same
  have sentThere := (prepared.mem_sent inside).2 ⟨given, found⟩
  rw [unsent] at sentThere
  cases sentThere

/-- The plan knows the names of the associations that are not overridden. -/
theorem Apart.knows (apart : run.Apart jobs) (prepared : run.For choice overrides)
    (whole : run.plan.fault = none) : Plan.Knows run.associationNames run.plan.actions where
  assigned member :=
    apart.not_mem_associationNames prepared ((prepared.assign_mem_actions whole).1 member).1
  evaluated {attr} member := by
    obtain ⟨inside, unsent⟩ := (prepared.evaluate_mem_actions whole).1 member
    constructor
    · intro association
      exact List.mem_map_of_mem (mem_associations.2 ⟨inside, association, unsent⟩)
    · intro named
      obtain ⟨other, its, same⟩ := List.mem_map.1 named
      obtain ⟨there, association, _⟩ := mem_associations.1 its
      rwa [← prepared.eq_of_name there inside same]
  blocks block member := by
    obtain ⟨attr, planned, its⟩ := List.mem_filterMap.1 member
    rw [prepared.evaluated_plan whole] at planned
    exact apart.blocks attr (List.mem_filter.1 planned).1 block its
  unaware block member := by
    obtain ⟨attr, planned, its⟩ := List.mem_filterMap.1 member
    rw [prepared.evaluated_plan whole] at planned
    exact apart.unaware attr (List.mem_filter.1 planned).1 block its

/-- The blocks in the plan are spared. -/
theorem Apart.spared (apart : run.Apart jobs) (prepared : run.For choice overrides)
    (whole : run.plan.fault = none) :
    (Plan.evaluated run.plan.actions).Pairwise (Attribute.Spares jobs) := by
  rw [prepared.evaluated_plan whole]
  refine (List.Pairwise.filter _ apart.later).imp_of_mem fun {earlier _} member _ spares => ?_
  exact spares (List.isEmpty_iff.1 (List.mem_filter.1 member).2)

end Prepared

namespace Job

variable {job : Job} {filled : Filled} {value : Value} {run : Prepared} {ready last : World}

end Job

/-! ### A letter and its author -/

namespace Job

variable {job : Job} {filled : Filled} {run : Prepared}

/-- What a job prepares, where its proxy is filled, and the values alone, if it comes to its end. -/
def outcomes (job : Job) : Option (Prepared × Filled × Value) :=
  match job.begin.1, job.fill.1, job.run.1, job.valued.run.1 with
  | .ok run, .ok filled, .ok _, .ok values => some (run, filled, values)
  | _, _, _, _ => none

end Job

end Blueprint
