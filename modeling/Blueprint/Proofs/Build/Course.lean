import Blueprint.Proofs.Build.Job

/-!
# The course of a job

A job starts, does what is nested in it while its proxy is filled, and makes its result. Its course
lists all jobs that belong to it, each after those nested in it. What is true of a job if it is true
of those nested in it is true of all jobs; and where blocks run no factories, what the log shows of
a job is what it shows of the jobs of its course, one after the other.
-/
namespace Blueprint

/-- A job that an attribute asks for may be nested as deep as runs may there. -/
theorem Attribute.depth_of_job? {depth : Nat} {attr : Attribute} {site : Site} {job : Job}
    (asks : attr.job? depth site = some job) : job.depth = depth := by
  unfold Attribute.job? at asks
  split at asks
  · obtain ⟨strategy, _, asks⟩ := Option.bind_eq_some_iff.1 asks
    obtain ⟨id, _, same⟩ := Option.bind_eq_some_iff.1 asks
    cases same
    rfl
  · cases asks

/-- A job that an attribute asks for starts where it is asked for. -/
theorem Attribute.world_of_job? {depth : Nat} {attr : Attribute} {site : Site} {job : Job}
    (asks : attr.job? depth site = some job) : job.world = site.world := by
  unfold Attribute.job? at asks
  split at asks
  · obtain ⟨strategy, _, asks⟩ := Option.bind_eq_some_iff.1 asks
    obtain ⟨id, _, same⟩ := Option.bind_eq_some_iff.1 asks
    cases same
    rfl
  · cases asks

namespace Plan.Path

variable {depth : Nat} {site last : Site} {actions : List Action} {jobs : List Job}
  {outcome : Except Fault Unit}

/-- The jobs that a plan asks for may be nested as deep as runs may there. -/
theorem depth_eq (path : Path depth site actions jobs outcome last) :
    ∀ job ∈ jobs, job.depth = depth := by
  induction path with
  | done => simp
  | built asks _ _ ih => simpa [Attribute.depth_of_job? asks] using ih
  | broken asks => simpa using Attribute.depth_of_job? asks
  | passed _ _ _ ih => exact ih
  | stopped => simp

/-- What every job and every step keeps is kept while a plan is carried out: from where it starts to
each job, from each job to the later ones, and to where it ends. -/
theorem related (path : Path depth site actions jobs outcome last) {related : World → World → Prop}
    [Std.Refl related] [IsTrans World related] (ran : ∀ job : Job, related job.world job.run.2)
    (did : ∀ (action : Action) (site : Site),
      related site.world ((perform (Runner.within depth) action).run site).2.world) :
    related site.world last.world ∧
      (∀ job ∈ jobs, related site.world job.world ∧ related job.run.2 last.world) ∧
      jobs.Pairwise fun job other => related job.run.2 other.world := by
  induction path with
  | done => exact ⟨refl_of related _, by simp, .nil⟩
  | @built site last attr rest job jobs value world outcome asks made onward ih =>
    have first := ran job
    rw [made, Attribute.world_of_job? asks] at first
    obtain ⟨all, each, apart⟩ := ih
    refine ⟨IsTrans.trans _ _ _ first all, fun other member => ?_, ?_⟩
    · obtain rfl | inside := List.mem_cons.1 member
      · rw [Attribute.world_of_job? asks, made]
        exact ⟨refl_of related _, all⟩
      · exact ⟨IsTrans.trans _ _ _ first (each other inside).1, (each other inside).2⟩
    · refine List.pairwise_cons.2 ⟨fun other inside => ?_, apart⟩
      rw [made]
      exact (each other inside).1
  | @broken site attr rest job fault world asks failed =>
    have only := ran job
    rw [failed, Attribute.world_of_job? asks] at only
    refine ⟨only, fun other member => ?_, List.pairwise_singleton _ _⟩
    obtain rfl := List.mem_singleton.1 member
    rw [Attribute.world_of_job? asks, failed]
    exact ⟨refl_of related _, refl_of related _⟩
  | @passed site middle last action rest jobs outcome asks passed onward ih =>
    have first := did action site
    rw [passed] at first
    obtain ⟨all, each, apart⟩ := ih
    exact ⟨IsTrans.trans _ _ _ first all, fun other member =>
      ⟨IsTrans.trans _ _ _ first (each other member).1, (each other member).2⟩, apart⟩
  | @stopped site last action rest fault asks failed =>
    have only := did action site
    rw [failed] at only
    exact ⟨only, by simp, .nil⟩

/-- The world walks on while a plan is carried out, and each job starts where it has come to. -/
theorem steps (path : Path depth site actions jobs outcome last) :
    World.Steps site.world last.world ∧
      ∀ job ∈ jobs, World.Steps site.world job.world ∧ World.Steps job.run.2 last.world := by
  obtain ⟨all, each, _⟩ := path.related
    (fun job => Runner.walks_within job.depth job.id _ job.overrides job.world)
    fun action site => keeps_perform (Runner.walks_within depth).keeping action
      (fun _ _ => trivial) site
  exact ⟨all, each⟩

/-- Where a job fails the plan ends as the job does. -/
theorem eq_of_error (path : Path depth site actions jobs outcome last) {job : Job}
    (member : job ∈ jobs) {fault : Fault} {after : World} (failed : job.run = (.error fault, after)) :
    outcome = .error fault ∧ last.world = after := by
  induction path with
  | done | stopped => cases member
  | built asks made onward ih =>
    obtain rfl | inside := List.mem_cons.1 member
    · rw [made] at failed
      cases failed
    · exact ih inside
  | broken asks broke =>
    obtain rfl := List.mem_singleton.1 member
    rw [broke] at failed
    cases failed
    exact ⟨rfl, rfl⟩
  | passed asks did onward ih => exact ih member

end Plan.Path

/-- A proxy is filled where the steps of its plan are done, unless the plan has a fault. -/
theorem Prepared.run_fill {runner : Runner} {run : Prepared} {start last : Site}
    {outcome : Except Fault Unit} (fresh : start = { world := start.world, proxy := run.proxy })
    (did : (Plan.performAll runner run.plan.actions).run start = (outcome, last)) :
    (run.fill runner).run start.world = (outcome >>= fun _ => match run.plan.fault with
      | some fault => .error fault
      | none => .ok ⟨run, start, last⟩, last.world) := by
  rw [fill, ExceptT.run_mk]
  dsimp only
  rw [← fresh, Plan.carryOut, run_bind, did]
  cases outcome with
  | error fault => rfl
  | ok _ => cases run.plan.fault <;> rfl

namespace Job

variable {job inner : Job}

/-! ### How a job starts -/

/-- Until the plan of a job is made nothing but the registry changes. -/
theorem sameRest_begin (job : Job) : World.SameRest job.world job.begin.2 :=
  Runner.sameRest_begin job.id (.proxy job.strategy) job.overrides job.world

/-- Until its plan is made a job walks. -/
theorem steps_begin (job : Job) : World.Steps job.world job.begin.2 :=
  Runner.walks_begin job.id (.proxy job.strategy) job.overrides job.world

/-- How a job gets to where its proxy is filled, or does not. -/
inductive Begins (job : Job) : Prop where
  /-- No plan is made. -/
  | refused {fault : Fault} {after : World} (alone : job.nested = [])
      (failed : job.fill = (.error fault, after)) (same : World.SameRest job.world after)
      (steps : World.Steps job.world after)
      (cause : job.depth = 0 ∨ job.begin = (.error fault, after))
  /-- A plan is made and carried out as far as possible. -/
  | started {depth : Nat} {run : Prepared} {start last : Site} {outcome : Except Fault Unit}
      (deep : job.depth = depth + 1) (begun : job.begin = (.ok run, start.world))
      (proxy : start.proxy = run.proxy)
      (path : Plan.Path depth start run.plan.actions job.nested outcome last)
      (fills : job.fill = (outcome >>= fun _ => match run.plan.fault with
        | some fault => .error fault
        | none => .ok ⟨run, start, last⟩, last.world))
      (fresh : start.subject = none)

/-- Every job starts in one of these ways. -/
theorem begins (job : Job) : job.Begins := by
  cases deep : job.depth with
  | zero =>
    exact .refused (by rw [nested, deep]) (fill_of_zero deep) (refl_of World.SameRest job.world)
      .refl (.inl deep)
  | succ depth =>
    have same := job.sameRest_begin
    have steps := job.steps_begin
    have fills := fill_of_succ deep
    cases begun : job.begin with
    | mk result ready =>
      rw [begun] at same steps fills
      cases result with
      | error fault =>
        exact .refused (by rw [nested, deep, begun]) fills same steps (.inr begun)
      | ok run =>
        let start : Site := { world := ready, proxy := run.proxy }
        cases did : (Plan.performAll (Runner.within depth) run.plan.actions).run start with
        | mk outcome last =>
          have path := Plan.path_performAll did
          have asked : job.nested = Plan.jobs depth run.plan.actions start := by
            rw [nested, deep, begun]
          rw [← asked] at path
          exact .started deep begun rfl path (fills.trans (Prepared.run_fill rfl did)) rfl

/-- The plan of a job whose proxy is filled is carried out. -/
theorem path_of_fill {filled : Filled} {after : World} (fills : job.fill = (.ok filled, after)) :
    ∃ depth, job.depth = depth + 1 ∧ job.begin = (.ok filled.run, filled.start.world) ∧
      Plan.Path depth filled.start filled.run.plan.actions job.nested (.ok ()) filled.site := by
  cases job.begins with
  | refused _ failed =>
    rw [fills] at failed
    cases failed
  | started deep begun _ path same =>
    rw [fills] at same
    obtain ⟨outcome, _⟩ := Prod.mk.inj same
    obtain ⟨_, done, whole⟩ := bind_eq_ok.1 outcome.symm
    split at whole
    · cases whole
    · cases whole
      rw [done] at path
      exact ⟨_, deep, begun, path⟩

/-! ### The course -/

/-- Each job is nested one deeper. -/
theorem depth_of_mem_nested (member : inner ∈ job.nested) : job.depth = inner.depth + 1 := by
  cases job.begins with
  | refused alone =>
    rw [alone] at member
    cases member
  | started deep _ _ path => rw [path.depth_eq inner member, deep]

/-- What is true of a job if it is true of all that is nested in it is true of every job. -/
theorem induct {Holds : Job → Prop}
    (step : ∀ job : Job, (∀ inner ∈ job.nested, Holds inner) → Holds job) (job : Job) :
    Holds job := by
  obtain ⟨depth, deep⟩ : ∃ depth, job.depth = depth := ⟨_, rfl⟩
  induction depth generalizing job with
  | zero =>
    refine step job fun inner member => ?_
    have deeper := depth_of_mem_nested member
    omega
  | succ depth ih =>
    refine step job fun inner member => ih inner ?_
    have deeper := depth_of_mem_nested member
    omega

/-- The course of a job is that of the jobs nested in it, and then the job itself. -/
theorem course_eq (job : Job) : job.course = job.nested.flatMap course ++ [job] := by
  unfold course
  cases deep : job.depth with
  | zero =>
    have alone : job.nested = [] := by
      rw [List.eq_nil_iff_forall_not_mem]
      intro inner member
      have deeper := depth_of_mem_nested member
      omega
    rw [alone]
    rfl
  | succ depth =>
    rw [unfold]
    refine congrArg (· ++ [job]) (List.flatMap_congr fun inner member => ?_)
    have deeper := depth_of_mem_nested member
    rw [show inner.depth = depth by omega]

/-- To a job belong the jobs that belong to those nested in it, and the job itself. -/
theorem mem_course {other : Job} :
    other ∈ job.course ↔ (∃ inner ∈ job.nested, other ∈ inner.course) ∨ other = job := by
  rw [course_eq, List.mem_append, List.mem_flatMap, List.mem_singleton]

/-- What is true of a job and passes on to all that is nested in it is true of its course. -/
theorem forall_course {Holds : Job → Prop}
    (passes : ∀ job : Job, Holds job → ∀ inner ∈ job.nested, Holds inner) (held : Holds job) :
    ∀ other ∈ job.course, Holds other := by
  induction job using induct with
  | step job ih =>
    intro other member
    obtain ⟨inner, inside, deeper⟩ | rfl := mem_course.1 member
    · exact ih inner inside (passes job held inner inside) other deeper
    · exact held

/-! ### What jobs do to the world -/

/-- A job walks. -/
theorem steps_run (job : Job) : World.Steps job.world job.run.2 :=
  Runner.walks_within job.depth job.id _ job.overrides job.world

/-- A nested job starts where its owner has come to, which goes on where it ends. -/
theorem steps_of_mem_nested (member : inner ∈ job.nested) :
    World.Steps job.world inner.world ∧ World.Steps inner.run.2 job.fill.2 := by
  cases job.begins with
  | refused alone =>
    rw [alone] at member
    cases member
  | started deep begun proxy path fills =>
    obtain ⟨first, last⟩ := path.steps.2 inner member
    have start := job.steps_begin
    rw [begun] at start
    exact ⟨start.trans first, by rw [fills]; exact last⟩

end Job

/-- Steps of a world bring no code into its registry. -/
theorem World.pieces_of_steps {world after : World} (steps : World.Steps world after) :
    after.registry.pieces ⊆ world.registry.pieces := by
  induction steps with
  | refl => exact List.Subset.refl _
  | tail _ step ih =>
    cases step with
    | logged | counted | altered | constructed | drawn => exact ih
    | compiled id => exact List.Subset.trans (Registry.Reworks.compile _ id).pieces ih
    | classed id => exact List.Subset.trans (Registry.Reworks.model _ id).pieces ih

/-- All code of a registry that passes a test passes it wherever a nested job starts. -/
theorem Job.pieces_of_mem_nested {fine : Piece → Prop} (job : Job)
    (all : ∀ piece ∈ job.world.registry.pieces, fine piece) :
    ∀ inner ∈ job.nested, ∀ piece ∈ inner.world.registry.pieces, fine piece :=
  fun _ member piece inside =>
    all piece (World.pieces_of_steps (steps_of_mem_nested member).1 inside)

/-! ### Silent blocks -/

/-- The steps of a plan evaluate attributes of the plan only. -/
theorem Plan.mem_of_evaluate {aliases : String → Except Fault (List String)}
    {attributes : List Attribute} {overrides : List Override} {attr : Attribute}
    (planned : .evaluate attr ∈ (make aliases attributes overrides).actions) :
    attr ∈ attributes := by
  have assigned : ∀ {ignored : Bool} {pending : List Override},
      Action.evaluate attr ∉ assignAll ignored pending := by
    intro ignored pending member
    obtain ⟨_, _, same⟩ := List.mem_map.1 member
    cases same
  have each : ∀ (rest : List Attribute) (pending : List Override),
      .evaluate attr ∈ (distribute aliases attributes rest pending).actions → attr ∈ rest := by
    intro rest
    induction rest with
    | nil => exact fun pending member => absurd member assigned
    | cons first rest ih =>
      intro pending member
      rw [distribute] at member
      split at member
      · cases member
      · obtain here | later := List.mem_append.1 member
        · cases List.mem_singleton.1 here
          exact List.mem_cons_self
        · exact List.mem_cons_of_mem _ (ih _ later)
      · obtain here | later := List.mem_append.1 member
        · exact absurd here assigned
        · exact List.mem_cons_of_mem _ (ih _ later)
  exact each attributes overrides planned

/-- No block in a registry runs a factory. -/
def Registry.SilentBlocks (registry : Registry) : Prop :=
  ∀ block, .block block ∈ registry.pieces → block.any Expr.isBuild = false

/-- The code of what a run has prepared is code of the registry. -/
theorem Prepared.Resolves.piece_of_attribute {run : Prepared} {registry : Registry}
    {id : FactoryId} {list : AttributeList} (resolves : run.Resolves registry id list)
    {attr : Attribute} (member : attr ∈ run.attributes) {piece : Piece}
    (its : attr.piece? = some piece) : piece ∈ registry.pieces := by
  rw [resolves.attributes] at member
  exact Registry.pieces_of_resolve resolves.resolved
    (AttributeList.mem_pieces.2 (.inr (.inl ⟨attr, member, its⟩)))

/-- The code of the callbacks that a run has prepared is code of the registry. -/
theorem Prepared.Resolves.piece_of_callback {run : Prepared} {registry : Registry}
    {id : FactoryId} {list : AttributeList} (resolves : run.Resolves registry id list)
    {callback : Callback} (member : callback ∈ run.proxy.callbacks) {piece : Piece}
    (its : callback.piece? = some piece) : piece ∈ registry.pieces := by
  rw [resolves.callbacks] at member
  exact Registry.pieces_of_resolve resolves.resolved
    (AttributeList.mem_pieces.2 (.inr (.inr ⟨callback, member, its⟩)))

/-- If no block runs a factory, no step of the plan of a job does, unless it asks for a job. -/
theorem Job.isSilent_of_begin {job : Job} {run : Prepared} {ready : World}
    (silent : job.world.registry.SilentBlocks) (begun : job.begin = (.ok run, ready)) :
    ∀ action ∈ run.plan.actions, Plan.IsSilent action := by
  rintro _ member attr block rfl source
  obtain ⟨_, list, resolves⟩ := Runner.begin_eq_ok begun
  have steps := job.steps_begin
  rw [begun] at steps
  have its : attr.piece? = some (.block block) := by simp [Attribute.piece?, source]
  have inside := resolves.piece_of_attribute (Plan.mem_of_evaluate member) its
  exact silent block (World.pieces_of_steps steps inside)

/-! ### What the log shows -/

/-- What is seen of the log of a world. -/
def World.seen {α : Type} (view : Event → Option α) (world : World) : List α :=
  world.log.filterMap view

/-- Where nothing but the registry changed, the same is seen. -/
theorem World.SameRest.seen {α : Type} {view : Event → Option α} {world after : World}
    (same : world.SameRest after) : after.seen view = world.seen view := by
  unfold SameRest at same
  rw [same]
  rfl

section Seen

variable {α : Type} {view : Event → Option α} (blind : ∀ event, event.isMark → view event = none)
  {shown : Job → List α}
include blind

/-- What is seen of a plan is what is seen of the jobs that it asks for. -/
theorem Plan.Path.seen {depth : Nat} {site last : Site} {actions : List Action} {jobs : List Job}
    {outcome : Except Fault Unit} (path : Plan.Path depth site actions jobs outcome last)
    (silent : ∀ action ∈ actions, Plan.IsSilent action)
    (each : ∀ job ∈ jobs, job.run.2.seen view = job.world.seen view ++ shown job) :
    last.world.seen view = site.world.seen view ++ jobs.flatMap shown := by
  induction path with
  | done => simp
  | @built site last attr rest job jobs value world outcome asks made onward ih =>
    have own := each job List.mem_cons_self
    rw [made, Attribute.world_of_job? asks] at own
    rw [ih (fun action member => silent action (List.mem_cons_of_mem _ member))
        fun other member => each other (List.mem_cons_of_mem _ member)]
    show world.seen view ++ _ = _
    rw [own, List.flatMap_cons, List.append_assoc]
  | @broken site attr rest job fault world asks failed =>
    have own := each job List.mem_cons_self
    rw [failed, Attribute.world_of_job? asks] at own
    rw [List.flatMap_singleton]
    exact own
  | @passed site middle last action rest jobs outcome asks did onward ih =>
    have marked := Plan.marked_perform asks (silent action List.mem_cons_self)
    rw [did] at marked
    rw [ih (fun action member => silent action (List.mem_cons_of_mem _ member)) each]
    exact congrArg (· ++ jobs.flatMap shown) (marked.filterMap blind)
  | @stopped site last action rest fault asks failed =>
    have marked := Plan.marked_perform asks (silent action List.mem_cons_self)
    rw [failed] at marked
    rw [List.flatMap_nil, List.append_nil]
    exact marked.filterMap blind

/-- Until its proxy is filled, what is seen of a job is what is seen of the jobs nested in it. -/
theorem Job.seen_fill {job : Job} (silent : job.world.registry.SilentBlocks)
    (each : ∀ inner ∈ job.nested, inner.run.2.seen view = inner.world.seen view ++ shown inner) :
    job.fill.2.seen view = job.world.seen view ++ job.nested.flatMap shown := by
  cases job.begins with
  | refused alone failed same =>
    rw [failed, alone, List.flatMap_nil, List.append_nil]
    exact same.seen
  | started deep begun proxy path fills =>
    have same := job.sameRest_begin
    rw [begun] at same
    rw [fills]
    show World.seen view _ = _
    rw [path.seen blind (isSilent_of_begin silent begun) each, same.seen]

/-- What is seen of a job is what its course shows, one job after the other: each job shows of its
own what is seen of it after its proxy is filled. -/
theorem Job.seen_run (fine : Piece → Prop) (Fits : Job → Prop)
    (silent : ∀ {registry : Registry}, (∀ piece ∈ registry.pieces, fine piece) →
      registry.SilentBlocks)
    (passes : ∀ job : Job, Fits job → ∀ inner ∈ job.nested, Fits inner)
    (own : ∀ job : Job, Fits job → (∀ piece ∈ job.world.registry.pieces, fine piece) →
      job.run.2.seen view = job.fill.2.seen view ++ shown job)
    {job : Job} (fits : Fits job) (all : ∀ piece ∈ job.world.registry.pieces, fine piece) :
    job.run.2.seen view = job.world.seen view ++ job.course.flatMap shown := by
  induction job using Job.induct with
  | step job ih =>
    have within_ : ∀ inner ∈ job.nested,
        inner.run.2.seen view = inner.world.seen view ++ inner.course.flatMap shown :=
      fun inner member =>
        ih inner member (passes job fits inner member) (job.pieces_of_mem_nested all inner member)
    have filled := job.seen_fill blind (silent all) within_
    rw [own job fits all, filled, job.course_eq, List.flatMap_append, List.flatMap_assoc,
      List.flatMap_singleton, List.append_assoc]

end Seen

end Blueprint
