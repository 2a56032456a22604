import Blueprint.Proofs.Build.Draw

/-!
# Who draws an id

In a job ids are drawn by the jobs of its course in order: by those that stub an instance on whose
proxy no id is set. A job stubs only if it is asked to: as the owner of all that belongs to it is,
or as an association that names the stub strategy.
-/
namespace Blueprint

/-! ### When an id is set -/

/-- A proxy that has a value under a name keeps one there. -/
abbrev Proxy.StillHas (key : String) (proxy other : Proxy) : Prop :=
  proxy.has key → other.has key

instance {key : String} : Std.Refl (Proxy.StillHas key) := ⟨fun _ held => held⟩

instance {key : String} : IsTrans Proxy (Proxy.StillHas key) :=
  ⟨fun _ _ _ first second held => second (first held)⟩

/-- A proxy has a value under a name after one is set there. -/
theorem Proxy.has_set (proxy : Proxy) (name : String) (value : Value) (ignored : Bool)
    {key : String} : (proxy.set name value ignored).has key = (proxy.has key || name == key) := by
  rw [has, has, Table.has, Table.has, lookup_set]
  by_cases same : key = name
  · simp [same]
  · have apart : (key == name) = false := by simpa using same
    have other : (name == key) = false := by simpa using Ne.symm same
    rw [apart, other, if_neg Bool.false_ne_true, Bool.or_false]

namespace Plan

variable {runner : Runner} {key : String} {actions : List Action} {site last : Site}

/-- All that fills a proxy leaves it with a value where it has one. -/
theorem stillHas_performAll (done : (performAll runner actions).run site = (.ok (), last)) :
    Proxy.StillHas key site.proxy last.proxy := by
  have keeping : Keeping runner (Function.onFun (Proxy.StillHas key) Site.proxy) fun _ => True :=
    runner.keeping_proxy fun proxy name value ignored _ held => by simp [proxy.has_set, held]
  have kept := keeps_performAll keeping actions (fun _ _ _ _ => trivial) site
  rwa [done] at kept

/-- A step that sets a value under a name leaves one there. -/
theorem has_of_perform {action : Action}
    (sets : ∀ {attr}, action = .evaluate attr →
      attr.name = key ∧ attr.isSkipped site.proxy.strategy = false)
    (assigns : ∀ {name value ignored}, action = .assign name value ignored → name = key)
    (done : (perform runner action).run site = (.ok (), last)) : last.proxy.has key := by
  cases action with
  | assign name value ignored =>
    cases done
    simp [Proxy.has_set, assigns rfl]
  | evaluate attr =>
    obtain ⟨named, present⟩ := sets rfl
    rw [perform, Attribute.run_addTo present] at done
    obtain ⟨value, given, _, assigned⟩ := run_bind_eq_ok.1 done
    cases assigned
    simp [Proxy.has_set, named]

end Plan

namespace Filled

variable {filled : Filled} {runner : Runner} {choice : Value} {overrides : Dict}

/-- A value is set on the proxy of a run under a name: by an override of that key, or by an
attribute of that name to which no override is sent. -/
def Sets (filled : Filled) (overrides : Dict) (key : String) : Prop :=
  (∃ entry ∈ overrides, Name.ofKey entry.1 = key) ∨
    ∃ attr ∈ filled.run.attributes, attr.name = key ∧ filled.run.sent attr = []

/-- Where instances are made, a proxy that starts without values has one under a name just if an
override or an attribute sets it, unless a block does. -/
theorem For.has_iff (fills : filled.For runner choice overrides)
    (makes : filled.run.proxy.strategy ≠ .attributesFor) (fresh : filled.run.proxy.values = [])
    {key : String} (reads : ∀ attr ∈ filled.run.attributes, attr.blockSets key = false) :
    filled.site.proxy.has key ↔ filled.Sets overrides key := by
  have prepared := fills.prepared
  have present : ∀ attr : Attribute, attr.isSkipped filled.start.proxy.strategy = false := by
    intro attr
    rw [fills.start]
    simp [Attribute.isSkipped, makes]
  -- whatever step sets it, it is still there in the end
  have kept : ∀ {action : Action}, action ∈ filled.run.plan.actions →
      (∀ {attr}, action = .evaluate attr → attr.name = key) →
      (∀ {name value ignored}, action = .assign name value ignored → name = key) →
      filled.site.proxy.has key := by
    intro action member sets assigns
    obtain ⟨before, after, split⟩ := List.append_of_mem member
    have done := fills.done
    rw [split] at done
    obtain ⟨reached, first, onward⟩ := Plan.run_performAll_append.1 done
    obtain ⟨_, between, did, rest⟩ := run_bind_eq_ok.1 onward
    refine Plan.stillHas_performAll rest (Plan.has_of_perform (fun same => ⟨sets same, ?_⟩) assigns did)
    rw [Plan.strategy_performAll first]
    exact present _
  constructor
  · intro held
    by_contra unset
    have free : ∀ action ∈ filled.run.plan.actions, Plan.sets key action →
        Plan.skips filled.start.proxy.strategy action := by
      intro action member sets
      refine absurd ?_ unset
      cases action with
      | assign name value ignored =>
        obtain ⟨given, _⟩ := (prepared.assign_mem_actions fills.whole).1 member
        rw [prepared.overrides] at given
        obtain ⟨entry, there, same⟩ := List.mem_map.1 given
        cases same
        exact .inl ⟨entry, there, by simpa [Plan.sets] using sets⟩
      | evaluate attr =>
        obtain ⟨there, unsent⟩ := (prepared.evaluate_mem_actions fills.whole).1 member
        have named : attr.name = key := by simpa [Plan.sets, reads attr there] using sets
        exact .inr ⟨attr, there, named, unsent⟩
    have agree : Site.Agree key filled.start
        ((Plan.performAll runner filled.run.plan.actions).run filled.start).2 :=
      Plan.agree_performAll free
    rw [fills.done] at agree
    have absent : filled.start.proxy.has key = false := by
      rw [fills.start, Proxy.has, fresh]
      rfl
    have still : filled.site.proxy.has key = filled.start.proxy.has key := by
      rw [Proxy.has, Proxy.has, Table.has, Table.has, agree.value]
    rw [still, absent] at held
    cases held
  · rintro (⟨entry, member, same⟩ | ⟨attr, member, named, unsent⟩)
    · have given : (key, entry.2) ∈ filled.run.overrides := by
        rw [prepared.overrides]
        exact List.mem_map.2 ⟨entry, member, by rw [same]⟩
      refine kept ((prepared.assign_mem_actions fills.whole).2 ⟨given, rfl⟩) (fun never => ?_)
        fun assigned => ?_
      · cases never
      · cases assigned
        rfl
    · refine kept ((prepared.evaluate_mem_actions fills.whole).2 ⟨member, unsent⟩)
        (fun same => ?_) fun never => ?_
      · cases same
        exact named
      · cases never

end Filled

/-! ### The ids of a job -/

/-- A registry starts with the id that its configuration names. -/
theorem Registry.nextStub_create {settings : Settings} {registry : Registry}
    (created : create settings = .ok registry) :
    settings.stubIdStart = .ok registry.nextStub := by
  obtain ⟨start, starts, created⟩ := bind_eq_ok.1 created
  obtain ⟨sources, _, created⟩ := bind_eq_ok.1 created
  obtain ⟨patterns, _, created⟩ := bind_eq_ok.1 created
  cases created
  exact starts

namespace Job

variable {job inner : Job}

/-- The id that a job draws for its own instance, if it draws one. -/
def drawn? (job : Job) : Option Int := job.fill.1.toOption.bind Filled.drawn?

/-- A nested job stubs because an association of its owner names the stub strategy. -/
def NamesStub (job inner : Job) : Prop :=
  ∃ run ready attr factory choice, job.begin = (.ok run, ready) ∧ attr ∈ run.attributes ∧
    attr.source = .association factory inner.overrides choice ∧
    Strategy.ofProxy choice = .ok .stub

/-- How a job comes to its own id. -/
structure OwnId (job : Job) : Prop where
  /-- It draws one just if it stubs an instance whose proxy is filled and on which neither an
  override nor an attribute sets an id, and then the next one. -/
  drawn : ∀ id, job.drawn? = some id ↔ job.strategy = .stub ∧ ∃ filled,
    job.fill = (.ok filled, filled.site.world) ∧ ¬ filled.Sets job.overrides "id" ∧
    id = filled.site.world.registry.nextStub
  /-- The proxy from which the instance is made holds the id that is drawn. -/
  held : ∀ id filled, job.drawn? = some id → job.fill = (.ok filled, filled.site.world) →
    filled.site.ready.proxy.Holds "id" (.int id) false
  /-- It comes after all ids that are drawn for what is nested in the job. -/
  later : ∀ inner ∈ job.nested, ∀ deeper ∈ inner.course, ∀ lower id,
    deeper.drawn? = some lower → job.drawn? = some id → lower < id
  /-- A nested job stubs only if its owner does, or if its association names the stub strategy. -/
  asked : ∀ inner ∈ job.nested, inner.strategy = .stub →
    job.strategy = .stub ∨ job.NamesStub inner
  /-- Where only values are wanted no job is nested. -/
  alone : job.strategy = .attributesFor → job.nested = []

/-- If no code of the registry runs a factory, the ids that are drawn in a job are those that the
jobs of its course draw for their own instances, in order. -/
theorem seen_drawn
    (silent : ∀ piece ∈ job.world.registry.pieces, piece.body.any Expr.isBuild = false) :
    job.run.2.seen Event.drawn? =
      job.world.seen Event.drawn? ++ job.course.filterMap drawn? := by
  rw [List.filterMap_eq_flatMap_toList]
  refine seen_run Event.drawn?_of_isMark (fun piece => piece.body.any Expr.isBuild = false)
    (fun _ => True) (fun all block member => all _ member) (fun _ _ _ _ => trivial) ?_ trivial silent
  intro job _ silent
  cases fills : job.fill with
  | mk outcome after =>
    cases outcome with
    | error fault =>
      rw [run_of_fill_error fills, drawn?, fills]
      simp [Except.toOption]
    | ok filled =>
      obtain ⟨whole, rfl⟩ := filled_for fills
      rw [run_eq_result fills, drawn?, fills]
      exact (whole.quiet_result (isSilent_of_fill (fun piece member _ => silent piece member)
        fills)).1

/-- If no code of the registry runs a factory, the ids that the jobs of a course draw are the next
ones of the registry, one after the other. -/
theorem exists_idsFrom
    (silent : ∀ piece ∈ job.world.registry.pieces, piece.body.any Expr.isBuild = false) :
    ∃ count, job.course.filterMap drawn? = idsFrom job.world.registry.nextStub count := by
  obtain ⟨count, drawn, _⟩ := World.Numbers.of_steps job.steps_run
  rw [seen_drawn silent] at drawn
  exact ⟨count, List.append_cancel_left drawn⟩

/-- A nested job stubs only if its owner does, or if its association names the stub strategy. -/
theorem stub_or_namesStub (member : inner ∈ job.nested) (stub : inner.strategy = .stub) :
    job.strategy = .stub ∨ job.NamesStub inner := by
  obtain ⟨run, ready, attr, begun, planned, ⟨factory, choice, source, chosen, _⟩, _⟩ :=
    asks_of_mem_nested member
  rw [stub] at chosen
  have named : (Strategy.ofProxy (if choice.truthy then choice else .strategy .create)).toOption =
      some .stub → Strategy.ofProxy choice = .ok .stub := by
    intro given
    split at given
    · exact eq_ok_of_toOption given
    · cases given
  cases strategy : job.strategy with
  | stub => exact .inl rfl
  | attributesFor =>
    rw [strategy] at chosen
    cases chosen
  | build =>
    rw [strategy] at chosen
    exact .inr ⟨run, ready, attr, factory, choice, begun, planned, source, named chosen⟩
  | create =>
    rw [strategy] at chosen
    exact .inr ⟨run, ready, attr, factory, choice, begun, planned, source, named chosen⟩

/-- A job draws an id just if it stubs an instance whose proxy is filled without one. -/
theorem drawn?_eq_some
    (reads : ∀ block, .block block ∈ job.world.registry.pieces → block.sets "id" = false) {id : Int} :
    job.drawn? = some id ↔ job.strategy = .stub ∧ ∃ filled,
      job.fill = (.ok filled, filled.site.world) ∧ ¬ filled.Sets job.overrides "id" ∧
      id = filled.site.world.registry.nextStub := by
  -- where a proxy is filled by a job that stubs, it has an id just if one is set
  have has : ∀ {filled after}, job.fill = (.ok filled, after) → job.strategy = .stub →
      (filled.site.proxy.has "id" ↔ filled.Sets job.overrides "id") := by
    intro filled after fills stub
    obtain ⟨whole, _⟩ := filled_for fills
    obtain ⟨depth, deep, begun, path⟩ := path_of_fill fills
    obtain ⟨_, list, resolves⟩ := Runner.begin_eq_ok begun
    have steps := job.steps_begin
    rw [begun] at steps
    refine whole.has_iff (by simp [strategy_of_for whole.prepared, stub]) resolves.values
      fun attr member => ?_
    unfold Attribute.blockSets
    split
    · rename_i block source
      have its : attr.piece? = some (.block block) := by simp [Attribute.piece?, source]
      exact reads block (World.pieces_of_steps steps (resolves.piece_of_attribute member its))
    · rfl
  have same : ∀ {filled after}, job.fill = (.ok filled, after) →
      filled.site.proxy.strategy = job.strategy := by
    intro filled after fills
    obtain ⟨whole, _⟩ := filled_for fills
    exact whole.strategy.trans (strategy_of_for whole.prepared)
  constructor
  · intro drawn
    obtain ⟨filled, fills, draws⟩ := Option.bind_eq_some_iff.1 drawn
    have ends : job.fill = (.ok filled, job.fill.2) := Prod.ext (eq_ok_of_toOption fills) rfl
    obtain ⟨_, after⟩ := filled_for ends
    rw [after] at ends
    obtain ⟨⟨stub, absent⟩, next⟩ := Option.ite_none_right_eq_some.1 draws
    rw [same ends] at stub
    refine ⟨stub, filled, ends, fun sets => ?_, (Option.some.inj next).symm⟩
    rw [(has ends stub).2 sets] at absent
    cases absent
  · rintro ⟨stub, filled, fills, unset, rfl⟩
    rw [drawn?, fills]
    refine Option.ite_none_right_eq_some.2 ⟨⟨(same fills).trans stub, ?_⟩, rfl⟩
    rw [Bool.eq_false_iff]
    exact fun held => unset ((has fills stub).1 held)

/-- A job comes to its own id as it should if no code of the registry runs a factory and no block
sets an id. -/
theorem ownId (silent : ∀ piece ∈ job.world.registry.pieces, piece.body.any Expr.isBuild = false)
    (reads : ∀ block, .block block ∈ job.world.registry.pieces → block.sets "id" = false) :
    job.OwnId where
  drawn id := drawn?_eq_some reads
  held := by
    intro id filled drawn fills
    rw [drawn?, fills] at drawn
    exact filled.drawn_ready.2 id drawn
  later := by
    intro inner member deeper inside lower id first last
    obtain ⟨count, same⟩ := exists_idsFrom silent
    have ascending := pairwise_idsFrom job.world.registry.nextStub count
    rw [← same, course_eq, List.filterMap_append, List.pairwise_append] at ascending
    refine ascending.2.2 lower (List.mem_filterMap.2 ⟨deeper, ?_, first⟩) id
      (List.mem_filterMap.2 ⟨job, List.mem_singleton_self job, last⟩)
    exact List.mem_flatMap.2 ⟨inner, member, inside⟩
  asked inner member := stub_or_namesStub member
  alone := nested_of_attributesFor

/-- A job draws no ids in which nothing is asked to stub. -/
theorem drawn_of_unasked (other : job.strategy ≠ .stub)
    (unasked : ∀ other ∈ job.course, ∀ inner ∈ other.nested, ¬ other.NamesStub inner) :
    job.course.filterMap drawn? = [] := by
  have plain : ∀ other ∈ job.course, other.strategy ≠ .stub := by
    have each : ∀ other ∈ job.course, other.strategy ≠ .stub ∧
        ∀ deeper ∈ other.course, ∀ inner ∈ deeper.nested, ¬ deeper.NamesStub inner := by
      refine forall_course (fun job held inner member => ⟨fun stub => ?_, fun deeper inside => ?_⟩)
        ⟨other, unasked⟩
      · obtain same | named := stub_or_namesStub member stub
        · exact held.1 same
        · exact held.2 job (mem_course.2 (.inr rfl)) inner member named
      · exact held.2 deeper (mem_course.2 (.inl ⟨inner, member, inside⟩))
    exact fun other member => (each other member).1
  rw [List.filterMap_eq_nil_iff]
  intro other member
  cases fills : other.fill with
  | mk outcome after =>
    cases outcome with
    | error fault =>
      rw [drawn?, fills]
      rfl
    | ok filled =>
      obtain ⟨whole, _⟩ := filled_for fills
      have same := whole.strategy.trans (strategy_of_for whole.prepared)
      rw [drawn?, fills]
      show filled.drawn? = none
      rw [Filled.drawn?, same, if_neg fun stubs => plain other member stubs.1]

end Job

/-- In whatever a session does, the ids that are drawn are consecutive from the first one that the
configuration names. In a job, wherever it starts, if no code runs a factory and no block sets an
id, the next ones are drawn by the jobs of its course in order, whatever comes of them: by those
that stub an instance for which no id is set, each after all that is nested in it, and by none if
nothing is asked to stub. -/
theorem Job.stub_ids {settings : Settings} {registry : Registry}
    (created : Registry.create settings = .ok registry) (models : Table String Model)
    (requests : List Request) :
    (∃ start count, settings.stubIdStart = .ok start ∧
      (World.after { registry := registry, models := models } requests).seen Event.drawn? =
        idsFrom start count ∧
      (World.after { registry := registry, models := models } requests).registry.nextStub =
        start + count) ∧
    ∀ job : Job,
      (∀ piece ∈ job.world.registry.pieces, piece.body.any Expr.isBuild = false) →
      (∀ block, .block block ∈ job.world.registry.pieces → block.sets "id" = false) →
      job.run.2.seen Event.drawn? =
        job.world.seen Event.drawn? ++ job.course.filterMap drawn? ∧
      (∃ count, job.course.filterMap drawn? = idsFrom job.world.registry.nextStub count) ∧
      (job.course.filterMap drawn?).Nodup ∧
      (∀ other ∈ job.course, other.OwnId) ∧
      (job.strategy ≠ .stub →
        (∀ other ∈ job.course, ∀ inner ∈ other.nested, ¬ other.NamesStub inner) →
        job.course.filterMap drawn? = []) := by
  refine ⟨?_, fun job silent reads => ?_⟩
  · obtain ⟨count, drawn, next⟩ :=
      World.numbers_after { registry := registry, models := models } requests
    exact ⟨_, count, Registry.nextStub_create created, drawn, next⟩
  · obtain ⟨count, same⟩ := exists_idsFrom silent
    refine ⟨seen_drawn silent, ⟨count, same⟩, ?_, ?_, drawn_of_unasked⟩
    · rw [same]
      exact (pairwise_idsFrom _ _).imp Int.ne_of_lt
    · have each : ∀ other ∈ job.course,
          (∀ piece ∈ other.world.registry.pieces, piece.body.any Expr.isBuild = false) ∧
          ∀ block, .block block ∈ other.world.registry.pieces → block.sets "id" = false := by
        refine forall_course (fun job held inner member => ⟨?_, fun block inside => ?_⟩)
          ⟨silent, reads⟩
        · exact job.pieces_of_mem_nested held.1 inner member
        · exact held.2 block (World.pieces_of_steps (steps_of_mem_nested member).1 inside)
      exact fun other member => ownId (each other member).1 (each other member).2

/-- A session in which a note comes to have a title that is computed, a writer, and a reader who is
stubbed whatever the note is; one note is stubbed and one is created. -/
def noteRequests : List Request :=
  [.define (.text "person") [] [], .registerModel "Person" "person",
    .define (.text "note") [] [], .registerModel "Note" "note",
    .edit 1 (.declare ⟨"title", false, [], .dynamic (some (.upper (.const (.text "draft"))))⟩),
    .edit 1 (.declare ⟨"writer", false, [], .association "person" [] .null⟩),
    .edit 1 (.declare ⟨"reader", false, [], .association "person" [] (.text "stub")⟩),
    .run 1 (.text "stub") [], .run 1 (.text "create") []]

/-- The models of that session. -/
def noteModels : Table String Model :=
  [("Person", { name := "Person", isOpen := true }), ("Note", { name := "Note", isOpen := true })]

/-- Another note is stubbed after that session, and its reader is given. -/
def noteJob : Job :=
  .standard (World.after { registry := History.blank.registry, models := noteModels } noteRequests)
    1 .stub [(.text "reader", .text "nobody")]

/-- In the session the writer, the reader and the note that are stubbed draw ids, and then the
reader of the note that is created. Of the other note the writer draws one, and then the note
does. -/
theorem Job.stub_ids_note :
    Registry.create ⟨.dict []⟩ = .ok History.blank.registry ∧
    noteJob.world.seen Event.drawn? = [1001, 1002, 1003, 1004] ∧
    (∀ piece ∈ noteJob.world.registry.pieces, piece.body.any Expr.isBuild = false) ∧
    (∀ block, .block block ∈ noteJob.world.registry.pieces → block.sets "id" = false) ∧
    noteJob.course.filterMap drawn? = [1005, 1006] ∧ noteJob.OwnId := by
  have created : Registry.create ⟨.dict []⟩ = .ok History.blank.registry := rfl
  have ids : (noteJob.world.seen Event.drawn?, noteJob.run.2.seen Event.drawn?) =
      ([1001, 1002, 1003, 1004], [1001, 1002, 1003, 1004] ++ [1005, 1006]) := by decide +kernel
  have plain : noteJob.world.registry.pieces.all (fun piece =>
      !piece.body.any Expr.isBuild && !piece.body.sets "id") := by decide +kernel
  have each : ∀ piece ∈ noteJob.world.registry.pieces,
      piece.body.any Expr.isBuild = false ∧ piece.body.sets "id" = false :=
    fun piece member => by simpa using List.all_eq_true.1 plain piece member
  have silent := fun piece member => (each piece member).1
  have reads : ∀ block, .block block ∈ noteJob.world.registry.pieces → block.sets "id" = false :=
    fun block member => (each _ member).2
  obtain ⟨before, after⟩ := Prod.mk.inj ids
  obtain ⟨seen, _, _, own, _⟩ :=
    (Job.stub_ids created noteModels noteRequests).2 noteJob silent reads
  rw [after, before] at seen
  exact ⟨created, before, silent, reads, (List.append_cancel_left seen).symm,
    own noteJob (mem_course.2 (.inr rfl))⟩

end Blueprint
