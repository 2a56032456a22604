import Blueprint.Proofs.Build.Lifecycle
import Blueprint.Proofs.Build.Quiet

/-!
# Stubbing saves nothing

A stubbed instance is given an id, made, and shown to the callbacks of its own moment; its
associations are stubbed as well, whatever they ask for. So no finalizer, no method that saves and
no callback of another moment has a place in the course of a job that stubs.
-/
namespace Blueprint

/-! ### Events of instances -/

/-- An event, if it is about an instance. -/
def Event.told? (event : Event) : Option Event := event.serial?.map fun _ => event

/-- A mark is not about an instance. -/
theorem Event.told?_of_isMark (event : Event) (mark : event.isMark) : event.told? = none := by
  cases event with
  | tick | note | warning | drawn => rfl
  | method | call | made => cases mark

/-- What is told are the events about instances. -/
theorem Event.mem_filterMap_told? {event : Event} {events : List Event} :
    event ∈ events.filterMap told? ↔ event ∈ events ∧ event.serial?.isSome := by
  simp only [List.mem_filterMap, told?, Option.map_eq_some_iff, Option.isSome_iff_exists]
  constructor
  · rintro ⟨other, member, serial, its, rfl⟩
    exact ⟨member, serial, its⟩
  · rintro ⟨member, serial, its⟩
    exact ⟨event, member, serial, its, rfl⟩

/-- What is told of the instance of a job that completes: an event for each deed, in order. -/
def Job.life (job : Job) : List Event :=
  match job.fill with
  | (.ok filled, _) => filled.deeds.flatMap (Deed.events filled)
  | (.error _, _) => []

namespace Job

variable {job : Job} {filled : Filled} {value : Value} {last : World}

/-- The life of a job that completes. -/
theorem Completes.life (completes : job.Completes filled value last) :
    job.life = filled.deeds.flatMap (Deed.events filled) := by
  rw [Job.life, completes.fill]

/-- The deeds of a job that stubs. -/
theorem Completes.deeds_of_stub (completes : job.Completes filled value last)
    (stub : job.strategy = .stub) :
    filled.deeds = .draw :: .construct :: Moment.afterStub.deeds filled.run.proxy.callbacks := by
  rw [Filled.deeds, strategy_of_for (filled_for completes.fill).1.prepared, stub]
  rfl

/-- After the proxy of a job is filled, nothing is told of other instances if what the strategy runs
runs no factory: the job ends with its own life. -/
theorem Completes.seen_life (completes : job.Completes filled value last)
    (silent : ∀ piece ∈ job.world.registry.pieces, job.strategy.runs piece →
      piece.body.any Expr.isBuild = false) :
    last.seen Event.told? = filled.site.world.seen Event.told? ++ job.life := by
  obtain ⟨whole, _⟩ := filled_for completes.fill
  obtain ⟨added, logged, events⟩ := completes.events
  have made : last.made ≤ filled.serial := by
    have quiet := (whole.quiet_result (isSilent_of_fill silent completes.fill)).2
    obtain ⟨_, ends⟩ := Prod.mk.inj ((run_eq_result completes.fill).symm.trans completes.run)
    rwa [ends] at quiet
  -- whatever is logged is about an instance made since, and that is the one of the job
  obtain ⟨others, again, each⟩ : ∃ others, last.log = filled.site.world.log ++ others ∧
      ∀ event ∈ others, ∀ serial, event.serial? = some serial →
        filled.site.world.made < serial ∧ serial ≤ last.made := by
    have onward := whole.onward_finish (Runner.onward_within _)
    rw [← run_of_fill_ok completes.fill, completes.run] at onward
    exact onward.log
  obtain rfl : others = added := List.append_cancel_left (again.symm.trans logged)
  have same : others.filterMap Event.told? = others.filter (Event.isAbout filled.serial) := by
    rw [← List.filterMap_eq_filter]
    refine List.filterMap_congr fun event member => ?_
    cases its : event.serial? with
    | none => simp [Event.told?, Event.isAbout, its, Option.guard]
    | some serial =>
      obtain ⟨low, high⟩ := each event member serial its
      have here : serial = filled.serial :=
        Nat.le_antisymm (Nat.le_trans high made) (Nat.succ_le_of_lt low)
      simp [Event.told?, Event.isAbout, its, here, Option.guard]
  rw [completes.life, ← events, ← same, World.seen, logged, List.filterMap_append]
  rfl

end Job

/-! ### Instances that are not saved -/

/-- The mark by which the instance at hand is known to be saved. -/
def Site.saved? (site : Site) : Option Bool := site.subject.map Instance.persisted

/-- No expression marks an instance as saved. -/
theorem Runner.keeping_saved (runner : Runner) :
    Keeping runner (Function.onFun Eq Site.saved?) fun _ => True where
  ticked _ := fun _ => rfl
  noted _ _ := fun _ => rfl
  counted _ := fun _ => rfl
  altered _ _ _ := fun _ => rfl
  ran _ _ _ := fun _ => rfl
  ranNamed _ _ _ := fun _ => rfl
  set _ _ _ _ := fun _ => rfl
  fieldSet name value := by
    intro site
    show site.saved? = Site.saved? _
    unfold Act.onSubject Site.saved?
    rw [ExceptT.run_mk]
    cases here : site.subject with
    | none => simp [here]
    | some subject => rfl

/-- No callback marks an instance as saved. -/
theorem Callback.saved_run (runner : Runner) (callback : Callback) :
    Keeps (Function.onFun Eq Site.saved?) (callback.run runner) := by
  unfold Callback.run
  cases callback.handler with
  | none => exact fun _ => rfl
  | some handler =>
    exact (Act.keeps_askSubject _).bind fun _ => Keeps.bind (fun _ => rfl) fun _ =>
      (Expr.keeps_eval runner.keeping_saved _ handler.body fun _ _ => trivial).bind
        fun _ => .pure _

/-- A new instance is not saved. -/
theorem Proxy.saved_instantiate {site after : Site} (did : instantiate.run site = (.ok (), after)) :
    after.saved? = some false := by
  obtain ⟨_, failed⟩ | ⟨name, model, made, _, _, _, _, unsaved, done⟩ := run_instantiate site
  · cases failed.symm.trans did
  · cases done.symm.trans did
    exact congrArg some unsaved

/-- The result of a job that stubs is not saved. -/
theorem Job.Completes.unsaved {job : Job} {filled : Filled} {value : Value} {last : World}
    (completes : job.Completes filled value last) (stub : job.strategy = .stub) :
    ∃ model fields, value = .object model filled.serial false fields := by
  obtain ⟨whole, _⟩ := filled_for completes.fill
  have strategy : filled.site.proxy.strategy = .stub :=
    whole.strategy.trans ((strategy_of_for whole.prepared).trans stub)
  obtain ⟨model, persisted, fields, same⟩ := completes.result
  have ran := (run_eq_result completes.fill).symm.trans completes.run
  cases did : (Proxy.result job.runner filled.run.finalizer).run filled.site with
  | mk outcome site =>
    rw [did] at ran
    cases ran
    rw [Proxy.run_result (by simp [strategy]), strategy] at did
    obtain ⟨_, made, instantiated, presented⟩ := run_bind_eq_ok.1 did
    obtain ⟨_, shown, called, asked⟩ := run_bind_eq_ok.1 presented
    have kept : Keeps (Function.onFun Eq Site.saved?)
        (Proxy.runCallbacks job.runner .afterStub) := by
      refine (Act.keeps_ask _).bind fun callbacks => ?_
      induction callbacks with
      | nil => exact .pure ()
      | cons callback rest ih => exact (callback.saved_run job.runner).bind fun _ => ih
    have still := kept made
    rw [called] at still
    have unsaved := still.symm.trans (Proxy.saved_instantiate instantiated)
    obtain ⟨subject, here, its⟩ := Option.map_eq_some_iff.1 unsaved
    have gave : (Act.askSubject Instance.value).run shown = (.ok subject.value, shown) := by
      rw [Act.askSubject, Act.ask, ExceptT.run_mk, here]
    cases gave.symm.trans asked
    rw [Instance.value] at same
    injection same with _ serial _ _
    exact ⟨subject.model, subject.fields, by rw [Instance.value, serial, its]⟩

/-! ### Jobs that stub -/

namespace Job

variable {job : Job}

/-- All that belongs to a job that stubs stubs. -/
theorem stub_of_mem_course (stub : job.strategy = .stub) :
    ∀ other ∈ job.course, other.strategy = .stub :=
  forall_course (fun job stub inner member => by
    obtain ⟨_, _, _, _, _, asks, _⟩ := asks_of_mem_nested member
    rw [stub] at asks
    exact asks.stub) stub

/-- When a job stubs and comes to its end, what is told of instances are the lives of the jobs of
its course, one after the other, if what it runs runs no factory. -/
theorem seen_course_of_stub (stub : job.strategy = .stub)
    (silent : ∀ piece ∈ job.world.registry.pieces, Strategy.stub.runs piece →
      piece.body.any Expr.isBuild = false)
    (did : ∃ value, job.run.1 = .ok value) :
    job.run.2.seen Event.told? = job.world.seen Event.told? ++ job.course.flatMap life := by
  refine seen_run Event.told?_of_isMark
    (fun piece => Strategy.stub.runs piece → piece.body.any Expr.isBuild = false)
    (fun job => job.strategy = .stub ∧ ∃ value, job.run.1 = .ok value)
    (fun all block member => all _ member rfl) ?_ ?_ ⟨stub, did⟩ silent
  · rintro job ⟨stub, did⟩ inner member
    have inside : inner ∈ job.course :=
      mem_course.2 (.inl ⟨inner, member, mem_course.2 (.inr rfl)⟩)
    exact ⟨stub_of_mem_course stub inner inside, run_of_mem_course did inner inside⟩
  · rintro job ⟨stub, value, did⟩ silent
    obtain ⟨filled, completes⟩ := completes (by simp [stub]) (Prod.ext did rfl)
    rw [completes.fill]
    exact completes.seen_life (by rwa [stub])

/-- When a job stubs and comes to its end, so do all jobs of its course, and each of them stubs: its
instance is given an id, made, and shown to the callbacks of its own moment, and is not saved. What
is told of instances are these deeds only: no finalizer and no method is called that saves, and no
callback of another moment. -/
theorem stub_saves_nothing (job : Job) (stub : job.strategy = .stub)
    (silent : ∀ piece ∈ job.world.registry.pieces, Strategy.stub.runs piece →
      piece.body.any Expr.isBuild = false)
    (value : Value) (last : World) (did : job.run = (.ok value, last)) :
    (∀ other ∈ job.course, other.strategy = .stub ∧ ∃ filled model fields,
      other.Completes filled (.object model filled.serial false fields) other.run.2 ∧
      filled.deeds = .draw :: .construct :: Moment.afterStub.deeds filled.run.proxy.callbacks) ∧
    ∃ added, last.log = job.world.log ++ added ∧
      added.filterMap Event.told? = job.course.flatMap life ∧
      ∀ event ∈ added, match event with
        | .method _ _ _ => False
        | .call label arguments serial => ∃ other ∈ job.course, ∃ filled callback handler,
            other.fill = (.ok filled, filled.site.world) ∧
            callback ∈ filled.run.proxy.callbacks ∧ callback.moment = .afterStub ∧
            callback.handler = some handler ∧ label = handler.label ∧
            arguments = callback.argumentCount ∧ serial = filled.serial
        | _ => True := by
  have each : ∀ other ∈ job.course, other.strategy = .stub ∧ ∃ filled model fields,
      other.Completes filled (.object model filled.serial false fields) other.run.2 ∧
      filled.deeds = .draw :: .construct :: Moment.afterStub.deeds filled.run.proxy.callbacks := by
    intro other member
    have its := stub_of_mem_course stub other member
    obtain ⟨made, ran⟩ := run_of_mem_course ⟨value, congrArg Prod.fst did⟩ other member
    obtain ⟨filled, completes⟩ := completes (by simp [its]) (Prod.ext ran rfl)
    obtain ⟨model, fields, rfl⟩ := completes.unsaved its
    exact ⟨its, filled, model, fields, completes, completes.deeds_of_stub its⟩
  obtain ⟨added, logged, _⟩ := job.onward_run.log
  have seen := seen_course_of_stub stub silent ⟨value, congrArg Prod.fst did⟩
  rw [World.seen, logged, List.filterMap_append] at seen
  have lives := List.append_cancel_left seen
  refine ⟨each, added, by rw [← logged, did], lives, fun event member => ?_⟩
  -- an event about an instance is in the life of a job, and so tells of one of its deeds
  have told : ∀ {serial}, event.serial? = some serial → ∃ other ∈ job.course, ∃ filled,
      other.fill = (.ok filled, filled.site.world) ∧ (event ∈ Deed.construct.events filled ∨
        ∃ callback ∈ filled.run.proxy.callbacks, callback.moment = .afterStub ∧
          event ∈ (Deed.call callback).events filled) := by
    intro serial its
    have inside := Event.mem_filterMap_told?.2 ⟨member, Option.isSome_of_eq_some its⟩
    rw [lives] at inside
    obtain ⟨other, belongs, lived⟩ := List.mem_flatMap.1 inside
    obtain ⟨_, filled, _, _, completes, deeds⟩ := each other belongs
    rw [completes.life, deeds] at lived
    obtain ⟨deed, done, tells⟩ := List.mem_flatMap.1 lived
    refine ⟨other, belongs, filled, completes.fill, ?_⟩
    obtain rfl | done := List.mem_cons.1 done
    · cases tells
    obtain rfl | done := List.mem_cons.1 done
    · exact .inl tells
    · obtain ⟨callback, there, rfl⟩ := List.mem_map.1 done
      obtain ⟨heard, moment⟩ := List.mem_filter.1 there
      exact .inr ⟨callback, heard, by simpa using moment, tells⟩
  cases event with
  | warning | tick | note | made | drawn => trivial
  | method name model serial =>
    obtain ⟨_, _, filled, _, made | ⟨callback, _, _, called⟩⟩ := told rfl
    · simp [Deed.events] at made
    · simp [Deed.events] at called
  | call label arguments serial =>
    obtain ⟨other, belongs, filled, fill, made | ⟨callback, heard, moment, called⟩⟩ := told rfl
    · simp [Deed.events] at made
    · obtain ⟨handler, its, same⟩ := List.mem_map.1 called
      cases same
      exact ⟨other, belongs, filled, callback, handler, fill, heard, moment, by simpa using its,
        rfl, rfl, rfl⟩

/-- A post is stubbed that has a finalizer and callbacks of other moments, and whose author would be
created. -/
def stubJob : Job := { postJob with strategy := .stub }

/-- When the post is stubbed, its author is given an id and made, and then the post is and is shown
to the callback of its moment; nothing else is told of them. -/
theorem stub_saves_nothing_post : ∃ value last, stubJob.run = (.ok value, last) ∧
    stubJob.strategy = .stub ∧
    (∀ piece ∈ stubJob.world.registry.pieces, Strategy.stub.runs piece →
      piece.body.any Expr.isBuild = false) ∧
    (∀ other ∈ stubJob.course, other.strategy = .stub) ∧
    (last.log.map fun
      | .made model serial _ => (model, serial)
      | .call label _ serial => (label, serial)
      | .drawn id => ("an id", id.toNat)
      | _ => ("", 0)) =
      [("an id", 1001), ("Author", 1), ("an id", 1002), ("Post", 2), ("stubbed", 2)] := by
  have seen : (stubJob.run.1.isOk, stubJob.run.2.log.map fun
      | .made model serial _ => (model, serial)
      | .call label _ serial => (label, serial)
      | .drawn id => ("an id", id.toNat)
      | _ => ("", 0)) =
      (true, [("an id", 1001), ("Author", 1), ("an id", 1002), ("Post", 2), ("stubbed", 2)]) := by
    decide +kernel
  have silent : stubJob.world.registry.pieces.all (fun piece => !piece.body.any Expr.isBuild) := by
    decide +kernel
  have still : ∀ piece ∈ stubJob.world.registry.pieces, Strategy.stub.runs piece →
      piece.body.any Expr.isBuild = false :=
    fun piece member _ => by simpa using List.all_eq_true.1 silent piece member
  obtain ⟨done, logged⟩ := Prod.mk.inj seen
  cases ran : stubJob.run with
  | mk outcome last =>
    rw [ran] at done logged
    cases outcome with
    | error fault => cases done
    | ok value =>
      obtain ⟨each, _⟩ := stub_saves_nothing stubJob rfl still value last ran
      exact ⟨value, last, rfl, rfl, still, fun other member => (each other member).1, logged⟩

end Job

end Blueprint
