import Blueprint.Proofs.Build.Life

/-!
# Lifecycles

A job that makes an instance does what its strategy asks for, step by step. Before, all that its
associations ask for is done for good; afterwards, if nothing fails, the log tells of each step once
and in order. What fails ends the job, and all that it is nested in.
-/
namespace Blueprint

namespace Job

variable {job inner : Job}

/-- A job moves the world onward. -/
theorem onward_run (job : Job) : job.world.Onward job.run.2 :=
  Runner.onward_within job.depth job.id _ job.overrides job.world

/-- While the proxy of a job is filled the world moves onward: from where it starts to each job that
is nested in it, from that one to the later ones, and to where the proxy is filled. -/
theorem onward_fill (job : Job) :
    job.world.Onward job.fill.2 ∧
      (∀ inner ∈ job.nested, job.world.Onward inner.world ∧ inner.run.2.Onward job.fill.2) ∧
      job.nested.Pairwise fun inner other => inner.run.2.Onward other.world := by
  cases job.begins with
  | refused alone failed same steps =>
    rw [alone, failed]
    exact ⟨same.onward steps, by simp, .nil⟩
  | @started depth run start last outcome deep begun proxy path fills =>
    have first := job.sameRest_begin.onward job.steps_begin
    rw [begun] at first
    obtain ⟨all, each, apart⟩ := path.related onward_run fun action site =>
      (Plan.keeps_perform (Runner.onward_within depth).keeping action (fun _ _ => trivial)
        site).world
    rw [fills]
    exact ⟨first.trans all, fun inner member =>
      ⟨first.trans (each inner member).1, (each inner member).2⟩, apart⟩

/-- A nested job that fails ends its owner where it ends itself. -/
theorem run_of_nested_error (member : inner ∈ job.nested) {fault : Fault} {after : World}
    (failed : inner.run = (.error fault, after)) : job.run = (.error fault, after) := by
  cases job.begins with
  | refused alone =>
    rw [alone] at member
    cases member
  | @started depth run start last outcome deep begun proxy path fills =>
    obtain ⟨rfl, rfl⟩ := path.eq_of_error member failed
    exact run_of_fill_error fills

/-- If a job comes to a value, so does every job of its course. -/
theorem run_of_mem_course (did : ∃ value, job.run.1 = .ok value) :
    ∀ other ∈ job.course, ∃ value, other.run.1 = .ok value := by
  refine forall_course (fun job did inner member => ?_) did
  obtain ⟨value, made⟩ := did
  cases ran : inner.run with
  | mk outcome after =>
    cases outcome with
    | ok other => exact ⟨other, rfl⟩
    | error fault =>
      rw [run_of_nested_error member ran] at made
      cases made

/-! ### What becomes of a job -/

/-- A job has made an instance by all the deeds that its strategy asks for. -/
structure Completes (job : Job) (filled : Filled) (value : Value) (last : World) : Prop where
  /-- It has come to its end. -/
  run : job.run = (.ok value, last)
  /-- Its proxy was filled first. -/
  fill : job.fill = (.ok filled, filled.site.world)
  /-- Its attributes and callbacks are those to which the factory resolves, and the finalizer is the
  factory's own. -/
  resolves : ∃ list, filled.run.Resolves filled.start.world.registry job.id list
  /-- The associations that are not overridden have asked for the jobs nested in it, in order, and
  each of these has come to a value. -/
  built : List.Forall₂ (fun attr inner =>
    attr.Asks job.strategy inner ∧ ∃ value, inner.run.1 = .ok value)
    filled.run.associations job.nested
  /-- The nested jobs are done one after the other, and all of them before the proxy is filled: all
  that is logged later is about instances that are made later. -/
  before : (∀ inner ∈ job.nested, job.world.Onward inner.world ∧
      inner.run.2.Onward filled.site.world) ∧
    job.nested.Pairwise fun inner other => inner.run.2.Onward other.world
  /-- Up to there nothing is logged about the instance, since it is made only then. -/
  fresh : job.world.Onward filled.site.world
  /-- From there on, what is logged about the instance are the events of the deeds, in order. -/
  events : ∃ added, last.log = filled.site.world.log ++ added ∧
    added.filter (Event.isAbout filled.serial) = filled.deeds.flatMap (Deed.events filled)
  /-- Each deed is one event, but for drawing an id. -/
  single : ∀ deed ∈ filled.deeds, deed ≠ .draw → ∃ event, deed.events filled = [event]
  /-- The result is the instance. -/
  result : ∃ model persisted fields, value = .object model filled.serial persisted fields

/-- A job that makes an instance has failed on the way. -/
inductive Breaks (job : Job) (fault : Fault) (last : World) : Prop where
  /-- Its proxy could not be filled, so that its instance is never made. -/
  | unfilled (failed : job.fill = (.error fault, last)) (fresh : job.world.Onward last)
  /-- One of its deeds failed: the events tell of those before it, and of that one at most that it
  was begun. -/
  | undone {filled : Filled} {added : List Event}
      (fill : job.fill = (.ok filled, filled.site.world)) (fresh : job.world.Onward filled.site.world)
      (logged : last.log = filled.site.world.log ++ added)
      (told : filled.Told filled.deeds (.error fault) (added.filter (Event.isAbout filled.serial)))

/-- What is told where the proxy of a job is filled. -/
theorem told_of_fill (makes : job.strategy ≠ .attributesFor) {filled : Filled} {after : World}
    (fills : job.fill = (.ok filled, after)) {outcome : Except Fault Value} {last : World}
    (did : job.run = (outcome, last)) :
    (∃ added, last.log = filled.site.world.log ++ added ∧
      filled.Told filled.deeds (outcome.map fun _ => ())
        (added.filter (Event.isAbout filled.serial))) ∧
    ∀ value, outcome = .ok value → ∃ model persisted fields,
      value = .object model filled.serial persisted fields := by
  obtain ⟨whole, _⟩ := filled_for fills
  obtain ⟨rfl, rfl⟩ := Prod.mk.inj ((run_eq_result fills).symm.trans did)
  have builds : filled.run.proxy.strategy ≠ .attributesFor := by
    rwa [strategy_of_for whole.prepared]
  exact (whole.told_result (Runner.onward_within _) builds rfl).2

/-- A job that makes an instance and comes to its end completes. -/
theorem completes (makes : job.strategy ≠ .attributesFor) {value : Value} {last : World}
    (did : job.run = (.ok value, last)) : ∃ filled, job.Completes filled value last := by
  cases fills : job.fill with
  | mk outcome after =>
    cases outcome with
    | error fault =>
      rw [run_of_fill_error fills] at did
      cases did
    | ok filled =>
      obtain ⟨_, rfl⟩ := filled_for fills
      obtain ⟨_, _, begun, _⟩ := path_of_fill fills
      obtain ⟨fresh, before⟩ := job.onward_fill
      rw [fills] at fresh before
      obtain ⟨⟨added, logged, told⟩, result⟩ := told_of_fill makes fills did
      obtain ⟨events, single⟩ : added.filter (Event.isAbout filled.serial) =
          filled.deeds.flatMap (Deed.events filled) ∧
          ∀ deed ∈ filled.deeds, deed ≠ .draw → ∃ event, deed.events filled = [event] := by
        generalize added.filter (Event.isAbout filled.serial) = events at told
        cases told with
        | all single => exact ⟨rfl, single⟩
      exact ⟨filled, did, fills, (Runner.begin_eq_ok begun).2, forall₂_nested fills makes, before,
        fresh, ⟨added, logged, events⟩, single, result value rfl⟩

/-- A job that makes an instance and fails breaks on the way. -/
theorem breaks (makes : job.strategy ≠ .attributesFor) {fault : Fault} {last : World}
    (did : job.run = (.error fault, last)) : job.Breaks fault last := by
  have fresh := job.onward_fill.1
  cases fills : job.fill with
  | mk outcome after =>
    rw [fills] at fresh
    cases outcome with
    | error other =>
      rw [run_of_fill_error fills] at did
      cases did
      exact .unfilled fills fresh
    | ok filled =>
      obtain ⟨_, rfl⟩ := filled_for fills
      obtain ⟨⟨added, logged, told⟩, _⟩ := told_of_fill makes fills did
      exact .undone fills fresh logged told

/-- When a job comes to its end, it and every job of its course that makes an instance complete: the
instance is made from the values that are not ignored, the callbacks are run and the instance is
saved as the strategy asks, each once and in order, after all that is nested in the job is done.
When a job that makes an instance fails, it breaks after some of this; and a nested job that fails
ends its owner where it ends itself. -/
theorem lifecycle (job : Job) :
    (∀ value last, job.run = (.ok value, last) →
      ∀ other ∈ job.course, other.strategy ≠ .attributesFor →
        ∃ filled value, other.Completes filled value other.run.2) ∧
    (∀ fault last, job.run = (.error fault, last) → job.strategy ≠ .attributesFor →
      job.Breaks fault last) ∧
    ∀ inner ∈ job.nested, ∀ fault after, inner.run = (.error fault, after) →
      job.run = (.error fault, after) := by
  refine ⟨fun value last did other member makes => ?_, fun fault last did makes => breaks makes did,
    fun inner member fault after failed => run_of_nested_error member failed⟩
  obtain ⟨made, ran⟩ := run_of_mem_course ⟨value, congrArg Prod.fst did⟩ other member
  obtain ⟨filled, completes⟩ := completes makes (Prod.ext ran rfl)
  exact ⟨filled, made, completes⟩

/-- A registry with a post that has a title and an author, says when it is built, created
and stubbed, and is saved by an archive. -/
def postHistory : History :=
  let author := (History.blank.define (.text "author") []).registerModel "Author" "author"
  let post := (author.define (.text "post") []).registerModel "Post" "post"
  let titled := post.edit 1 (.declare ⟨"title", false, [], .static (.text "News")⟩)
  let owned := titled.edit 1 (.declare ⟨"author", false, [], .association "author" [] .null⟩)
  let built := owned.edit 1 (.addCallback (.text "after_build") (some ⟨"built", none, .const .null⟩))
  let created :=
    built.edit 1 (.addCallback (.text "after_create") (some ⟨"created", none, .const .null⟩))
  let stubbed :=
    created.edit 1 (.addCallback (.text "after_stub") (some ⟨"stubbed", none, .const .null⟩))
  stubbed.edit 1 (.setFinalizer (some ⟨"archive", none, .const .null⟩))

/-- A post is created. -/
def postJob : Job :=
  .standard
    { registry := postHistory.registry
      models := [("Author", { name := "Author", isOpen := true }),
        ("Post", { name := "Post", isOpen := true })] }
    1 .create []

/-- When a post is created, its author is made and saved first; then the post is made, is said to be
built, is archived, and is said to be created. -/
theorem lifecycle_post : ∃ filled value last, postJob.run = (.ok value, last) ∧
    postJob.strategy ≠ .attributesFor ∧ postJob.Completes filled value last ∧
    last.log.map Event.serial? = [some 1, some 1, some 2, some 2, some 2, some 2] ∧
    (last.log.filterMap fun
      | .call label _ _ => some label
      | _ => none) = ["built", "archive", "created"] := by
  have seen : (postJob.run.1.isOk, postJob.run.2.log.map Event.serial?,
      postJob.run.2.log.filterMap fun
        | .call label _ _ => some label
        | _ => none) = (true, [some 1, some 1, some 2, some 2, some 2, some 2],
          ["built", "archive", "created"]) := by decide +kernel
  obtain ⟨done, rest⟩ := Prod.mk.inj seen
  obtain ⟨serials, labels⟩ := Prod.mk.inj rest
  cases ran : postJob.run with
  | mk outcome last =>
    rw [ran] at done serials labels
    cases outcome with
    | error fault => cases done
    | ok value =>
      have belongs : postJob ∈ postJob.course := mem_course.2 (.inr rfl)
      obtain ⟨filled, made, completes⟩ :=
        (lifecycle postJob).1 value last ran postJob belongs (by decide)
      have same := completes.run
      rw [ran] at same completes
      cases same
      exact ⟨filled, value, last, rfl, by decide, completes, serials, labels⟩

end Job

end Blueprint
