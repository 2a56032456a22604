import Blueprint.Proofs.Build.Ends
import Blueprint.Proofs.Build.Lifecycle
import Blueprint.Proofs.Registry.Associates
import Blueprint.Proofs.Registry.Tables

/-!
# How deep runs are nested

Runs are nested through associations, if no code runs factories. A run with room for all runs nested
in it comes to an end, and room for more makes no difference. Each nested run is of a factory of a
lesser rank, where associations make no cycles: so there is room enough for as many runs as there
are registered factories. A run for values alone needs no other one in any case.
-/
namespace Blueprint

open Relation

/-- No code in a registry runs a factory. -/
def Registry.IsSilent (registry : Registry) : Prop :=
  ∀ piece ∈ registry.pieces, piece.body.any Expr.isBuild = false

/-- Where no code runs a factory no block does. -/
theorem Registry.IsSilent.blocks {registry : Registry} (silent : registry.IsSilent) :
    registry.SilentBlocks := fun _ inside => silent _ inside

namespace Job

variable {job inner other : Job} {history : History} {more : Nat}

/-- The job with room for more runs. -/
def deepen (more : Nat) (job : Job) : Job := { job with depth := job.depth + more }

/-- There is room for a job if all that is nested in it, however deep, may be run, and so may the
job itself. -/
def HasRoom (job : Job) : Prop := ∀ other ∈ job.course, 0 < other.depth

/-- A job for which there is room may be run. -/
theorem HasRoom.own (room : job.HasRoom) : 0 < job.depth := room job (mem_course.2 (.inr rfl))

/-- If there is room for a job there is room for those nested in it. -/
theorem HasRoom.nested (room : job.HasRoom) (member : inner ∈ job.nested) : inner.HasRoom :=
  fun other inside => room other (mem_course.2 (.inl ⟨inner, member, inside⟩))

/-- The code is silent wherever a nested job starts. -/
theorem isSilent_of_mem_nested (silent : job.world.registry.IsSilent) :
    ∀ inner ∈ job.nested, inner.world.registry.IsSilent :=
  job.pieces_of_mem_nested silent

end Job

/-! ### Room for more -/

/-- With room for more the same step asks for the same job with room for more. -/
theorem Plan.job?_deepen {depth more : Nat} {site : Site} {action : Action} :
    job? (depth + more) site action = (job? depth site action).map (Job.deepen more) := by
  cases action with
  | assign => rfl
  | evaluate attr =>
    rw [job?, job?, Attribute.job?, Attribute.job?]
    cases attr.source with
    | static | dynamic => rfl
    | association factory overrides choice =>
      simp only
      cases site.proxy.strategy.forAssociation choice with
      | none => rfl
      | some strategy => cases (site.world.registry.findText factory).toOption <;> rfl

namespace Plan.Path

variable {depth more : Nat} {site last : Site} {actions : List Action} {jobs : List Job}
  {outcome : Except Fault Unit}

/-- With room for more the steps of a plan come to the same if the jobs that they ask for do. -/
theorem run_deepen (path : Path depth site actions jobs outcome last)
    (silent : ∀ action ∈ actions, IsSilent action)
    (same : ∀ job ∈ jobs, (job.deepen more).run = job.run) :
    (performAll (Runner.within (depth + more)) actions).run site = (outcome, last) := by
  have asked : ∀ {site : Site} {action : Action} {job : Job}, job? depth site action = some job →
      job? (depth + more) site action = some (job.deepen more) := by
    intro site action job asks
    rw [job?_deepen, asks]
    rfl
  have passes : ∀ {site : Site} {action : Action}, job? depth site action = none →
      IsSilent action → (perform (Runner.within (depth + more)) action).run site =
        (perform (Runner.within depth) action).run site :=
    fun asks alone => (perform_of_no_job asks alone (Runner.within depth) _).2.symm
  induction path with
  | done => rfl
  | @built site last attr rest job jobs value world outcome asks ran onward ih =>
    obtain ⟨_, its, _, _, performs⟩ :=
      run_perform_of_job (asked (show job? depth site (.evaluate attr) = some job from asks))
    cases its
    rw [performAll, run_bind, performs, same job List.mem_cons_self, ran]
    exact ih (fun action member => silent action (List.mem_cons_of_mem _ member))
      fun other member => same other (List.mem_cons_of_mem _ member)
  | @broken site attr rest job fault world asks failed =>
    obtain ⟨_, its, _, _, performs⟩ :=
      run_perform_of_job (asked (show job? depth site (.evaluate attr) = some job from asks))
    cases its
    rw [performAll, run_bind, performs, same job List.mem_cons_self, failed]
  | passed asks did onward ih =>
    rw [performAll, run_bind, passes asks (silent _ List.mem_cons_self), did]
    exact ih (fun action member => silent action (List.mem_cons_of_mem _ member)) same
  | stopped asks failed =>
    rw [performAll, run_bind, passes asks (silent _ List.mem_cons_self), failed]

/-- Carrying out a plan comes to an end if the jobs do that it asks for. -/
theorem ends (path : Path depth site actions jobs outcome last)
    (silent : ∀ action ∈ actions, IsSilent action) (each : ∀ job ∈ jobs, Ends job.run.1) :
    Ends outcome := by
  induction path with
  | done => exact .ok ()
  | built _ _ _ ih =>
    exact ih (fun action member => silent action (List.mem_cons_of_mem _ member))
      fun other member => each other (List.mem_cons_of_mem _ member)
  | broken _ failed =>
    have own := each _ List.mem_cons_self
    rw [failed] at own
    exact .error (own.ne rfl)
  | passed _ _ _ ih =>
    exact ih (fun action member => silent action (List.mem_cons_of_mem _ member)) each
  | stopped asks failed =>
    have own := (perform_of_no_job asks (silent _ List.mem_cons_self) (Runner.within depth)
      (Runner.within depth)).1
    rwa [failed] at own

end Plan.Path

namespace Job

variable {job inner other : Job} {history : History} {more : Nat}

/-- With room for more a job fills its proxy in the same way if those nested in it come to the
same. -/
theorem fill_deepen (silent : job.world.registry.IsSilent) (deep : 0 < job.depth)
    (same : ∀ inner ∈ job.nested, (inner.deepen more).run = inner.run) :
    (job.deepen more).fill = job.fill := by
  obtain ⟨depth, its⟩ := Nat.exists_eq_succ_of_ne_zero (Nat.ne_of_gt deep)
  have further : (job.deepen more).depth = depth + more + 1 := by
    show job.depth + more = _
    omega
  rw [fill_of_succ further, show (job.deepen more).begin = job.begin from rfl]
  cases job.begins with
  | refused _ failed _ _ cause =>
    obtain never | begun := cause
    · omega
    · rw [begun, failed]
  | @started _ run start last outcome same_ begun proxy path fills fresh =>
    obtain rfl := Nat.succ.inj (same_.symm.trans its)
    have did := path.run_deepen (isSilent_of_begin silent.blocks begun) same
    have start_ : start = { world := start.world, proxy := run.proxy } := by
      cases start
      cases proxy
      cases fresh
      rfl
    rw [begun, fills]
    exact Prepared.run_fill start_ did

/-- With room for more a job comes to the same. -/
theorem run_deepen (silent : job.world.registry.IsSilent) (room : job.HasRoom) (more : Nat) :
    (job.deepen more).run = job.run := by
  induction job using induct with
  | step job ih =>
    have filled := fill_deepen silent room.own fun inner member =>
      ih inner member (isSilent_of_mem_nested silent inner member) (room.nested member)
    cases fills : job.fill with
    | mk outcome after =>
      rw [fills] at filled
      cases outcome with
      | error fault => rw [run_of_fill_error fills, run_of_fill_error filled]
      | ok filled_ =>
        have quiet := isSilent_of_fill (fun piece inside _ => silent piece inside) fills
        rw [run_eq_result fills, run_eq_result filled,
          ((filled_for fills).1.finishes quiet job.runner (job.deepen more).runner).2]

/-- A job comes to an end if there is room for it. -/
theorem ends_run (reached : (history.withRegistry job.world.registry).Reached)
    (silent : job.world.registry.IsSilent) (room : job.HasRoom) : Ends job.run.1 := by
  induction job using induct with
  | step job ih =>
    have each : ∀ inner ∈ job.nested, Ends inner.run.1 := by
      intro inner member
      have steps := History.operations_of_steps (steps_of_mem_nested member).1
        history.made history.permitted
      exact ih inner member (reached.trans steps) (isSilent_of_mem_nested silent inner member)
        (room.nested member)
    obtain ⟨begins, sound⟩ :=
      Runner.ends_begin reached job.id (.proxy job.strategy) job.overrides
    have filling : Ends job.fill.1 := by
      cases job.begins with
      | refused _ failed _ _ cause =>
        rw [failed]
        obtain never | begun := cause
        · exact absurd room.own (by omega)
        · rw [show (Runner.begin _ _ _).run _ = _ from begun] at begins
          exact .error (begins.ne rfl)
      | @started depth run start last outcome _ begun _ path fills _ =>
        rw [fills]
        refine (path.ends (isSilent_of_begin silent.blocks begun) each).bind fun _ _ => ?_
        cases whole : run.plan.fault with
        | none => exact .ok _
        | some fault =>
          refine .error fun same => sound run start.world begun ?_
          rw [whole, same]
    cases fills : job.fill with
    | mk outcome after =>
      rw [fills] at filling
      cases outcome with
      | error fault =>
        rw [run_of_fill_error fills]
        exact .error (filling.ne rfl)
      | ok filled =>
        have quiet := isSilent_of_fill (fun piece inside _ => silent piece inside) fills
        rw [run_eq_result fills]
        exact ((filled_for fills).1.finishes quiet job.runner job.runner).1

/-! ### Jobs in a sealed registry -/

/-- A job starts in a registry that has come of that of a history. -/
def Follows (history : History) (job : Job) : Prop :=
  History.Operations history (history.withRegistry job.world.registry)

/-- A job that starts in the registry of a history starts in one that has come of it. -/
theorem follows_of_registry_eq {world : World} (same : world.registry = history.registry)
    (depth : Nat) (id : FactoryId) (strategy : Strategy) (overrides : Dict) :
    (⟨depth, id, strategy, overrides, world⟩ : Job).Follows history := by
  show History.Operations history (history.withRegistry world.registry)
  rw [same]
  exact .refl

/-- What is nested in a job starts in a registry that has come of the same one. -/
theorem Follows.nested (follows : job.Follows history) (member : inner ∈ job.nested) :
    inner.Follows history :=
  follows.trans (History.operations_of_steps (steps_of_mem_nested member).1 history.made
    history.permitted)

section Sealed

variable (reached : history.Reached) (isSealed : history.registry.isSealed = true)
include reached isSealed

/-- What is found in a registry that has come of a sealed one is found in that one. -/
theorem findText_of_follows (follows : job.Follows history) (name : String) :
    job.world.registry.findText name = history.registry.findText name :=
  Registry.findText_congr
    (Registry.sameRegistered_of_sealed reached isSealed follows).names name

/-- A nested job is one of a registered factory. -/
theorem registered_of_mem_nested (follows : job.Follows history) (member : inner ∈ job.nested) :
    inner.id ∈ history.registry.registered := by
  obtain ⟨_, _, _, _, _, ⟨name, _, _, _, found⟩, _⟩ := asks_of_mem_nested member
  rw [findText_of_follows reached isSealed (follows.nested member)] at found
  exact Registry.mem_registered_of_findText found

/-- The registered factory of a job is associated with that of each job that is nested in it. -/
theorem associates_of_mem_nested (follows : job.Follows history)
    (registered : job.id ∈ history.registry.registered) (member : inner ∈ job.nested) :
    history.registry.Associates job.id inner.id := by
  obtain ⟨run, ready, attr, begun, inside, ⟨name, _, source, _, found⟩, _⟩ :=
    asks_of_mem_nested member
  rw [findText_of_follows reached isSealed (follows.nested member)] at found
  obtain ⟨_, list, resolves⟩ := Runner.begin_eq_ok begun
  have steps := job.steps_begin
  rw [begun] at steps
  have operations := follows.trans
    (History.operations_of_steps steps history.made history.permitted)
  rw [resolves.attributes] at inside
  obtain ⟨own, known⟩ := Registry.exists_findText_of_mem reached registered
  exact Registry.associates_of_later reached isSealed operations known resolves.resolved inside
    (by rw [Attribute.factory?, source]) found

end Sealed

/-! ### Ranks of jobs -/

/-- A job is nested so many runs deep in another one. -/
def Nests : Nat → Job → Job → Prop
  | 0, job, other => other = job
  | deep + 1, job, other => ∃ inner ∈ job.nested, Nests deep inner other

section Acyclic

variable (reached : history.Reached) (isSealed : history.registry.isSealed = true)
  (acyclic : history.registry.IsAcyclic)
include reached isSealed acyclic

/-- Each job that is nested in one of a registered factory is one of a factory of a lesser rank. -/
theorem rank_lt_of_mem_nested (follows : job.Follows history)
    (registered : job.id ∈ history.registry.registered) (member : inner ∈ job.nested) :
    history.registry.rank inner.id < history.registry.rank job.id :=
  acyclic.rank_lt (associates_of_mem_nested reached isSealed follows registered member)
    (registered_of_mem_nested reached isSealed follows member)

/-- There is room for a job of a registered factory if its rank is less than the depth. -/
theorem hasRoom_of_rank (follows : job.Follows history)
    (registered : job.id ∈ history.registry.registered)
    (deep : history.registry.rank job.id < job.depth) : job.HasRoom := by
  let Fits (job : Job) : Prop := job.Follows history ∧ job.id ∈ history.registry.registered ∧
    history.registry.rank job.id < job.depth
  have passes : ∀ job : Job, Fits job → ∀ inner ∈ job.nested, Fits inner := by
    rintro job ⟨follows, registered, deep⟩ inner member
    have less := rank_lt_of_mem_nested reached isSealed acyclic follows registered member
    have deeper := depth_of_mem_nested member
    have inside := registered_of_mem_nested reached isSealed follows member
    exact ⟨follows.nested member, inside, by omega⟩
  intro other member
  obtain ⟨_, _, deep⟩ := forall_course passes ⟨follows, registered, deep⟩ other member
  exact Nat.zero_lt_of_lt deep

/-- There is room for a job if more runs may be nested than factories are registered. -/
theorem hasRoom_of_length (follows : job.Follows history)
    (deep : history.registry.registered.length < job.depth) : job.HasRoom := by
  intro other member
  obtain ⟨inner, inside, deeper⟩ | rfl := mem_course.1 member
  · have registered := registered_of_mem_nested reached isSealed follows inside
    have less := acyclic.rank_lt_length registered
    have further := depth_of_mem_nested inside
    exact hasRoom_of_rank reached isSealed acyclic (follows.nested inside) registered (by omega)
      other deeper
  · exact Nat.zero_lt_of_lt deep

/-- In a job of a registered factory runs are nested no deeper than its rank. -/
theorem Nests.le_rank {deep : Nat} (nests : Nests deep job other) (follows : job.Follows history)
    (registered : job.id ∈ history.registry.registered) :
    deep ≤ history.registry.rank job.id := by
  induction deep generalizing job with
  | zero => exact Nat.zero_le _
  | succ deep ih =>
    obtain ⟨inner, member, onward⟩ := nests
    have less := rank_lt_of_mem_nested reached isSealed acyclic follows registered member
    exact Nat.lt_of_le_of_lt (ih onward (follows.nested member)
      (registered_of_mem_nested reached isSealed follows member)) less

/-- In any job runs are nested no deeper than factories are registered. -/
theorem Nests.le_length {deep : Nat} (nests : Nests deep job other)
    (follows : job.Follows history) : deep ≤ history.registry.registered.length := by
  cases deep with
  | zero => exact Nat.zero_le _
  | succ deep =>
    obtain ⟨inner, member, onward⟩ := nests
    have registered := registered_of_mem_nested reached isSealed follows member
    have least := onward.le_rank reached isSealed acyclic (follows.nested member) registered
    have less := acyclic.rank_lt_length registered
    omega

end Acyclic

/-- There is room for a job for values alone. -/
theorem hasRoom_of_attributesFor (values : job.strategy = .attributesFor) (deep : 0 < job.depth) :
    job.HasRoom := by
  intro other member
  obtain ⟨_, inside, _⟩ | rfl := mem_course.1 member
  · rw [nested_of_attributesFor values] at inside
    cases inside
  · exact deep

end Job

/-! ### Runs come to an end -/

/-- A run comes to an end, and to the same one wherever at least so many runs, it included, may be
nested in each other. -/
def Runner.EndsWithin (bound : Nat) (id : FactoryId) (choice : Value) (overrides : Dict)
    (world : World) : Prop :=
  ∃ outcome after, Ends outcome ∧
    (standard id choice overrides).run world = (outcome, after) ∧
    ∀ depth, bound ≤ depth → (within depth id choice overrides).run world = (outcome, after)

namespace Runner

variable {history : History} {world : World} {id : FactoryId} {choice : Value} {overrides : Dict}
  {bound : Nat}

/-- A run comes to an end that does so wherever enough runs may be nested, if that is no more than
any run may. -/
theorem endsWithin (result : Except Fault Value × World) (ends : Ends result.1)
    (few : bound ≤ world.registry.factories.length + depthLimit)
    (same : ∀ depth, bound ≤ depth → (within depth id choice overrides).run world = result) :
    EndsWithin bound id choice overrides world := by
  refine ⟨result.1, result.2, ends, ?_, same⟩
  rw [standard, run_bind, Build.run_ask]
  exact same _ few

/-- A run without a strategy comes to an end before any other run is asked for. -/
theorem endsWithin_of_error (reached : (history.withRegistry world.registry).Reached)
    (few : bound ≤ world.registry.factories.length + depthLimit) {fault : Fault}
    (unknown : Strategy.ofProxy choice = .error fault) (allowed : 0 < bound) :
    EndsWithin bound id choice overrides world := by
  obtain ⟨ends, _⟩ := ends_begin reached id choice overrides
  cases begun : (begin id choice overrides).run world with
  | mk outcome after =>
    rw [begun] at ends
    cases outcome with
    | ok run =>
      have chosen := (begin_eq_ok begun).1.strategy
      rw [unknown] at chosen
      cases chosen
    | error fault =>
      refine endsWithin (.error fault, after) (.error (ends.ne rfl)) few fun depth deep => ?_
      obtain ⟨less, rfl⟩ := Nat.exists_eq_succ_of_ne_zero (Nat.ne_of_gt (allowed.trans_le deep))
      rw [within_eq_fillWithin, fillWithin, fill_eq_begin, run_bind, run_bind, begun]

/-- A run with a strategy comes to an end where there is room for it. -/
theorem endsWithin_of_room (reached : (history.withRegistry world.registry).Reached)
    (few : bound ≤ world.registry.factories.length + depthLimit) {strategy : Strategy}
    (chosen : Strategy.ofProxy choice = .ok strategy) (silent : world.registry.IsSilent)
    (room : (⟨bound, id, strategy, overrides, world⟩ : Job).HasRoom) :
    EndsWithin bound id choice overrides world := by
  refine endsWithin _ (Job.ends_run reached silent room) few fun depth deep => ?_
  obtain ⟨more, rfl⟩ := Nat.exists_eq_add_of_le deep
  rw [within_of_ofProxy (chosen.trans rfl : _ = Strategy.ofProxy (.proxy strategy))]
  exact Job.run_deepen silent room more

/-- Where associations make no cycles, a run comes to an end if more runs may be nested than
factories are registered, or as many if its own is one of them. -/
theorem endsWithin_of_acyclic (reached : history.Reached)
    (isSealed : history.registry.isSealed = true) (silent : history.registry.IsSilent)
    (acyclic : history.registry.IsAcyclic) (same : world.registry = history.registry)
    (few : bound ≤ world.registry.factories.length + depthLimit)
    (enough : history.registry.registered.length < bound ∨
      id ∈ history.registry.registered ∧ history.registry.registered.length = bound) :
    EndsWithin bound id choice overrides world := by
  have still : (history.withRegistry world.registry).Reached := by rwa [same]
  cases chosen : Strategy.ofProxy choice with
  | error fault =>
    refine endsWithin_of_error still few chosen ?_
    obtain more | ⟨registered, rfl⟩ := enough
    · exact Nat.zero_lt_of_lt more
    · exact List.length_pos_of_mem registered
  | ok strategy =>
    have follows := Job.follows_of_registry_eq same bound id strategy overrides
    refine endsWithin_of_room still few chosen (by rwa [same]) ?_
    obtain more | ⟨registered, rfl⟩ := enough
    · exact Job.hasRoom_of_length reached isSealed acyclic follows more
    · exact Job.hasRoom_of_rank reached isSealed acyclic follows registered
        (acyclic.rank_lt_length registered)

end Runner

/-- Where no code runs a factory, a run of any factory of a sealed registry comes to an end whenever
it is for values alone: no other run is nested in it. If associations make no cycles it does so with
any strategy, and runs are nested in it no deeper than factories are registered: for a registered
factory there are no more runs nested in each other, it included, than that. -/
theorem acyclic_runs_end {history : History} {world : World} (reached : history.Reached)
    (isSealed : history.registry.isSealed = true) (silent : history.registry.IsSilent)
    (same : world.registry = history.registry) (id : FactoryId) (overrides : Dict) :
    (history.registry.IsAcyclic →
      (∀ choice,
        Runner.EndsWithin (history.registry.registered.length + 1) id choice overrides world ∧
        (id ∈ history.registry.registered →
          Runner.EndsWithin history.registry.registered.length id choice overrides world)) ∧
      ∀ depth strategy deep other,
        Job.Nests deep ⟨depth, id, strategy, overrides, world⟩ other →
          deep ≤ history.registry.registered.length ∧
          (id ∈ history.registry.registered → deep < history.registry.registered.length)) ∧
    (∀ choice, Strategy.ofProxy choice = .ok .attributesFor →
      Runner.EndsWithin 1 id choice overrides world) ∧
    ∀ depth, (⟨depth, id, .attributesFor, overrides, world⟩ : Job).nested = [] := by
  have few : history.registry.registered.length ≤ world.registry.factories.length := by
    rw [same]
    exact Registry.length_registered_le reached
  have limit : 1 ≤ Runner.depthLimit := by decide
  refine ⟨fun acyclic => ⟨fun choice => ⟨?_, fun registered => ?_⟩, ?_⟩,
    fun choice values => ?_, ?_⟩
  · exact Runner.endsWithin_of_acyclic reached isSealed silent acyclic same (by omega)
      (.inl (Nat.lt_succ_self _))
  · exact Runner.endsWithin_of_acyclic reached isSealed silent acyclic same (by omega)
      (.inr ⟨registered, rfl⟩)
  · intro depth strategy deep other nests
    have follows := Job.follows_of_registry_eq same depth id strategy overrides
    refine ⟨nests.le_length reached isSealed acyclic follows, fun registered => ?_⟩
    exact (nests.le_rank reached isSealed acyclic follows registered).trans_lt
      (acyclic.rank_lt_length registered)
  · have still : (history.withRegistry world.registry).Reached := by rwa [same]
    exact Runner.endsWithin_of_room still (by omega) values (by rwa [same])
      (Job.hasRoom_of_attributesFor rfl Nat.one_pos)
  · exact fun depth => Job.nested_of_attributesFor rfl

/-- The registry of the post and its author is sealed: no code there runs a factory and associations
make no cycles, so that creating a post comes to an end where two runs may be nested in each other.
-/
theorem acyclic_runs_end_post :
    ∃ (after : History) (world : World), after.Reached ∧ after.registry.isSealed = true ∧
      after.registry.IsSilent ∧ after.registry.IsAcyclic ∧ world.registry = after.registry ∧
      after.registry.Associates 1 0 ∧
      Runner.EndsWithin 2 1 (.strategy .create) [] world ∧
      Runner.EndsWithin 1 1 (.strategy .attributesFor) [] world := by
  have reached : Job.postHistory.Reached :=
    ((History.reached_blank.define _ _).registerModel _ _).define _ _ |>.registerModel _ _
      |>.edit _ _ |>.edit _ _ |>.edit _ _ |>.edit _ _ |>.edit _ _ |>.edit _ _
  let after := Job.postHistory.withRegistry (Registry.close Job.postHistory.registry).2
  let world : World := { Job.postJob.world with registry := after.registry }
  have seen : after.registry.isSealed = true ∧
      (∀ piece ∈ after.registry.pieces, piece.body.any Expr.isBuild = false) ∧
      (∀ id < after.registry.factories.length, ∀ target ∈ after.registry.targets id, target < id) ∧
      0 ∈ after.registry.targets 1 ∧
      after.registry.registered.length = 2 ∧ 1 ∈ after.registry.registered := by decide +kernel
  obtain ⟨isSealed, silent, earlier, leads, two, registered⟩ := seen
  have acyclic := Registry.isAcyclic_of_targets earlier
  obtain ⟨ends, values, _⟩ :=
    acyclic_runs_end (reached.tail .closed) isSealed silent (rfl : world.registry = _) 1 []
  have created := ((ends acyclic).1 (.strategy .create)).2 registered
  rw [two] at created
  exact ⟨after, world, reached.tail .closed, isSealed, silent, acyclic, rfl,
    Registry.mem_targets.1 leads, created, values (.strategy .attributesFor) rfl⟩

end Blueprint
