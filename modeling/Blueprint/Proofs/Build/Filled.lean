import Blueprint.Proofs.Build.Prepared

/-!
# Filled proxies

A run fills its proxy and then makes the result. When the proxy is filled it holds each override
under its key, unless an attribute of that name gave its value later; and it holds under the name of
an attribute to which no override is sent the value that the attribute gave.
-/
namespace Blueprint

variable {runner : Runner}

/-! ### Filling and finishing -/

/-- What a run has when its proxy is filled. -/
structure Filled where
  /-- What it had prepared. -/
  run : Prepared
  /-- Where it started to fill the proxy. -/
  start : Site
  /-- Where the proxy is filled. -/
  site : Site

/-- Fills the proxy of a run that is prepared. -/
def Prepared.fill (runner : Runner) (run : Prepared) : Build Filled := ExceptT.mk fun world =>
  let start : Site := { world := world, proxy := run.proxy }
  match (run.plan.carryOut runner).run start with
  | (.ok (), site) => (.ok ⟨run, start, site⟩, site.world)
  | (.error fault, site) => (.error fault, site.world)

/-- Makes the result of a run whose proxy is filled. -/
def Filled.finish (runner : Runner) (filled : Filled) : Build Value := ExceptT.mk fun world =>
  let act := Proxy.result runner filled.run.finalizer
  let (outcome, site) := act.run { filled.site with world := world }
  (outcome, site.world)

/-- Does what a run of a factory does until its proxy is filled. -/
def Runner.fill (runner : Runner) (id : FactoryId) (choice : Value) (overrides : Dict) :
    Build Filled := do
  Build.onRegistry fun registry => registry.compile id
  let run ← prepare id choice overrides
  run.fill runner

/-- Carrying out the plan of a run is filling its proxy and making the result. -/
theorem Prepared.carryOut_eq (run : Prepared) :
    Build.carryOut runner run.proxy run.plan run.finalizer =
      run.fill runner >>= Filled.finish runner := by
  funext world
  show ((Build.carryOut runner run.proxy run.plan run.finalizer).run world) =
    (run.fill runner >>= Filled.finish runner).run world
  rw [run_bind, Build.carryOut, fill, ExceptT.run_mk, ExceptT.run_mk]
  dsimp only
  rw [run_bind]
  cases (run.plan.carryOut runner).run { world := world, proxy := run.proxy } with
  | mk outcome site => cases outcome <;> rfl

/-- A run of a factory fills its proxy and makes the result. -/
theorem Runner.next_eq_fill (id : FactoryId) (choice : Value) (overrides : Dict) :
    runner.next id choice overrides =
      runner.fill id choice overrides >>= Filled.finish runner := by
  rw [next_eq, fill]
  simp only [Prepared.carryOut_eq, bind_assoc]

/-- A run has filled its proxy, for a choice of strategy and overrides. -/
structure Filled.For (runner : Runner) (filled : Filled) (choice : Value) (overrides : Dict) :
    Prop where
  /-- It was prepared for them. -/
  prepared : filled.run.For choice overrides
  /-- It started with the proxy that was prepared. -/
  start : filled.start.proxy = filled.run.proxy
  /-- The plan has no fault. -/
  whole : filled.run.plan.fault = none
  /-- All steps of the plan are done. -/
  done : (Plan.performAll runner filled.run.plan.actions).run filled.start = (.ok (), filled.site)

/-- What is filled is filled for what is asked, and the world is left as it is where the proxy is
filled. -/
theorem Runner.fill_eq_ok {id : FactoryId} {choice : Value} {overrides : Dict} {filled : Filled}
    {world after : World}
    (fills : (runner.fill id choice overrides).run world = (.ok filled, after)) :
    filled.For runner choice overrides ∧ after = filled.site.world := by
  obtain ⟨_, first, _, onward⟩ := run_bind_eq_ok.1 fills
  obtain ⟨run, ready, prepared, onward⟩ := run_bind_eq_ok.1 onward
  rw [Prepared.fill, ExceptT.run_mk] at onward
  dsimp only at onward
  split at onward
  · rename_i site carried
    cases onward
    obtain ⟨_, last, done, ended⟩ := run_bind_eq_ok.1 carried
    cases whole : run.plan.fault with
    | some fault =>
      rw [whole] at ended
      cases ended
    | none =>
      rw [whole] at ended
      cases ended
      exact ⟨⟨prepare_eq_ok prepared, rfl, whole, done⟩, rfl⟩
  · cases onward

/-! ### What is held -/

/-- A member of a list has a last place in it. -/
theorem exists_last_place {α : Type} {item : α} {items : List α} (member : item ∈ items) :
    ∃ before after, items = before ++ item :: after ∧ item ∉ after := by
  obtain ⟨after, before, split, absent⟩ := List.eq_append_cons_of_mem (List.mem_reverse.2 member)
  refine ⟨before.reverse, after.reverse, ?_, by rwa [List.mem_reverse]⟩
  rw [List.reverse_eq_iff.1 split, List.reverse_append, List.reverse_cons, List.append_assoc]
  rfl

namespace Filled

/-- An attribute gives a value when its turn comes in a run. -/
def Gives (runner : Runner) (filled : Filled) (attr : Attribute) (value : Value) : Prop :=
  ∃ before after reached given, filled.run.plan.actions = before ++ .evaluate attr :: after ∧
    (Plan.performAll runner before).run filled.start = (.ok (), reached) ∧
    (attr.give runner).run reached = (.ok value, given)

variable {filled : Filled} {choice : Value} {overrides : Dict} {key : String} {value : Value}

/-- The strategy is the one that was prepared. -/
theorem For.strategy (fills : filled.For runner choice overrides) :
    filled.site.proxy.strategy = filled.run.proxy.strategy := by
  rw [Plan.strategy_performAll fills.done, fills.start]

/-- An override that no attribute displaces is held, ignored if its target is. -/
theorem For.holds_override (fills : filled.For runner choice overrides)
    (given : (key, value) ∈ filled.run.overrides) (kept : filled.run.displacing? key = none)
    (reads : ∀ attr ∈ filled.run.attributes, filled.run.sent attr = [] →
      attr.blockSets key = false) :
    filled.site.proxy.Holds key value
      (((filled.run.target? key).map Attribute.ignored).getD false) := by
  have prepared := fills.prepared
  obtain ⟨before, after, split, absent⟩ :=
    exists_last_place ((prepared.assign_mem_actions fills.whole).2 ⟨given, rfl⟩)
  have done := fills.done
  rw [split] at done
  refine Plan.holds_of_assign done fun action later set => ?_
  have inside : action ∈ filled.run.plan.actions := by simp [split, later]
  cases action with
  | assign name other ignored =>
    -- keys are distinct, so that this would be the same step again
    obtain rfl : name = key := by simpa [Plan.sets] using set
    obtain ⟨again, flag⟩ := (prepared.assign_mem_actions fills.whole).1 inside
    obtain rfl : other = value := by
      have pairs := List.inj_on_of_nodup_map prepared.keys again given rfl
      exact congrArg Prod.snd pairs
    exact absurd (flag ▸ later) absent
  | evaluate attr =>
    obtain ⟨member, unsent⟩ := (prepared.evaluate_mem_actions fills.whole).1 inside
    have named : attr.name = key := by simpa [Plan.sets, reads attr member unsent] using set
    have displaced := List.find?_eq_none.1 kept attr member
    rw [fills.start]
    simpa [Plan.skips, named, unsent] using displaced

/-- An attribute to which no override is sent has its value held under its name, ignored if the
attribute is, but never if it is an association. -/
theorem For.holds_attribute (fills : filled.For runner choice overrides) {attr : Attribute}
    (member : attr ∈ filled.run.attributes) (unsent : filled.run.sent attr = [])
    (present : attr.isSkipped filled.run.proxy.strategy = false)
    (reads : ∀ other ∈ filled.run.attributes, other.name ≠ attr.name →
      filled.run.sent other = [] → other.blockSets attr.name = false) :
    ∃ value, filled.Gives runner attr value ∧
      filled.site.proxy.Holds attr.name value (attr.ignored && !attr.isAssociation) := by
  obtain ⟨before, after, split, free⟩ :=
    fills.prepared.split_actions fills.whole member unsent reads
  have done := fills.done
  rw [split] at done
  rw [← fills.start] at present
  obtain ⟨reached, value, given, first, its, holds⟩ :=
    Plan.holds_of_evaluate done present fun action later set => by
      rw [free action later] at set
      cases set
  exact ⟨value, ⟨before, after, reached, given, split, first, its⟩, holds⟩

end Filled

end Blueprint
