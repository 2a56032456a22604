import Blueprint.Proofs.Build.Cause
import Blueprint.Proofs.Build.Quiet
import Blueprint.Proofs.Registry.Ends

/-!
# Code comes to an end

Code that runs no factory means the same whatever runs factories, so it comes to an end as it does
where no factory can be run. So does all that a run does with its instance, and each step of its
plan that asks for no job.
-/
namespace Blueprint

/-! ### Faults other than the bound on depth -/

/-- All usual faults are other ones than that runs are nested too deeply. -/
theorem takesUsual_ne_tooDeep : TakesUsual (· ≠ .tooDeep) := by
  rintro fault its rfl
  cases its

/-- What fails by other faults comes to an end. -/
theorem FailsBy.ends {α : Type} {outcome : Except Fault α} (fails : FailsBy (· ≠ .tooDeep) outcome) :
    Ends outcome := fun deep => fails _ deep rfl

/-- A runner that refuses to run any factory. -/
def Runner.refusing : Runner := fun _ _ _ => Build.fail .wrongType

/-- Refusing to run a factory is a usual fault. -/
theorem Runner.runsFailBy_refusing : Runner.refusing.RunsFailBy (· ≠ .tooDeep) :=
  fun _ _ _ _ => .error (takesUsual_ne_tooDeep _ rfl)

/-- Two operations in turn come to an end if the first one does and the second one does from there.
-/
theorem ends_run_bind {σ α β : Type} {first : ExceptT Fault (StateM σ) α}
    {second : α → ExceptT Fault (StateM σ) β} {state : σ} (before : Ends (first.run state).1)
    (after : ∀ value middle, first.run state = (.ok value, middle) →
      Ends ((second value).run middle).1) : Ends ((first >>= second).run state).1 := by
  rw [run_bind]
  cases outcome : first.run state with
  | mk result middle =>
    rw [outcome] at before
    cases result with
    | error fault => exact .error (before.ne rfl)
    | ok value => exact after value middle outcome

/-! ### What is done with an instance -/

namespace Handler

variable {handler : Handler}

/-- A handler that runs no factory does the same for any runner. -/
theorem call_congr (runner other : Runner) (alone : handler.body.any Expr.isBuild = false)
    (arguments : Nat) : handler.call runner arguments = handler.call other arguments := by
  rw [call, call, Expr.eval_congr runner other _ _ alone]

end Handler

namespace Deed

variable {deed : Deed} {deeds : List Deed}

/-- A silent deed is the same for any runner. -/
theorem perform_congr (runner other : Runner) (silent : deed.IsSilent) :
    deed.perform runner = deed.perform other := by
  cases deed with
  | draw | construct | save => rfl
  | call callback =>
    show callback.run runner = callback.run other
    unfold Callback.run
    cases its : callback.handler with
    | none => rfl
    | some handler => exact handler.call_congr runner other (silent its) _
  | finish handler => exact handler.call_congr runner other (silent rfl) 1

/-- Silent deeds in turn are the same for any runner. -/
theorem inTurn_congr (runner other : Runner) (silent : ∀ deed ∈ deeds, deed.IsSilent) :
    Act.inTurn (Deed.perform runner) deeds = Act.inTurn (Deed.perform other) deeds := by
  induction deeds with
  | nil => rfl
  | cons deed rest ih =>
    rw [Act.inTurn, Act.inTurn, perform_congr runner other (silent deed List.mem_cons_self),
      ih fun later member => silent later (List.mem_cons_of_mem _ member)]

end Deed

/-- If nothing that a run does with its result runs a factory, making the result comes to an end,
and is the same for any runner. -/
theorem Filled.For.finishes {filled : Filled} {runner : Runner} {choice : Value} {overrides : Dict}
    (fills : filled.For runner choice overrides) (silent : ∀ deed ∈ filled.deeds, deed.IsSilent)
    (one other : Runner) :
    Ends ((Proxy.result one filled.run.finalizer).run filled.site).1 ∧
      (Proxy.result one filled.run.finalizer).run filled.site =
        (Proxy.result other filled.run.finalizer).run filled.site := by
  have same : ∀ one other : Runner, (Proxy.result one filled.run.finalizer).run filled.site =
      (Proxy.result other filled.run.finalizer).run filled.site := by
    intro one other
    by_cases values : filled.run.proxy.strategy = .attributesFor
    · rw [← fills.strategy] at values
      rw [Proxy.result, Proxy.result, Act.run_ask_bind, Act.run_ask_bind, values]
    · rw [Proxy.run_result_eq_deeds (by rwa [fills.strategy]),
        Proxy.run_result_eq_deeds (by rwa [fills.strategy]), fills.strategy, fills.callbacks,
        show filled.run.proxy.strategy.deeds filled.run.finalizer filled.run.proxy.callbacks =
          filled.deeds from rfl, Deed.inTurn_congr one other silent]
  refine ⟨?_, same one other⟩
  rw [same one .refusing]
  exact (Proxy.failsBy_result takesUsual_ne_tooDeep Runner.runsFailBy_refusing _ filled.site).ends

/-! ### Steps of a plan -/

namespace Plan

variable {depth : Nat} {site : Site} {action : Action}

/-- A step that asks for no job comes to an end, and is the same for any runner. -/
theorem perform_of_no_job (asks : job? depth site action = none) (silent : IsSilent action)
    (runner other : Runner) :
    Ends ((perform runner action).run site).1 ∧
      (perform runner action).run site = (perform other action).run site := by
  cases action with
  | assign key value ignored => exact ⟨.ok (), rfl⟩
  | evaluate attr =>
    show Ends ((attr.addTo runner).run site).1 ∧
      (attr.addTo runner).run site = (attr.addTo other).run site
    by_cases association : attr.isAssociation
    · by_cases owner : site.proxy.strategy = .attributesFor
      · have skipped : attr.isSkipped site.proxy.strategy := by
          simp [Attribute.isSkipped, association, owner]
        rw [Attribute.run_addTo_of_skipped skipped, Attribute.run_addTo_of_skipped skipped]
        exact ⟨.ok (), rfl⟩
      · obtain ⟨fault, shallow, same⟩ := run_addTo_of_no_job asks association owner
        rw [same, same]
        exact ⟨.error shallow, rfl⟩
    · have same : ∀ one other : Runner, attr.addTo one = attr.addTo other := by
        intro one other
        unfold Attribute.addTo
        cases source : attr.source with
        | static value => rfl
        | dynamic block => simp only [Expr.eval_congr one other true block (silent rfl source)]
        | association factory overrides choice =>
          simp [Attribute.isAssociation, Attribute.factory?, source] at association
      have ends := Attribute.failsBy_addTo takesUsual_ne_tooDeep Runner.runsFailBy_refusing attr site
      rw [same runner .refusing]
      exact ⟨ends.ends, by rw [same other .refusing]⟩

end Plan

/-! ### From the start to the plan -/

/-- Overrides are accepted or refused. -/
theorem Build.ends_canonicalOverrides (factory : String) (overrides : Dict) :
    Ends (canonicalOverrides factory overrides) := by
  have each : ∀ overrides pending given, Ends (canonicalFrom factory pending given overrides) := by
    intro overrides
    induction overrides with
    | nil => exact fun pending _ => .ok pending
    | cons pair rest ih =>
      intro pending given
      rw [canonicalFrom]
      split
      · exact .error (by simp)
      · exact ih _ _
  exact each overrides [] []

/-- Until its plan is made a run comes to an end, and the plan has no fault but those of patterns.
-/
theorem Runner.ends_begin {history : History} {world : World}
    (reached : (history.withRegistry world.registry).Reached) (id : FactoryId) (choice : Value)
    (overrides : Dict) :
    Ends ((begin id choice overrides).run world).1 ∧
      ∀ run ready, (begin id choice overrides).run world = (.ok run, ready) →
        run.plan.fault ≠ some .tooDeep := by
  constructor
  · refine ends_run_bind (Registry.ends_compile world.registry id) fun _ first compiled => ?_
    obtain ⟨_, rfl⟩ := Prod.mk.inj compiled
    have choosing := Strategy.failsBy_ofProxy takesUsual_ne_tooDeep choice
    refine ends_run_bind choosing.ends fun strategy second chosen => ?_
    obtain ⟨_, rfl⟩ := Prod.mk.inj chosen
    refine ends_run_bind (Registry.ends_model _ id) fun model third looked => ?_
    obtain ⟨_, rfl⟩ := Prod.mk.inj looked
    have still := (reached.tail (.compiled id)).tail (.classed id)
    refine ends_run_bind (Registry.ends_attributes still id) fun list fourth _ => ?_
    refine ends_run_bind (.ok _) fun name fifth _ => ?_
    refine ends_run_bind (Build.ends_canonicalOverrides name overrides) fun pending sixth _ => ?_
    exact .ok _
  · intro run ready begun
    obtain ⟨_, compiled, _, done⟩ := run_bind_eq_ok.1 begun
    obtain ⟨strategy, first, _, done⟩ := run_bind_eq_ok.1 done
    obtain ⟨model, second, _, done⟩ := run_bind_eq_ok.1 done
    obtain ⟨list, third, _, done⟩ := run_bind_eq_ok.1 done
    obtain ⟨name, fourth, _, done⟩ := run_bind_eq_ok.1 done
    obtain ⟨pending, fifth, _, done⟩ := run_bind_eq_ok.1 done
    obtain ⟨aliases, sixth, found, done⟩ := run_bind_eq_ok.1 done
    obtain ⟨finalizer, seventh, _, done⟩ := run_bind_eq_ok.1 done
    obtain ⟨given, _⟩ := Prod.mk.inj found
    cases given
    cases done
    have told := Registry.failsBy_aliasesFor takesUsual_ne_tooDeep fifth.registry
    exact fun deep => Plan.failsBy_fault told pending _ deep rfl

end Blueprint
