import Blueprint.Proofs.Build.Fill

/-!
# The deeds of a run

Once its proxy is filled, a run makes its result by a list of deeds that its strategy fixes: it
draws an id, makes the instance, runs callbacks, and saves the instance. The deeds are done in turn,
and the first one that fails ends the run.
-/
namespace Blueprint

/-! ### In turn -/

/-- Two operations in turn are the same where the second ones are, after a first one that
succeeds. -/
theorem run_bind_congr {ε σ α β : Type} {first : ExceptT ε (StateM σ) α}
    {second other : α → ExceptT ε (StateM σ) β} {state : σ}
    (same : ∀ value after, first.run state = (.ok value, after) →
      (second value).run after = (other value).run after) :
    (first >>= second).run state = (first >>= other).run state := by
  rw [run_bind, run_bind]
  cases outcome : first.run state with
  | mk result after =>
    cases result with
    | error fault => rfl
    | ok value => exact same value after outcome

namespace Act

variable {α : Type} {step : α → Act Unit}

/-- Does something for several things in turn, until it fails for one. -/
def inTurn (step : α → Act Unit) : List α → Act Unit
  | [] => pure ()
  | item :: rest => do
    step item
    inTurn step rest

/-- What is done for more things is done for the first ones, and then for the others. -/
theorem inTurn_append (before after : List α) :
    inTurn step (before ++ after) = (do
      inTurn step before
      inTurn step after) := by
  induction before with
  | nil => rfl
  | cons item rest ih => rw [List.cons_append, inTurn, inTurn, ih, bind_assoc]

end Act

/-! ### Deeds -/

/-- One thing that is done to make the result of a run. -/
inductive Deed where
  /-- The proxy is given an id, unless it has one. -/
  | draw
  /-- The instance is made. -/
  | construct
  /-- A callback is run. -/
  | call (callback : Callback)
  /-- The instance is saved by a finalizer. -/
  | finish (handler : Handler)
  /-- The instance is saved by the method that the configuration names. -/
  | save

/-- Does a deed. -/
def Deed.perform (runner : Runner) : Deed → Act Unit
  | draw => Proxy.drawId
  | construct => Proxy.instantiate
  | call callback => callback.run runner
  | finish handler => handler.call runner 1
  | save => Proxy.persist

/-- The deeds of a moment: its callbacks, in order. -/
def Moment.deeds (moment : Moment) (callbacks : List Callback) : List Deed :=
  (callbacks.filter fun callback => callback.moment == moment).map .call

/-- The deed that saves an instance: the finalizer's, if there is one. -/
def Deed.saving (finalizer : Option Handler) : Deed := (finalizer.map .finish).getD .save

/-- The deeds that a strategy asks for, in order. -/
def Strategy.deeds (finalizer : Option Handler) (callbacks : List Callback) : Strategy → List Deed
  | attributesFor => []
  | build => .construct :: Moment.afterBuild.deeds callbacks
  | create =>
    .construct :: (Moment.afterBuild.deeds callbacks ++
      Deed.saving finalizer :: Moment.afterCreate.deeds callbacks)
  | stub => .draw :: .construct :: Moment.afterStub.deeds callbacks

variable {runner : Runner} {finalizer : Option Handler}

/-- All that is done with an instance leaves the callbacks of the proxy. -/
theorem Deed.callbacks_perform (runner : Runner) (deed : Deed) (site : Site) :
    ((deed.perform runner).run site).2.proxy.callbacks = site.proxy.callbacks := by
  have keeping : Keeping runner
      (Function.onFun (Function.onFun Eq Proxy.callbacks) Site.proxy) fun _ => True :=
    runner.keeping_proxy fun _ _ _ _ _ => rfl
  have calls : ∀ (handler : Handler) (arguments : Nat) (site : Site),
      ((handler.call runner arguments).run site).2.proxy.callbacks = site.proxy.callbacks := by
    intro handler arguments site
    have body := Expr.keeps_eval keeping (2 ≤ arguments) handler.body fun _ _ => trivial
    have kept : Keeps (Function.onFun (Function.onFun Eq Proxy.callbacks) Site.proxy)
        (handler.call runner arguments) :=
      (Act.keeps_askSubject _).bind fun _ =>
        Keeps.bind (fun _ => rfl) fun _ => body.bind fun _ => .pure _
    exact (kept site).symm
  cases deed with
  | draw =>
    show ((Proxy.drawId).run site).2.proxy.callbacks = _
    rw [Proxy.drawId, Act.run_ask_bind]
    cases site.proxy.has "id" <;> rfl
  | construct =>
    show ((Proxy.instantiate).run site).2.proxy.callbacks = _
    rw [Proxy.instantiate, ExceptT.run_mk]
    split <;> rfl
  | call callback =>
    show ((callback.run runner).run site).2.proxy.callbacks = _
    unfold Callback.run
    cases callback.handler with
    | none => rfl
    | some handler => exact calls handler _ site
  | finish handler => exact calls handler 1 site
  | save =>
    have changed : Keeps (Function.onFun (Function.onFun Eq Proxy.callbacks) Site.proxy)
        Proxy.persist := by
      refine (Act.keeps_ask _).bind fun method => (Act.keeps_ask _).bind fun callable => ?_
      refine (Act.keeps_askSubject _).bind fun model => (Act.keeps_askSubject _).bind fun serial => ?_
      cases callable with
      | true =>
        exact Keeps.bind (fun _ => rfl) fun _ =>
          fun site => (congrArg Proxy.callbacks (Act.proxy_onSubject _ site)).symm
      | false => exact Act.keeps_fail _
    exact (changed site).symm

/-- Deeds in turn leave the callbacks of the proxy. -/
theorem Deed.callbacks_inTurn {deeds : List Deed} {site last : Site} {outcome : Except Fault Unit}
    (done : (Act.inTurn (Deed.perform runner) deeds).run site = (outcome, last)) :
    last.proxy.callbacks = site.proxy.callbacks := by
  induction deeds generalizing site with
  | nil =>
    cases done
    rfl
  | cons deed rest ih =>
    have first := deed.callbacks_perform runner site
    rw [Act.inTurn, run_bind] at done
    cases result : (deed.perform runner).run site with
    | mk value middle =>
      rw [result] at done first
      cases value with
      | error fault =>
        cases done
        exact first
      | ok _ => exact (ih done).trans first

/-- The callbacks of a moment are run as deeds. -/
theorem Proxy.run_runCallbacks (moment : Moment) (site : Site) :
    (runCallbacks runner moment).run site =
      (Act.inTurn (Deed.perform runner) (moment.deeds site.proxy.callbacks)).run site := by
  have each : ∀ callbacks : List Callback,
      runAll runner callbacks = Act.inTurn (Deed.perform runner) (callbacks.map .call) := by
    intro callbacks
    induction callbacks with
    | nil => rfl
    | cons callback rest ih => rw [runAll, List.map_cons, Act.inTurn, ih]; rfl
  rw [runCallbacks, Act.run_ask_bind, each]
  rfl

/-- Saving the instance is a deed. -/
theorem Proxy.finalize_eq_perform (finalizer : Option Handler) :
    finalize runner finalizer = (Deed.saving finalizer).perform runner := by
  cases finalizer <;> rfl

/-- Unless only values are wanted, a run makes its result by the deeds of its strategy. -/
theorem Proxy.run_result_eq_deeds {site : Site} (makes : site.proxy.strategy ≠ .attributesFor) :
    (result runner finalizer).run site = (do
      Act.inTurn (Deed.perform runner) (site.proxy.strategy.deeds finalizer site.proxy.callbacks)
      Act.askSubject Instance.value).run site := by
  have same : ∀ (deed : Deed) {value : Unit} {before after : Site},
      (deed.perform runner).run before = (.ok value, after) →
        after.proxy.callbacks = before.proxy.callbacks := by
    intro deed value before after done
    have kept := deed.callbacks_perform runner before
    rwa [done] at kept
  rw [result, Act.run_ask_bind]
  cases chosen : site.proxy.strategy with
  | attributesFor => exact absurd chosen makes
  | build =>
    rw [Strategy.deeds, Act.inTurn, bind_assoc]
    refine run_bind_congr fun value made done => ?_
    rw [run_bind, run_bind, Proxy.run_runCallbacks, same .construct done]
  | create =>
    rw [Strategy.deeds, Act.inTurn, bind_assoc, Act.inTurn_append, bind_assoc, Act.inTurn,
      bind_assoc]
    refine run_bind_congr fun value made done => ?_
    rw [run_bind, run_bind, Proxy.run_runCallbacks, same .construct done]
    cases built : (Act.inTurn (Deed.perform runner)
      (Moment.afterBuild.deeds site.proxy.callbacks)).run made with
    | mk outcome heard =>
      have kept := (Deed.callbacks_inTurn built).trans (same .construct done)
      cases outcome with
      | error fault => rfl
      | ok _ =>
        simp only
        rw [Proxy.finalize_eq_perform]
        refine run_bind_congr fun value saved finished => ?_
        rw [run_bind, run_bind, Proxy.run_runCallbacks, (same _ finished).trans kept]
  | stub =>
    rw [Strategy.deeds, Act.inTurn, bind_assoc, Act.inTurn, bind_assoc]
    refine run_bind_congr fun value drawn first => run_bind_congr fun value made done => ?_
    rw [run_bind, run_bind, Proxy.run_runCallbacks,
      (same .construct done).trans (same .draw first)]

end Blueprint
