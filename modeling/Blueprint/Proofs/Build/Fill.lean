import Blueprint.Proofs.Build.Plan
import Blueprint.Proofs.Build.Proxy
import Blueprint.Proofs.Build.Step
import Blueprint.Proofs.Registry.Precedence

/-!
# Filling a proxy

What a run holds under a name when its proxy is filled is what was set there last: an override, or
the value of the attribute of that name. All other steps of the plan leave it.
-/
namespace Blueprint

variable {runner : Runner} {key : String}

/-! ### What leaves a name -/

/-- Two sites have proxies that agree at a name. -/
abbrev Site.Agree (key : String) : Site → Site → Prop :=
  Function.onFun (Proxy.Agree key) Site.proxy

/-- Changing the instance leaves the proxy. -/
theorem Act.proxy_onSubject (change : Instance → Instance) (site : Site) :
    ((onSubject change).run site).2.proxy = site.proxy := by
  unfold onSubject
  rw [ExceptT.run_mk]
  split
  · rfl
  · rfl

/-- What follows a question goes on with the answer, at the same site. -/
theorem Act.run_ask_bind {α β : Type} (view : Site → α) (next : α → Act β) (site : Site) :
    (ask (fun site => .ok (view site)) >>= next).run site = (next (view site)).run site := by
  rw [run_bind]
  rfl

/-- All that fills a proxy keeps a relation that depends on the proxy only, if setting values
does. -/
theorem Runner.keeping_proxy (runner : Runner) {related : Proxy → Proxy → Prop}
    [Std.Refl related] {allowed : String → Prop}
    (set : ∀ proxy name value ignored, allowed name →
      related proxy (proxy.set name value ignored)) :
    Keeping runner (Function.onFun related Site.proxy) allowed where
  ticked _ := fun site => refl_of related site.proxy
  noted _ _ := fun site => refl_of related site.proxy
  counted _ := fun site => refl_of related site.proxy
  altered _ _ _ := fun site => refl_of related site.proxy
  ran _ _ _ := fun site => refl_of related site.proxy
  ranNamed _ _ _ := fun site => refl_of related site.proxy
  set name value ignored allow := fun site => set site.proxy name value ignored allow
  fieldSet _ _ := by
    intro site
    show related site.proxy ((Act.onSubject _).run site).2.proxy
    rw [Act.proxy_onSubject]
    exact refl_of related site.proxy

/-- An attribute is passed over: where only values are wanted an association gives none. -/
def Attribute.isSkipped (attr : Attribute) (strategy : Strategy) : Bool :=
  attr.isAssociation && strategy == .attributesFor

/-- An attribute that is passed over leaves everything as it is. -/
theorem Attribute.run_addTo_of_skipped {attr : Attribute} {site : Site}
    (skipped : attr.isSkipped site.proxy.strategy) :
    (attr.addTo runner).run site = (.ok (), site) := by
  obtain ⟨kind, same⟩ := Bool.and_eq_true_iff.1 skipped
  have chosen : site.proxy.strategy = .attributesFor := by simpa using same
  unfold Attribute.addTo
  cases source : attr.source with
  | static value => simp [isAssociation, factory?, source] at kind
  | dynamic block => simp [isAssociation, factory?, source] at kind
  | association factory overrides choice =>
    simp only
    rw [Act.associate, Act.run_ask_bind, chosen]
    rfl

namespace Plan

/-- A step whose attribute is passed over. -/
def skips (strategy : Strategy) : Action → Bool
  | .assign _ _ _ => false
  | .evaluate attr => attr.isSkipped strategy

/-- One step that does not set a name, or is passed over, leaves it. -/
theorem agree_perform {action : Action} {site : Site}
    (free : sets key action → skips site.proxy.strategy action) :
    Site.Agree key site ((perform runner action).run site).2 := by
  have keeping : Keeping runner (Site.Agree key) fun name => name ≠ key :=
    runner.keeping_proxy fun proxy name value ignored apart => Proxy.Agree.set apart
  cases touched : sets key action with
  | false =>
    refine keeps_perform keeping action (fun name set same => ?_) site
    rw [same, touched] at set
    cases set
  | true =>
    cases action with
    | assign name value ignored => cases free touched
    | evaluate attr =>
      rw [perform, Attribute.run_addTo_of_skipped (free touched)]
      exact refl_of (Proxy.Agree key) site.proxy

/-- Steps that do not set a name, or are passed over, leave it. -/
theorem agree_performAll {actions : List Action} {site : Site}
    (free : ∀ action ∈ actions, sets key action → skips site.proxy.strategy action) :
    Site.Agree key site ((performAll runner actions).run site).2 := by
  induction actions generalizing site with
  | nil => exact refl_of (Proxy.Agree key) site.proxy
  | cons action rest ih =>
    have first : Site.Agree key site ((perform runner action).run site).2 :=
      agree_perform (free action List.mem_cons_self)
    rw [performAll, run_bind]
    cases outcome : (perform runner action).run site with
    | mk result middle =>
      rw [outcome] at first
      cases result with
      | error fault => exact first
      | ok done =>
        refine IsTrans.trans _ _ _ first (ih fun other member => ?_)
        -- the strategy is still the same, so that the same attributes are passed over
        rw [first.strategy]
        exact free other (List.mem_cons_of_mem _ member)

/-- Steps in turn are done one after the other. -/
theorem run_performAll_append {before after : List Action} {site last : Site} :
    (performAll runner (before ++ after)).run site = (.ok (), last) ↔
      ∃ middle, (performAll runner before).run site = (.ok (), middle) ∧
        (performAll runner after).run middle = (.ok (), last) := by
  induction before generalizing site with
  | nil =>
    constructor
    · exact fun done => ⟨site, rfl, done⟩
    · rintro ⟨_, same, done⟩
      cases same
      exact done
  | cons action rest ih =>
    rw [List.cons_append, performAll, performAll, run_bind_eq_ok]
    constructor
    · rintro ⟨_, between, first, others⟩
      obtain ⟨middle, inner, done⟩ := ih.1 others
      exact ⟨middle, run_bind_eq_ok.2 ⟨_, between, first, inner⟩, done⟩
    · rintro ⟨middle, inner, done⟩
      obtain ⟨_, between, first, others⟩ := run_bind_eq_ok.1 inner
      exact ⟨_, between, first, ih.2 ⟨middle, others, done⟩⟩

/-- Steps keep the strategy. -/
theorem strategy_performAll {actions : List Action} {site last : Site} {outcome : Except Fault Unit}
    (done : (performAll runner actions).run site = (outcome, last)) :
    last.proxy.strategy = site.proxy.strategy := by
  have keeping : Keeping runner
      (Function.onFun (Function.onFun Eq Proxy.strategy) Site.proxy) fun _ => True :=
    runner.keeping_proxy fun _ _ _ _ _ => rfl
  have kept := keeps_performAll keeping actions (fun _ _ _ _ => trivial) site
  rw [done] at kept
  exact kept.symm

/-- A value that is set is held in the end, if no later step sets its name. -/
theorem holds_of_assign {before after : List Action} {value : Value} {ignored : Bool}
    {site last : Site}
    (done : (performAll runner (before ++ .assign key value ignored :: after)).run site =
      (.ok (), last))
    (free : ∀ action ∈ after, sets key action → skips site.proxy.strategy action) :
    last.proxy.Holds key value ignored := by
  obtain ⟨middle, _, onward⟩ := run_performAll_append.1 done
  obtain ⟨_, between, assigned, rest⟩ := run_bind_eq_ok.1 onward
  have there : between.proxy.Holds key value ignored := by
    cases assigned
    exact Proxy.holds_set
  have same : between.proxy.strategy = site.proxy.strategy :=
    (strategy_performAll rest).symm.trans (strategy_performAll done)
  rw [← same] at free
  have agree : Site.Agree key between ((performAll runner after).run between).2 :=
    agree_performAll free
  rw [rest] at agree
  exact agree.holds there

end Plan

/-! ### What an attribute gives -/

/-- The value that an attribute gives, unless it is passed over. -/
def Attribute.give (runner : Runner) (attr : Attribute) : Act Value :=
  match attr.source with
  | .static value => pure value
  | .dynamic block => block.eval runner true
  | .association factory overrides choice => do
    let strategy ← Act.ask fun site => .ok site.proxy.strategy
    let choice := match strategy with
      | .stub => .strategy .stub
      | _ => if choice.truthy then choice else .strategy .create
    Act.buildAssociation runner factory choice overrides

/-- Unless it is passed over, an attribute sets under its name the value that it gives, which is
ignored if the attribute is, but never if it is an association. -/
theorem Attribute.run_addTo {attr : Attribute} {site : Site}
    (present : attr.isSkipped site.proxy.strategy = false) :
    (attr.addTo runner).run site = (do
      let value ← attr.give runner
      Act.onProxy fun proxy =>
        proxy.set attr.name value (attr.ignored && !attr.isAssociation)).run site := by
  unfold Attribute.addTo give
  cases source : attr.source with
  | static value =>
    have kind : attr.isAssociation = false := by simp [isAssociation, factory?, source]
    rw [kind, Bool.not_false, Bool.and_true]
    rfl
  | dynamic block =>
    have kind : attr.isAssociation = false := by simp [isAssociation, factory?, source]
    rw [kind, Bool.not_false, Bool.and_true]
  | association factory overrides choice =>
    have kind : attr.isAssociation = true := by simp [isAssociation, factory?, source]
    rw [kind, Bool.not_true, Bool.and_false, bind_assoc]
    simp only
    rw [Act.associate, Act.run_ask_bind, Act.run_ask_bind]
    cases chosen : site.proxy.strategy with
    | attributesFor => simp [isSkipped, kind, chosen] at present
    | build => rfl
    | create => rfl
    | stub => rfl

/-- The value that an attribute gives when its turn comes is held in the end, if no later step sets
its name. -/
theorem Plan.holds_of_evaluate {before after : List Action} {attr : Attribute} {site last : Site}
    (done : (performAll runner (before ++ .evaluate attr :: after)).run site = (.ok (), last))
    (present : attr.isSkipped site.proxy.strategy = false)
    (free : ∀ action ∈ after, sets attr.name action → skips site.proxy.strategy action) :
    ∃ reached value given, (performAll runner before).run site = (.ok (), reached) ∧
      (attr.give runner).run reached = (.ok value, given) ∧
      last.proxy.Holds attr.name value (attr.ignored && !attr.isAssociation) := by
  obtain ⟨reached, first, onward⟩ := run_performAll_append.1 done
  obtain ⟨_, between, gave, rest⟩ := run_bind_eq_ok.1 onward
  rw [← strategy_performAll first] at present
  rw [perform, Attribute.run_addTo present] at gave
  obtain ⟨value, given, its, assigned⟩ := run_bind_eq_ok.1 gave
  have there : between.proxy.Holds attr.name value (attr.ignored && !attr.isAssociation) := by
    cases assigned
    exact Proxy.holds_set
  have same : between.proxy.strategy = site.proxy.strategy :=
    (strategy_performAll rest).symm.trans (strategy_performAll done)
  rw [← same] at free
  have agree : Site.Agree attr.name between ((performAll runner after).run between).2 :=
    agree_performAll free
  rw [rest] at agree
  exact ⟨reached, value, given, first, its, agree.holds there⟩

end Blueprint
