import Blueprint.Proofs.Build.Ignored
import Blueprint.Proofs.Build.Nested
import Blueprint.Proofs.Build.Onward

/-!
# The life of an instance

What is done for the instance of a run is told by its deeds, one event for each, in order. Nothing
else that is logged is about it, since nested runs move the world onward; and so does the run
itself.
-/
namespace Blueprint

/-! ### What deeds tell -/

namespace Filled

/-- The number of the instance that is made. -/
def serial (filled : Filled) : Nat := filled.site.world.made + 1

/-- The model of the instance that is made, with the name of its class. -/
def model? (filled : Filled) : Option (String × Model) :=
  match filled.site.proxy.model with
  | .model name => (filled.site.world.models.lookup name).map fun model => (name, model)
  | _ => none

/-- The deeds by which the result is made. -/
def deeds (filled : Filled) : List Deed :=
  filled.run.proxy.strategy.deeds filled.run.finalizer filled.run.proxy.callbacks

end Filled

/-- What happens to the instance of a run when a deed is done. -/
def Deed.events (filled : Filled) : Deed → List Event
  | draw => []
  | construct =>
    filled.model?.toList.map fun entry => .made entry.1 filled.serial filled.arguments
  | call callback =>
    callback.handler.toList.map fun handler =>
      .call handler.label callback.argumentCount filled.serial
  | finish handler => [.call handler.label 1 filled.serial]
  | save =>
    match filled.site.world.registry.settings.persistMethod, filled.model? with
    | .ok method, some entry => [.method method entry.2.name filled.serial]
    | _, _ => []

/-- A deed is done with the instance after it is made. -/
def Deed.isLater : Deed → Bool
  | draw | construct => false
  | call _ | finish _ | save => true

/-- The instance of a run is at hand, and events have told of it so far. -/
structure Filled.Lives (filled : Filled) (events : List Event) (site : Site) : Prop where
  /-- It is at hand. -/
  subject : ∃ subject entry, site.subject = some subject ∧ subject.serial = filled.serial ∧
    filled.model? = some entry ∧ subject.model = entry.2.name
  /-- It is made. -/
  made : filled.serial ≤ site.world.made
  /-- The events are all that is logged about it, and no instance made before is concerned. -/
  log : ∃ added, site.world.log = filled.site.world.log ++ added ∧
    added.filter (Event.isAbout filled.serial) = events ∧
    ∀ event ∈ added, ∀ serial, event.serial? = some serial →
      filled.serial ≤ serial ∧ serial ≤ site.world.made
  /-- The models are the same. -/
  models : site.world.models = filled.site.world.models
  /-- The configuration is the same. -/
  settings : site.world.registry.settings = filled.site.world.registry.settings

namespace Filled.Lives

variable {filled : Filled} {events : List Event} {site after : Site}

/-- Where the site moves onward nothing more is told of the instance. -/
theorem onward (lives : filled.Lives events site) (onward : site.Onward after) :
    filled.Lives events after := by
  obtain ⟨subject, entry, here, serial, found, model⟩ := lives.subject
  obtain ⟨later, there, serialStill, modelStill⟩ := onward.subject here
  obtain ⟨added, logged, told, each⟩ := lives.log
  obtain ⟨more, further, others⟩ := onward.world.log
  refine ⟨⟨later, entry, there, serialStill.trans serial, found, modelStill.trans model⟩,
    Nat.le_trans lives.made onward.world.made, ⟨added ++ more, ?_, ?_, ?_⟩,
    onward.world.models.trans lives.models, onward.world.settings.trans lives.settings⟩
  · rw [further, logged, List.append_assoc]
  · rw [List.filter_append, told, List.filter_eq_nil_iff.2 fun event member about => ?_,
      List.append_nil]
    obtain ⟨low, _⟩ := others event member filled.serial (by simpa [Event.isAbout] using about)
    exact absurd lives.made (Nat.not_le_of_lt low)
  · intro event member other its
    obtain inside | inside := List.mem_append.1 member
    · obtain ⟨low, high⟩ := each event inside other its
      exact ⟨low, Nat.le_trans high onward.world.made⟩
    · obtain ⟨low, high⟩ := others event inside other its
      exact ⟨Nat.le_trans lives.made (Nat.le_of_lt low), high⟩

/-- An event that is logged about the instance tells of it next. -/
theorem emit (lives : filled.Lives events site) (event : Event)
    (about : event.serial? = some filled.serial) :
    filled.Lives (events ++ [event])
      { site with world := { site.world with log := site.world.log ++ [event] } } := by
  obtain ⟨added, logged, told, each⟩ := lives.log
  refine ⟨lives.subject, lives.made, ⟨added ++ [event], ?_, ?_, ?_⟩, lives.models, lives.settings⟩
  · rw [logged, List.append_assoc]
  · rw [List.filter_append, told, List.filter_cons_of_pos (by simp [Event.isAbout, about]),
      List.filter_nil]
  · intro other member serial its
    obtain inside | inside := List.mem_append.1 member
    · exact each other inside serial its
    · rw [List.mem_singleton.1 inside, about] at its
      cases its
      exact ⟨Nat.le_refl _, lives.made⟩

variable {runner : Runner} {outcome : Except Fault Unit}

/-- Asking for the number of the instance gives its number. -/
theorem run_askSubject {α : Type} (lives : filled.Lives events site) (view : Instance → α)
    {value : α} (same : ∀ subject : Instance, subject.serial = filled.serial →
      (∀ entry, filled.model? = some entry → subject.model = entry.2.name) →
        view subject = value) :
    (Act.askSubject view).run site = (.ok value, site) := by
  obtain ⟨subject, entry, here, serial, found, model⟩ := lives.subject
  have its : view subject = value := same subject serial fun other known => by
    rw [found] at known
    cases known
    exact model
  rw [Act.askSubject, Act.ask, ExceptT.run_mk, here]
  simp only
  rw [its]

/-- When a handler is called the call is told of, whatever comes of it. -/
theorem call (runs : runner.Onward) (lives : filled.Lives events site) {handler : Handler}
    {arguments : Nat} (did : (handler.call runner arguments).run site = (outcome, after)) :
    filled.Lives (events ++ [.call handler.label arguments filled.serial]) after := by
  rw [Handler.call, run_bind,
    lives.run_askSubject Instance.serial fun _ serial _ => serial] at did
  simp only at did
  rw [run_bind] at did
  have told := lives.emit (.call handler.label arguments filled.serial) rfl
  have body : Keeps Site.Onward (do
      let _ ← handler.body.eval runner (2 ≤ arguments) : Act Unit) :=
    (Expr.keeps_eval runs.keeping _ handler.body fun _ _ => trivial).bind fun _ => .pure _
  have moved := body
    { site with world := { site.world with
      log := site.world.log ++ [.call handler.label arguments filled.serial] } }
  have same : after = ((do let _ ← handler.body.eval runner (2 ≤ arguments) : Act Unit).run
      { site with world := { site.world with
        log := site.world.log ++ [.call handler.label arguments filled.serial] } }).2 :=
    (congrArg Prod.snd did).symm
  rw [same]
  exact told.onward moved

/-- When the instance is saved by its method this is told of; a method that it does not have is not
called. -/
theorem persist (lives : filled.Lives events site)
    (did : Proxy.persist.run site = (outcome, after)) :
    ∃ part, part <+: Deed.save.events filled ∧ filled.Lives (events ++ part) after ∧
      (outcome = .ok () → part = Deed.save.events filled ∧ part.length = 1) := by
  obtain ⟨subject, entry, here, serial, found, model⟩ := lives.subject
  rw [Proxy.persist, run_bind] at did
  cases named : site.world.registry.settings.persistMethod with
  | error fault =>
    have asked : (Act.ask fun site => site.world.registry.settings.persistMethod).run site =
        (.error fault, site) := by
      rw [← named]
      rfl
    rw [asked] at did
    cases did
    exact ⟨[], List.nil_prefix, by rwa [List.append_nil], fun never => by cases never⟩
  | ok method =>
    have asked : (Act.ask fun site => site.world.registry.settings.persistMethod).run site =
        (.ok method, site) := by
      rw [← named]
      rfl
    rw [asked] at did
    simp only at did
    rw [Act.run_ask_bind, run_bind,
      lives.run_askSubject Instance.model fun _ _ its => its entry found] at did
    simp only at did
    rw [run_bind, lives.run_askSubject Instance.serial fun _ its _ => its] at did
    simp only at did
    split at did
    · rw [run_bind] at did
      have told := lives.emit (.method method entry.2.name filled.serial) rfl
      have events_ : Deed.save.events filled = [.method method entry.2.name filled.serial] := by
        rw [lives.settings] at named
        simp [Deed.events, named, found]
      refine ⟨_, List.prefix_refl _, ?_, fun _ => ⟨rfl, by rw [events_]; rfl⟩⟩
      rw [events_]
      have saved : (Act.onSubject fun subject => { subject with persisted := true }).run
          { site with world := { site.world with
            log := site.world.log ++ [.method method entry.2.name filled.serial] } } =
          (.ok (), { site with
            world := { site.world with
              log := site.world.log ++ [.method method entry.2.name filled.serial] }
            subject := some { subject with persisted := true } }) := by
        simp only [Act.onSubject, ExceptT.run_mk, here]
      have same : after = { site with
          world := { site.world with
            log := site.world.log ++ [.method method entry.2.name filled.serial] }
          subject := some { subject with persisted := true } } :=
        (congrArg Prod.snd (saved.symm.trans did)).symm
      rw [same]
      exact ⟨⟨_, entry, rfl, serial, found, model⟩, told.made, told.log, told.models, told.settings⟩
    · cases did
      exact ⟨[], List.nil_prefix, by rwa [List.append_nil], fun never => by cases never⟩

/-- When something is done with the instance, it is told of as far as it is done. -/
theorem perform (runs : runner.Onward) (lives : filled.Lives events site) {deed : Deed}
    (later : deed.isLater) (did : (deed.perform runner).run site = (outcome, after)) :
    ∃ part, part <+: deed.events filled ∧ filled.Lives (events ++ part) after ∧
      (outcome = .ok () → part = deed.events filled ∧ part.length = 1) := by
  cases deed with
  | draw | construct => cases later
  | call callback =>
    cases heard : callback.handler with
    | none =>
      have failed : (callback.run runner).run site = (.error .wrongType, site) := by
        rw [Callback.run, heard]
        rfl
      cases failed.symm.trans did
      exact ⟨[], List.nil_prefix, by rwa [List.append_nil], fun never => by cases never⟩
    | some handler =>
      have called : (handler.call runner callback.argumentCount).run site = (outcome, after) := by
        rw [Deed.perform, Callback.run, heard] at did
        exact did
      have events_ : (Deed.call callback).events filled =
          [.call handler.label callback.argumentCount filled.serial] := by
        simp [Deed.events, heard]
      rw [events_]
      exact ⟨_, List.prefix_refl _, lives.call runs called, fun _ => ⟨rfl, rfl⟩⟩
  | finish handler =>
    exact ⟨_, List.prefix_refl _, lives.call runs did, fun _ => ⟨rfl, rfl⟩⟩
  | save => exact lives.persist did

end Filled.Lives

/-- What events tell of deeds that are done in turn: all of them, or those before one that fails,
and of that one at most that it was begun. -/
inductive Filled.Told (filled : Filled) (deeds : List Deed) :
    Except Fault Unit → List Event → Prop where
  /-- All deeds are done, and each of them but a draw is one event. -/
  | all (single : ∀ deed ∈ deeds, deed ≠ .draw → ∃ event, deed.events filled = [event]) :
      Told filled deeds (.ok ()) (deeds.flatMap (Deed.events filled))
  /-- A deed fails, and the others after it are not done. -/
  | part {done rest : List Deed} {deed : Deed} {begun : List Event} {fault : Fault}
      (split : deeds = done ++ deed :: rest)
      (single : ∀ deed ∈ done, deed ≠ .draw → ∃ event, deed.events filled = [event])
      (begins : begun <+: deed.events filled) :
      Told filled deeds (.error fault) (done.flatMap (Deed.events filled) ++ begun)

namespace Filled.Told

variable {filled : Filled} {deeds : List Deed} {outcome : Except Fault Unit} {events : List Event}

/-- One more deed before the others is told of first. -/
theorem cons (told : filled.Told deeds outcome events) {deed : Deed}
    (single : deed ≠ .draw → ∃ event, deed.events filled = [event]) :
    filled.Told (deed :: deeds) outcome (deed.events filled ++ events) := by
  have both : ∀ {others : List Deed},
      (∀ other ∈ others, other ≠ .draw → ∃ event, other.events filled = [event]) →
      ∀ other ∈ deed :: others, other ≠ .draw → ∃ event, other.events filled = [event] := by
    intro others each other member
    obtain rfl | inside := List.mem_cons.1 member
    · exact single
    · exact each other inside
  cases told with
  | all each => exact .all (both each)
  | @part done rest failing begun fault split each begins =>
    have longer : filled.Told (deed :: deeds) (.error fault)
        ((deed :: done).flatMap (Deed.events filled) ++ begun) :=
      .part (by rw [split]; rfl) (both each) begins
    rwa [List.flatMap_cons, List.append_assoc] at longer

end Filled.Told

/-- When deeds are done with the instance in turn, they are told of in order as far as they are
done. -/
theorem Filled.Lives.inTurn {runner : Runner} {filled : Filled} {events : List Event}
    {deeds : List Deed} {site last : Site} {outcome : Except Fault Unit} (runs : runner.Onward)
    (lives : filled.Lives events site) (later : ∀ deed ∈ deeds, deed.isLater)
    (did : (Act.inTurn (Deed.perform runner) deeds).run site = (outcome, last)) :
    ∃ told, filled.Lives (events ++ told) last ∧ filled.Told deeds outcome told := by
  induction deeds generalizing site events with
  | nil =>
    cases did
    exact ⟨[], by rwa [List.append_nil], .all fun _ member => by cases member⟩
  | cons deed rest ih =>
    rw [Act.inTurn, run_bind] at did
    cases first : (deed.perform runner).run site with
    | mk result middle =>
      rw [first] at did
      obtain ⟨part, begins, onward, whole⟩ :=
        lives.perform runs (later deed List.mem_cons_self) first
      cases result with
      | error fault =>
        cases did
        have none_ : ∀ other ∈ ([] : List Deed),
            other ≠ .draw → ∃ event, other.events filled = [event] :=
          fun _ member => by cases member
        exact ⟨part, onward, .part rfl none_ begins⟩
      | ok _ =>
        obtain ⟨rfl, one⟩ := whole rfl
        obtain ⟨event, its⟩ := List.length_eq_one_iff.1 one
        obtain ⟨told, lived, tells⟩ :=
          ih onward (fun other member => later other (List.mem_cons_of_mem _ member)) did
        refine ⟨deed.events filled ++ told, ?_, tells.cons fun _ => ⟨event, its⟩⟩
        rwa [List.append_assoc] at lived

/-! ### Making the instance -/

/-- Making an instance fails and changes nothing, or makes one of the model of the proxy from the
values that are not ignored, which is not saved. -/
theorem Proxy.run_instantiate (site : Site) :
    (∃ fault, instantiate.run site = (.error fault, site)) ∨
    ∃ name model made, site.proxy.model = .model name ∧
      site.world.models.lookup name = some model ∧ made.model = model.name ∧
      made.serial = site.world.made + 1 ∧ made.persisted = false ∧
      instantiate.run site = (.ok (),
        { site with
          world := { site.world with
            made := site.world.made + 1
            log := site.world.log ++
              [.made name (site.world.made + 1) site.proxy.persistedValues] }
          subject := some made }) := by
  rw [instantiate, ExceptT.run_mk, Build.construct, ExceptT.run_mk]
  cases its : site.proxy.model with
  | model name =>
    cases found : site.world.models.lookup name with
    | none =>
      simp only [found]
      exact .inl ⟨_, rfl⟩
    | some model =>
      cases constructed : model.construct (site.world.made + 1) site.proxy.persistedValues with
      | error fault =>
        simp only [found, constructed]
        exact .inl ⟨fault, rfl⟩
      | ok made =>
        simp only [found, constructed]
        refine .inr ⟨name, model, made, rfl, found, ?_, ?_, ?_, rfl⟩
        all_goals
          rw [Model.construct] at constructed
          split at constructed
          · cases constructed
          · cases constructed
            rfl
  | _ =>
    simp only
    exact .inl ⟨_, rfl⟩

namespace Filled

variable {filled : Filled} {runner : Runner} {choice : Value} {overrides : Dict}

/-- Where all is ready at most an id was drawn. -/
theorem ready_cases (filled : Filled) :
    filled.site.world.Onward filled.site.ready.world ∧
      filled.site.ready.world.made = filled.site.world.made ∧
      filled.site.ready.proxy.model = filled.site.proxy.model := by
  unfold Site.ready
  cases filled.site.proxy.strategy with
  | build | create | attributesFor => exact ⟨.refl _, rfl, rfl⟩
  | stub =>
    simp only
    rw [Proxy.drawId, Act.run_ask_bind]
    cases filled.site.proxy.has "id" with
    | true => exact ⟨.refl _, rfl, rfl⟩
    | false =>
      refine ⟨⟨Nat.le_refl _, ⟨[.drawn _], rfl, fun event member serial its => ?_⟩, rfl, rfl⟩,
        rfl, rfl⟩
      rw [List.mem_singleton.1 member] at its
      cases its

/-- Once the instance is made, this is told of it. -/
theorem lives_of_instantiate {made : Site}
    (did : Proxy.instantiate.run filled.site.ready = (.ok (), made)) :
    filled.Lives (Deed.construct.events filled) made ∧
      ∃ event, Deed.construct.events filled = [event] := by
  obtain ⟨onward, count, same⟩ := filled.ready_cases
  obtain ⟨added, logged, each⟩ := onward.log
  obtain ⟨fault, failed⟩ | ⟨name, model, instance_, its, found, named, numbered, _, done⟩ :=
    Proxy.run_instantiate filled.site.ready
  · rw [did] at failed
    cases failed
  · rw [did] at done
    cases done
    rw [count] at numbered
    have modelled : filled.model? = some (name, model) := by
      rw [model?, ← same, its]
      simp only
      rw [← onward.models, found]
      rfl
    have events : Deed.construct.events filled = [.made name filled.serial filled.arguments] := by
      simp [Deed.events, modelled]
    have numberIs : filled.site.ready.world.made + 1 = filled.serial := by rw [count]; rfl
    rw [events]
    refine ⟨⟨⟨instance_, _, rfl, numbered, modelled, named⟩, ?_, ⟨added ++
      [.made name filled.serial filled.arguments], ?_, ?_, ?_⟩, onward.models, onward.settings⟩,
      _, rfl⟩
    · exact Nat.le_of_eq numberIs.symm
    · rw [numberIs, logged, List.append_assoc]
      rfl
    · rw [List.filter_append, List.filter_eq_nil_iff.2 fun event member about => ?_]
      · simp [Event.isAbout, Event.serial?]
      · obtain ⟨low, high⟩ := each event member filled.serial (by simpa [Event.isAbout] using about)
        rw [count] at high
        omega
    · intro event member serial about
      show filled.serial ≤ serial ∧ serial ≤ filled.site.ready.world.made + 1
      rw [numberIs]
      obtain inside | last := List.mem_append.1 member
      · obtain ⟨low, high⟩ := each event inside serial about
        rw [count] at high
        omega
      · rw [List.mem_singleton.1 last] at about
        cases about
        exact ⟨Nat.le_refl _, Nat.le_refl _⟩

/-- A world in which the instance of a run lives has moved onward since its proxy was filled. -/
theorem Lives.onward_world {events : List Event} {site : Site} (lives : filled.Lives events site) :
    filled.site.world.Onward site.world := by
  obtain ⟨added, logged, _, each⟩ := lives.log
  refine ⟨Nat.le_trans (Nat.le_succ _) lives.made, ⟨added, logged, fun event member serial its => ?_⟩,
    lives.models, lives.settings⟩
  obtain ⟨low, high⟩ := each event member serial its
  exact ⟨Nat.lt_of_lt_of_le (Nat.lt_succ_self _) low, high⟩

/-- What is logged while the instance is made, and afterwards something is done with it, tells of
this as far as it is done. -/
theorem told_inTurn (runs : runner.Onward) {later : List Deed}
    (each : ∀ deed ∈ later, deed.isLater) {outcome : Except Fault Unit} {last : Site}
    (did : (Act.inTurn (Deed.perform runner) (.construct :: later)).run filled.site.ready =
      (outcome, last)) :
    filled.site.world.Onward last.world ∧
    (∃ added, last.world.log = filled.site.world.log ++ added ∧
      filled.Told (.construct :: later) outcome (added.filter (Event.isAbout filled.serial))) ∧
    (outcome = .ok () → ∃ events, filled.Lives events last) := by
  rw [Act.inTurn, run_bind] at did
  cases first : (Deed.construct.perform runner).run filled.site.ready with
  | mk result made =>
    rw [first] at did
    cases result with
    | error fault =>
      cases did
      obtain ⟨_, failed⟩ | ⟨_, _, _, _, _, _, _, _, done⟩ := Proxy.run_instantiate filled.site.ready
      · cases first.symm.trans failed
        obtain ⟨onward, count, _⟩ := filled.ready_cases
        obtain ⟨added, logged, concerns⟩ := onward.log
        refine ⟨onward, ⟨added, logged, ?_⟩, fun never => by cases never⟩
        rw [List.filter_eq_nil_iff.2 fun event member about => ?_]
        · have none_ : ∀ other ∈ ([] : List Deed),
              other ≠ .draw → ∃ event, other.events filled = [event] :=
            fun _ member => by cases member
          exact .part rfl none_ List.nil_prefix
        · obtain ⟨low, high⟩ :=
            concerns event member filled.serial (by simpa [Event.isAbout] using about)
          rw [count] at high
          exact absurd high (Nat.not_succ_le_self _)
      · cases first.symm.trans done
    | ok _ =>
      obtain ⟨lives, one⟩ := lives_of_instantiate first
      obtain ⟨told, lived, tells⟩ := lives.inTurn runs each did
      obtain ⟨added, logged, same, _⟩ := lived.log
      refine ⟨lived.onward_world, ⟨added, logged, ?_⟩, fun _ => ⟨_, lived⟩⟩
      rw [same]
      exact tells.cons fun _ => one

/-- The deeds of a run that makes an instance are to make it and what is done with it later, after
an id is drawn for a stubbed one. -/
theorem exists_later (filled : Filled) (makes : filled.run.proxy.strategy ≠ .attributesFor)
    (same : filled.site.proxy.strategy = filled.run.proxy.strategy) :
    ∃ later : List Deed, (∀ deed ∈ later, deed.isLater) ∧
      (filled.deeds = .construct :: later ∧ filled.site.ready = filled.site ∨
        filled.deeds = .draw :: .construct :: later ∧
          Proxy.drawId.run filled.site = (.ok (), filled.site.ready)) := by
  have heard : ∀ (moment : Moment) (callbacks : List Callback),
      ∀ deed ∈ moment.deeds callbacks, deed.isLater := by
    intro moment callbacks deed member
    obtain ⟨callback, _, rfl⟩ := List.mem_map.1 member
    rfl
  have saves : ∀ finalizer, (Deed.saving finalizer).isLater := by
    intro finalizer
    cases finalizer <;> rfl
  unfold deeds Site.ready
  rw [same]
  cases strategy : filled.run.proxy.strategy with
  | attributesFor => exact absurd strategy makes
  | build => exact ⟨_, heard .afterBuild _, .inl ⟨rfl, rfl⟩⟩
  | create =>
    refine ⟨_, fun deed member => ?_, .inl ⟨rfl, rfl⟩⟩
    obtain inside | inside := List.mem_append.1 member
    · exact heard _ _ deed inside
    · obtain rfl | after := List.mem_cons.1 inside
      · exact saves _
      · exact heard _ _ deed after
  | stub => exact ⟨_, heard .afterStub _, .inr ⟨rfl, Proxy.run_drawId _⟩⟩

/-- The callbacks are those that were prepared. -/
theorem For.callbacks (fills : filled.For runner choice overrides) :
    filled.site.proxy.callbacks = filled.run.proxy.callbacks := by
  have keeping : Keeping runner
      (Function.onFun (Function.onFun Eq Proxy.callbacks) Site.proxy) fun _ => True :=
    runner.keeping_proxy fun _ _ _ _ _ => rfl
  have kept := Plan.keeps_performAll keeping filled.run.plan.actions (fun _ _ _ _ => trivial)
    filled.start
  rw [fills.done] at kept
  exact kept.symm.trans (congrArg Proxy.callbacks fills.start)

/-- What a run does with its result is told by its deeds: the world moves onward, and what is logged
about the instance tells of them as far as they are done. The result is the instance. -/
theorem For.told_result (fills : filled.For runner choice overrides) (runs : runner.Onward)
    (makes : filled.run.proxy.strategy ≠ .attributesFor) {outcome : Except Fault Value}
    {last : Site}
    (did : (Proxy.result runner filled.run.finalizer).run filled.site = (outcome, last)) :
    filled.site.world.Onward last.world ∧
    (∃ added, last.world.log = filled.site.world.log ++ added ∧
      filled.Told filled.deeds (outcome.map fun _ => ())
        (added.filter (Event.isAbout filled.serial))) ∧
    ∀ value, outcome = .ok value → ∃ model persisted fields,
      value = .object model filled.serial persisted fields := by
  rw [Proxy.run_result_eq_deeds (by rwa [fills.strategy]), fills.strategy, fills.callbacks,
    run_bind] at did
  obtain ⟨later, each, ways⟩ := filled.exists_later makes fills.strategy
  -- drawing an id comes first, and is no event of the instance
  have rest : ∀ {result : Except Fault Unit} {site : Site},
      (Act.inTurn (Deed.perform runner) filled.deeds).run filled.site = (result, site) →
      filled.site.world.Onward site.world ∧
      (∃ added, site.world.log = filled.site.world.log ++ added ∧
        filled.Told filled.deeds result (added.filter (Event.isAbout filled.serial))) ∧
      (result = .ok () → ∃ events, filled.Lives events site) := by
    intro result site done
    obtain ⟨same, ready⟩ | ⟨same, drawn⟩ := ways
    · rw [same] at done ⊢
      rw [← ready] at done
      exact told_inTurn runs each done
    · rw [same, Act.inTurn, run_bind, show (Deed.draw.perform runner).run filled.site = _ from drawn]
        at done
      obtain ⟨onward, ⟨added, logged, tells⟩, lives⟩ := told_inTurn runs each done
      rw [same]
      exact ⟨onward, ⟨added, logged, tells.cons fun never => absurd rfl never⟩, lives⟩
  cases done : (Act.inTurn (Deed.perform runner) filled.deeds).run filled.site with
  | mk result site =>
    rw [show filled.run.proxy.strategy.deeds filled.run.finalizer filled.run.proxy.callbacks =
      filled.deeds from rfl, done] at did
    obtain ⟨onward, logged, lives⟩ := rest done
    cases result with
    | error fault =>
      cases did
      exact ⟨onward, logged, fun _ never => by cases never⟩
    | ok _ =>
      obtain ⟨events, lives⟩ := lives rfl
      obtain ⟨subject, _, here, serial, _, _⟩ := lives.subject
      have asked : (Act.askSubject Instance.value).run site = (.ok subject.value, site) := by
        rw [Act.askSubject, Act.ask, ExceptT.run_mk, here]
      cases asked.symm.trans did
      refine ⟨onward, logged, ?_⟩
      rintro _ ⟨⟩
      exact ⟨subject.model, subject.persisted, subject.fields, by rw [Instance.value, serial]⟩

end Filled

/-! ### Runs move onward -/

/-- Making the result of a run moves the world onward. -/
theorem Filled.For.onward_finish {filled : Filled} {runner : Runner} {choice : Value}
    {overrides : Dict} (fills : filled.For runner choice overrides) (runs : runner.Onward) :
    filled.site.world.Onward ((filled.finish runner).run filled.site.world).2 := by
  have same : ((filled.finish runner).run filled.site.world).2 =
      ((Proxy.result runner filled.run.finalizer).run filled.site).2.world := rfl
  rw [same]
  cases did : (Proxy.result runner filled.run.finalizer).run filled.site with
  | mk outcome last =>
    by_cases values : filled.run.proxy.strategy = .attributesFor
    · rw [← fills.strategy] at values
      rw [Proxy.result, Act.run_ask_bind, values] at did
      cases did
      exact .refl _
    · exact (fills.told_result runs values did).1

/-- Filling a proxy moves the world onward. -/
theorem Runner.Onward.fill {runner : Runner} (runs : runner.Onward) (id : FactoryId)
    (choice : Value) (overrides : Dict) (world : World) :
    world.Onward ((runner.fill id choice overrides).run world).2 := by
  have begun := (sameRest_begin id choice overrides world).onward
    (walks_begin id choice overrides world)
  rw [fill_eq_begin, run_bind]
  cases made : (begin id choice overrides).run world with
  | mk outcome ready =>
    rw [made] at begun
    cases outcome with
    | error fault => exact begun
    | ok run =>
      refine begun.trans ?_
      have carried : Keeps Site.Onward (run.plan.carryOut runner) := by
        refine (Plan.keeps_performAll runs.keeping run.plan.actions fun _ _ _ _ => trivial).bind
          fun _ => ?_
        cases run.plan.fault with
        | none => exact .pure ()
        | some fault => exact Act.keeps_fail fault
      have moved := (carried { world := ready, proxy := run.proxy }).world
      show ready.Onward ((run.fill runner).run ready).2
      rw [Prepared.fill, ExceptT.run_mk]
      dsimp only
      cases did : (run.plan.carryOut runner).run { world := ready, proxy := run.proxy } with
      | mk result site =>
        rw [did] at moved
        cases result <;> exact moved

/-- All runs move the world onward, however deep they are nested. -/
theorem Runner.onward_within (depth : Nat) : (within depth).Onward := by
  induction depth with
  | zero => exact fun _ _ _ world => .refl world
  | succ depth ih =>
    intro id choice overrides world
    have filling := Runner.Onward.fill ih id choice overrides world
    rw [within, next_eq_fill, run_bind]
    cases filled : ((within depth).fill id choice overrides).run world with
    | mk outcome after =>
      rw [filled] at filling
      cases outcome with
      | error fault => exact filling
      | ok filled_ =>
        obtain ⟨whole, same⟩ := fill_eq_ok filled
        subst same
        exact filling.trans (whole.onward_finish ih)

end Blueprint
