import Blueprint.Proofs.Build.Life

/-!
# Deeds that run no factory

What is done with an instance after it is made calls handlers and saves it. If the handlers run no
factories, no other instance is made on the way and no id is drawn: what is logged there are marks
and what is told of the instance itself.
-/
namespace Blueprint

/-- Something is done in turn for several things: it keeps what doing it for each one keeps. -/
theorem Act.keeps_inTurn {α : Type} {step : α → Act Unit} {related : Site → Site → Prop}
    [Std.Refl related] [IsTrans Site related] {items : List α}
    (each : ∀ item ∈ items, Keeps related (step item)) : Keeps related (inTurn step items) := by
  induction items with
  | nil => exact .pure ()
  | cons item rest ih =>
    exact (each item List.mem_cons_self).bind fun _ =>
      ih fun other member => each other (List.mem_cons_of_mem _ member)

/-- In a world no instance was made and no id drawn, and the registry is the same. -/
structure World.Heard (world after : World) : Prop where
  /-- The registry is the same. -/
  registry : after.registry = world.registry
  /-- No instance was made. -/
  made : after.made = world.made
  /-- No id was drawn. -/
  drawn : after.seen Event.drawn? = world.seen Event.drawn?

namespace World.Heard

instance : Std.Refl World.Heard := ⟨fun _ => ⟨rfl, rfl, rfl⟩⟩

instance : IsTrans World World.Heard := ⟨fun _ _ _ first second =>
  ⟨second.registry.trans first.registry, second.made.trans first.made,
    second.drawn.trans first.drawn⟩⟩

/-- Logging what draws no id is all that happened. -/
theorem of_logged (world : World) {event : Event} (drawsNone : event.drawn? = none) :
    world.Heard { world with log := world.log ++ [event] } :=
  ⟨rfl, rfl, by simp [seen, drawsNone]⟩

end World.Heard

/-- A mark draws no id. -/
theorem Event.drawn?_of_isMark (event : Event) (mark : event.isMark) : event.drawn? = none := by
  cases event with
  | tick | note | warning | method | call | made => rfl
  | drawn => cases mark

/-- Where only marks were left and counted no instance was made and no id drawn. -/
theorem World.Marked.heard {world after : World} (marked : world.Marked after) :
    world.Heard after :=
  ⟨marked.registry, marked.made, marked.filterMap Event.drawn?_of_isMark⟩

/-- When a handler that runs no factory is called no instance is made and no id is drawn. -/
theorem Handler.heard_call (runner : Runner) {handler : Handler}
    (silent : handler.body.any Expr.isBuild = false) (arguments : Nat) :
    Keeps (Function.onFun World.Heard Site.world) (handler.call runner arguments) := by
  have body : Keeps (Function.onFun World.Heard Site.world)
      (handler.body.eval runner (2 ≤ arguments)) :=
    fun site => (Expr.marked_eval runner _ silent site).heard
  exact (Act.keeps_askSubject _).bind fun serial =>
    Keeps.bind (fun site => .of_logged site.world rfl) fun _ => body.bind fun _ => .pure _

namespace Deed

/-- The handler that a deed calls, if it calls one. -/
def handler? : Deed → Option Handler
  | draw | construct | save => none
  | call callback => callback.handler
  | finish handler => some handler

/-- A deed calls no handler that runs a factory. -/
def IsSilent (deed : Deed) : Prop :=
  ∀ {handler}, deed.handler? = some handler → handler.body.any Expr.isBuild = false

/-- When something silent is done with an instance that is made, no other instance is made and no id
is drawn. -/
theorem heard_perform (runner : Runner) {deed : Deed} (later : deed.isLater)
    (silent : deed.IsSilent) :
    Keeps (Function.onFun World.Heard Site.world) (deed.perform runner) := by
  cases deed with
  | draw | construct => cases later
  | call callback =>
    show Keeps _ (callback.run runner)
    unfold Callback.run
    cases heard : callback.handler with
    | none => exact Act.keeps_fail _
    | some handler => exact handler.heard_call runner (silent heard) _
  | finish handler => exact handler.heard_call runner (silent rfl) 1
  | save =>
    refine (Act.keeps_ask _).bind fun method => (Act.keeps_ask _).bind fun callable => ?_
    refine (Act.keeps_askSubject _).bind fun model => (Act.keeps_askSubject _).bind fun serial => ?_
    cases callable with
    | false => exact Act.keeps_fail _
    | true =>
      refine Keeps.bind (fun site => .of_logged site.world rfl) fun _ => fun site => ?_
      show World.Heard site.world _
      unfold Act.onSubject
      rw [ExceptT.run_mk]
      split
      · exact refl_of World.Heard site.world
      · exact refl_of World.Heard site.world

/-- The deeds of a moment call the handlers of its callbacks. -/
theorem isSilent_of_moment {moment : Moment} {callbacks : List Callback}
    (silent : ∀ callback ∈ callbacks, callback.moment = moment → ∀ {handler},
      callback.handler = some handler → handler.body.any Expr.isBuild = false) :
    ∀ deed ∈ moment.deeds callbacks, deed.IsSilent := by
  intro deed member
  obtain ⟨callback, inside, rfl⟩ := List.mem_map.1 member
  obtain ⟨there, same⟩ := List.mem_filter.1 inside
  exact silent callback there (by simpa using same)

end Deed

namespace Filled

variable {filled : Filled} {runner : Runner}

/-- The id that is drawn for the instance of a run, if it is stubbed and has none yet. -/
def drawn? (filled : Filled) : Option Int :=
  if filled.site.proxy.strategy = .stub ∧ filled.site.proxy.has "id" = false then
    some filled.site.world.registry.nextStub
  else none

/-- Where all is ready the id is drawn, and the proxy holds it. -/
theorem drawn_ready (filled : Filled) :
    filled.site.ready.world.seen Event.drawn? =
        filled.site.world.seen Event.drawn? ++ filled.drawn?.toList ∧
      ∀ id, filled.drawn? = some id → filled.site.ready.proxy.Holds "id" (.int id) false := by
  unfold Site.ready drawn?
  cases filled.site.proxy.strategy with
  | build | create | attributesFor => simp
  | stub =>
    simp only
    rw [Proxy.drawId, Act.run_ask_bind]
    cases filled.site.proxy.has "id" with
    | true => exact ⟨(List.append_nil _).symm, by simp⟩
    | false =>
      refine ⟨?_, fun id its => ?_⟩
      · show (filled.site.world.log ++ [Event.drawn filled.site.world.registry.nextStub]).filterMap
          Event.drawn? = _
        simp [World.seen, Event.drawn?]
      · simp only [and_self, if_true, Option.some.injEq] at its
        rw [← its]
        exact Proxy.holds_set

/-- When the instance is made no id is drawn. -/
theorem drawn_instantiate (site : Site) :
    (Proxy.instantiate.run site).2.world.seen Event.drawn? = site.world.seen Event.drawn? := by
  obtain ⟨_, failed⟩ | ⟨_, _, _, _, _, _, _, _, done⟩ := Proxy.run_instantiate site
  · rw [failed]
  · rw [done]
    simp [World.seen, Event.drawn?]

/-- When the instance is made and silent deeds are done with it, no id is drawn, and no other
instance is made. -/
theorem heard_inTurn (runner : Runner) {later : List Deed} (each : ∀ deed ∈ later, deed.isLater)
    (silent : ∀ deed ∈ later, deed.IsSilent) (site : Site) :
    ((Act.inTurn (Deed.perform runner) (.construct :: later)).run site).2.world.seen Event.drawn? =
        site.world.seen Event.drawn? ∧
      ((Act.inTurn (Deed.perform runner) (.construct :: later)).run site).2.world.made ≤
        site.world.made + 1 := by
  have first := drawn_instantiate site
  have count : (Proxy.instantiate.run site).2.world.made ≤ site.world.made + 1 := by
    obtain ⟨_, failed⟩ | ⟨_, _, _, _, _, _, _, _, done⟩ := Proxy.run_instantiate site
    · rw [failed]
      exact Nat.le_succ _
    · exact Nat.le_of_eq (congrArg (fun result => result.2.world.made) done)
  rw [Act.inTurn, run_bind]
  cases made : (Deed.construct.perform runner).run site with
  | mk outcome after =>
    rw [show Proxy.instantiate.run site = _ from made] at first count
    cases outcome with
    | error fault => exact ⟨first, count⟩
    | ok _ =>
      have heard : World.Heard after.world
          ((Act.inTurn (Deed.perform runner) later).run after).2.world :=
        Act.keeps_inTurn (fun deed member =>
          Deed.heard_perform runner (each deed member) (silent deed member)) after
      exact ⟨heard.drawn.trans first, Nat.le_trans (Nat.le_of_eq heard.made) count⟩

/-- If nothing that a run does with its result runs a factory, the id of the result is the only one
that is drawn there, and the result the only instance that is made. -/
theorem For.quiet_result {choice : Value} {overrides : Dict}
    (fills : filled.For runner choice overrides) (silent : ∀ deed ∈ filled.deeds, deed.IsSilent) :
    ((Proxy.result runner filled.run.finalizer).run filled.site).2.world.seen Event.drawn? =
        filled.site.world.seen Event.drawn? ++ filled.drawn?.toList ∧
      ((Proxy.result runner filled.run.finalizer).run filled.site).2.world.made ≤ filled.serial := by
  by_cases values : filled.run.proxy.strategy = .attributesFor
  · rw [← fills.strategy] at values
    rw [Proxy.result, Act.run_ask_bind, drawn?, values]
    exact ⟨by simp [Act.ask], Nat.le_succ _⟩
  · obtain ⟨later, each, ways⟩ := filled.exists_later values fills.strategy
    obtain ⟨_, count, _⟩ := filled.ready_cases
    rw [Proxy.run_result_eq_deeds (by rwa [fills.strategy]), fills.strategy, fills.callbacks,
      show filled.run.proxy.strategy.deeds filled.run.finalizer filled.run.proxy.callbacks =
        filled.deeds from rfl]
    -- the deeds are done where all is ready, and nothing follows but asking for the instance
    have ready : ∀ {act : Act Value},
        (Act.inTurn (Deed.perform runner) filled.deeds >>= fun _ => act).run filled.site =
          (Act.inTurn (Deed.perform runner) (.construct :: later) >>= fun _ => act).run
            filled.site.ready := by
      intro act
      obtain ⟨same, ready⟩ | ⟨same, drawn⟩ := ways
      · rw [same, ready]
      · rw [same, Act.inTurn, bind_assoc, run_bind,
          show (Deed.draw.perform runner).run filled.site = _ from drawn]
    have quiet : ∀ deed ∈ later, deed.IsSilent := by
      obtain ⟨same, _⟩ | ⟨same, _⟩ := ways
      · exact fun deed member => silent deed (by simp [same, member])
      · exact fun deed member => silent deed (by simp [same, member])
    obtain ⟨drawn, made⟩ := heard_inTurn runner each quiet filled.site.ready
    rw [count] at made
    rw [ready, ← filled.drawn_ready.1, run_bind]
    cases did : (Act.inTurn (Deed.perform runner) (.construct :: later)).run filled.site.ready with
    | mk outcome last =>
      rw [did] at drawn made
      cases outcome with
      | error fault => exact ⟨drawn, made⟩
      | ok _ => exact ⟨drawn, made⟩

end Filled

/-! ### The code that a strategy runs -/

/-- A run with a strategy runs a piece of code if it comes upon it. -/
def Strategy.runs : Strategy → Piece → Bool
  | _, .block _ => true
  | build, .callback moment _ => moment == .afterBuild
  | create, .callback moment _ => moment == .afterBuild || moment == .afterCreate
  | create, .finalizer _ => true
  | stub, .callback moment _ => moment == .afterStub
  | _, _ => false

namespace Prepared.Resolves

variable {run : Prepared} {registry : Registry} {id : FactoryId} {list : AttributeList}
  {handler : Handler}

/-- The handlers of the callbacks that a run has prepared are code of the registry. -/
theorem piece_of_handler (resolves : run.Resolves registry id list) {callback : Callback}
    (member : callback ∈ run.proxy.callbacks) (its : callback.handler = some handler) :
    .callback callback.moment handler ∈ registry.pieces :=
  resolves.piece_of_callback member (by rw [Callback.piece?, its]; rfl)

/-- The finalizer that a run has prepared is code of the registry. -/
theorem piece_of_finalizer (resolves : run.Resolves registry id list)
    (its : run.finalizer = some handler) : .finalizer handler ∈ registry.pieces := by
  rw [resolves.finalizer] at its
  obtain ⟨factory, found, own⟩ := Option.bind_eq_some_iff.1 its
  have held : .finalizer handler ∈ factory.pieces := by simp [Factory.pieces, own]
  exact List.mem_append_left _
    (List.mem_flatMap.2 ⟨factory, List.mem_of_getElem? found, held⟩)

end Prepared.Resolves

/-- If no code that a strategy runs runs a factory, nothing that is done with an instance by that
strategy does. -/
theorem Job.isSilent_of_fill {job : Job} {filled : Filled} {after : World}
    (silent : ∀ piece ∈ job.world.registry.pieces, job.strategy.runs piece →
      piece.body.any Expr.isBuild = false)
    (fills : job.fill = (.ok filled, after)) : ∀ deed ∈ filled.deeds, deed.IsSilent := by
  obtain ⟨whole, _⟩ := filled_for fills
  obtain ⟨depth, deep, begun, path⟩ := path_of_fill fills
  obtain ⟨_, list, resolves⟩ := Runner.begin_eq_ok begun
  have steps := job.steps_begin
  rw [begun] at steps
  have heard : ∀ moment, (∀ handler, job.strategy.runs (.callback moment handler)) →
      ∀ deed ∈ moment.deeds filled.run.proxy.callbacks, deed.IsSilent := by
    refine fun moment runs => Deed.isSilent_of_moment ?_
    rintro callback member rfl handler its
    exact silent _ (World.pieces_of_steps steps (resolves.piece_of_handler member its))
      (runs handler)
  have saves : (∀ handler, job.strategy.runs (.finalizer handler)) →
      (Deed.saving filled.run.finalizer).IsSilent := by
    intro runs handler calls
    cases own : filled.run.finalizer with
    | none =>
      rw [own] at calls
      cases calls
    | some other =>
      rw [own] at calls
      cases calls
      exact silent _ (World.pieces_of_steps steps (resolves.piece_of_finalizer own)) (runs handler)
  have made : ∀ {rest : List Deed}, (∀ deed ∈ rest, deed.IsSilent) →
      ∀ deed ∈ Deed.construct :: rest, deed.IsSilent := by
    intro rest each deed member
    obtain rfl | inside := List.mem_cons.1 member
    · exact fun never => by cases never
    · exact each deed inside
  unfold Filled.deeds
  rw [strategy_of_for whole.prepared]
  cases strategy : job.strategy with
  | attributesFor => simp [Strategy.deeds]
  | build => exact made (heard .afterBuild fun _ => by simp [strategy, Strategy.runs])
  | create =>
    refine made fun deed member => ?_
    obtain inside | inside := List.mem_append.1 member
    · exact heard .afterBuild (fun _ => by simp [strategy, Strategy.runs]) deed inside
    · obtain rfl | later := List.mem_cons.1 inside
      · exact saves fun _ => by simp [strategy, Strategy.runs]
      · exact heard .afterCreate (fun _ => by simp [strategy, Strategy.runs]) deed later
  | stub =>
    intro deed member
    obtain rfl | inside := List.mem_cons.1 member
    · exact fun never => by cases never
    · exact made (heard .afterStub fun _ => by simp [strategy, Strategy.runs]) deed inside

end Blueprint
