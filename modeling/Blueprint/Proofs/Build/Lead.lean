import Blueprint.Proofs.Build.Alike
import Blueprint.Proofs.Build.Quiet
import Blueprint.Proofs.Build.Session
import Blueprint.Proofs.Registry.Used

/-!
# Worlds in which other runs went before

Two worlds have the registry of the same history, in each of which it may have been used in another
way. The one draws ids as the other does, but is ahead by some number. A run goes abreast in both:
what it prepares is the same.
-/
namespace Blueprint

open Registry

/-- An id that is drawn from a first one on, and the one that is drawn in its place where drawing is
ahead. -/
def AheadBy (first ahead : Int) (id other : Int) : Prop := first ≤ id ∧ other = id + ahead

/-- How one world may be ahead of another one: the history of the registry, the models, what was
logged before, the first id that matters, and by how much the one is ahead in drawing ids. -/
structure Lead where
  /-- The history of the registry that both worlds use. -/
  history : History
  /-- The models of both worlds. -/
  models : Table String Model
  /-- What was logged in the one world. -/
  log : List Event
  /-- What was logged in the other world. -/
  logOther : List Event
  /-- The first id that is drawn. -/
  first : Int
  /-- How much further the ids are in the other world. -/
  ahead : Int

namespace Lead

/-- An id that is drawn in the one world, and the one that is drawn in its place in the other. -/
abbrev Ids (lead : Lead) : Int → Int → Prop := AheadBy lead.first lead.ahead

/-- The flag that tells whether a value may be looked at once ids are drawn: only if the ids are the
same. -/
def late (lead : Lead) : Bool := decide (lead.ahead = 0)

/-- What an expression may not do where runs go abreast: it takes no number of a counter, changes no
value in place, reads no field of a value unless the ids are the same, and looks into no values
unless a flag allows this. -/
def bars (lead : Lead) (seen : Bool) (expr : Expr) : Bool :=
  expr.isCounter || expr.isAlter || !lead.late && expr.isPart || !seen && expr.isInspection

/-- What is logged in both worlds since is alike. -/
def Logs (lead : Lead) (log other : List Event) : Prop :=
  ∃ events twins, log = lead.log ++ events ∧ other = lead.logOther ++ twins ∧
    List.Forall₂ (Event.Alike lead.Ids) events twins

/-- Two worlds that differ only in how they were used, and in how far the ids are. -/
structure Worlds (lead : Lead) (world other : World) : Prop where
  /-- The one uses the registry. -/
  used : lead.history.Used world.registry
  /-- The other uses the registry. -/
  usedOther : lead.history.Used other.registry
  /-- The models of the one. -/
  models : world.models = lead.models
  /-- The models of the other. -/
  modelsOther : other.models = lead.models
  /-- The same happened in both. -/
  logs : lead.Logs world.log other.log
  /-- No id is drawn before the first one. -/
  first : lead.first ≤ world.registry.nextStub
  /-- The other is ahead. -/
  ahead : other.registry.nextStub = world.registry.nextStub + lead.ahead
  /-- In the one no instance was changed in place. -/
  unaltered : world.altered = []
  /-- In the other no instance was changed in place. -/
  unalteredOther : other.altered = []

/-- A registry in which what blocks and callbacks do depends on the proxy and the instance only,
and changes nothing else: they take no numbers of counters, and change no value in place. It is
sealed. -/
structure Fair (lead : Lead) : Prop where
  /-- The history is that of a registry. -/
  reached : lead.history.Reached
  /-- It is sealed. -/
  isSealed : lead.history.registry.isSealed = true
  /-- No code takes the number of a counter. -/
  uncounted : ∀ piece ∈ lead.history.registry.pieces, piece.body.any Expr.isCounter = false
  /-- No code changes a value in place. -/
  unaltering : ∀ piece ∈ lead.history.registry.pieces, piece.body.any Expr.isAlter = false
  /-- Unless the ids are the same, no code reads fields of values. -/
  partless : lead.ahead = 0 ∨ ∀ piece ∈ lead.history.registry.pieces,
    piece.body.any Expr.isPart = false
  /-- Unless the ids are the same, what is called for stubbed instances looks into no values. -/
  blind : lead.ahead = 0 ∨ ∀ handler, .callback .afterStub handler ∈ lead.history.registry.pieces →
    handler.body.any Expr.isInspection = false

/-- Code of the registry does nothing that is barred, if it looks into no values where that is
barred. -/
theorem Fair.admits {lead : Lead} (fair : lead.Fair) {seen : Bool} {piece : Piece}
    (member : piece ∈ lead.history.registry.pieces)
    (blind : seen = false → piece.body.any Expr.isInspection = false) :
    piece.body.any (lead.bars seen) = false := by
  have uncounted := fair.uncounted piece member
  have unaltering := fair.unaltering piece member
  have partless : lead.late = false → piece.body.any Expr.isPart = false := fun ahead =>
    fair.partless.resolve_left (of_decide_eq_false ahead) piece member
  unfold bars
  cases late : lead.late <;> cases seen <;> simp_all [Expr.any_or]

/-- Something of which all code is in the registry. -/
def Holds (lead : Lead) (piece? : Option Piece) : Prop :=
  ∀ piece, piece? = some piece → piece ∈ lead.history.registry.pieces

/-- What a run has prepared holds code of the registry only. -/
structure Owns (lead : Lead) (run : Prepared) : Prop where
  /-- The blocks of its attributes are in the registry. -/
  attributes : ∀ attr ∈ run.attributes, lead.Holds attr.piece?
  /-- Its callbacks are in the registry. -/
  callbacks : ∀ callback ∈ run.proxy.callbacks, lead.Holds callback.piece?
  /-- Its finalizer is in the registry. -/
  finalizer : lead.Holds (run.finalizer.map .finalizer)

variable {lead : Lead} {world other : World} {id : FactoryId}

/-! ### What is found in both worlds -/

/-- Events that are alike may follow. -/
theorem Logs.snoc {log twins : List Event} (logs : lead.Logs log twins) {event twin : Event}
    (alike : event.Alike lead.Ids twin) : lead.Logs (log ++ [event]) (twins ++ [twin]) := by
  obtain ⟨events, others, rfl, rfl, each⟩ := logs
  exact ⟨events ++ [event], others ++ [twin], List.append_assoc _ _ _, List.append_assoc _ _ _,
    List.rel_append each (.cons alike .nil)⟩

namespace Worlds

/-- Worlds stay related when events that are alike are logged, whatever the number of instances. -/
theorem logged (worlds : lead.Worlds world other) {event twin : Event}
    (alike : event.Alike lead.Ids twin) (made number : Nat) :
    lead.Worlds { world with log := world.log ++ [event], made := made }
      { other with log := other.log ++ [twin], made := number } :=
  { worlds with logs := worlds.logs.snoc alike }

/-- Worlds stay related when both registries are used without drawing an id. -/
theorem withRegistry (worlds : lead.Worlds world other) {one two : Registry}
    (used : lead.history.Used one) (usedOther : lead.history.Used two)
    (next : one.nextStub = world.registry.nextStub)
    (nextOther : two.nextStub = other.registry.nextStub) :
    lead.Worlds { world with registry := one } { other with registry := two } :=
  ⟨used, usedOther, worlds.models, worlds.modelsOther, worlds.logs, next ▸ worlds.first,
    by rw [next, nextOther, worlds.ahead], worlds.unaltered, worlds.unalteredOther⟩

variable (worlds : lead.Worlds world other)
include worlds

/-- The registries are the same but for their factories and how far the ids are. -/
theorem rest : other.registry = { world.registry with
    factories := other.registry.factories, nextStub := other.registry.nextStub } :=
  worlds.used.rest_eq worlds.usedOther

/-- The same factory is registered under a name, in the history too. -/
theorem find (name : Value) : world.registry.find name = lead.history.registry.find name ∧
    other.registry.find name = lead.history.registry.find name := by
  rw [Registry.find, Registry.find, Registry.find, worlds.used.concurs.parents.names,
    worlds.usedOther.concurs.parents.names]
  exact ⟨rfl, rfl⟩

/-- The patterns find the same names for a key. -/
theorem aliasesFor : other.registry.aliasesFor = world.registry.aliasesFor := by
  funext key
  rw [Registry.aliasesFor, Registry.aliasesFor, worlds.rest]

/-- The configuration is the same. -/
theorem settings : other.registry.settings = world.registry.settings := by
  rw [worlds.rest]

end Worlds

end Lead

/-! ### Builds abreast -/

namespace Build

variable {lead : Lead} {α β : Type} {related : α → β → Prop} {states : World → World → Prop}

/-- What fails with the same fault goes abreast. -/
theorem abreast_fail (fault : Fault) : Abreast states related (fail fault) (fail fault) :=
  fun _ _ same => ⟨.error fault, same⟩

/-- Outcomes that agree go abreast. -/
theorem abreast_ofExcept {outcome : Except Fault α} {result : Except Fault β}
    (agree : Tally related outcome result) :
    Abreast states related (ofExcept outcome) (ofExcept result) :=
  fun _ _ same => ⟨agree, same⟩

/-- What is asked of related worlds goes abreast if the answers agree. -/
theorem abreast_ask {view : World → Except Fault α} {look : World → Except Fault β}
    (agree : ∀ {world other}, states world other → Tally related (view world) (look other)) :
    Abreast states related (ask view) (ask look) :=
  fun _ _ same => ⟨agree same, same⟩

/-- Logging events that are alike goes abreast. -/
theorem abreast_emit {event twin : Event} (alike : event.Alike lead.Ids twin) :
    Abreast lead.Worlds Eq (emit event) (emit twin) :=
  fun world other same => ⟨.ok rfl, same.logged alike world.made other.made⟩

/-- Ids are drawn abreast. -/
theorem abreast_drawStub : Abreast lead.Worlds lead.Ids drawStub drawStub := by
  intro world other same
  have ids : lead.Ids world.registry.nextStub other.registry.nextStub := ⟨same.first, same.ahead⟩
  refine ⟨.ok ids, same.used.drawStub, same.usedOther.drawStub, same.models, same.modelsOther,
    same.logs.snoc (.drawn ids), Int.le_trans same.first (Int.le_of_lt (Int.lt_succ _)), ?_,
    same.unaltered, same.unalteredOther⟩
  show other.registry.nextStub + 1 = world.registry.nextStub + 1 + lead.ahead
  rw [same.ahead]
  omega

/-- Matching instances are made of matching arguments. -/
theorem abreast_construct {seen : Bool} (model : Value) {arguments others : Table String Value}
    (matched : Table.Alike (Value.Match lead.Ids seen) arguments others) :
    Abreast lead.Worlds (Instance.Match lead.Ids seen) (construct model arguments)
      (construct model others) := by
  intro world other same
  have models : other.models = world.models := same.modelsOther.trans same.models.symm
  cases model with
  | model name =>
    simp only [construct, ExceptT.run_mk, models]
    cases world.models.lookup name with
    | none => exact ⟨.error _, same⟩
    | some model =>
      simp only
      have agree := model.agree_construct (world.made + 1) (other.made + 1) matched
      generalize model.construct (world.made + 1) arguments = outcome at agree ⊢
      generalize model.construct (other.made + 1) others = result at agree ⊢
      cases agree with
      | ok alike =>
        have given : Table.Alike (Value.Alike lead.Ids) arguments others :=
          matched.imp fun _ _ pair => ⟨pair.1, pair.2.alike⟩
        have logged := same.logged (.made name (world.made + 1) (other.made + 1) given)
          (world.made + 1) (other.made + 1)
        exact ⟨.ok alike, { logged with modelsOther := same.models }⟩
      | error fault => exact ⟨.error fault, same⟩
  | _ => exact ⟨.error _, same⟩

end Build

/-! ### Preparing abreast -/

namespace Lead

variable {lead : Lead} {world other : World} {id : FactoryId}

/-- Two such worlds in both of which a factory is compiled. -/
structure Ready (lead : Lead) (id : FactoryId) (world other : World) : Prop where
  /-- The worlds are related. -/
  worlds : lead.Worlds world other
  /-- In the one the factory is compiled. -/
  finished : world.registry.Finished id
  /-- In the other the factory is compiled. -/
  finishedOther : other.registry.Finished id

/-- What is told of a compiled factory in outline is the same in both worlds. -/
theorem Ready.exists_outline (ready : lead.Ready id world other)
    (reached : lead.history.Reached) : ∃ factory later, world.registry.factory? id = some factory ∧
      other.registry.factory? id = some later ∧
      later = { factory with children := later.children, model := later.model } := by
  obtain ⟨factory, later, found, there, _, same⟩ := ready.worlds.used.exists_outline reached
    ready.worlds.usedOther ready.finished ready.finishedOther
  exact ⟨factory, later, found, there, eq_of_outline same⟩

end Lead

namespace Runner

variable {lead : Lead} {id : FactoryId}

/-- The model classes of a compiled factory are looked up abreast. -/
theorem abreast_model (fair : lead.Fair) (id : FactoryId) :
    Abreast (lead.Ready id) Eq (Build.onRegistry (Registry.model id))
      (Build.onRegistry (Registry.model id)) := by
  intro world other ready
  have still : ∀ {registry : Registry}, registry.Finished id →
      (Registry.model id registry).2.Finished id := by
    rintro registry ⟨factory, list, found, compiled⟩
    obtain ⟨later, there, kept⟩ := (moves_model registry id).extends.compiled found compiled
    exact ⟨later, list, there, kept.status.trans compiled⟩
  have same := ready.worlds.used.model_fst fair.reached ready.worlds.usedOther ready.finished
    ready.finishedOther
  rw [Build.run_onRegistry, Build.run_onRegistry, same]
  exact ⟨.refl (fun _ => rfl) _, ready.worlds.withRegistry (ready.worlds.used.model ready.finished)
    (ready.worlds.usedOther.model ready.finishedOther) (Reworks.model _ id).nextStub
    (Reworks.model _ id).nextStub, still ready.finished, still ready.finishedOther⟩

/-- The attributes of a compiled factory are given abreast. -/
theorem abreast_attributes (fair : lead.Fair) (id : FactoryId) :
    Abreast (lead.Ready id) Eq (Build.onRegistry (Registry.attributes id))
      (Build.onRegistry (Registry.attributes id)) := by
  intro world other ready
  have idle : ∀ {registry : Registry}, registry.Finished id →
      (Registry.attributes id registry).2 = registry := by
    rintro registry ⟨factory, list, found, compiled⟩
    rw [snd_attributes, compile_of_sealed found compiled]
  have same := ready.worlds.used.attributes_fst fair.reached ready.worlds.usedOther ready.finished
    ready.finishedOther
  rw [Build.run_onRegistry, Build.run_onRegistry, same, idle ready.finished,
    idle ready.finishedOther]
  exact ⟨.refl (fun _ => rfl) _, ready⟩

/-- After its factory is compiled a run prepares abreast. -/
theorem abreast_prepare (fair : lead.Fair) (id : FactoryId) (choice : Value) (overrides : Dict) :
    Abreast (lead.Ready id) Eq (prepare id choice overrides) (prepare id choice overrides) := by
  have same : ∀ {α : Type} (outcome : Except Fault α), Tally Eq outcome outcome :=
    fun outcome => .refl (fun _ => rfl) outcome
  have asked : ∀ {α : Type} {view : World → Except Fault α},
      (∀ {world other}, lead.Ready id world other → view other = view world) →
        Abreast (lead.Ready id) Eq (Build.ask view) (Build.ask view) := by
    intro α view agree
    refine Build.abreast_ask fun {world other} ready => ?_
    rw [agree ready]
    exact same _
  refine (Build.abreast_ofExcept (same _)).bind ?_
  rintro strategy _ rfl
  refine (abreast_model fair id).bind ?_
  rintro model _ rfl
  refine (abreast_attributes fair id).bind ?_
  rintro list _ rfl
  refine (asked fun ready => ?_).bind ?_
  · obtain ⟨factory, later, found, there, alike⟩ := ready.exists_outline fair.reached
    have named : later.name = factory.name := by rw [alike]
    rw [found, there, Option.map_some, Option.map_some, named]
  rintro name _ rfl
  refine (Build.abreast_ofExcept (same _)).bind ?_
  rintro pending _ rfl
  refine (asked fun ready => congrArg Except.ok ready.worlds.aliasesFor).bind ?_
  rintro aliases _ rfl
  refine (asked fun ready => ?_).bind ?_
  · obtain ⟨factory, later, found, there, alike⟩ := ready.exists_outline fair.reached
    have finalizer : later.finalizer = factory.finalizer := by rw [alike]
    rw [found, there, Option.bind_some, Option.bind_some, finalizer]
  rintro finalizer _ rfl
  exact .pure rfl

/-- Without a factory nothing is prepared. -/
theorem prepare_of_none {world : World} (missing : world.registry.factory? id = none)
    (choice : Value) (overrides : Dict) : (prepare id choice overrides).run world =
      ((Strategy.ofProxy choice >>= fun _ => .error .wrongType), world) := by
  have classless : Registry.model id world.registry = (.error .wrongType, world.registry) := by
    rw [Registry.model, missing]
  rw [prepare, run_bind, Build.run_ofExcept]
  cases Strategy.ofProxy choice with
  | error fault => rfl
  | ok strategy =>
    simp only
    rw [run_bind, Build.run_onRegistry, classless]
    rfl

/-- What is prepared is code of the registry. -/
theorem owns_begin {lead : Lead} {choice : Value} {overrides : Dict} {run : Prepared}
    {world ready : World} (used : lead.history.Used ready.registry)
    (begun : (begin id choice overrides).run world = (.ok run, ready)) : lead.Owns run := by
  obtain ⟨_, list, resolves⟩ := begin_eq_ok begun
  refine ⟨fun attr member piece its => ?_, fun callback member piece its => ?_,
    fun piece its => ?_⟩
  · exact used.concurs.pieces (resolves.piece_of_attribute member its)
  · exact used.concurs.pieces (resolves.piece_of_callback member its)
  · obtain ⟨handler, own, rfl⟩ := Option.map_eq_some_iff.1 its
    exact used.concurs.pieces (resolves.piece_of_finalizer own)

/-- Until its plan is made a run goes abreast, and what it prepares is code of the registry. -/
theorem abreast_begin (fair : lead.Fair) (id : FactoryId) (choice : Value) (overrides : Dict) :
    Abreast lead.Worlds (fun run twin => run = twin ∧ lead.Owns run) (begin id choice overrides)
      (begin id choice overrides) := by
  intro world other same
  have prepared : Tally Eq ((begin id choice overrides).run world).1
        ((begin id choice overrides).run other).1 ∧
      lead.Worlds ((begin id choice overrides).run world).2
        ((begin id choice overrides).run other).2 := by
    have worlds := same.withRegistry (same.used.compile id) (same.usedOther.compile id)
      (Reworks.compile _ id).nextStub (Reworks.compile _ id).nextStub
    have outcomes := same.used.compile_fst fair.reached same.usedOther id
    obtain ⟨compiles, done⟩ := compiles_compile world.registry id same.used.reached.bound
    obtain ⟨compilesOther, doneOther⟩ :=
      compiles_compile other.registry id same.usedOther.reached.bound
    unfold begin
    rw [run_bind, run_bind, Build.run_onRegistry, Build.run_onRegistry]
    cases result : (world.registry.compile id).1 with
    | error fault =>
      rw [← outcomes, result]
      exact ⟨.error fault, worlds⟩
    | ok _ =>
      rw [← outcomes, result]
      simp only
      cases found : (world.registry.compile id).2.factory? id with
      | none =>
        have missing : (other.registry.compile id).2.factory? id = none := by
          have outside := List.getElem?_eq_none_iff.1 found
          rw [← worlds.used.length_eq worlds.usedOther] at outside
          exact List.getElem?_eq_none_iff.2 outside
        rw [prepare_of_none found, prepare_of_none missing]
        exact ⟨.refl (fun _ => rfl) _, worlds⟩
      | some factory =>
        obtain ⟨later, there⟩ : ∃ later, (other.registry.compile id).2.factory? id = some later := by
          have inside := (List.getElem?_eq_some_iff.1 found).1
          rw [← worlds.used.length_eq worlds.usedOther] at inside
          exact ⟨_, List.getElem?_eq_getElem inside⟩
        obtain ⟨list, compiled⟩ := done result factory found
        obtain ⟨own, compiledOther⟩ := doneOther (outcomes ▸ result) later there
        obtain ⟨agree, ready⟩ := abreast_prepare fair id choice overrides
          ⟨worlds, ⟨factory, list, found, compiled⟩, ⟨later, own, there, compiledOther⟩⟩
        exact ⟨agree, ready.worlds⟩
  obtain ⟨agree, worlds⟩ := prepared
  refine ⟨?_, worlds⟩
  cases here : (begin id choice overrides).run world with
  | mk outcome after =>
    cases there : (begin id choice overrides).run other with
    | mk outcome' afterOther =>
      rw [here, there] at agree worlds
      cases agree with
      | error fault => exact .error fault
      | ok alike => exact .ok ⟨alike, owns_begin worlds.used here⟩

end Runner

end Blueprint
