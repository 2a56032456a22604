import Blueprint.Build.Run
import Mathlib.Logic.Relation

/-!
# What operations keep

An operation keeps a relation between states if it leads from every state to a related one, whether
it succeeds or not. Operations in turn keep what each of them keeps. What filling a proxy keeps is
known from the names under which it sets values and from what the runs that it starts keep.
-/
namespace Blueprint

/-! ### Operations in turn -/

section Keeps

variable {ε σ α β : Type} {related : σ → σ → Prop}

/-- Two operations in turn: the second one is done where the first one ends, unless that fails. -/
theorem run_bind (first : ExceptT ε (StateM σ) α) (second : α → ExceptT ε (StateM σ) β)
    (state : σ) :
    (first >>= second).run state =
      match first.run state with
      | (.ok value, after) => (second value).run after
      | (.error fault, after) => (.error fault, after) := by
  simp only [bind, ExceptT.bind, ExceptT.bindCont, ExceptT.mk, ExceptT.run, StateT.bind]
  cases first state with
  | mk result after => cases result <;> rfl

/-- Two operations in turn succeed when the first one does and the second one does from there. -/
theorem run_bind_eq_ok {first : ExceptT ε (StateM σ) α} {second : α → ExceptT ε (StateM σ) β}
    {state last : σ} {value : β} :
    (first >>= second).run state = (.ok value, last) ↔
      ∃ middle between, first.run state = (.ok middle, between) ∧
        (second middle).run between = (.ok value, last) := by
  rw [run_bind]
  cases first.run state with
  | mk result after =>
    cases result with
    | error fault =>
      constructor
      · intro done
        cases done
      · rintro ⟨_, _, done, _⟩
        cases done
    | ok middle =>
      constructor
      · exact fun done => ⟨middle, after, rfl, done⟩
      · rintro ⟨_, _, same, done⟩
        cases same
        exact done

/-- An operation leads from every state to one that is related to it. -/
def Keeps (related : σ → σ → Prop) (act : ExceptT ε (StateM σ) α) : Prop :=
  ∀ state, related state (act.run state).2

/-- Doing nothing keeps every reflexive relation. -/
theorem Keeps.pure [Std.Refl related] (value : α) :
    Keeps related (pure value : ExceptT ε (StateM σ) α) :=
  fun state => refl_of related state

/-- Operations in turn keep every transitive relation that each of them keeps. -/
theorem Keeps.bind [IsTrans σ related] {first : ExceptT ε (StateM σ) α}
    {second : α → ExceptT ε (StateM σ) β} (before : Keeps related first)
    (after : ∀ value, Keeps related (second value)) : Keeps related (first >>= second) := by
  intro state
  rw [run_bind]
  have start := before state
  cases outcome : first.run state with
  | mk result middle =>
    rw [outcome] at start
    cases result with
    | error fault => exact start
    | ok value => exact IsTrans.trans _ _ _ start (after value middle)

end Keeps

namespace Act

variable {α : Type} {related : Site → Site → Prop} [Std.Refl related]

/-- What fails keeps every reflexive relation. -/
theorem keeps_fail (fault : Fault) : Keeps related (fail fault : Act α) :=
  fun site => refl_of related site

/-- An outcome that does not depend on the site keeps every reflexive relation. -/
theorem keeps_ofExcept (outcome : Except Fault α) : Keeps related (ofExcept outcome) :=
  fun site => refl_of related site

/-- What only asks keeps every reflexive relation. -/
theorem keeps_ask (view : Site → Except Fault α) : Keeps related (ask view) :=
  fun site => refl_of related site

/-- Asking the instance keeps every reflexive relation. -/
theorem keeps_askSubject (view : Instance → α) : Keeps related (askSubject view) := keeps_ask _

end Act

/-- Changing an instance in place changes nothing else in the world. -/
theorem Build.alter_cases (value : Value) (name : String) (part : Value) (world : World) :
    ((alter value name part).run world).2 = world ∨ ∃ serial fields,
      ((alter value name part).run world).2 =
        { world with altered := world.altered.put serial fields } := by
  unfold alter
  rw [ExceptT.run_mk]
  split
  · exact .inr ⟨_, _, rfl⟩
  · exact .inl rfl

/-! ### Expressions -/

namespace Expr

mutual

/-- An expression may set a value of the proxy under a name. -/
def sets (name : String) : Expr → Bool
  | put other value _ => other == name || value.sets name
  | setField _ value => value.sets name
  | concat parts => setsAny name parts
  | upper value => value.sets name
  | lower value => value.sets name
  | choose condition yes no => condition.sets name || yes.sets name || no.sets name
  | sequence steps => setsAny name steps
  | tick _ value => value.sets name
  | note _ value => value.sets name
  | part owner _ => owner.sets name
  | alter owner _ value => owner.sets name || value.sets name
  | _ => false
termination_by structural expr => expr

/-- One of several expressions may set a value of the proxy under a name. -/
def setsAny (name : String) : List Expr → Bool
  | [] => false
  | expr :: exprs => expr.sets name || setsAny name exprs
termination_by structural exprs => exprs

end

end Expr

/-- The block of an attribute may set a value of the proxy under a name. -/
def Attribute.blockSets (attr : Attribute) (name : String) : Bool :=
  match attr.source with
  | .dynamic block => block.sets name
  | _ => false

/-- A step of a plan may set a value of the proxy under a name. -/
def Plan.sets (name : String) : Action → Bool
  | .assign key _ _ => key == name
  | .evaluate attr => attr.name == name || attr.blockSets name

/-- A relation between sites is kept by all that fills a proxy, as long as values are set under
allowed names only. -/
structure Keeping (runner : Runner) (related : Site → Site → Prop) (allowed : String → Prop) :
    Prop where
  /-- It is kept when a mark is logged. -/
  ticked : ∀ label, Keeps related (Act.emit (.tick label))
  /-- It is kept when a value is logged. -/
  noted : ∀ label value, Keeps related (Act.emit (.note label value))
  /-- It is kept when a counter goes on. -/
  counted : ∀ name, Keeps related (Act.ofBuild (Build.count name))
  /-- It is kept when an instance is changed in place. -/
  altered : ∀ value name part, Keeps related (Act.ofBuild (Build.alter value name part))
  /-- It is kept when another factory is run. -/
  ran : ∀ id choice overrides, Keeps related (Act.ofBuild (runner id choice overrides))
  /-- It is kept when the factory of a name is run. -/
  ranNamed : ∀ factory strategy overrides,
    Keeps related (Act.ofBuild (runner.named factory strategy overrides))
  /-- It is kept when a value is set under an allowed name. -/
  set : ∀ name value ignored, allowed name →
    Keeps related (Act.onProxy fun proxy => proxy.set name value ignored)
  /-- It is kept when a field of the instance is set. -/
  fieldSet : ∀ name value, Keeps related (Act.onSubject fun subject =>
    { subject with fields := subject.fields.put name value })

section Keeping

variable {runner : Runner} {related : Site → Site → Prop} {allowed : String → Prop}
  [Std.Refl related] [IsTrans Site related]

mutual

/-- Evaluating an expression keeps what all that it may do keeps. -/
theorem Expr.keeps_eval (keeping : Keeping runner related allowed) (seesProxy : Bool) (expr : Expr)
    (only : ∀ name, expr.sets name → allowed name) :
    Keeps related (expr.eval runner seesProxy) := by
  have reach : Keeps related (Expr.reach seesProxy) := by
    cases seesProxy with
    | false => exact Act.keeps_fail _
    | true => exact .pure ()
  cases expr with
  | const value => exact .pure value
  | get name => exact reach.bind fun _ => Act.keeps_ask _
  | has name => exact reach.bind fun _ => Act.keeps_ask _
  | strategyTag => exact reach.bind fun _ => Act.keeps_ask _
  | put name value ignored =>
    have inner := Expr.keeps_eval keeping seesProxy value
      fun other set => only other (by simp [Expr.sets, set])
    exact reach.bind fun _ => inner.bind fun _ =>
      (keeping.set name _ ignored (only name (by simp [Expr.sets]))).bind fun _ => .pure _
  | field name => exact Act.keeps_askSubject _
  | setField name value =>
    have inner := Expr.keeps_eval keeping seesProxy value
      fun other set => only other (by simp [Expr.sets, set])
    exact inner.bind fun _ => (keeping.fieldSet name _).bind fun _ => .pure _
  | persisted => exact Act.keeps_askSubject _
  | part owner name =>
    have inner := Expr.keeps_eval keeping seesProxy owner
      fun other set => only other (by simp [Expr.sets, set])
    exact inner.bind fun _ => Act.keeps_ask _
  | alter owner name value =>
    have first := Expr.keeps_eval keeping seesProxy owner
      fun other set => only other (by simp [Expr.sets, set])
    have second := Expr.keeps_eval keeping seesProxy value
      fun other set => only other (by simp [Expr.sets, set])
    exact first.bind fun _ => second.bind fun _ => (keeping.altered _ name _).bind fun _ => .pure _
  | concat parts =>
    have inner := Expr.keeps_evalAll keeping seesProxy parts
      fun other set => only other (by simp [Expr.sets, set])
    exact inner.bind fun _ => .pure _
  | upper value =>
    have inner := Expr.keeps_eval keeping seesProxy value
      fun other set => only other (by simp [Expr.sets, set])
    exact inner.bind fun _ => .pure _
  | lower value =>
    have inner := Expr.keeps_eval keeping seesProxy value
      fun other set => only other (by simp [Expr.sets, set])
    exact inner.bind fun _ => .pure _
  | choose condition yes no =>
    have first := Expr.keeps_eval keeping seesProxy condition
      fun other set => only other (by simp [Expr.sets, set])
    refine first.bind fun value => ?_
    cases value.truthy with
    | true =>
      exact Expr.keeps_eval keeping seesProxy yes
        fun other set => only other (by simp [Expr.sets, set])
    | false =>
      exact Expr.keeps_eval keeping seesProxy no
        fun other set => only other (by simp [Expr.sets, set])
  | sequence steps =>
    have inner := Expr.keeps_evalAll keeping seesProxy steps
      fun other set => only other (by simp [Expr.sets, set])
    exact inner.bind fun _ => .pure _
  | tick label value =>
    have inner := Expr.keeps_eval keeping seesProxy value
      fun other set => only other (by simp [Expr.sets, set])
    exact (keeping.ticked _).bind fun _ => inner
  | note label value =>
    have inner := Expr.keeps_eval keeping seesProxy value
      fun other set => only other (by simp [Expr.sets, set])
    exact inner.bind fun _ => (keeping.noted _ _).bind fun _ => .pure _
  | counter name => exact (keeping.counted name).bind fun _ => .pure _
  | fail message => exact Act.keeps_fail _
  | build factory strategy overrides => exact keeping.ranNamed factory strategy overrides
termination_by structural expr

/-- Evaluating expressions keeps what all that they may do keeps. -/
theorem Expr.keeps_evalAll (keeping : Keeping runner related allowed) (seesProxy : Bool)
    (exprs : List Expr) (only : ∀ name, Expr.setsAny name exprs → allowed name) :
    Keeps related (Expr.evalAll runner seesProxy exprs) := by
  cases exprs with
  | nil => exact .pure []
  | cons expr rest =>
    have first := Expr.keeps_eval keeping seesProxy expr
      fun other set => only other (by simp [Expr.setsAny, set])
    have later := Expr.keeps_evalAll keeping seesProxy rest
      fun other set => only other (by simp [Expr.setsAny, set])
    exact first.bind fun _ => later.bind fun _ => .pure _
termination_by structural exprs

end

/-! ### Attributes and plans -/

/-- Building the value of an association keeps what running the factory keeps. -/
theorem Act.keeps_buildAssociation (keeping : Keeping runner related allowed) (factory : String)
    (choice : Value) (overrides : Dict) :
    Keeps related (buildAssociation runner factory choice overrides) :=
  (keeps_ofExcept _).bind fun strategy => (keeps_ask _).bind fun id =>
    keeping.ran id (.proxy strategy) overrides

/-- Setting the value of an association keeps what running the factory and setting a value keep. -/
theorem Act.keeps_associate (keeping : Keeping runner related allowed) {name : String}
    (only : allowed name) (factory : String) (overrides : Dict) (choice : Value) :
    Keeps related (associate runner name factory overrides choice) := by
  refine (keeps_ask _).bind fun strategy => ?_
  have built := fun choice => keeps_buildAssociation keeping factory choice overrides
  cases strategy with
  | attributesFor => exact .pure ()
  | stub => exact (built _).bind fun value => keeping.set name value false only
  | build => exact (built _).bind fun value => keeping.set name value false only
  | create => exact (built _).bind fun value => keeping.set name value false only

/-- A step of a plan keeps what all that it may do keeps. -/
theorem Plan.keeps_perform (keeping : Keeping runner related allowed) (action : Action)
    (only : ∀ name, sets name action → allowed name) : Keeps related (perform runner action) := by
  cases action with
  | assign key value ignored => exact keeping.set key value ignored (only key (by simp [sets]))
  | evaluate attr =>
    have own : allowed attr.name := only attr.name (by simp [sets])
    show Keeps related (attr.addTo runner)
    unfold Attribute.addTo
    cases source : attr.source with
    | static value => exact keeping.set attr.name value attr.ignored own
    | dynamic block =>
      have inner := Expr.keeps_eval keeping true block fun name set =>
        only name (by simp [sets, Attribute.blockSets, source, set])
      exact inner.bind fun value => keeping.set attr.name value attr.ignored own
    | association factory overrides strategy =>
      exact Act.keeps_associate keeping own factory overrides strategy

/-- Steps of a plan in turn keep what all that they may do keeps. -/
theorem Plan.keeps_performAll (keeping : Keeping runner related allowed) (actions : List Action)
    (only : ∀ action ∈ actions, ∀ name, sets name action → allowed name) :
    Keeps related (performAll runner actions) := by
  induction actions with
  | nil => exact .pure ()
  | cons action rest ih =>
    exact (keeps_perform keeping action (only action List.mem_cons_self)).bind fun _ =>
      ih fun other member => only other (List.mem_cons_of_mem _ member)

end Keeping

end Blueprint
