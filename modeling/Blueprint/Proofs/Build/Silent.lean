import Blueprint.Proofs.Build.Fill
import Blueprint.Proofs.Registry.Pieces

/-!
# Code that runs no factory

Code that runs no factory means the same whatever runs factories. All that it does to the world is
to leave marks in the log, to count, and to change instances in place.
-/
namespace Blueprint

/-! ### What does not depend on the runner -/

mutual

/-- An expression that runs no factory means the same for any runner. -/
theorem Expr.eval_congr (runner other : Runner) (seesProxy : Bool) (expr : Expr)
    (alone : expr.any isBuild = false) : expr.eval runner seesProxy = expr.eval other seesProxy := by
  cases expr with
  | const | get | has | strategyTag | field | persisted | counter | fail => rfl
  | put name value ignored =>
    have inner := Expr.eval_congr runner other seesProxy value (by simp_all [any])
    rw [eval, eval, inner]
  | setField name value =>
    have inner := Expr.eval_congr runner other seesProxy value (by simp_all [any])
    rw [eval, eval, inner]
  | part owner name =>
    have inner := Expr.eval_congr runner other seesProxy owner (by simp_all [any])
    rw [eval, eval, inner]
  | alter owner name value =>
    have first := Expr.eval_congr runner other seesProxy owner (by simp_all [any])
    have second := Expr.eval_congr runner other seesProxy value (by simp_all [any])
    rw [eval, eval, first, second]
  | concat parts =>
    have inner := Expr.evalAll_congr runner other seesProxy parts (by simp_all [any])
    rw [eval, eval, inner]
  | upper value =>
    have inner := Expr.eval_congr runner other seesProxy value (by simp_all [any])
    rw [eval, eval, inner]
  | lower value =>
    have inner := Expr.eval_congr runner other seesProxy value (by simp_all [any])
    rw [eval, eval, inner]
  | choose condition yes no =>
    have first := Expr.eval_congr runner other seesProxy condition (by simp_all [any])
    have second := Expr.eval_congr runner other seesProxy yes (by simp_all [any])
    have third := Expr.eval_congr runner other seesProxy no (by simp_all [any])
    rw [eval, eval, first, second, third]
  | sequence steps =>
    have inner := Expr.evalAll_congr runner other seesProxy steps (by simp_all [any])
    rw [eval, eval, inner]
  | tick label value =>
    have inner := Expr.eval_congr runner other seesProxy value (by simp_all [any])
    rw [eval, eval, inner]
  | note label value =>
    have inner := Expr.eval_congr runner other seesProxy value (by simp_all [any])
    rw [eval, eval, inner]
  | build factory strategy overrides => simp [any, isBuild] at alone
termination_by structural expr

/-- Expressions that run no factory mean the same for any runner. -/
theorem Expr.evalAll_congr (runner other : Runner) (seesProxy : Bool) (exprs : List Expr)
    (alone : anyOf isBuild exprs = false) :
    evalAll runner seesProxy exprs = evalAll other seesProxy exprs := by
  cases exprs with
  | nil => rfl
  | cons expr rest =>
    have first := Expr.eval_congr runner other seesProxy expr (by simp_all [anyOf])
    have later := Expr.evalAll_congr runner other seesProxy rest (by simp_all [anyOf])
    rw [evalAll, evalAll, first, later]
termination_by structural exprs

end

/-! ### Marks -/

/-- The event is a mark that an expression leaves. -/
def Event.isMark : Event → Bool
  | .tick _ | .note _ _ => true
  | _ => false

/-- All that happened to a world is that it counted, that marks were left and instances changed in
place. -/
structure World.Marked (world after : World) : Prop where
  /-- The registry is the same. -/
  registry : after.registry = world.registry
  /-- The models are the same. -/
  models : after.models = world.models
  /-- No instance was made. -/
  made : after.made = world.made
  /-- What was logged are marks. -/
  log : ∃ marks, after.log = world.log ++ marks ∧ ∀ event ∈ marks, event.isMark

namespace World.Marked

variable {world after : World}

theorem refl (world : World) : world.Marked world := ⟨rfl, rfl, rfl, [], by simp⟩

theorem trans {last : World} (first : world.Marked after) (second : after.Marked last) :
    world.Marked last := by
  obtain ⟨marks, logged, each⟩ := first.log
  obtain ⟨more, further, others⟩ := second.log
  refine ⟨second.registry.trans first.registry, second.models.trans first.models,
    second.made.trans first.made, marks ++ more, ?_, fun event member => ?_⟩
  · rw [further, logged, List.append_assoc]
  · exact (List.mem_append.1 member).elim (each event) (others event)

instance : Std.Refl World.Marked := ⟨refl⟩

instance : IsTrans World World.Marked := ⟨fun _ _ _ => trans⟩

/-- Leaving a mark is all that happened. -/
theorem of_mark (world : World) {event : Event} (mark : event.isMark) :
    world.Marked { world with log := world.log ++ [event] } :=
  ⟨rfl, rfl, rfl, [event], rfl, fun _ member => List.mem_singleton.1 member ▸ mark⟩

/-- Changing an instance in place is all that happened. -/
theorem of_alter (world : World) (value : Value) (name : String) (part : Value) :
    world.Marked ((Build.alter value name part).run world).2 := by
  obtain same | ⟨serial, fields, same⟩ := Build.alter_cases value name part world
  · rw [same]
    exact .refl world
  · rw [same]
    exact ⟨rfl, rfl, rfl, [], by simp⟩

/-- What is seen of the events other than marks is the same. -/
theorem filterMap {α : Type} {view : Event → Option α}
    (blind : ∀ event, event.isMark → view event = none) (marked : world.Marked after) :
    after.log.filterMap view = world.log.filterMap view := by
  obtain ⟨marks, logged, each⟩ := marked.log
  rw [logged, List.filterMap_append,
    List.filterMap_eq_nil_iff.2 fun event member => blind event (each event member),
    List.append_nil]

end World.Marked

/-- Where no run is possible, all that evaluating can do to the world is to leave marks, to count
and to change instances in place. -/
theorem Runner.keeping_marked :
    Keeping (within 0) (Function.onFun World.Marked Site.world) fun _ => True where
  ticked _ := fun site => .of_mark site.world rfl
  noted _ _ := fun site => .of_mark site.world rfl
  counted _ := fun site => ⟨rfl, rfl, rfl, [], by simp [Act.ofBuild, Build.count]⟩
  altered value name part := fun site => .of_alter site.world value name part
  ran _ _ _ := fun site => .refl site.world
  ranNamed factory strategy overrides := by
    intro site
    have idle : (((within 0).named factory strategy overrides).run site.world).2 = site.world := by
      unfold named
      rw [run_bind, Build.run_ask]
      cases site.world.registry.find factory with
      | error fault => rfl
      | ok id =>
        cases strategy with
        | null =>
          simp only
          rw [run_bind, Build.run_ask]
          cases site.world.registry.strategyOf id <;> rfl
        | _ => rfl
    show World.Marked site.world _
    rw [show ((Act.ofBuild ((within 0).named factory strategy overrides)).run site).2.world =
      site.world from idle]
    exact .refl site.world
  set _ _ _ _ := fun site => .refl site.world
  fieldSet _ _ := by
    intro site
    show World.Marked site.world _
    unfold Act.onSubject
    rw [ExceptT.run_mk]
    split
    · exact .refl site.world
    · exact .refl site.world

/-- All that evaluating an expression that runs no factory does to the world is to leave marks, to
count and to change instances in place. -/
theorem Expr.marked_eval (runner : Runner) (seesProxy : Bool) {expr : Expr}
    (alone : expr.any isBuild = false) :
    Keeps (Function.onFun World.Marked Site.world) (expr.eval runner seesProxy) := by
  rw [expr.eval_congr runner (Runner.within 0) seesProxy alone]
  exact expr.keeps_eval Runner.keeping_marked seesProxy fun _ _ => trivial

end Blueprint
