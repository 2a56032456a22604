import Blueprint.Proofs.Build.Draw
import Blueprint.Proofs.Build.Steady

/-!
# Runs that do not interfere

In a sealed registry, where no code changes values in place, a run comes to what it would come to as
the first one, whatever was run before and with whatever success. What one run leaves to the next is
only how many ids were drawn. So if the ids are drawn from the same one on, all is the same, and
otherwise the ids that are drawn are shifted, unless code computes something else from them.
-/
namespace Blueprint

open Registry

/-! ### Requests abreast -/

namespace Reply

/-- Two replies give values that are the same but for the numbers of instances, and for drawn ids
that are related. -/
inductive Alike (ids : Int → Int → Prop) : Reply → Reply → Prop where
  /-- The values are alike. -/
  | value {value other : Value} (alike : value.Alike ids other) :
    Alike ids (.value value) (.value other)

/-- Replies that are alike for some ids are alike for all that are related in a weaker way. -/
theorem Alike.imp {ids weaker : Int → Int → Prop}
    (each : ∀ {id other}, ids id other → weaker id other) {reply other : Reply}
    (alike : reply.Alike ids other) : reply.Alike weaker other := by
  obtain ⟨same⟩ := alike
  exact .value (same.imp each)

end Reply

/-- The request runs a factory. -/
def Request.isRun : Request → Bool
  | .run _ _ _ | .runNamed _ _ _ => true
  | _ => false

/-- A request comes to the same in two worlds: its outcomes are alike, and so is all that
happens. -/
structure Request.SameIn (request : Request) (ids : Int → Int → Prop) (world other : World) :
    Prop where
  /-- Both give values that are alike, or fail with the same fault. -/
  outcome : Tally (Reply.Alike ids) (request.serve.run world).1 (request.serve.run other).1
  /-- What is logged is alike. -/
  log : ∃ events twins, (request.serve.run world).2.log = world.log ++ events ∧
    (request.serve.run other).2.log = other.log ++ twins ∧
    List.Forall₂ (Event.Alike ids) events twins

namespace Request

variable {request : Request} {world other : World}

/-- What comes to the same for some ids does so for all that are related in a weaker way. -/
theorem SameIn.imp {ids weaker : Int → Int → Prop} (same : request.SameIn ids world other)
    (each : ∀ {id other}, ids id other → weaker id other) : request.SameIn weaker world other := by
  obtain ⟨events, twins, logged, loggedOther, alike⟩ := same.log
  exact ⟨same.outcome.imp (Reply.Alike.imp each), events, twins, logged, loggedOther,
    alike.imp fun _ _ pair => pair.imp each⟩

/-- Requests to run a factory are served abreast. -/
theorem abreast_serve {lead : Lead} (fair : lead.Fair) (isRun : request.isRun = true) :
    Abreast lead.Worlds (Reply.Alike lead.Ids) request.serve request.serve := by
  have replies : ∀ {build : Build Value},
      Abreast lead.Worlds (Value.Match lead.Ids true) build build →
        Abreast lead.Worlds (Reply.Alike lead.Ids) (Build.replying .value build)
          (Build.replying .value build) :=
    fun abreast => abreast.bind fun same => .pure (.value same.alike)
  have steady := Runner.steady_standard fair
  cases request with
  | run id choice overrides =>
    intro world other worlds
    have abreast := replies (steady id choice overrides)
    show Tally _ ((Build.about id _).run world).1 ((Build.about id _).run other).1 ∧
      lead.Worlds ((Build.about id _).run world).2 ((Build.about id _).run other).2
    cases found : world.registry.factory? id with
    | none =>
      have missing : other.registry.factory? id = none := by
        have outside := List.getElem?_eq_none_iff.1 found
        rw [← worlds.used.length_eq worlds.usedOther] at outside
        exact List.getElem?_eq_none_iff.2 outside
      rw [Build.run_about_of_none found, Build.run_about_of_none missing]
      exact ⟨.error _, worlds⟩
    | some factory =>
      have inside := (List.getElem?_eq_some_iff.1 found).1
      rw [← worlds.used.length_eq worlds.usedOther] at inside
      rw [Build.run_about_of_some found,
        Build.run_about_of_some (List.getElem?_eq_getElem inside)]
      exact abreast worlds
  | runNamed name choice overrides => exact replies (steady.named fair name choice overrides)
  | _ => cases isRun

end Request

namespace Lead.Worlds

variable {lead : Lead} {world other : World}

/-- Requests to run factories, served in turn, lead from related worlds to related ones. -/
theorem after (fair : lead.Fair) (worlds : lead.Worlds world other) {runs : List Request}
    (only : ∀ run ∈ runs, run.isRun = true) :
    lead.Worlds (world.after runs) (other.after runs) := by
  induction runs generalizing world other with
  | nil => exact worlds
  | cons run rest ih =>
    have first := run.abreast_serve fair (only run List.mem_cons_self) worlds
    exact ih first.2 fun run member => only run (List.mem_cons_of_mem _ member)

end Lead.Worlds

/-! ### Isolation -/

/-- The lead of a world over another one, where both use the registry of a history. -/
def Lead.over (history : History) (world other : World) (ahead : Int) : Lead :=
  ⟨history, world.models, world.log, other.log, world.registry.nextStub, ahead⟩

end Blueprint
