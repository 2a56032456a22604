import Blueprint.Proofs.Build.Step
import Blueprint.Proofs.Registry.Extension

/-!
# Stability of attributes

Once the attributes of a factory are given, they stay the same whatever is done next: more
factories, traits and classes are registered, factories are changed and compiled, the registry is
sealed, and factories are run. For the factory and all its ancestors are compiled by then, so that
every trait they refer to is found where it was found before.
-/
namespace Blueprint

namespace History

/-- What is done with a registry from outside, runs and inquiries included. -/
inductive Activity (history : History) : History → Prop where
  /-- The registry or one of its factories is operated on. -/
  | operated {after : History} (operation : Operation history after) : Activity history after
  /-- The attributes of a factory are asked for. -/
  | resolved (id : FactoryId) :
      Activity history (history.withRegistry (Registry.attributes id history.registry).2)
  /-- A factory is run in a world with the registry. -/
  | ran {world : World} (same : world.registry = history.registry) (id : FactoryId)
      (choice : Value) (overrides : Dict) :
      Activity history
        (history.withRegistry ((Runner.standard id choice overrides).run world).2.registry)

/-- Activities in turn. -/
abbrev Activities : History → History → Prop := Relation.ReflTransGen Activity

variable {history later : History}

/-- An activity consists of operations. -/
theorem Activity.operations (activity : Activity history later) : Operations history later := by
  cases activity with
  | operated operation => exact .single operation
  | resolved id =>
    rw [Registry.snd_attributes]
    exact .single (.compiled id)
  | @ran world same id choice overrides =>
    have steps := operations_of_steps (Runner.walks_standard id choice overrides world)
      history.made history.permitted
    rwa [same] at steps

/-- Activities consist of operations. -/
theorem Activities.operations (activities : Activities history later) :
    Operations history later := by
  induction activities with
  | refl => exact .refl
  | tail _ activity ih => exact ih.trans activity.operations

/-- What is reached after activities is reached. -/
theorem Reached.activities (reached : history.Reached) (activities : Activities history later) :
    later.Reached :=
  reached.trans activities.operations

end History

namespace Registry

open History

/-- Once the attributes of a factory are given, the same attributes are given whatever is done
next, and giving them changes nothing. -/
theorem attributes_stable {history later : History} {id : FactoryId} {factory : Factory}
    {list : AttributeList} {after : Registry} (reached : history.Reached)
    (known : history.registry.factory? id = some factory)
    (given : Registry.attributes id history.registry = (.ok list, after))
    (activities : Activities (history.withRegistry after) later) :
    Registry.attributes id later.registry = (.ok list, later.registry) := by
  obtain ⟨compiled, resolved⟩ := attributes_eq_ok given
  obtain ⟨compiles, sealed⟩ := compiles_compile history.registry id reached.bound
  rw [compiled] at compiles sealed
  have reachedAfter : (history.withRegistry after).Reached := by
    have compiledOnce := reached.tail (.compiled id)
    rwa [compiled] at compiledOnce
  -- the factory is there and compiled, and so it is in the end
  obtain ⟨now, here, _⟩ := Moves.factory? compiles.moves known
  obtain ⟨own, status⟩ := sealed rfl now here
  have longer : after.Extends later.registry := activities.operations.extends reachedAfter.bound
  obtain ⟨last, there, kept⟩ := longer.compiled here status
  have found := longer.resolve (fun known => reachedAfter.linked known) here status resolved
  have enough := resolve_of_le (Nat.succ_le_succ longer.length) found
  rw [attributes, compile_of_sealed there (kept.status.trans status)]
  exact congrArg (·, later.registry) enough

/-- A registry with a user that has a name and refers to a trait, which gives it a badge. -/
def badgeHistory : History :=
  let options : Dict := [(.text "traits", .list [.text "vip"])]
  let user := (History.blank.define (.text "user") options).registerModel "User" "user"
  let named := user.edit 0 (.declare ⟨"name", false, [], .static (.text "Ann")⟩)
  let badge : Declaration := ⟨"badge", false, [], .static (.text "gold")⟩
  named.edit 0 (.defineTrait ⟨"vip", [badge], []⟩)

/-- The history of the badge is one of a registry. -/
theorem reached_badge : badgeHistory.Reached :=
  (((History.reached_blank.define _ _).registerModel _ _).edit _ _).edit _ _

/-- The user has its badge and its name still after it is told to allow overrides, the registry is
sealed, and it is run. -/
theorem attributes_stable_badge :
    ∃ (later : History) (list : AttributeList) (after : Registry) (user : Factory),
      badgeHistory.Reached ∧ badgeHistory.registry.factory? 0 = some user ∧
        Registry.attributes 0 badgeHistory.registry = (.ok list, after) ∧
        Activities (badgeHistory.withRegistry after) later ∧
        list.names = ["badge", "name"] ∧
        Registry.attributes 0 later.registry = (.ok list, later.registry) := by
  have names : (Registry.attributes 0 badgeHistory.registry).1.toOption.map AttributeList.names =
      some ["badge", "name"] := by decide +kernel
  obtain ⟨user, known⟩ : ∃ user, badgeHistory.registry.factory? 0 = some user :=
    Option.isSome_iff_exists.1 (by decide +kernel)
  obtain ⟨list, given, ordered⟩ := Option.map_eq_some_iff.1 names
  have first : Registry.attributes 0 badgeHistory.registry =
      (.ok list, (Registry.attributes 0 badgeHistory.registry).2) :=
    Prod.ext (eq_ok_of_toOption given) rfl
  let asked := badgeHistory.withRegistry (Registry.attributes 0 badgeHistory.registry).2
  let permitted : History :=
    { asked with registry := asked.registry.allowOverrides 0, permitted := 0 :: asked.permitted }
  let closed := permitted.withRegistry (Registry.close permitted.registry).2
  let world : World :=
    { registry := closed.registry, models := [("User", { name := "User", isOpen := true })] }
  let built := (Runner.standard 0 (.strategy .build) []).run world
  have activities : Activities asked (closed.withRegistry built.2.registry) :=
    ((Relation.ReflTransGen.single (.operated (.permitted 0))).tail (.operated .closed)).tail
      (.ran rfl 0 (.strategy .build) [])
  exact ⟨_, list, _, user, reached_badge, known, first, activities, ordered,
    attributes_stable reached_badge known first activities⟩

end Registry

end Blueprint
