import Blueprint.Registry.Basic

/-!
# Allowing overrides

A factory that allows its names to be declared again passes this on to the factories that have
inherited from it, and to those that have inherited from these, as far as they do not allow it
already.
-/
namespace Blueprint

namespace Factory

/-- The factory allows names to be declared again. -/
def allowOverrides (factory : Factory) : Factory :=
  { factory with definition := factory.definition.allowOverrides }

end Factory

/-- Replacing an item that has a property by one that has not makes the number of those that have it
smaller. -/
theorem countP_set_lt {α : Type u} {test : α → Bool} {items : List α} {n : Nat} {old new : α}
    (found : items[n]? = some old) (had : test old = true) (has : test new = false) :
    (items.set n new).countP test < items.countP test := by
  obtain ⟨inside, rfl⟩ := List.getElem?_eq_some_iff.1 found
  have positive : 0 < items.countP test :=
    List.countP_pos_iff.2 ⟨_, List.getElem_mem inside, had⟩
  rw [List.countP_set inside]
  simp only [had, has, if_true, Bool.false_eq_true, if_false]
  omega

namespace Registry

/-- The factory of a number does not allow overrides. -/
def forbids (registry : Registry) (id : FactoryId) : Bool :=
  ((registry.factory? id).map fun factory => !factory.overridesAllowed).getD false

/-- The number of factories that do not allow overrides. -/
def forbidding (registry : Registry) : Nat :=
  registry.factories.countP fun factory => !factory.overridesAllowed

/-- The factories that have inherited from a factory. -/
def childrenOf (registry : Registry) (id : FactoryId) : List FactoryId :=
  ((registry.factory? id).map Factory.children).getD []

/-- The registry where the factory of a number allows overrides. -/
def permit (registry : Registry) (id : FactoryId) : Registry :=
  match registry.factory? id with
  | some factory => registry.put id factory.allowOverrides
  | none => registry

/-- A factory that did not allow overrides is one fewer once it does. -/
theorem forbidding_permit_lt {registry : Registry} {id : FactoryId}
    (forbids : registry.forbids id = true) :
    (registry.permit id).forbidding < registry.forbidding := by
  unfold Registry.forbids at forbids
  cases found : registry.factory? id with
  | none => simp [found] at forbids
  | some factory =>
    simp only [permit, found, put, forbidding]
    exact countP_set_lt found (by simpa [found] using forbids) rfl

/-- Lets the pending factories, and all that have inherited from them, allow overrides; those that
do already are left out. -/
def spreadOverrides (registry : Registry) (pending : List FactoryId) : Registry :=
  match _found : pending.find? registry.forbids with
  | none => registry
  | some id => spreadOverrides (registry.permit id) (registry.childrenOf id ++ pending)
termination_by registry.forbidding
decreasing_by exact forbidding_permit_lt (List.find?_some _found)

/-- `Factory.allow_overrides` — lets a factory allow overrides, and with it all that have inherited
from it. -/
def allowOverrides (registry : Registry) (id : FactoryId) : Registry :=
  (registry.permit id).spreadOverrides (registry.childrenOf id)

end Registry

end Blueprint
