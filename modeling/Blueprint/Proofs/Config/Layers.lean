import Blueprint.Config.Layers
import Blueprint.Proofs.Merge
import Blueprint.Proofs.Value.Shared

/-!
# Layering documents is layering their values

Which containers of a document are one does not matter to what its map laid over another one holds.
-/
namespace Blueprint.Config

open Shared

/-- Lists are joined as their values are. -/
theorem values_mergeLists (base upper : List Shared) :
    values (mergeLists base upper) = Blueprint.mergeLists (values base) (values upper) := by
  cases upper with
  | nil => rfl
  | cons first rest =>
    rw [values, mergeLists, List.head?_cons, Option.map_some, List.tail_cons]
    split
    · rename_i appended
      rw [Option.some.inj appended, Blueprint.mergeLists, values_eq_map, values_eq_map,
        values_eq_map, List.map_append]
    · rename_i replaced
      rw [Option.some.inj replaced, Blueprint.mergeLists]
    · rename_i appended replaced
      refine (mergeLists_of_not_isMarked ?_ _).symm
      rintro (head | head)
      · exact appended head
      · exact replaced head

mutual

/-- A value results from two as it does from their values alone. -/
theorem value_mergeValue (upper : Shared) (base : Option Shared) :
    (mergeValue base upper).value = Blueprint.mergeValue (base.map value) upper.value := by
  cases upper with
  | scalar plain single =>
    rw [value_scalar, mergeValue_scalar _ single]
    cases base with
    | none => rfl
    | some lower => cases lower <;> rfl
  | list number above =>
    cases base with
    | none => rfl
    | some lower =>
      cases lower with
      | scalar plain single =>
        cases plain with
        | list | dict => exact single.elim
        | _ => rfl
      | list own items => exact congrArg Value.list (values_mergeLists items above)
      | map own entries => rfl
  | map number above =>
    cases base with
    | none => rfl
    | some lower =>
      cases lower with
      | scalar plain single =>
        cases plain with
        | list | dict => exact single.elim
        | _ => rfl
      | list own items => rfl
      | map own entries => exact congrArg Value.dict (valueEntries_mergeEntries above entries)
termination_by structural upper

/-- Entries result from two maps as they do from the values alone. -/
theorem valueEntries_mergeEntries (upper : List (Key × Shared)) (base : Table Key Shared) :
    valueEntries (mergeEntries base upper) =
      Blueprint.mergeDicts (valueEntries base) (valueEntries upper) := by
  cases upper with
  | nil => rfl
  | cons entry rest =>
    obtain ⟨key, above⟩ := entry
    rw [mergeEntries, valueEntries_mergeEntries rest, valueEntries_put, value_mergeValue above,
      ← lookup_valueEntries, valueEntries, Blueprint.mergeDicts]
termination_by structural upper

end

/-- A document laid over a map has the value of its map laid over that one. -/
theorem valueEntries_mergeDicts (base : Dict) (upper : Table Key Shared) :
    valueEntries (mergeDicts base upper) = Blueprint.mergeDicts base (valueEntries upper) := by
  rw [mergeDicts, valueEntries_mergeEntries, valueEntries_ofEntries]

end Blueprint.Config
