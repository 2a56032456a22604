import Blueprint.Value.Shared

/-!
# Layering documents

The map of a document is laid over the default configuration as any map is over another one. A map
or a list that results from two is a new one, which stands at one place only; all else is taken over
from the document, and stands wherever it stands there.
-/
namespace Blueprint.Config

/-- `merge_arrays` — the upper list joined to the lower one as its first item asks. -/
def mergeLists (base upper : List Shared) : List Shared :=
  match upper.head?.map Shared.value with
  | some (.text "+") => base ++ upper.tail
  | some (.text "=") => upper.tail
  | _ => upper

mutual

/-- The value that results where the lower map holds `base` and the upper one `upper`. -/
def mergeValue (base : Option Shared) (upper : Shared) : Shared :=
  match base, upper with
  | some (.map _ entries), .map _ above => .dict (mergeEntries entries above)
  | some (.list _ items), .list _ above => .list none (mergeLists items above)
  | _, upper => upper
termination_by structural upper

/-- The entries of the upper map laid over those of the lower one. -/
def mergeEntries (base : Table Key Shared) (upper : List (Key × Shared)) : Table Key Shared :=
  match upper with
  | [] => base
  | (key, value) :: rest =>
    mergeEntries (Table.put base key (mergeValue (base.lookup key) value)) rest
termination_by structural upper

end

/-- `deep_merge` — the entries of a document laid over those of a map of its own. -/
def mergeDicts (base : Dict) (upper : Table Key Shared) : Table Key Shared :=
  mergeEntries (Shared.ofEntries base) upper

end Blueprint.Config
