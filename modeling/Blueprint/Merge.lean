import Blueprint.Value.Basic

/-!
# Layering maps

One map is laid over another: where both hold a map the two are merged, where both hold a list the
upper one says how it joins the lower one, and elsewhere the upper value stands. A list that starts
with `+` is appended to the lower list, one that starts with `=` replaces it, and the mark itself is
dropped; any other list replaces the lower one as it is. Keys keep the places of the lower map, and
new keys follow in the order of the upper one.
-/
namespace Blueprint

/-- `merge_arrays` — the upper list joined to the lower one as its first item asks. -/
def mergeLists (base upper : List Value) : List Value :=
  match upper with
  | .text "+" :: rest => base ++ rest
  | .text "=" :: rest => rest
  | upper => upper

mutual

/-- The value that results where the lower map holds `base` and the upper one `upper`. -/
def mergeValue (base : Option Value) (upper : Value) : Value :=
  match base, upper with
  | some (.dict entries), .dict above => .dict (mergeDicts entries above)
  | some (.list items), .list above => .list (mergeLists items above)
  | _, upper => upper
termination_by structural upper

/-- `deep_merge` — the upper map laid over the lower one. -/
def mergeDicts (base : Dict) (upper : List (Key × Value)) : Dict :=
  match upper with
  | [] => base
  | (key, value) :: rest =>
    mergeDicts (Table.put base key (mergeValue (base.lookup key) value)) rest
termination_by structural upper

end

end Blueprint
