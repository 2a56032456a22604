import Blueprint.Proofs.Attribute.Collection
import Blueprint.Proofs.Dedup

/-!
# The order of attribute lists

An attribute that replaces another one takes its place, and a further one goes to the end. So lists
that are laid over each other have the names of all of them, each where it comes first, while a list
that is put under another one comes before it, without the names that the other has. Callbacks are
put one after the other.
-/
namespace Blueprint.AttributeList

/-- Placing attributes in turn leaves each name where it comes first. -/
theorem map_name_foldl_place (others : List Attribute) {attributes : List Attribute}
    (distinct : (attributes.map Attribute.name).Nodup) :
    (others.foldl (fun placed attr => place attr placed) attributes).map Attribute.name =
      (attributes.map Attribute.name ++ others.map Attribute.name).eraseDups := by
  induction others generalizing attributes with
  | nil => rw [List.map_nil, List.append_nil, eraseDups_eq_self distinct, List.foldl_nil]
  | cons first rest ih =>
    rw [List.foldl_cons, ih (nodup_place distinct first), map_name_place, List.map_cons]
    by_cases known : first.name ∈ attributes.map Attribute.name
    · rw [if_pos known, eraseDups_append_cons_of_mem known]
    · rw [if_neg known, List.append_assoc, List.singleton_append]

/-- A list laid over another one leaves each name where it comes first. -/
theorem names_override {list : AttributeList} (distinct : list.names.Nodup)
    (other : AttributeList) :
    (list.override other).names = (list.names ++ other.names).eraseDups :=
  map_name_foldl_place other.attributes distinct

/-- Lists laid over each other leave each name where it comes first. -/
theorem names_foldl_override (layers : List AttributeList) {list : AttributeList}
    (distinct : list.names.Nodup) :
    (layers.foldl override list).names =
      (list.names ++ layers.flatMap AttributeList.names).eraseDups := by
  induction layers generalizing list with
  | nil => rw [List.flatMap_nil, List.append_nil, eraseDups_eq_self distinct, List.foldl_nil]
  | cons first rest ih =>
    rw [List.foldl_cons, ih (nodup_override distinct first), names_override distinct,
      eraseDups_eraseDups_append, List.flatMap_cons, List.append_assoc]

/-- The callbacks of lists that are laid over each other follow each other. -/
theorem callbacks_foldl_override (layers : List AttributeList) (list : AttributeList) :
    (layers.foldl override list).callbacks =
      list.callbacks ++ layers.flatMap AttributeList.callbacks := by
  induction layers generalizing list with
  | nil => simp
  | cons first rest ih => rw [List.foldl_cons, ih, List.flatMap_cons, override, List.append_assoc]

/-- A list put under another one comes before it, without the names that the other has. -/
theorem names_inherit (list other : AttributeList) :
    (list.inherit other).names = other.names.filter (fun name => name ∉ list.names) ++ list.names := by
  have fresh : ∀ attr : Attribute, (!list.has attr.name) = decide (attr.name ∉ list.names) := by
    intro attr
    rw [Bool.eq_iff_iff, Bool.not_eq_true', decide_eq_true_eq, ← has_eq_true_iff, Bool.not_eq_true]
  have taken : other.names.filter (fun name => name ∉ list.names) =
      (other.attributes.filter fun attr => !list.has attr.name).map Attribute.name := by
    simp only [fresh]
    exact List.filter_map
  rw [taken]
  exact List.map_append

end Blueprint.AttributeList
