import Blueprint.Proofs.Outcome
import Blueprint.Trait
import Mathlib.Data.List.Nodup

/-!
# Laws of attribute lists

A list is read through `find?`, by name. Defining an attribute and laying or putting one list on
another are described by what is found afterwards; distinct names stay distinct. Expanding
declarations gives a list with distinct names, whatever is declared.
-/
namespace Blueprint

namespace AttributeList

/-! ### Placing one attribute -/

/-- Placing an attribute changes what is found under its own name only. -/
theorem find?_place (attr : Attribute) (attributes : List Attribute) (name : String) :
    (place attr attributes).find? (fun other => other.name == name) =
      if attr.name == name then some attr
      else attributes.find? fun other => other.name == name := by
  induction attributes with
  | nil => by_cases same : attr.name == name <;> simp [place, same]
  | cons first rest ih =>
    by_cases taken : first.name == attr.name
    · have alike : first.name = attr.name := by simpa using taken
      by_cases same : attr.name == name <;> simp [place, alike, same]
    · by_cases here : first.name == name
      · have other : (attr.name == name) = false := by
          have apart : first.name ≠ attr.name := by simpa using taken
          have found : first.name = name := by simpa using here
          simpa [← found] using fun equal : attr.name = first.name => apart equal.symm
        simp [place, taken, here, other]
      · simp [place, taken, here, ih]

/-- Placing an attribute keeps the names in order, and adds its own at the end if it is new. -/
theorem map_name_place (attr : Attribute) (attributes : List Attribute) :
    (place attr attributes).map Attribute.name =
      if attr.name ∈ attributes.map Attribute.name then attributes.map Attribute.name
      else attributes.map Attribute.name ++ [attr.name] := by
  induction attributes with
  | nil => simp [place]
  | cons first rest ih =>
    by_cases taken : first.name = attr.name
    · simp [place, taken]
    · have other : attr.name ≠ first.name := fun equal => taken equal.symm
      have placed : place attr (first :: rest) = first :: place attr rest := by
        simp [place, taken]
      rw [placed, List.map_cons, ih, List.map_cons]
      by_cases known : attr.name ∈ rest.map Attribute.name
      · rw [if_pos known, if_pos (List.mem_cons_of_mem _ known)]
      · rw [if_neg known, if_neg (by simpa [other] using known), List.cons_append]

/-- Placing an attribute keeps the names distinct. -/
theorem nodup_place {attributes : List Attribute}
    (distinct : (attributes.map Attribute.name).Nodup) (attr : Attribute) :
    ((place attr attributes).map Attribute.name).Nodup := by
  rw [map_name_place]
  split
  · exact distinct
  · rename_i fresh
    exact List.nodup_append.2 ⟨distinct, List.nodup_singleton _, by
      intro name member other mem equal
      obtain rfl := List.mem_singleton.1 mem
      exact fresh (equal ▸ member)⟩

/-! ### Laying one list over another -/

/-- A name that is not among the names finds nothing. -/
theorem find?_eq_none {list : AttributeList} {name : String} :
    list.find? name = none ↔ name ∉ list.names := by
  simp only [find?, List.find?_eq_none, names, List.mem_map, not_exists, not_and, beq_iff_eq]

/-- There is an attribute under a name just if it is among the names. -/
theorem has_eq_true_iff {list : AttributeList} {name : String} :
    list.has name = true ↔ name ∈ list.names := by
  rw [has, Option.isSome_iff_ne_none, ne_eq, find?_eq_none, not_not]

/-- Under distinct names the attributes are those that are found under their own names. -/
theorem mem_iff_find? {list : AttributeList} (distinct : list.names.Nodup) {attr : Attribute} :
    attr ∈ list.attributes ↔ list.find? attr.name = some attr := by
  refine ⟨fun member => ?_, List.mem_of_find?_eq_some⟩
  cases found : list.find? attr.name with
  | none => exact absurd (List.mem_map_of_mem member) (find?_eq_none.1 found)
  | some other =>
    have named : other.name = attr.name := by simpa using List.find?_some found
    rw [List.inj_on_of_nodup_map distinct (List.mem_of_find?_eq_some found) member named]

/-- Placing distinct attributes in turn: they win, and what else was there is still found. -/
theorem find?_foldl_place (others attributes : List Attribute) (name : String)
    (distinct : (others.map Attribute.name).Nodup) :
    (others.foldl (fun placed attr => place attr placed) attributes).find?
        (fun attr => attr.name == name) =
      (others.find? fun attr => attr.name == name).or
        (attributes.find? fun attr => attr.name == name) := by
  induction others generalizing attributes with
  | nil => simp
  | cons first rest ih =>
    have parts := List.nodup_cons.1 (List.map_cons ▸ distinct)
    rw [List.foldl_cons, ih _ parts.2, find?_place, List.find?_cons]
    by_cases same : first.name == name
    · have absent : rest.find? (fun attr => attr.name == name) = none := by
        rw [List.find?_eq_none]
        intro other inside alike
        have equal : other.name = first.name := by
          rw [beq_iff_eq] at alike same
          rw [alike, same]
        exact parts.1 (List.mem_map.2 ⟨other, inside, equal⟩)
      simp [same, absent]
    · simp [same]

/-- A list laid over another one wins; what it has not is found as before. -/
theorem find?_override (list : AttributeList) {other : AttributeList} (distinct : other.names.Nodup)
    (name : String) : (list.override other).find? name = (other.find? name).or (list.find? name) :=
  find?_foldl_place other.attributes list.attributes name distinct

/-- Placing attributes in turn keeps the names distinct. -/
theorem nodup_foldl_place (others : List Attribute) {attributes : List Attribute}
    (distinct : (attributes.map Attribute.name).Nodup) :
    ((others.foldl (fun placed attr => place attr placed) attributes).map
      Attribute.name).Nodup := by
  induction others generalizing attributes with
  | nil => exact distinct
  | cons first rest ih => exact ih (nodup_place distinct first)

/-- Laying any list over one with distinct names keeps them distinct. -/
theorem nodup_override {list : AttributeList} (distinct : list.names.Nodup)
    (other : AttributeList) : (list.override other).names.Nodup :=
  nodup_foldl_place other.attributes distinct

/-- Of lists laid over each other the last one that has a name wins. -/
theorem find?_foldl_override (layers : List AttributeList) (list : AttributeList)
    (distinct : ∀ layer ∈ layers, layer.names.Nodup) (name : String) :
    (layers.foldl override list).find? name =
      (layers.reverse.findSome? fun layer => layer.find? name).or (list.find? name) := by
  induction layers generalizing list with
  | nil => simp
  | cons first rest ih =>
    have later : ∀ layer ∈ rest, layer.names.Nodup :=
      fun layer member => distinct layer (List.mem_cons_of_mem _ member)
    rw [List.foldl_cons, ih _ later, find?_override list (distinct first List.mem_cons_self),
      List.reverse_cons, List.findSome?_append, Option.or_assoc]
    simp

/-- Lists laid over one with distinct names leave distinct names. -/
theorem nodup_foldl_override (layers : List AttributeList) {list : AttributeList}
    (distinct : list.names.Nodup) : (layers.foldl override list).names.Nodup := by
  induction layers generalizing list with
  | nil => exact distinct
  | cons first rest ih => exact ih (nodup_override distinct first)

/-! ### Putting one list under another -/

/-- A list put under another one gives what the other has not. -/
theorem find?_inherit (list other : AttributeList) (name : String) :
    (list.inherit other).find? name = (list.find? name).or (other.find? name) := by
  have parts : (list.inherit other).find? name =
      ((other.attributes.filter fun attr => !list.has attr.name).find?
        fun attr => attr.name == name).or (list.find? name) := by
    simp [inherit, find?, List.find?_append]
  rw [parts]
  cases found : list.find? name with
  | some attr =>
    have absent : (other.attributes.filter fun attr => !list.has attr.name).find?
        (fun attr => attr.name == name) = none := by
      rw [List.find?_eq_none]
      intro other member same
      have fresh := (List.mem_filter.1 member).2
      have alike : other.name = name := by simpa using same
      simp [has, alike, found] at fresh
    rw [absent, Option.none_or, Option.some_or]
  | none =>
    rw [Option.or_none, Option.none_or, List.find?_filter, find?]
    refine congrArg (fun test => other.attributes.find? test) (funext fun attr => ?_)
    by_cases same : attr.name = name
    · simp [has, same, found]
    · simp [same]

/-- Putting a list with distinct names under another one with distinct names keeps them distinct. -/
theorem nodup_inherit {list other : AttributeList} (distinct : list.names.Nodup)
    (below : other.names.Nodup) : (list.inherit other).names.Nodup := by
  have inner : ((other.attributes.filter fun attr => !list.has attr.name).map
      Attribute.name).Nodup :=
    below.sublist (List.filter_sublist.map _)
  rw [names, inherit, List.map_append, List.nodup_append]
  refine ⟨inner, distinct, ?_⟩
  rintro name member _ inside rfl
  obtain ⟨attr, chosen, rfl⟩ := List.mem_map.1 member
  have fresh := (List.mem_filter.1 chosen).2
  have absent : list.find? attr.name = none := by simpa [has] using fresh
  exact find?_eq_none.1 absent inside

/-! ### Defining attributes -/

/-- An attribute cannot be defined just if its name is taken for good. -/
theorem define_eq_error {list : AttributeList} {attr : Attribute} {fault : Fault} :
    list.define attr = .error fault ↔
      (attr.name ∈ list.names ∧ list.overridable = false) ∧ fault = .definedAlready attr.name := by
  unfold define
  by_cases known : attr.name ∈ list.names
  · cases list.overridable <;> simp [has_eq_true_iff.2 known, known, eq_comm]
  · simp [Bool.eq_false_iff.2 (mt has_eq_true_iff.1 known), known]

/-- Defining an attribute keeps the names distinct. -/
theorem nodup_define {list defined : AttributeList} {attr : Attribute}
    (distinct : list.names.Nodup) (made : list.define attr = .ok defined) :
    defined.names.Nodup := by
  unfold define at made
  split at made
  · cases made
  · cases made
    exact nodup_place distinct attr

/-! ### Expanding declarations -/

/-- Expanding declarations keeps the names distinct. -/
theorem nodup_expand {accept : Attribute → Except Fault Unit} {declarations : List Declaration}
    {list expanded : AttributeList} (distinct : list.names.Nodup)
    (made : list.expand accept declarations = .ok expanded) : expanded.names.Nodup := by
  induction declarations generalizing list with
  | nil =>
    cases made
    exact distinct
  | cons declaration rest ih =>
    rw [expand, List.foldlM_cons] at made
    obtain ⟨next, step, others⟩ := bind_eq_ok.1 made
    obtain ⟨attr, _, admitted⟩ := bind_eq_ok.1 step
    obtain ⟨_, _, defined⟩ := bind_eq_ok.1 admitted
    exact ih (nodup_define distinct defined) others

end AttributeList

/-- The attributes of a trait have distinct names. -/
theorem Trait.nodup_attributes {trait : Trait} {list : AttributeList}
    (made : trait.attributes = .ok list) : list.names.Nodup := by
  obtain ⟨inner, expanded, same⟩ := bind_eq_ok.1 made
  cases same
  have distinct : ({} : AttributeList).names.Nodup := List.nodup_nil
  exact show inner.names.Nodup from AttributeList.nodup_expand distinct expanded

end Blueprint
