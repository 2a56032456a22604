import Blueprint.Proofs.Attribute.Order

/-!
# Attribute lists as they are edited

Lists are made of empty ones: attributes are defined in them, callbacks are added, and other lists
are laid over them or put under them. Whatever is done, and whatever of it fails, the names of a
list stay distinct. So a list is known by its names in order and by what is found under each of
them, and it does not matter in which order three lists are put together.
-/
namespace Blueprint.AttributeList

/-! ### Lists by their names -/

/-- Under distinct names the attributes are what is found under the names in order. -/
theorem attributes_eq_filterMap {list : AttributeList} (distinct : list.names.Nodup) :
    list.attributes = list.names.filterMap list.find? := by
  have own : ∀ attr ∈ list.attributes, (list.find? ∘ Attribute.name) attr = some attr :=
    fun attr member => (mem_iff_find? distinct).1 member
  rw [names, List.filterMap_map, List.filterMap_congr own, List.filterMap_some]

/-- Lists with the same distinct names in order, and the same under each of them, have the same
attributes. -/
theorem attributes_ext {list other : AttributeList} (distinct : list.names.Nodup)
    (order : list.names = other.names) (found : ∀ name, list.find? name = other.find? name) :
    list.attributes = other.attributes := by
  have also : other.names.Nodup := order ▸ distinct
  rw [attributes_eq_filterMap distinct, attributes_eq_filterMap also, order, funext found]

/-! ### Defining in place -/

/-- Where the attribute of a name stands. -/
def indexOf? (list : AttributeList) (name : String) : Option Nat :=
  list.attributes.findIdx? fun attr => attr.name == name

/-- Defines an attribute in the list at hand. Its name is looked for from the front: where it stands
the attribute is replaced, unless the list is not overridable, and if it is new the attribute goes
to the end. -/
def defineHere (attr : Attribute) : ExceptT Fault (StateM AttributeList) Unit := do
  let list ← get
  match list.indexOf? attr.name with
  | none => set { list with attributes := list.attributes ++ [attr] }
  | some index =>
    if list.overridable then set { list with attributes := list.attributes.set index attr }
    else throw (.definedAlready attr.name)

/-- An attribute is placed where its name stands first, or at the end. -/
theorem place_eq (attr : Attribute) (attributes : List Attribute) :
    place attr attributes =
      match attributes.findIdx? fun other => other.name == attr.name with
      | none => attributes ++ [attr]
      | some index => attributes.set index attr := by
  induction attributes with
  | nil => rfl
  | cons first rest ih =>
    rw [place, List.findIdx?_cons]
    by_cases taken : first.name == attr.name
    · rw [if_pos taken, if_pos taken]
      rfl
    · rw [if_neg taken, if_neg taken, ih]
      cases rest.findIdx? fun other => other.name == attr.name <;> rfl

/-- There is an attribute under a name just if it stands somewhere. -/
theorem isSome_indexOf? (list : AttributeList) (name : String) :
    (list.indexOf? name).isSome = list.has name := by
  rw [Bool.eq_iff_iff, indexOf?, List.findIdx?_isSome, has, find?, List.find?_isSome,
    List.any_eq_true]

/-- Defining in place does what defining does, and leaves the list if that fails. -/
theorem run_defineHere (list : AttributeList) (attr : Attribute) :
    (defineHere attr).run list =
      match list.define attr with
      | .ok defined => (.ok (), defined)
      | .error fault => (.error fault, list) := by
  have reads : ∀ next : AttributeList → ExceptT Fault (StateM AttributeList) Unit,
      (get >>= next).run list = (next list).run list := fun _ => rfl
  have stands := isSome_indexOf? list attr.name
  have placed := place_eq attr list.attributes
  rw [← indexOf?] at placed
  rw [defineHere, reads, define, ← stands, placed]
  cases list.indexOf? attr.name with
  | none => rfl
  | some index => cases list.overridable <;> rfl

/-- Defining in place fails just if the name is taken for good, and leaves the list then. -/
theorem run_defineHere_eq_error {list after : AttributeList} {attr : Attribute} {fault : Fault} :
    (defineHere attr).run list = (.error fault, after) ↔
      (attr.name ∈ list.names ∧ list.overridable = false) ∧ fault = .definedAlready attr.name ∧
        after = list := by
  rw [← and_assoc, ← define_eq_error, run_defineHere]
  cases list.define attr with
  | ok defined =>
    constructor
    · rintro ⟨⟩
    · rintro ⟨⟨⟩, _⟩
  | error other =>
    constructor
    · rintro ⟨⟩
      exact ⟨rfl, rfl⟩
    · rintro ⟨⟨⟩, rfl⟩
      rfl

/-- When defining in place succeeds, the attribute is placed and nothing else changes. -/
theorem run_defineHere_eq_ok {list after : AttributeList} {attr : Attribute}
    (done : (defineHere attr).run list = (.ok (), after)) :
    after = { list with attributes := place attr list.attributes } := by
  rw [run_defineHere] at done
  cases made : list.define attr with
  | error fault =>
    rw [made] at done
    cases done
  | ok defined =>
    rw [made] at done
    cases done
    unfold define at made
    split at made
    · cases made
    · exact (Except.ok.inj made).symm

/-! ### Reached lists -/

/-- The lists that come of empty ones by edits, whether these fail or not. -/
inductive Reached : AttributeList → Prop where
  /-- An empty list. -/
  | empty : Reached {}
  /-- An attribute is defined, or fails to be. -/
  | define {list : AttributeList} (before : Reached list) (attr : Attribute) :
    Reached ((defineHere attr).run list).2
  /-- The list is told to allow overrides. -/
  | allowOverrides {list : AttributeList} (before : Reached list) : Reached list.allowOverrides
  /-- A callback is added. -/
  | addCallback {list : AttributeList} (before : Reached list) (callback : Callback) :
    Reached (list.addCallback callback)
  /-- Another list, or the list itself, is applied. -/
  | apply {list other : AttributeList} (before : Reached list) (beside : Reached other)
    (how : Application) : Reached (list.apply other how)

/-- Defining in place keeps the names distinct. -/
theorem nodup_defineHere {list : AttributeList} (distinct : list.names.Nodup) (attr : Attribute) :
    ((defineHere attr).run list).2.names.Nodup := by
  rw [run_defineHere]
  cases made : list.define attr with
  | ok defined => exact nodup_define distinct made
  | error fault => exact distinct

/-- Applying a list with distinct names keeps the names distinct. -/
theorem nodup_apply {list other : AttributeList} (distinct : list.names.Nodup)
    (beside : other.names.Nodup) (how : Application) : (list.apply other how).names.Nodup := by
  cases how with
  | override => exact nodup_override distinct other
  | inherit => exact nodup_inherit distinct beside

/-- The names of a reached list are distinct. -/
theorem Reached.nodup {list : AttributeList} (reached : list.Reached) : list.names.Nodup := by
  induction reached with
  | empty => exact List.nodup_nil
  | define _ attr distinct => exact nodup_defineHere distinct attr
  | allowOverrides _ distinct => exact distinct
  | addCallback _ _ distinct => exact distinct
  | apply _ _ how distinct beside => exact nodup_apply distinct beside how

/-! ### Three lists -/

/-- A list that is laid over one adds the names that are new, in its order, after the old ones. -/
theorem names_override_eq_append {list other : AttributeList} (distinct : list.names.Nodup)
    (beside : other.names.Nodup) :
    (list.override other).names =
      list.names ++ other.names.filter (fun name => name ∉ list.names) :=
  (names_override distinct other).trans (eraseDups_append_of_nodup distinct beside)

/-- What is new to a list and what it adds is new to both of them. -/
theorem filter_notMem_append (names others more : List String) :
    more.filter (fun name => name ∉ names ++ others.filter fun name => name ∉ names) =
      (more.filter fun name => name ∉ others).filter fun name => name ∉ names := by
  rw [List.filter_filter]
  refine List.filter_congr fun name _ => ?_
  by_cases known : name ∈ names
  · simp [known]
  · simp [known]

/-- Laying two lists over one in turn is laying the second over the first, and both over the one. -/
theorem attributes_override_override {list other last : AttributeList}
    (distinct : list.names.Nodup) (beside : other.names.Nodup) (further : last.names.Nodup) :
    ((list.override other).override last).attributes =
      (list.override (other.override last)).attributes := by
  have both := nodup_override beside last
  refine attributes_ext (nodup_override (nodup_override distinct other) last) ?_ fun name => ?_
  · rw [names_override_eq_append (nodup_override distinct other) further,
      names_override_eq_append distinct beside, names_override_eq_append distinct both,
      names_override_eq_append beside further, filter_notMem_append, List.filter_append,
      List.append_assoc]
  · rw [find?_override _ further, find?_override _ beside, find?_override _ both,
      find?_override _ further, Option.or_assoc]

/-- Putting two lists under one in turn is putting the second under the first, and both under the
one. -/
theorem attributes_inherit_inherit (list other last : AttributeList) :
    ((list.inherit other).inherit last).attributes =
      (list.inherit (other.inherit last)).attributes := by
  have fresh : (last.attributes.filter fun attr => !(list.inherit other).has attr.name) =
      (last.attributes.filter fun attr => !other.has attr.name).filter fun attr =>
        !list.has attr.name := by
    rw [List.filter_filter]
    refine List.filter_congr fun attr _ => ?_
    rw [has, find?_inherit, Option.isSome_or, Bool.not_or]
    rfl
  calc ((list.inherit other).inherit last).attributes
      = (last.attributes.filter fun attr => !(list.inherit other).has attr.name) ++
          ((other.attributes.filter fun attr => !list.has attr.name) ++ list.attributes) := rfl
    _ = (list.inherit (other.inherit last)).attributes := by
      rw [fresh, ← List.append_assoc, ← List.filter_append]
      rfl

/-- What is certain of a list with two others. -/
structure Lawful (list other last : AttributeList) : Prop where
  /-- The names are distinct. -/
  distinct : list.names.Nodup
  /-- Defining in place does what defining does, and leaves the list if that fails. -/
  inPlace : ∀ attr, (defineHere attr).run list =
    match list.define attr with
    | .ok after => (.ok (), after)
    | .error fault => (.error fault, list)
  /-- A definition fails just if the name is there and may not be defined again. -/
  taken : ∀ attr, (∃ fault after, (defineHere attr).run list = (.error fault, after)) ↔
    attr.name ∈ list.names ∧ list.overridable = false
  /-- A definition that fails leaves the list as it is. -/
  refused : ∀ {attr fault after}, (defineHere attr).run list = (.error fault, after) → after = list
  /-- What is defined is found under its name, where that stands or at the end. -/
  defined : ∀ {attr after}, (defineHere attr).run list = (.ok (), after) →
    (∀ name, after.find? name = if attr.name == name then some attr else list.find? name) ∧
      after.names = if attr.name ∈ list.names then list.names else list.names ++ [attr.name]
  /-- A list that is laid over another one wins. -/
  overridden : ∀ name,
    (list.apply other .override).find? name = (other.find? name).or (list.find? name)
  /-- The old names stay where they are, and the new ones follow in their order. -/
  namesOverridden : (list.apply other .override).names =
    list.names ++ other.names.filter (fun name => name ∉ list.names)
  /-- A list that another one is put under wins. -/
  inherited : ∀ name,
    (list.apply other .inherit).find? name = (list.find? name).or (other.find? name)
  /-- The new names come first in their order, and the old ones follow. -/
  namesInherited : (list.apply other .inherit).names =
    other.names.filter (fun name => name ∉ list.names) ++ list.names
  /-- The callbacks of the other list follow. -/
  callbacks : ∀ how, (list.apply other how).callbacks = list.callbacks ++ other.callbacks
  /-- Applying two lists in turn is applying the second to the first, and both to the list. -/
  associative : ∀ how, ((list.apply other how).apply last how).attributes =
    (list.apply (other.apply last how) how).attributes

/-- Whatever is done to lists, and whatever of it fails, their names are distinct, and applying them
to each other is lawful. -/
theorem lawful_of_reached {list other last : AttributeList} (reached : list.Reached)
    (beside : other.Reached) (further : last.Reached) : Lawful list other last where
  distinct := reached.nodup
  inPlace := run_defineHere list
  taken attr := by
    simp only [run_defineHere_eq_error]
    constructor
    · rintro ⟨_, _, taken, _⟩
      exact taken
    · exact fun taken => ⟨_, _, taken, rfl, rfl⟩
  refused failed := (run_defineHere_eq_error.1 failed).2.2
  defined done := by
    obtain rfl := run_defineHere_eq_ok done
    exact ⟨find?_place _ _, map_name_place _ _⟩
  overridden := find?_override list beside.nodup
  namesOverridden := names_override_eq_append reached.nodup beside.nodup
  inherited := find?_inherit list other
  namesInherited := names_inherit list other
  callbacks how := by cases how <;> rfl
  associative how := by
    cases how with
    | override => exact attributes_override_override reached.nodup beside.nodup further.nodup
    | inherit => exact attributes_inherit_inherit list other last

/-- An attribute with a fixed number. -/
def numbered (name : String) (n : Int) : Attribute := { name := name, source := .static (.int n) }

/-- A list in which a name is defined again in vain, one in which it is defined again with leave,
and the first of them once more. -/
theorem lawful_of_reached_again : ∃ list other : AttributeList,
    list.Reached ∧ other.Reached ∧
      list.names = ["name", "email"] ∧ other.names = ["email", "admin"] ∧
      (list.apply other .override).names = ["name", "email", "admin"] ∧
      (list.apply other .inherit).names = ["admin", "name", "email"] ∧ Lawful list other list := by
  have named : Reached _ := .define .empty (numbered "name" 1)
  have list : Reached _ := .define (.define named (numbered "email" 1)) (numbered "name" 2)
  have mailed : Reached _ := .define (.allowOverrides .empty) (numbered "email" 2)
  have other : Reached _ := .define (.define mailed (numbered "admin" 2)) (numbered "email" 3)
  exact ⟨_, _, list, other, by decide +kernel, by decide +kernel, by decide +kernel,
    by decide +kernel, lawful_of_reached list other list⟩

end Blueprint.AttributeList
