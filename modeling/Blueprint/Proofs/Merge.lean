import Blueprint.Merge
import Blueprint.Proofs.Value.Path

/-!
# Laws of layering

What a map laid over another one gives is read off path by path: where the upper map holds a value,
the result holds that value merged with what the lower map holds there, and elsewhere it is the
lower map.
-/
namespace Blueprint

/-! ### One level -/

/-- A key of the upper map holds its value merged with what the lower map holds there; every other
key holds what the lower map holds. -/
theorem lookup_mergeDicts {upper : Dict} (distinct : Table.Distinct upper) (base : Dict)
    (key : Key) : (mergeDicts base upper).lookup key =
      match upper.lookup key with
      | some value => some (mergeValue (base.lookup key) value)
      | none => base.lookup key := by
  induction upper generalizing base with
  | nil => rfl
  | cons entry rest ih =>
    obtain ⟨first, value⟩ := entry
    have later : Table.Distinct rest := (List.pairwise_cons.1 distinct).2
    rw [mergeDicts, ih later, Table.lookup_put, List.lookup_cons]
    cases same : key == first with
    | true =>
      rw [distinct.lookup_tail same]
      simp [Table.lookup_congr base same]
    | false => simp

/-- The keys of the lower map keep their places, and new keys follow in the order of the upper
map. -/
theorem keys_mergeDicts {upper : Dict} (distinct : Table.Distinct upper) (base : Dict) :
    Table.keys (mergeDicts base upper) =
      Table.keys base ++ (Table.keys upper).filter fun key => !Table.has base key := by
  induction upper generalizing base with
  | nil => simp [mergeDicts, Table.keys]
  | cons entry rest ih =>
    obtain ⟨first, value⟩ := entry
    obtain ⟨apart, later⟩ := List.pairwise_cons.1 distinct
    have others : (Table.keys rest).filter (fun key =>
          !Table.has (Table.put base first (mergeValue (base.lookup first) value)) key) =
        (Table.keys rest).filter fun key => !Table.has base key := by
      refine List.filter_congr fun key member => ?_
      rw [Table.has_put, BEq.comm, apart key member, Bool.false_or]
    have split : Table.keys ((first, value) :: rest) = first :: Table.keys rest := rfl
    rw [mergeDicts, ih later, others, Table.keys_put, split, List.filter_cons]
    cases held : Table.has base first <;> simp

/-- Where nothing is below, the upper value stands as it is. -/
theorem mergeValue_none (upper : Value) : mergeValue none upper = upper := by
  cases upper <;> rfl

/-- A scalar stands as it is. -/
theorem mergeValue_scalar (base : Option Value) {upper : Value} (scalar : upper.IsScalar) :
    mergeValue base upper = upper := by
  cases upper with
  | dict _ | list _ => exact scalar.elim
  | _ =>
    cases base with
    | none => rfl
    | some lower => cases lower <;> rfl

/-- A map laid over any value is a map, and what it holds under a key is merged with what the value
holds there. -/
theorem exists_mergeValue_dict {above : Dict} (distinct : Table.Distinct above)
    (base : Option Value) : ∃ merged, mergeValue base (.dict above) = .dict merged ∧
      ∀ key, merged.lookup key =
        match above.lookup key with
        | some value => some (mergeValue ((Value.entriesOf base).lookup key) value)
        | none => (Value.entriesOf base).lookup key := by
  by_cases map : ∃ lower, base = some (.dict lower)
  · obtain ⟨lower, rfl⟩ := map
    exact ⟨mergeDicts lower above, rfl, lookup_mergeDicts distinct lower⟩
  · have alone : mergeValue base (.dict above) = .dict above ∧ Value.entriesOf base = [] := by
      cases base with
      | none => exact ⟨rfl, rfl⟩
      | some lower =>
        cases lower with
        | dict entries => exact absurd ⟨entries, rfl⟩ map
        | _ => exact ⟨rfl, rfl⟩
    refine ⟨above, alone.1, fun key => ?_⟩
    rw [alone.2]
    cases above.lookup key with
    | none => rfl
    | some value => exact congrArg some (mergeValue_none value).symm

/-! ### Paths -/

/-- Where the upper value holds something, the result holds it merged with what the lower value
holds there. -/
theorem at?_mergeValue {upper value : Value} (distinct : upper.HasDistinctKeys)
    (base : Option Value) {path : List Key} (held : upper.at? path = some value) :
    (mergeValue base upper).at? path =
      some (mergeValue (base.bind fun lower => lower.at? path) value) := by
  induction path generalizing base upper with
  | nil =>
    obtain rfl : upper = value := by simpa using held
    cases base <;> simp
  | cons key path ih =>
    cases upper with
    | dict above =>
      rw [Value.at?_dict_cons] at held
      obtain ⟨inner, found, leads⟩ := Option.bind_eq_some_iff.1 held
      obtain ⟨merged, eq, lookup⟩ := exists_mergeValue_dict distinct.own base
      have here : merged.lookup key = some (mergeValue ((Value.entriesOf base).lookup key) inner) := by
        rw [lookup, found]
      rw [eq, Value.at?_dict_cons, here, Option.bind_some, ih (distinct.inner found) _ leads,
        Value.bind_lookup_entriesOf]
    | _ => cases held

/-- Where the upper value holds nothing, and holds maps only on the way there, the result holds what
the lower value holds. -/
theorem at?_mergeValue_of_none {upper : Value} (distinct : upper.HasDistinctKeys)
    (base : Option Value) {path : List Key} (absent : upper.at? path = none)
    (maps : ∀ front, front <+: path → ∀ value, upper.at? front = some value →
      ∃ entries, value = .dict entries) :
    (mergeValue base upper).at? path = base.bind fun lower => lower.at? path := by
  induction path generalizing base upper with
  | nil => simp at absent
  | cons key path ih =>
    obtain ⟨above, rfl⟩ := maps [] (List.nil_prefix) upper (Value.at?_nil upper)
    obtain ⟨merged, eq, lookup⟩ := exists_mergeValue_dict distinct.own base
    rw [eq, Value.at?_dict_cons, lookup, ← Value.bind_lookup_entriesOf]
    cases found : above.lookup key with
    | none => rfl
    | some inner =>
      rw [Value.at?_dict_cons, found] at absent
      refine ih (distinct.inner found) _ absent fun front start value held => ?_
      refine maps (key :: front) (List.cons_prefix_cons.2 ⟨rfl, start⟩) value ?_
      rw [Value.at?_dict_cons, found]
      exact held

/-! ### Lists -/

/-- A list starts with a mark, which says how it joins the list below. -/
def IsMarked (items : List Value) : Prop :=
  items.head? = some (.text "+") ∨ items.head? = some (.text "=")

/-- A list without a mark replaces the list below. -/
theorem mergeLists_of_not_isMarked {items : List Value} (plain : ¬ IsMarked items)
    (base : List Value) : mergeLists base items = items := by
  unfold mergeLists
  split
  · exact absurd (.inl rfl) plain
  · exact absurd (.inr rfl) plain
  · rfl

/-- A list is what it makes of an empty list just if it has no mark, for a mark is dropped. -/
theorem mergeLists_nil_eq_self_iff {items : List Value} :
    mergeLists [] items = items ↔ ¬ IsMarked items := by
  constructor
  · rintro same (appended | replaced)
    · obtain ⟨rest, rfl⟩ := List.head?_eq_some_iff.1 appended
      exact List.cons_ne_self _ _ same.symm
    · obtain ⟨rest, rfl⟩ := List.head?_eq_some_iff.1 replaced
      exact List.cons_ne_self _ _ same.symm
  · intro plain
    exact mergeLists_of_not_isMarked plain []

/-- A list laid over anything but a list stands as it is. -/
theorem mergeValue_list {base : Option Value} (no_list : ∀ lower, base ≠ some (.list lower))
    (items : List Value) : mergeValue base (.list items) = .list items := by
  cases base with
  | none => rfl
  | some lower =>
    cases lower with
    | list lower => exact absurd rfl (no_list lower)
    | _ => rfl

/-! ### Layering twice -/

/-- A list has no mark. -/
def Value.IsPlain : Value → Prop
  | .list items => ¬ IsMarked items
  | _ => True

/-- No list to which a path of keys leads has a mark. -/
abbrev Value.HasNoMarks : Value → Prop := Value.Throughout Value.IsPlain

/-- A map whose values are what they become with those of the upper map is not changed by it. -/
theorem mergeDicts_eq_self {entries upper : Dict}
    (settled : ∀ entry ∈ upper, ∃ value, entries.lookup entry.1 = some value ∧
      mergeValue (some value) entry.2 = value) : mergeDicts entries upper = entries := by
  induction upper with
  | nil => rfl
  | cons entry rest ih =>
    obtain ⟨first, above⟩ := entry
    obtain ⟨⟨value, held, same⟩, later⟩ := List.forall_mem_cons.1 settled
    rw [mergeDicts, held, same, Table.put_of_lookup held]
    exact ih later

mutual

/-- Laying a value without marks over what it gave before changes nothing. -/
theorem mergeValue_again (upper : Value) (distinct : upper.HasDistinctKeys)
    (plain : upper.HasNoMarks) (base : Option Value) :
    mergeValue (some (mergeValue base upper)) upper = mergeValue base upper := by
  by_cases scalar : upper.IsScalar
  · rw [mergeValue_scalar _ scalar, mergeValue_scalar _ scalar]
  cases upper with
  | dict above =>
    obtain ⟨merged, eq, lookup⟩ := exists_mergeValue_dict distinct.own base
    rw [eq]
    have settled : mergeDicts merged above = merged := by
      refine mergeDicts_eq_self fun entry member => ?_
      have found := distinct.own.lookup_of_mem member
      refine ⟨mergeValue ((Value.entriesOf base).lookup entry.1) entry.2, ?_, ?_⟩
      · rw [lookup, found]
      · exact mergeEntries_again above
          (fun entry member => distinct.inner (distinct.own.lookup_of_mem member))
          (fun entry member => plain.inner (distinct.own.lookup_of_mem member)) entry member _
    exact congrArg Value.dict settled
  | list items =>
    have own : ¬ IsMarked items := plain.own
    have stands : ∀ lower, mergeValue lower (.list items) = .list items := by
      intro lower
      by_cases list : ∃ below, lower = some (.list below)
      · obtain ⟨below, rfl⟩ := list
        exact congrArg Value.list (mergeLists_of_not_isMarked own below)
      · exact mergeValue_list (fun below same => list ⟨below, same⟩) items
    rw [stands, stands]
  | _ => exact absurd trivial scalar
termination_by structural upper

/-- The same for each entry of a map. -/
theorem mergeEntries_again (above : List (Key × Value))
    (distinct : ∀ entry ∈ above, entry.2.HasDistinctKeys)
    (plain : ∀ entry ∈ above, entry.2.HasNoMarks) :
    ∀ entry ∈ above, ∀ base,
      mergeValue (some (mergeValue base entry.2)) entry.2 = mergeValue base entry.2 := by
  cases above with
  | nil =>
    intro entry never
    cases never
  | cons first rest =>
    obtain ⟨key, value⟩ := first
    have own := mergeValue_again value (distinct _ List.mem_cons_self) (plain _ List.mem_cons_self)
    have others := mergeEntries_again rest
      (fun entry member => distinct entry (List.mem_cons_of_mem _ member))
      (fun entry member => plain entry (List.mem_cons_of_mem _ member))
    exact List.forall_mem_cons.2 ⟨own, others⟩
termination_by structural above

end

/-! ### Layers of maps -/

/-- What a list of the upper map becomes. Where the lower map holds a list too, it is joined to that
list as its mark asks; everywhere else it stands as it is, and its mark with it. So it is what its
mark asks for, with no items where the lower map has no list, just if the lower map has a list there
or it has no mark. -/
theorem at?_mergeDicts_list (base : Dict) {upper : Dict}
    (distinct : (Value.dict upper).HasDistinctKeys) {path : List Key} {items : List Value}
    (held : (Value.dict upper).at? path = some (.list items)) :
    (∀ lower, (Value.dict base).at? path = some (.list lower) →
        (Value.dict (mergeDicts base upper)).at? path = some (.list (mergeLists lower items))) ∧
      ((∀ lower, (Value.dict base).at? path ≠ some (.list lower)) →
        (Value.dict (mergeDicts base upper)).at? path = some (.list items)) ∧
      ((Value.dict (mergeDicts base upper)).at? path =
          some (.list (mergeLists (Value.itemsOf ((Value.dict base).at? path)) items)) ↔
        (∃ lower, (Value.dict base).at? path = some (.list lower)) ∨ ¬ IsMarked items) := by
  have merged : (Value.dict (mergeDicts base upper)).at? path =
      some (mergeValue ((Value.dict base).at? path) (.list items)) :=
    at?_mergeValue distinct (some (.dict base)) held
  have joined : ∀ lower, (Value.dict base).at? path = some (.list lower) →
      (Value.dict (mergeDicts base upper)).at? path = some (.list (mergeLists lower items)) := by
    intro lower below
    rw [merged, below]
    rfl
  have alone : (∀ lower, (Value.dict base).at? path ≠ some (.list lower)) →
      (Value.dict (mergeDicts base upper)).at? path = some (.list items) := by
    intro no_list
    rw [merged, mergeValue_list no_list]
  refine ⟨joined, alone, ?_⟩
  by_cases list : ∃ lower, (Value.dict base).at? path = some (.list lower)
  · obtain ⟨lower, below⟩ := list
    have asked := joined lower below
    rw [below]
    exact ⟨fun _ => .inl ⟨lower, rfl⟩, fun _ => asked⟩
  · have no_list : ∀ lower, (Value.dict base).at? path ≠ some (.list lower) :=
      fun lower below => list ⟨lower, below⟩
    have none_ : Value.itemsOf ((Value.dict base).at? path) = [] := by
      cases below : (Value.dict base).at? path with
      | none => rfl
      | some lower =>
        cases lower with
        | list lower => exact absurd below (no_list lower)
        | _ => rfl
    rw [alone no_list, none_, or_iff_right list, ← mergeLists_nil_eq_self_iff]
    constructor
    · intro same
      exact (Value.list.inj (Option.some.inj same)).symm
    · intro same
      rw [same]

/-- A map with a list of one item. -/
def fewItems : Dict := [(.text "items", .list [.int 1])]

/-- A map with a list that adds an item to the one below. -/
def moreItems : Dict := [(.text "items", .list [.text "+", .int 2])]

/-- The list that adds an item to the one below has both items in the result. -/
theorem at?_mergeDicts_list_more :
    (Value.dict moreItems).HasDistinctKeys ∧
      (Value.dict moreItems).at? [.text "items"] = some (.list [.text "+", .int 2]) ∧
      (Value.dict (mergeDicts fewItems moreItems)).at? [.text "items"] =
        some (.list [.int 1, .int 2]) := by
  have distinct : (Value.dict moreItems).HasDistinctKeys := by
    refine Value.throughout_dict (List.pairwise_singleton _ _) fun entry member => ?_
    obtain rfl := List.mem_singleton.1 member
    exact Value.throughout_of_no_map (fun entries => nofun) trivial
  have held : (Value.dict moreItems).at? [.text "items"] = some (.list [.text "+", .int 2]) := rfl
  have below : (Value.dict fewItems).at? [.text "items"] = some (.list [.int 1]) := rfl
  exact ⟨distinct, held, (at?_mergeDicts_list fewItems distinct held).1 _ below⟩

/-- The same list is left with its mark where there is no list below. -/
theorem mergeDicts_keeps_mark :
    (Value.dict (mergeDicts [] moreItems)).at? [.text "items"] =
        some (.list [.text "+", .int 2]) ∧
      Value.itemsOf ((Value.dict []).at? [.text "items"]) = [] ∧
      mergeLists [] [.text "+", .int 2] = [.int 2] ∧
      (Value.dict (mergeDicts [] moreItems)).at? [.text "items"] ≠
        some (.list (mergeLists [] [.text "+", .int 2])) := by
  have left : (Value.dict (mergeDicts [] moreItems)).at? [.text "items"] =
      some (.list [.text "+", .int 2]) := rfl
  refine ⟨left, rfl, rfl, fun asked => ?_⟩
  have same := Value.list.inj (Option.some.inj (left.symm.trans asked))
  exact absurd (congrArg List.length same) (by decide)

/-- How two maps are layered, by paths of keys. A scalar of the upper map stands as it is. Where the
upper map says nothing the lower one is kept. Where both hold maps, the keys of the lower one keep
their order, and the new ones follow in the order of the upper one. And a map without marks that was
laid over another one changes nothing when it is laid over the result. -/
theorem mergeDicts_by_paths (base : Dict) {upper : Dict}
    (distinct : (Value.dict upper).HasDistinctKeys) :
    (∀ path value, (Value.dict upper).at? path = some value → value.IsScalar →
        (Value.dict (mergeDicts base upper)).at? path = some value) ∧
      (∀ path, (Value.dict upper).at? path = none →
        (∀ front, front <+: path → ∀ value, (Value.dict upper).at? front = some value →
          ∃ entries, value = .dict entries) →
        (Value.dict (mergeDicts base upper)).at? path = (Value.dict base).at? path) ∧
      (∀ path lower above, (Value.dict base).at? path = some (.dict lower) →
        (Value.dict upper).at? path = some (.dict above) →
        ∃ entries, (Value.dict (mergeDicts base upper)).at? path = some (.dict entries) ∧
          Table.keys entries =
            Table.keys lower ++ (Table.keys above).filter fun key => !Table.has lower key) ∧
      ((Value.dict upper).HasNoMarks →
        mergeDicts (mergeDicts base upper) upper = mergeDicts base upper) := by
  refine ⟨fun path value held scalar => ?_, fun path absent maps => ?_,
    fun path lower above below held => ?_, fun plain => ?_⟩
  · have merged := at?_mergeValue distinct (some (.dict base)) held
    rw [mergeValue_scalar _ scalar] at merged
    exact merged
  · exact at?_mergeValue_of_none distinct (some (.dict base)) absent maps
  · refine ⟨mergeDicts lower above, ?_, keys_mergeDicts (distinct path _ held) lower⟩
    have merged := at?_mergeValue distinct (some (.dict base)) held
    rw [Option.bind_some, below] at merged
    exact merged
  · have again := mergeValue_again (.dict upper) distinct plain (some (.dict base))
    exact Value.dict.inj again

/-- A map with a missing value and a number. -/
def oldMembers : Dict := [(.text "text", .null), (.text "number", .int 1)]

/-- A map with another number, and a list without a mark. -/
def newMembers : Dict := [(.text "number", .int 2), (.text "items", .list [.int 3])]

/-- The upper map brings its number and its list, the missing value of the lower one is kept, and
layering the upper one again changes nothing. -/
theorem mergeDicts_by_paths_members :
    (Value.dict newMembers).HasDistinctKeys ∧ (Value.dict newMembers).HasNoMarks ∧
      (Value.dict (mergeDicts oldMembers newMembers)).at? [.text "number"] = some (.int 2) ∧
      (Value.dict (mergeDicts oldMembers newMembers)).at? [.text "text"] = some .null ∧
      (∃ entries, (Value.dict (mergeDicts oldMembers newMembers)).at? [] = some (.dict entries) ∧
        Table.keys entries = [.text "text", .text "number", .text "items"]) ∧
      mergeDicts (mergeDicts oldMembers newMembers) newMembers =
        mergeDicts oldMembers newMembers := by
  have members : ∀ entry ∈ newMembers,
      entry = (.text "number", .int 2) ∨ entry = (.text "items", .list [.int 3]) := by
    intro entry member
    simpa [newMembers] using member
  have distinct : (Value.dict newMembers).HasDistinctKeys := by
    have own : Table.Distinct newMembers := by
      unfold Table.Distinct
      decide
    refine Value.throughout_dict own fun entry member => ?_
    obtain rfl | rfl := members entry member
    · exact Value.throughout_of_no_map (fun entries => nofun) trivial
    · exact Value.throughout_of_no_map (fun entries => nofun) trivial
  have plain : (Value.dict newMembers).HasNoMarks := by
    refine Value.throughout_dict trivial fun entry member => ?_
    obtain rfl | rfl := members entry member
    · exact Value.throughout_of_no_map (fun entries => nofun) trivial
    · refine Value.throughout_of_no_map (fun entries => nofun) ?_
      rintro (never | never) <;> cases never
  obtain ⟨scalars, kept, keys, again⟩ := mergeDicts_by_paths oldMembers distinct
  refine ⟨distinct, plain, scalars [.text "number"] _ rfl trivial, ?_, ?_, again plain⟩
  · refine kept [.text "text"] rfl fun front start value held => ?_
    obtain rfl | ⟨_, rfl, further⟩ := List.prefix_cons_iff.1 start
    · exact ⟨newMembers, (Option.some.inj held).symm⟩
    · obtain rfl := List.prefix_nil.1 further
      cases held
  · exact keys [] oldMembers newMembers rfl rfl

end Blueprint
