import Blueprint.Proofs.Config.Failure
import Blueprint.Proofs.Config.Layers
import Blueprint.Proofs.Config.Placement
import Mathlib.Data.List.Sort
import Mathlib.Data.String.Basic

/-!
# What variables make of a configuration

Variables are taken in the order of their names, so that it does not matter in which order the
environment lists them. If no variable leads through a list or a map that stands at several places,
each variable is seen at its path unless a later one gets in its way, and all other paths hold what
the file of the project laid over the defaults holds there.
-/
namespace Blueprint.Config

/-! ### The order of variables -/

/-- Variables are sorted by their names. -/
theorem pairwise_sorted (environment : Environment) :
    (sorted environment).Pairwise fun first second => first.1 ≤ second.1 := by
  have ordered : (sorted environment).Pairwise fun first second =>
      decide (first.1 ≤ second.1) = true :=
    List.pairwise_mergeSort (fun _ _ _ => by simpa using le_trans)
      (fun first second => by simpa using le_total first.1 second.1) environment
  exact ordered.imp of_decide_eq_true

/-- Variables that are sorted are those of the environment. -/
theorem mem_sorted {environment : Environment} {entry : String × String} :
    entry ∈ sorted environment ↔ entry ∈ environment := List.mem_mergeSort

variable {environment other : Environment}

/-- Of variables with distinct names the order of the names is the only one. -/
theorem sorted_of_perm (distinct : Table.Distinct environment) (same : other.Perm environment) :
    sorted other = sorted environment := by
  have perm : (sorted other).Perm (sorted environment) :=
    (List.mergeSort_perm _ _).trans (same.trans (List.mergeSort_perm _ _).symm)
  refine perm.eq_of_pairwise ?_ (pairwise_sorted other) (pairwise_sorted environment)
  intro first second member member' least least'
  have names : first.1 = second.1 := le_antisymm least least'
  have found := distinct.lookup_of_mem (same.mem_iff.1 (mem_sorted.1 member))
  have found' := distinct.lookup_of_mem (mem_sorted.1 member')
  rw [names, found'] at found
  exact Prod.ext names (Option.some.inj found).symm

/-- Of variables with distinct names each has a greater name than those before it. -/
theorem pairwise_sorted_lt (distinct : Table.Distinct environment) :
    (sorted environment).Pairwise fun first second => first.1 < second.1 := by
  have names : (sorted environment).Pairwise fun first second => (first.1 == second.1) = false :=
    List.pairwise_map.1 (distinct.of_perm (List.mergeSort_perm _ _))
  refine ((pairwise_sorted environment).and names).imp ?_
  rintro first second ⟨least, apart⟩
  exact lt_of_le_of_ne least (by simpa using apart)

/-- Loading does not depend on the order in which the environment lists its variables. -/
theorem load_of_perm {sources : Sources} (distinct : Table.Distinct sources.environment)
    (same : other.Perm sources.environment) :
    load { sources with environment := other } = load sources := by
  have file : Sources.file? { sources with environment := other } = sources.file? := by
    simp only [Sources.file?, distinct.lookup_of_perm same]
  rw [load, load, file, sorted_of_perm distinct same]

/-! ### One variable -/

/-- A variable sets a value at a path. -/
def Sets (room : Nat) (entry : String × String) (path : Path) (value : Value) : Prop :=
  ∃ key, keyOf? entry.1 = some key ∧ parsePath key = .ok path ∧ coerce entry.2 room = .ok value

variable {room : Nat}

/-- A variable sets one value at one path. -/
theorem Sets.unique {entry : String × String} {path way : Path} {value plain : Value}
    (sets : Sets room entry path value) (also : Sets room entry way plain) :
    path = way ∧ value = plain := by
  obtain ⟨key, its, parsed, typed⟩ := sets
  obtain ⟨other, its', parsed', typed'⟩ := also
  obtain rfl := Option.some.inj (its.symm.trans its')
  exact ⟨Except.ok.inj (parsed.symm.trans parsed'), Except.ok.inj (typed.symm.trans typed')⟩

/-- The pieces of a text are not none. -/
theorem splitAtMarks_ne_nil (cs : List Char) : splitAtMarks cs ≠ [] := by
  unfold splitAtMarks
  split
  · exact List.cons_ne_nil _ _
  · exact List.cons_ne_nil _ _
  · split <;> exact List.cons_ne_nil _ _

/-- The path of a variable has a step. -/
theorem Sets.path_ne_nil {entry : String × String} {path : Path} {value : Value}
    (sets : Sets room entry path value) : path ≠ [] := by
  obtain ⟨key, _, parsed, _⟩ := sets
  unfold parsePath at parsed
  cases pieces : splitAtMarks key.toList with
  | nil => exact absurd pieces (splitAtMarks_ne_nil _)
  | cons first rest =>
    rw [pieces, segments] at parsed
    split at parsed
    · cases parsed
    · obtain ⟨segment, _, later⟩ := bind_eq_ok.1 parsed
      obtain ⟨more, _, eq⟩ := bind_eq_ok.1 later
      rw [← Except.ok.inj eq]
      exact List.cons_ne_nil _ _

/-- A variable that does not fail sets its value, or is none of those that set one. -/
theorem override_eq_ok {root after : Shared} {entry : String × String}
    (done : override room root entry.1 entry.2 = .ok after) :
    (keyOf? entry.1 = none ∧ after = root) ∨
      ∃ path value, Sets room entry path value ∧ root.assign path value = .ok after := by
  unfold override at done
  split at done
  · rename_i none_
    exact .inl ⟨none_, (Except.ok.inj done).symm⟩
  · rename_i key its
    split at done
    · cases done
    · obtain ⟨path, parsed, later⟩ := bind_eq_ok.1 done
      obtain ⟨value, typed, assigned⟩ := bind_eq_ok.1 later
      exact .inr ⟨path, value, ⟨key, its, parsed, typed⟩, assigned⟩

/-- No variable of an environment leads through a container that stands at several places. -/
def AllClear (room : Nat) (environment : Environment) (root : Shared) : Prop :=
  ∀ entry ∈ environment, ∀ path value, Sets room entry path value → root.IsClear path

/-- No variable of an environment has a path that is related to a path of keys. -/
def AllApart (room : Nat) (environment : Environment) (names : List String) : Prop :=
  ∀ entry ∈ environment, ∀ path value, Sets room entry path value →
    ¬ Related path (segmentsOf names)

section Step

variable {root after : Shared} {entry : String × String}

/-- A variable whose way is clear keeps every clear way clear. -/
theorem isClear_of_override (clear : AllClear room [entry] root)
    (done : override room root entry.1 entry.2 = .ok after) {way : Path} (free : root.IsClear way) :
    after.IsClear way := by
  obtain ⟨_, rfl⟩ | ⟨path, value, sets, assigned⟩ := override_eq_ok done
  · exact free
  · rw [Shared.assign_of_isClear (clear entry (by simp) path value sets)] at assigned
    exact free.setPath assigned

/-- A variable whose way is clear leaves what stands at a path that is not related to its own. -/
theorem at?_override_of_apart (clear : AllClear room [entry] root)
    (done : override room root entry.1 entry.2 = .ok after) {names : List String}
    (apart : AllApart room [entry] names) :
    after.value.at? (keysOf names) = root.value.at? (keysOf names) := by
  obtain ⟨_, rfl⟩ | ⟨path, value, sets, assigned⟩ := override_eq_ok done
  · rfl
  · rw [Shared.assign_of_isClear (clear entry (by simp) path value sets)] at assigned
    exact at?_setPath_of_not_related (Shared.setPath_value_of_ok assigned)
      (apart entry (by simp) path value sets)

/-- A variable whose way is clear is seen at its path. -/
theorem at?_override (clear : AllClear room [entry] root)
    (done : override room root entry.1 entry.2 = .ok after) {names : List String} {value : Value}
    (sets : Sets room entry (segmentsOf names) value) :
    after.value.at? (keysOf names) = some value := by
  obtain ⟨none_, _⟩ | ⟨path, other, also, assigned⟩ := override_eq_ok done
  · obtain ⟨key, its, _⟩ := sets
    rw [none_] at its
    cases its
  · rw [Shared.assign_of_isClear (clear entry (by simp) path other also)] at assigned
    obtain ⟨rfl, rfl⟩ := also.unique sets
    have some_ : names ≠ [] := by
      rintro rfl
      exact sets.path_ne_nil rfl
    have found := at?_setPath some_ (Shared.setPath_value_of_ok assigned)
    rwa [Shared.value_ofValue] at found

end Step

/-! ### All variables -/

/-- Variables whose ways are clear leave what stands at a path that is not related to any of theirs,
and keep every clear way clear. -/
theorem at?_overrideAll_of_apart {environment : Environment} {root after : Shared}
    (clear : AllClear room environment root) (done : overrideAll room root environment = .ok after) :
    (∀ way, root.IsClear way → after.IsClear way) ∧
      ∀ names, AllApart room environment names →
        after.value.at? (keysOf names) = root.value.at? (keysOf names) := by
  induction environment generalizing root with
  | nil =>
    obtain rfl := Except.ok.inj done
    exact ⟨fun way free => free, fun names apart => rfl⟩
  | cons entry rest ih =>
    rw [overrideAll, List.foldlM_cons] at done
    obtain ⟨middle, first, later⟩ := bind_eq_ok.1 done
    have own : AllClear room [entry] root := by
      intro other member
      exact clear other (by simpa using .inl (List.mem_singleton.1 member))
    have others : AllClear room rest middle := by
      intro other member path value sets
      exact isClear_of_override own first
        (clear other (List.mem_cons_of_mem _ member) path value sets)
    obtain ⟨free, kept⟩ := ih others later
    refine ⟨fun way open_ => free way (isClear_of_override own first open_), fun names apart => ?_⟩
    rw [kept names fun other member => apart other (List.mem_cons_of_mem _ member)]
    refine at?_override_of_apart own first fun other member => ?_
    exact apart other (by simpa using .inl (List.mem_singleton.1 member))

/-- A variable whose way is clear is seen at its path after all variables, if no later one has a
path that is related to it. -/
theorem at?_overrideAll {before later : Environment} {entry : String × String}
    {root after : Shared} (clear : AllClear room (before ++ entry :: later) root)
    (done : overrideAll room root (before ++ entry :: later) = .ok after) {names : List String}
    {value : Value} (sets : Sets room entry (segmentsOf names) value)
    (apart : AllApart room later names) :
    after.value.at? (keysOf names) = some value := by
  rw [overrideAll, List.foldlM_append] at done
  obtain ⟨first, came, next⟩ := bind_eq_ok.1 done
  rw [List.foldlM_cons] at next
  obtain ⟨second, set_, rest⟩ := bind_eq_ok.1 next
  have earlier : AllClear room before root := fun other member =>
    clear other (List.mem_append_left _ member)
  have free := (at?_overrideAll_of_apart earlier came).1
  have own : AllClear room [entry] first := by
    intro other member path plain also
    obtain rfl := List.mem_singleton.1 member
    exact free path (clear other (by simp) path plain also)
  have others : AllClear room later second := by
    intro other member path plain also
    have inside : other ∈ before ++ entry :: later := by simp [member]
    exact isClear_of_override own set_ (free path (clear other inside path plain also))
  rw [(at?_overrideAll_of_apart others rest).2 names apart]
  exact at?_override own set_ sets

/-- Variables that do not fail each have a path and a value, or are none of those that set one. -/
theorem exists_sets_of_overrideAll {environment : Environment} {root after : Shared}
    (done : overrideAll room root environment = .ok after) {entry : String × String}
    (member : entry ∈ environment) (key : (keyOf? entry.1).isSome) :
    ∃ path value, Sets room entry path value := by
  obtain ⟨before, later, rfl⟩ := List.append_of_mem member
  rw [overrideAll, List.foldlM_append] at done
  obtain ⟨first, _, next⟩ := bind_eq_ok.1 done
  rw [List.foldlM_cons] at next
  obtain ⟨second, set_, _⟩ := bind_eq_ok.1 next
  obtain ⟨none_, _⟩ | ⟨path, value, sets, _⟩ := override_eq_ok set_
  · rw [none_] at key
    cases key
  · exact ⟨path, value, sets⟩

/-- Loading succeeds with the value of what the variables make of the file of the project laid over
the defaults. -/
theorem load_eq_ok_iff {sources : Sources} {config : Value} :
    load sources = .ok config ↔ ∃ project after,
      readProject sources.loader sources.file? = .ok project ∧
      overrideAll sources.room.reading (.dict (mergeDicts defaults project))
        (sorted sources.environment) = .ok after ∧
      after.value = config := by
  unfold load
  rw [bind_eq_ok]
  constructor
  · rintro ⟨project, read, later⟩
    obtain ⟨after, done, eq⟩ := bind_eq_ok.1 later
    exact ⟨project, after, read, done, Except.ok.inj eq⟩
  · rintro ⟨project, after, read, done, eq⟩
    exact ⟨project, read, bind_eq_ok.2 ⟨after, done, congrArg Except.ok eq⟩⟩

/-- A configuration that keeps the schema is one that is loaded without it. -/
theorem load_of_loadValid {sources : Sources} {config : Value}
    (loaded : loadValid sources = .ok config) : load sources = .ok config := by
  obtain ⟨other, done, later⟩ := bind_eq_ok.1 loaded
  obtain ⟨_, _, eq⟩ := bind_eq_ok.1 later
  rw [done, Except.ok.inj eq]

/-- Of the variables of an environment those whose names come after that of a given one. -/
def laterThan (entry : String × String) (environment : Environment) : Environment :=
  environment.filter fun other => entry.1 < other.1

/-- Loading a configuration does not depend on the order in which the environment lists its
variables, and each variable that sets a value has a path and a value. If no variable leads through
a list or a map that stands at several places in the file of the project laid over the defaults,
then each variable with a path of keys is seen at its path, unless a later one has a path that is
related to it, and each path of keys that is related to that of no variable holds what the file laid
over the defaults holds there. -/
theorem load_by_layers {sources : Sources} (distinct : Table.Distinct sources.environment)
    {config : Value} (loaded : load sources = .ok config ∨ loadValid sources = .ok config) :
    (∀ other : Environment, other.Perm sources.environment →
        load { sources with environment := other } = load sources ∧
          loadValid { sources with environment := other } = loadValid sources) ∧
      (∀ entry ∈ sources.environment, (keyOf? entry.1).isSome →
        ∃ path value, Sets sources.room.reading entry path value) ∧
      ∃ project, readProject sources.loader sources.file? = .ok project ∧
        (AllClear sources.room.reading sources.environment (.dict (mergeDicts defaults project)) →
          (∀ entry ∈ sources.environment, ∀ names value,
            Sets sources.room.reading entry (segmentsOf names) value →
            AllApart sources.room.reading (laterThan entry sources.environment) names →
            config.at? (keysOf names) = some value) ∧
          ∀ names, AllApart sources.room.reading sources.environment names →
            config.at? (keysOf names) = (Value.dict (Blueprint.mergeDicts defaults
              (Shared.valueEntries project))).at? (keysOf names)) := by
  have done : load sources = .ok config := loaded.elim id load_of_loadValid
  obtain ⟨project, after, read, made, rfl⟩ := load_eq_ok_iff.1 done
  refine ⟨fun other same => ?_, fun entry member key => ?_, project, read, fun clear => ?_⟩
  · have alike := load_of_perm distinct same
    exact ⟨alike, by rw [loadValid, loadValid, alike]⟩
  · exact exists_sets_of_overrideAll made (mem_sorted.2 member) key
  · have clear_ : AllClear sources.room.reading (sorted sources.environment)
        (.dict (mergeDicts defaults project)) := fun entry member =>
      clear entry (mem_sorted.1 member)
    constructor
    · intro entry member names value sets apart
      obtain ⟨before, later, split⟩ := List.append_of_mem (mem_sorted.2 member)
      rw [split] at made clear_
      refine at?_overrideAll clear_ made sets fun other inside path plain also => ?_
      have ordered := pairwise_sorted_lt distinct
      rw [split] at ordered
      have greater : entry.1 < other.1 :=
        (List.pairwise_cons.1 (List.pairwise_append.1 ordered).2.1).1 other inside
      have inEnvironment : other ∈ sources.environment := by
        refine mem_sorted.1 ?_
        rw [split]
        simp [inside]
      refine apart other ?_ path plain also
      exact List.mem_filter.2 ⟨inEnvironment, decide_eq_true greater⟩
    · intro names apart
      have kept := (at?_overrideAll_of_apart clear_ made).2 names fun entry member =>
        apart entry (mem_sorted.1 member)
      rw [kept, Shared.dict, Shared.value_map, valueEntries_mergeDicts]

/-! ### A file with an alias -/

/-- A file in which an alias makes one map stand at two places, beside a map that is like it. -/
def aliasedFile : File :=
  ⟨"project.yaml", some "x: &a {k: 1}\ny: *a\nz: {k: 1}\n".toUTF8.toList⟩

/-- Sources with this file. -/
def aliasedSources (environment : Environment) : Sources :=
  { project := some aliasedFile, environment := environment }

/-- The number under a key of a map in a configuration, if there is one. -/
def numberUnder? (name key : String) (config : Value) : Option Int :=
  match config.at? (keysOf [name, key]) with
  | some (.int n) => some n
  | _ => none

/-- A number is found at its path. -/
theorem at?_of_numberUnder? {name key : String} {config : Value} {n : Int}
    (found : numberUnder? name key config = some n) :
    config.at? (keysOf [name, key]) = some (.int n) := by
  unfold numberUnder? at found
  split at found
  · rename_i held
    rw [held, Option.some.inj found]
  · cases found

/-- What variables in turn make of the file laid over the defaults. -/
def overridden (environment : Environment) : Except Fault Shared := do
  let project ← readProject Yaml.loader (some aliasedFile)
  overrideAll nestingRoom (.dict (mergeDicts defaults project)) environment

/-- Two variables with one path, the later one first. -/
def clashing : Environment := [("FOUNDRY_z__k", "3"), ("FOUNDRY_Z__K", "2")]

/-- Both variables have that path. -/
theorem sets_clashing {entry : String × String} (member : entry ∈ clashing) :
    ∃ n : Int, Sets nestingRoom entry (segmentsOf ["z", "k"]) (.int n) := by
  simp only [clashing, List.mem_cons, List.not_mem_nil, or_false] at member
  obtain rfl | rfl := member
  · exact ⟨3, "z__k", by decide +kernel, by rfl, by rfl⟩
  · exact ⟨2, "Z__K", by decide +kernel, by rfl, by rfl⟩

/-- The greater name wins, in whichever order the variables are listed, and the map of the same file
that stands at two places is left. -/
theorem load_by_layers_clashing : Table.Distinct (aliasedSources clashing).environment ∧
    ∃ project config, readProject Yaml.loader (some aliasedFile) = .ok project ∧
      AllClear nestingRoom clashing (.dict (mergeDicts defaults project)) ∧
      load (aliasedSources clashing) = .ok config ∧
      load (aliasedSources clashing.reverse) = .ok config ∧
      config.at? (keysOf ["z", "k"]) = some (.int 3) ∧
      config.at? (keysOf ["y", "k"]) = some (.int 1) := by
  have distinct : Table.Distinct (aliasedSources clashing).environment := by
    unfold Table.Distinct
    decide +kernel
  have order : sorted clashing = clashing.reverse := by
    have same : sorted clashing.reverse = sorted clashing :=
      sorted_of_perm distinct clashing.reverse_perm
    rw [← same]
    exact List.mergeSort_of_pairwise (by decide +kernel)
  obtain ⟨after, made⟩ : ∃ after, overridden clashing.reverse = .ok after := by
    have fine : (overridden clashing.reverse).isOk = true := by decide +kernel
    cases made : overridden clashing.reverse with
    | ok after => exact ⟨after, rfl⟩
    | error fault =>
      rw [made] at fine
      cases fine
  obtain ⟨project, read, changed⟩ := bind_eq_ok.1 made
  have done : load (aliasedSources clashing) = .ok after.value :=
    load_eq_ok_iff.2 ⟨project, after, read, by rwa [← order] at changed, rfl⟩
  obtain ⟨listed, _, again, reads, layers⟩ := load_by_layers distinct (.inl done)
  obtain rfl : again = project := Except.ok.inj (reads.symm.trans read)
  have paths : ∀ entry ∈ clashing, ∀ path value, Sets nestingRoom entry path value →
      path = segmentsOf ["z", "k"] := by
    intro entry member path value sets
    obtain ⟨n, also⟩ := sets_clashing member
    exact (sets.unique also).1
  have clear : AllClear nestingRoom clashing (.dict (mergeDicts defaults again)) := by
    have free : (readProject Yaml.loader (some aliasedFile)).toOption.all (fun project =>
        (Shared.dict (mergeDicts defaults project)).IsClear (segmentsOf ["z", "k"])) = true := by
      decide +kernel
    rw [read] at free
    intro entry member path value sets
    rw [paths entry member path value sets]
    exact of_decide_eq_true free
  obtain ⟨seen, left⟩ := layers clear
  refine ⟨distinct, again, after.value, read, clear, done, ?_, ?_, ?_⟩
  · rw [← done]
    exact (listed _ clashing.reverse_perm).1
  · have none_ : laterThan ("FOUNDRY_z__k", "3") clashing = [] := by decide +kernel
    refine seen ("FOUNDRY_z__k", "3") List.mem_cons_self ["z", "k"] (.int 3)
      ⟨"z__k", by decide +kernel, by rfl, by rfl⟩ ?_
    rw [aliasedSources, none_]
    exact fun entry member => (nomatch member)
  · have held : (readProject Yaml.loader (some aliasedFile)).toOption.bind (fun project =>
        numberUnder? "y" "k" (.dict (Blueprint.mergeDicts defaults
          (Shared.valueEntries project)))) = some 1 := by
      decide +kernel
    rw [read] at held
    refine (left ["y", "k"] ?_).trans (at?_of_numberUnder? held)
    intro entry member path value sets
    rw [paths entry member path value sets]
    decide

/-- A variable that leads through a map that stands at two places is seen at the other one too,
though its path is not related to it. -/
theorem load_through_alias : ∃ project config,
    readProject Yaml.loader (some aliasedFile) = .ok project ∧
      load (aliasedSources [("FOUNDRY_X__K", "2")]) = .ok config ∧
      AllApart nestingRoom [("FOUNDRY_X__K", "2")] ["y", "k"] ∧
      (Value.dict (Blueprint.mergeDicts defaults (Shared.valueEntries project))).at?
        (keysOf ["y", "k"]) = some (.int 1) ∧
      config.at? (keysOf ["y", "k"]) = some (.int 2) := by
  have before : (readProject Yaml.loader (some aliasedFile)).toOption.bind (fun project =>
      numberUnder? "y" "k" (.dict (Blueprint.mergeDicts defaults
        (Shared.valueEntries project)))) = some 1 := by
    decide +kernel
  have shown : (overridden [("FOUNDRY_X__K", "2")]).toOption.bind (fun after =>
      numberUnder? "y" "k" after.value) = some 2 := by
    decide +kernel
  cases made : overridden [("FOUNDRY_X__K", "2")] with
  | error fault =>
    rw [made] at shown
    cases shown
  | ok after =>
    rw [made] at shown
    obtain ⟨project, read, changed⟩ := bind_eq_ok.1 made
    rw [read] at before
    have single : sorted [("FOUNDRY_X__K", "2")] = [("FOUNDRY_X__K", "2")] :=
      List.mergeSort_singleton _
    refine ⟨project, after.value, read,
      load_eq_ok_iff.2 ⟨project, after, read, by rwa [← single] at changed, rfl⟩, ?_,
      at?_of_numberUnder? before, at?_of_numberUnder? shown⟩
    intro entry member path value sets
    obtain rfl := List.mem_singleton.1 member
    have also : Sets nestingRoom ("FOUNDRY_X__K", "2") (segmentsOf ["x", "k"]) (.int 2) :=
      ⟨"X__K", by decide +kernel, by rfl, by rfl⟩
    rw [(sets.unique also).1]
    decide

end Blueprint.Config
