import Blueprint.Config.Assignment
import Blueprint.Proofs.Outcome
import Blueprint.Proofs.Value.Shared

/-!
# Setting values in shared containers

Setting a value in one container is setting it in the value of that container. Where a path leads
through no container that stands at several places, this is all that setting a value does.
-/
namespace Blueprint.Shared

open Config

/-! ### One container -/

/-- The last step of a path does to the value what it does to the container. -/
theorem value_setLast (segment : Segment) (inner container : Shared) :
    (setLast segment inner container).map value =
      Config.setLast segment inner.value container.value := by
  cases container with
  | scalar plain single =>
    cases plain with
    | list | dict => exact single.elim
    | _ => cases segment <;> rfl
  | list number items =>
    cases segment with
    | key name => rfl
    | index n =>
      have same : values (setItem items n inner) = Config.setItem (values items) n inner.value := by
        simp only [setItem, Config.setItem, values_eq_map, List.map_set, List.map_append,
          List.map_replicate, List.length_map, value_ofValue]
      exact congrArg (fun items => Except.ok (Value.list items)) same
    | append =>
      have same : values (items ++ [inner]) = values items ++ [inner.value] := by
        simp [values_eq_map]
      exact congrArg (fun items => Except.ok (Value.list items)) same
  | map number entries =>
    cases segment with
    | key name =>
      exact congrArg (fun entries => Except.ok (Value.dict entries)) (valueEntries_put _ _ _)
    | index n => rfl
    | append => rfl

/-- Setting a value at a path does to the value what it does to the container. -/
theorem value_setPath (path : Path) (inner root : Shared) :
    match setPath path inner root with
    | .ok after => Config.setPath path inner.value root.value = (after.value, none)
    | .error fault => (Config.setPath path inner.value root.value).2 = some fault := by
  induction path generalizing root with
  | nil => rfl
  | cons segment rest ih =>
    cases rest with
    | nil =>
      have last := value_setLast segment inner root
      rw [setPath, Config.setPath, ← last]
      cases setLast segment inner root <;> rfl
    | cons next rest =>
      cases segment with
      | key name =>
        cases root with
        | map number entries =>
          have below := ih ((entries.lookup (Key.text name)).getD (ofValue next.container))
          have held : ((entries.lookup (Key.text name)).getD (ofValue next.container)).value =
              ((valueEntries entries).lookup (Key.text name)).getD next.container := by
            rw [lookup_valueEntries]
            cases entries.lookup (Key.text name) <;> simp
          rw [held] at below
          simp only [setPath, value_map, Config.setPath]
          revert below
          cases setPath (next :: rest) inner
              ((entries.lookup (Key.text name)).getD (ofValue next.container)) with
          | ok after =>
            intro below
            simp only at below
            simp only [bind, Except.bind, value_map, valueEntries_put, below]
          | error fault => exact fun below => below
        | list number items => rfl
        | scalar plain single =>
          cases plain with
          | list | dict => exact single.elim
          | _ => rfl
      | index n => rfl
      | append => rfl

/-- A value that is set in a container is set in the value of it. -/
theorem setPath_value_of_ok {path : Path} {inner root after : Shared}
    (done : setPath path inner root = .ok after) :
    Config.setPath path inner.value root.value = (after.value, none) := by
  have same := value_setPath path inner root
  rwa [done] at same

/-- The numbers of the containers through which a path leads, the one of its last step included. -/
def numbersOnWay (path : Path) (root : Shared) : List Nat :=
  match path with
  | [] => []
  | [_] => root.number?.toList
  | step :: next :: rest =>
    root.number?.toList ++
      match step, root with
      | .key name, map _ entries =>
        ((entries.lookup (Key.text name)).map (numbersOnWay (next :: rest))).getD []
      | _, _ => []
termination_by structural path

/-- A path leads through no container that stands at several places. -/
def IsClear (path : Path) (root : Shared) : Prop :=
  ∀ number ∈ numbersOnWay path root, root.numbers.count number ≤ 1

instance (path : Path) (root : Shared) : Decidable (IsClear path root) := by
  unfold IsClear
  infer_instance

section Map

variable {name : String} {next : Segment} {rest : Path} {number : Option Nat}
  {entries : Table Key Shared}

/-- The way through a map goes on in what is found under the key, if anything is. -/
theorem numbersOnWay_map : numbersOnWay (.key name :: next :: rest) (map number entries) =
    number.toList ++
      ((entries.lookup (Key.text name)).map (numbersOnWay (next :: rest))).getD [] := rfl

/-- The innermost container of a way through a map is found behind the key, or is the map. -/
theorem owner?_map : owner? (.key name :: next :: rest) (map number entries) =
    ((entries.lookup (Key.text name)).bind (owner? (next :: rest))).or
      (number.map fun own => (own, map number entries, .key name :: next :: rest)) := rfl

end Map

/-- The container at which a way starts is on it. -/
theorem number?_subset {path : Path} (some_ : path ≠ []) (root : Shared) :
    root.number?.toList ⊆ numbersOnWay path root := by
  match path with
  | [] => exact absurd rfl some_
  | [_] => exact List.Subset.refl _
  | _ :: _ :: _ => exact List.subset_append_left _ _

/-- The containers on the way of a path are among all of them. -/
theorem numbersOnWay_subset (path : Path) (root : Shared) :
    numbersOnWay path root ⊆ root.numbers := by
  have own : ∀ shared : Shared, shared.number?.toList ⊆ shared.numbers := by
    intro shared
    cases shared with
    | scalar plain single => exact List.nil_subset _
    | list _ _ | map _ _ => exact List.subset_append_left _ _
  induction path generalizing root with
  | nil => exact List.nil_subset _
  | cons segment rest ih =>
    cases rest with
    | nil => exact own root
    | cons next rest =>
      cases segment with
      | key name =>
        cases root with
        | map number entries =>
          rw [numbersOnWay_map]
          refine List.append_subset.2 ⟨own (map number entries), ?_⟩
          cases found : entries.lookup (Key.text name) with
          | none => exact List.nil_subset _
          | some inner =>
            intro other member
            have below := List.count_pos_iff.2 (ih inner member)
            have above := count_numbers_le_of_lookup found other
            exact List.mem_append_right _ (List.count_pos_iff.1 (by omega))
        | scalar | list => exact List.append_subset.2 ⟨own _, List.nil_subset _⟩
      | index | append => exact List.append_subset.2 ⟨own _, List.nil_subset _⟩

/-- What stands at one place only has no containers with numbers on any way. -/
theorem numbersOnWay_ofValue (path : Path) (plain : Value) :
    numbersOnWay path (ofValue plain) = [] := by
  have none_ := numbersOnWay_subset path (ofValue plain)
  rw [numbers_ofValue] at none_
  exact List.subset_nil.1 none_

/-- A way that is clear is clear from any place on. -/
theorem IsClear.inner {name : String} {next : Segment} {rest : Path} {number : Option Nat}
    {entries : Table Key Shared} {inner : Shared}
    (clear : IsClear (.key name :: next :: rest) (map number entries))
    (found : entries.lookup (Key.text name) = some inner) : IsClear (next :: rest) inner := by
  intro other member
  have onWay : other ∈ numbersOnWay (.key name :: next :: rest) (map number entries) := by
    rw [numbersOnWay_map, found]
    exact List.mem_append_right _ member
  have whole := clear other onWay
  have part := count_numbers_le_of_lookup found other
  rw [numbers, List.count_append] at whole
  omega

/-! ### Setting along a clear way -/

/-- Changing a container with a number wherever it stands is setting the value in it. -/
theorem replace_own (path : Path) (root : Shared) {rest : Path} {container : Shared} {number : Nat}
    (own : root.number?.map (fun own => (own, root, path)) = some (number, container, rest))
    (inner : Shared) :
    (setPath rest inner container).map (root.replace number) = setPath path inner root ∧
      (path ≠ [] → number ∈ numbersOnWay path root) := by
  obtain ⟨other, same, eq⟩ := Option.map_eq_some_iff.1 own
  obtain ⟨rfl, rfl, rfl⟩ : other = number ∧ root = container ∧ path = rest := by
    simpa using eq
  have whole : root.replace other = id := funext (replace_of_number? same)
  constructor
  · rw [whole]
    cases setPath path inner root <;> rfl
  · intro some_
    exact number?_subset some_ root (by simp [same])

/-- Changing the innermost container of a clear way wherever it stands is setting the value at the
path, and that container is on the way. -/
theorem replace_owner {path rest : Path} {root container : Shared} {number : Nat}
    (clear : IsClear path root) (owned : owner? path root = some (number, container, rest))
    (inner : Shared) :
    (setPath rest inner container).map (root.replace number) = setPath path inner root ∧
      (path ≠ [] → number ∈ numbersOnWay path root) := by
  induction path generalizing root with
  | nil => exact replace_own [] root owned inner
  | cons segment more ih =>
    cases more with
    | nil =>
      cases segment <;> exact replace_own _ root owned inner
    | cons next more =>
      cases segment with
      | key name =>
        cases root with
        | map own entries =>
          rw [owner?_map] at owned
          cases behind : (entries.lookup (Key.text name)).bind (owner? (next :: more)) with
          | none =>
            rw [behind] at owned
            exact replace_own _ (map own entries) owned inner
          | some found =>
            rw [behind] at owned
            obtain rfl := Option.some.inj owned
            obtain ⟨part, held, leads⟩ := Option.bind_eq_some_iff.1 behind
            obtain ⟨changed, onWay⟩ := ih (clear.inner held) leads
            have inPart := onWay (List.cons_ne_nil _ _)
            have listed : number ∈ numbersOnWay (.key name :: next :: more) (map own entries) := by
              rw [numbersOnWay_map, held]
              exact List.mem_append_right _ inPart
            refine ⟨?_, fun _ => listed⟩
            -- The container stands once in the map, and that is behind the key.
            have single := clear number listed
            rw [numbers, List.count_append] at single
            have inside := numbersOnWay_subset _ _ inPart
            have below := List.count_pos_iff.2 inside
            have above := count_numbers_le_of_lookup held number
            have other : own ≠ some number := by
              rintro rfl
              simp only [Option.toList_some, List.count_singleton_self] at single
              omega
            have spread : ∀ new, (map own entries).replace number new =
                map own (Table.put entries (Key.text name) (part.replace number new)) := by
              intro new
              rw [replace, if_neg other, replaceEntries_of_lookup held inside (by omega)]
            rw [setPath, held, Option.getD_some, ← changed]
            cases setPath rest inner container with
            | ok new => exact congrArg Except.ok (spread new)
            | error fault => rfl
        | scalar plain single => exact replace_own _ (scalar plain single) owned inner
        | list own items => exact replace_own _ (list own items) owned inner
      | index | append => exact replace_own _ root owned inner

/-- Along a clear way, all that setting a value does is to set it at its path. -/
theorem assign_of_isClear {path : Path} {root : Shared} (clear : IsClear path root)
    (plain : Value) : root.assign path plain = setPath path (ofValue plain) root := by
  unfold assign
  split
  · rfl
  · rename_i number container rest owned
    rw [← (replace_owner clear owned (ofValue plain)).1]
    cases setPath rest (ofValue plain) container <;> rfl

/-! ### Clear ways stay clear -/

variable {path : Path} {inner root after : Shared}

/-- A container that is changed at the last step of a path keeps its number, and the places of the
containers of the value are added at most. -/
theorem numbers_of_setLast {segment : Segment} (done : setLast segment inner root = .ok after) :
    after.number? = root.number? ∧
      ∀ number, after.numbers.count number ≤
        root.numbers.count number + inner.numbers.count number := by
  cases root with
  | scalar plain single => cases segment <;> cases done
  | list own items =>
    cases segment with
    | key name => cases done
    | index n =>
      obtain rfl := Except.ok.inj done
      refine ⟨rfl, fun number => ?_⟩
      have changed := count_numbersOfItems_set_le
        (items ++ List.replicate (n + 1 - items.length) (ofValue .null)) n inner number
      rw [numbersOfItems_append, numbersOfItems_replicate, List.append_nil] at changed
      simp only [numbers, setItem, List.count_append]
      omega
    | append =>
      obtain rfl := Except.ok.inj done
      refine ⟨rfl, fun number => ?_⟩
      simp only [numbers, numbersOfItems_append, numbersOfItems, List.append_nil, List.count_append]
      omega
  | map own entries =>
    cases segment with
    | key name =>
      obtain rfl := Except.ok.inj done
      refine ⟨rfl, fun number => ?_⟩
      have entered := count_numbersOfEntries_put entries (.text name) inner number
      simp only [numbers, List.count_append]
      omega
    | index n => cases done
    | append => cases done

/-- A path with a key before its last step leads through a map. -/
theorem setPath_key_cons {name : String} {next : Segment} {rest : Path}
    (done : setPath (.key name :: next :: rest) inner root = .ok after) :
    ∃ own entries new, root = map own entries ∧
      setPath (next :: rest) inner
        ((entries.lookup (Key.text name)).getD (ofValue next.container)) = .ok new ∧
      after = map own (Table.put entries (Key.text name) new) := by
  cases root with
  | map own entries =>
    obtain ⟨new, below, eq⟩ := bind_eq_ok.1 done
    exact ⟨own, entries, new, rfl, below, (Except.ok.inj eq).symm⟩
  | scalar | list => cases done

/-- Setting a value adds the places of its containers at most. -/
theorem count_numbers_of_setPath (done : setPath path inner root = .ok after) (number : Nat) :
    after.numbers.count number ≤ root.numbers.count number + inner.numbers.count number := by
  induction path generalizing root after with
  | nil =>
    obtain rfl := Except.ok.inj done
    omega
  | cons segment rest ih =>
    cases rest with
    | nil => exact (numbers_of_setLast done).2 number
    | cons next rest =>
      cases segment with
      | key name =>
        obtain ⟨own, entries, new, rfl, below, rfl⟩ := setPath_key_cons done
        have more := ih below
        have entered := count_numbersOfEntries_put entries (.text name) new number
        simp only [numbers, List.count_append]
        cases found : entries.lookup (Key.text name) with
        | none =>
          rw [found] at more
          simp only [Option.getD_none, numbers_ofValue, List.count_nil] at more
          omega
        | some held =>
          rw [found] at more entered
          simp only [Option.map_some, Option.getD_some] at more entered
          omega
      | index | append => cases done

/-- What is set somewhere keeps its number. -/
theorem number?_of_setPath (done : setPath path inner root = .ok after) :
    after.number? = root.number? := by
  match path with
  | [] =>
    obtain rfl := Except.ok.inj done
    rfl
  | [_] => exact (numbers_of_setLast done).1
  | .key _ :: _ :: _ =>
    obtain ⟨own, entries, new, rfl, _, rfl⟩ := setPath_key_cons done
    rfl
  | .index _ :: _ :: _ | .append :: _ :: _ => cases done

/-- A way through a map leads on through what is entered there, if it leads through its key. -/
theorem numbersOnWay_put {name key : String} {next : Segment} {rest : Path} {own : Option Nat}
    {entries : Table Key Shared} {new : Shared}
    (less : numbersOnWay (next :: rest) new ⊆
      ((entries.lookup (Key.text key)).map (numbersOnWay (next :: rest))).getD []) :
    numbersOnWay (.key name :: next :: rest) (map own (Table.put entries (Key.text key) new)) ⊆
      numbersOnWay (.key name :: next :: rest) (map own entries) := by
  rw [numbersOnWay_map, numbersOnWay_map, Table.lookup_put]
  cases same : Key.text name == Key.text key with
  | false => exact List.Subset.refl _
  | true =>
    rw [Table.lookup_congr entries same]
    exact List.append_subset.2 ⟨List.subset_append_left _ _, fun number member =>
      List.mem_append_right _ (less member)⟩

/-- A value without numbers that is set puts no container with a number on a way. -/
theorem numbersOnWay_of_setPath {plain : Value}
    (done : setPath path (ofValue plain) root = .ok after) (way : Path) :
    numbersOnWay way after ⊆ numbersOnWay way root := by
  induction path generalizing way root after with
  | nil =>
    obtain rfl := Except.ok.inj done
    exact List.Subset.refl _
  | cons segment rest ih =>
    have own := number?_of_setPath done
    match way with
    | [] => exact List.nil_subset _
    | [_] =>
      show after.number?.toList ⊆ root.number?.toList
      rw [own]
      exact List.Subset.refl _
    | .index _ :: _ :: _ | .append :: _ :: _ =>
      show after.number?.toList ++ [] ⊆ root.number?.toList ++ []
      rw [own]
      exact List.Subset.refl _
    | .key name :: further :: more =>
      cases rest with
      | nil =>
        cases root with
        | scalar plain single => cases segment <;> cases done
        | list number items =>
          cases segment with
          | key key => cases done
          | index | append =>
            obtain rfl := Except.ok.inj done
            exact List.Subset.refl _
        | map number entries =>
          cases segment with
          | key key =>
            obtain rfl := Except.ok.inj done
            refine numbersOnWay_put ?_
            rw [numbersOnWay_ofValue]
            exact List.nil_subset _
          | index | append => cases done
      | cons next rest =>
        cases segment with
        | key key =>
          obtain ⟨number, entries, new, rfl, below, rfl⟩ := setPath_key_cons done
          refine numbersOnWay_put ?_
          have less := ih below (further :: more)
          cases found : entries.lookup (Key.text key) with
          | none =>
            rw [found, Option.getD_none, numbersOnWay_ofValue] at less
            exact less
          | some held =>
            rw [found] at less
            exact less
        | index | append => cases done

/-- A way that is clear stays clear when a value is set. -/
theorem IsClear.setPath {way : Path} (clear : IsClear way root) {plain : Value}
    (done : setPath path (ofValue plain) root = .ok after) : IsClear way after := by
  intro number member
  have before := clear number (numbersOnWay_of_setPath done way member)
  have most := count_numbers_of_setPath done number
  rw [numbers_ofValue, List.count_nil] at most
  omega

end Blueprint.Shared
