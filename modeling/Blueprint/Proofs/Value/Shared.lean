import Blueprint.Proofs.Table
import Blueprint.Value.Shared

/-!
# The value of shared containers

Which containers are one is of no matter where a value is only looked at. The places at which a
container stands are counted by its number.
-/
namespace Blueprint.Shared

/-! ### Values alone -/

@[simp] theorem value_scalar (value : Value) (single : value.IsScalar) :
    (scalar value single).value = value := rfl

@[simp] theorem value_list (number : Option Nat) (items : List Shared) :
    (list number items).value = .list (values items) := rfl

@[simp] theorem value_map (number : Option Nat) (entries : List (Key × Shared)) :
    (map number entries).value = .dict (valueEntries entries) := rfl

theorem values_eq_map (items : List Shared) : values items = items.map value := by
  induction items with
  | nil => rfl
  | cons first rest ih => rw [values, ih, List.map_cons]

/-- The value that is found under a key is that of what is found there. -/
theorem lookup_valueEntries (entries : Table Key Shared) (key : Key) :
    (valueEntries entries).lookup key = (entries.lookup key).map value := by
  induction entries with
  | nil => rfl
  | cons entry rest ih =>
    rw [valueEntries, List.lookup_cons, List.lookup_cons, ih]
    cases key == entry.1 <;> rfl

/-- Entering something under a key enters its value. -/
theorem valueEntries_put (entries : Table Key Shared) (key : Key) (inner : Shared) :
    valueEntries (Table.put entries key inner) =
      Table.put (valueEntries entries) key inner.value := by
  induction entries with
  | nil => rfl
  | cons entry rest ih =>
    rw [Table.put, valueEntries, Table.put]
    split
    · rfl
    · rw [valueEntries, ih]

mutual

/-- A value is the value of what is made of it. -/
@[simp] theorem value_ofValue (plain : Value) : (ofValue plain).value = plain := by
  cases plain with
  | list items => exact congrArg Value.list (values_ofValues items)
  | dict entries => exact congrArg Value.dict (valueEntries_ofEntries entries)
  | _ => rfl
termination_by structural plain

/-- The same for items. -/
theorem values_ofValues (items : List Value) : values (ofValues items) = items := by
  cases items with
  | nil => rfl
  | cons first rest => rw [ofValues, values, value_ofValue first, values_ofValues rest]
termination_by structural items

/-- The same for entries. -/
theorem valueEntries_ofEntries (entries : List (Key × Value)) :
    valueEntries (ofEntries entries) = entries := by
  cases entries with
  | nil => rfl
  | cons entry rest =>
    obtain ⟨key, first⟩ := entry
    rw [ofEntries, valueEntries, value_ofValue first, valueEntries_ofEntries rest]
termination_by structural entries

end

/-! ### The numbers of containers -/

mutual

/-- The numbers of all containers, each for every place at which the container stands. -/
def numbers (shared : Shared) : List Nat :=
  match shared with
  | scalar _ _ => []
  | list number items => number.toList ++ numbersOfItems items
  | map number entries => number.toList ++ numbersOfEntries entries
termination_by structural shared

/-- The numbers of the containers in items. -/
def numbersOfItems (items : List Shared) : List Nat :=
  match items with
  | [] => []
  | first :: rest => first.numbers ++ numbersOfItems rest
termination_by structural items

/-- The numbers of the containers in entries. -/
def numbersOfEntries (entries : List (Key × Shared)) : List Nat :=
  match entries with
  | [] => []
  | (_, first) :: rest => first.numbers ++ numbersOfEntries rest
termination_by structural entries

end

mutual

/-- Containers that stand at one place only have no numbers. -/
theorem numbers_ofValue (plain : Value) : (ofValue plain).numbers = [] := by
  cases plain with
  | list items => exact numbersOfItems_ofValues items
  | dict entries => exact numbersOfEntries_ofEntries entries
  | _ => rfl
termination_by structural plain

/-- The same for items. -/
theorem numbersOfItems_ofValues (items : List Value) : numbersOfItems (ofValues items) = [] := by
  cases items with
  | nil => rfl
  | cons first rest =>
    rw [ofValues, numbersOfItems, numbers_ofValue first, numbersOfItems_ofValues rest]
    rfl
termination_by structural items

/-- The same for entries. -/
theorem numbersOfEntries_ofEntries (entries : List (Key × Value)) :
    numbersOfEntries (ofEntries entries) = [] := by
  cases entries with
  | nil => rfl
  | cons entry rest =>
    obtain ⟨key, first⟩ := entry
    rw [ofEntries, numbersOfEntries, numbers_ofValue first, numbersOfEntries_ofEntries rest]
    rfl
termination_by structural entries

end

mutual

/-- A container that does not stand anywhere is replaced nowhere. -/
theorem replace_of_notMem {shared : Shared} {number : Nat} (absent : number ∉ shared.numbers)
    (changed : Shared) : shared.replace number changed = shared := by
  cases shared with
  | scalar value single => rfl
  | list own items =>
    rw [numbers, List.mem_append, not_or] at absent
    have other : own ≠ some number := fun same => absent.1 (Option.mem_toList.2 same)
    rw [replace, if_neg other, replaceItems_of_notMem absent.2 changed]
  | map own entries =>
    rw [numbers, List.mem_append, not_or] at absent
    have other : own ≠ some number := fun same => absent.1 (Option.mem_toList.2 same)
    rw [replace, if_neg other, replaceEntries_of_notMem absent.2 changed]
termination_by structural shared

/-- The same for items. -/
theorem replaceItems_of_notMem {items : List Shared} {number : Nat}
    (absent : number ∉ numbersOfItems items) (changed : Shared) :
    replaceItems items number changed = items := by
  cases items with
  | nil => rfl
  | cons first rest =>
    rw [numbersOfItems, List.mem_append, not_or] at absent
    rw [replaceItems, replace_of_notMem absent.1 changed, replaceItems_of_notMem absent.2 changed]
termination_by structural items

/-- The same for entries. -/
theorem replaceEntries_of_notMem {entries : List (Key × Shared)} {number : Nat}
    (absent : number ∉ numbersOfEntries entries) (changed : Shared) :
    replaceEntries entries number changed = entries := by
  cases entries with
  | nil => rfl
  | cons entry rest =>
    obtain ⟨key, first⟩ := entry
    rw [numbersOfEntries, List.mem_append, not_or] at absent
    rw [replaceEntries, replace_of_notMem absent.1 changed,
      replaceEntries_of_notMem absent.2 changed]
termination_by structural entries

end

variable {entries : Table Key Shared} {key : Key} {inner : Shared}

/-- Entering something under a key adds the places of its containers, and takes away those of what
was found there. -/
theorem count_numbersOfEntries_put (entries : Table Key Shared) (key : Key) (inner : Shared)
    (number : Nat) :
    (numbersOfEntries (Table.put entries key inner)).count number +
        ((entries.lookup key).map fun old => old.numbers.count number).getD 0 =
      (numbersOfEntries entries).count number + inner.numbers.count number := by
  induction entries with
  | nil => simp [Table.put, numbersOfEntries]
  | cons entry rest ih =>
    rw [Table.put, List.lookup_cons]
    cases same : key == entry.1 with
    | true =>
      simp only [if_true, numbersOfEntries, List.count_append, Option.map_some, Option.getD_some]
      omega
    | false =>
      simp only [Bool.false_eq_true, if_false, numbersOfEntries, List.count_append]
      omega

/-- A container stands in a map at least as often as in what is found under a key. -/
theorem count_numbers_le_of_lookup (found : entries.lookup key = some inner) (number : Nat) :
    inner.numbers.count number ≤ (numbersOfEntries entries).count number := by
  have cleared := count_numbersOfEntries_put entries key (ofValue .null) number
  rw [found, numbers_ofValue] at cleared
  simp only [Option.map_some, Option.getD_some, List.count_nil] at cleared
  omega

/-- A container that stands in what is found under a key, and nowhere else, is replaced there. -/
theorem replaceEntries_of_lookup (found : entries.lookup key = some inner) {number : Nat}
    (member : number ∈ inner.numbers) (single : (numbersOfEntries entries).count number ≤ 1)
    (changed : Shared) : replaceEntries entries number changed =
      Table.put entries key (inner.replace number changed) := by
  induction entries with
  | nil => cases found
  | cons entry rest ih =>
    obtain ⟨first, held⟩ := entry
    rw [numbersOfEntries, List.count_append] at single
    have present : 0 < inner.numbers.count number := List.count_pos_iff.2 member
    rw [List.lookup_cons] at found
    rw [replaceEntries, Table.put]
    cases same : key == first with
    | true =>
      rw [same] at found
      obtain rfl := Option.some.inj found
      have elsewhere : number ∉ numbersOfEntries rest := List.count_eq_zero.1 (by omega)
      rw [replaceEntries_of_notMem elsewhere, if_pos rfl]
    | false =>
      rw [same] at found
      have later := count_numbers_le_of_lookup found number
      have elsewhere : number ∉ held.numbers := List.count_eq_zero.1 (by omega)
      rw [replace_of_notMem elsewhere, ih found (by omega), if_neg Bool.false_ne_true]

/-- The numbers in two lists of items are those of both. -/
theorem numbersOfItems_append (items more : List Shared) :
    numbersOfItems (items ++ more) = numbersOfItems items ++ numbersOfItems more := by
  induction items with
  | nil => rfl
  | cons first rest ih =>
    rw [List.cons_append, numbersOfItems, ih, numbersOfItems, List.append_assoc]

/-- Missing items hold no containers. -/
theorem numbersOfItems_replicate (n : Nat) :
    numbersOfItems (List.replicate n (ofValue .null)) = [] := by
  induction n with
  | zero => rfl
  | succ n ih => rw [List.replicate_succ, numbersOfItems, numbers_ofValue, ih, List.append_nil]

/-- Another item in place of one adds the places of its containers at most. -/
theorem count_numbersOfItems_set_le (items : List Shared) (n : Nat) (inner : Shared)
    (number : Nat) : (numbersOfItems (items.set n inner)).count number ≤
      (numbersOfItems items).count number + inner.numbers.count number := by
  induction items generalizing n with
  | nil => simp [numbersOfItems]
  | cons first rest ih =>
    cases n with
    | zero =>
      simp only [List.set_cons_zero, numbersOfItems, List.count_append]
      omega
    | succ n =>
      have later := ih n
      simp only [List.set_cons_succ, numbersOfItems, List.count_append]
      omega

/-- A container with a number is replaced as a whole. -/
theorem replace_of_number? {shared : Shared} {number : Nat} (own : shared.number? = some number)
    (changed : Shared) : shared.replace number changed = changed := by
  cases shared with
  | scalar value single => cases own
  | list _ _ | map _ _ =>
    rw [replace]
    exact if_pos own

end Blueprint.Shared
