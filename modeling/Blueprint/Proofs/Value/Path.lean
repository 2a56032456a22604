import Blueprint.Proofs.Table
import Blueprint.Value.Basic

/-!
# Paths of keys

A path of keys leads from a value through maps to a part of the value, or nowhere. Maps are compared
by what stands at each path and by the order of their keys.
-/
namespace Blueprint.Value

/-- What stands at a path of keys. -/
def at? (value : Value) : List Key → Option Value
  | [] => some value
  | key :: path =>
    match value with
    | dict entries => (entries.lookup key).bind fun inner => inner.at? path
    | _ => none

@[simp] theorem at?_nil (value : Value) : value.at? [] = some value := by
  cases value <;> rfl

@[simp] theorem at?_dict_cons (entries : Dict) (key : Key) (path : List Key) :
    (dict entries).at? (key :: path) = (entries.lookup key).bind fun inner => inner.at? path := rfl

/-- Only maps have parts. -/
theorem at?_cons_eq_none {value : Value} (no_map : ∀ entries, value ≠ dict entries) (key : Key)
    (path : List Key) : value.at? (key :: path) = none := by
  cases value with
  | dict entries => exact absurd rfl (no_map entries)
  | _ => rfl

/-- A path is followed part by part. -/
theorem at?_append (value : Value) (path further : List Key) :
    value.at? (path ++ further) = (value.at? path).bind fun inner => inner.at? further := by
  induction path generalizing value with
  | nil => simp
  | cons key path ih =>
    cases value with
    | dict entries =>
      rw [List.cons_append, at?_dict_cons, at?_dict_cons, Option.bind_assoc]
      exact Option.bind_congr fun inner _ => ih inner
    | _ => rfl

/-! ### Parts of a value that may be missing -/

/-- The entries of a map, none of any other value. -/
def entriesOf : Option Value → Dict
  | some (dict entries) => entries
  | _ => []

/-- The items of a list, none of any other value. -/
def itemsOf : Option Value → List Value
  | some (list items) => items
  | _ => []

/-- What a map has under a key is what stands there. -/
theorem at?_dict_singleton (entries : Dict) (key : Key) :
    (dict entries).at? [key] = entries.lookup key := by
  rw [at?_dict_cons]
  cases entries.lookup key <;> simp

/-- What is in the entries at a path stands at a longer path. -/
theorem lookup_entriesOf_at? (value : Value) (path : List Key) (key : Key) :
    (entriesOf (value.at? path)).lookup key = value.at? (path ++ [key]) := by
  rw [at?_append]
  cases value.at? path with
  | none => rfl
  | some inner =>
    cases inner with
    | dict entries => exact (at?_dict_singleton entries key).symm
    | _ => rfl

/-- What is in the entries of a value stands at a longer path of the value. -/
theorem bind_lookup_entriesOf (value : Option Value) (key : Key) (path : List Key) :
    ((entriesOf value).lookup key).bind (fun inner => inner.at? path) =
      value.bind fun whole => whole.at? (key :: path) := by
  cases value with
  | none => rfl
  | some whole => cases whole <;> rfl

/-! ### What holds along all paths -/

/-- A condition holds of a value and of all that paths of keys lead to. -/
def Throughout (holds : Value → Prop) (value : Value) : Prop :=
  ∀ path inner, value.at? path = some inner → holds inner

section Throughout

variable {holds : Value → Prop} {entries : Dict} {value : Value}

/-- What holds throughout a value holds of it. -/
theorem Throughout.own (all : value.Throughout holds) : holds value := all [] value (at?_nil value)

/-- What holds throughout a map holds throughout its values. -/
theorem Throughout.inner (all : (dict entries).Throughout holds) {key : Key}
    (found : entries.lookup key = some value) : value.Throughout holds := by
  intro path inner leads
  refine all (key :: path) inner ?_
  rw [at?_dict_cons, found]
  exact leads

/-- What holds of a map and throughout its values holds throughout it. -/
theorem throughout_dict (own : holds (dict entries))
    (inner : ∀ entry ∈ entries, entry.2.Throughout holds) : (dict entries).Throughout holds := by
  intro path found leads
  cases path with
  | nil =>
    obtain rfl : dict entries = found := by simpa using leads
    exact own
  | cons key path =>
    rw [at?_dict_cons] at leads
    obtain ⟨part, held, further⟩ := Option.bind_eq_some_iff.1 leads
    obtain ⟨other, _, member⟩ := Table.exists_mem_of_lookup held
    exact inner (other, part) member path found further

/-- What holds of a value that is no map holds throughout it. -/
theorem throughout_of_no_map (no_map : ∀ entries, value ≠ dict entries) (own : holds value) :
    value.Throughout holds := by
  intro path found leads
  cases path with
  | nil =>
    obtain rfl : value = found := by simpa using leads
    exact own
  | cons key path =>
    rw [at?_cons_eq_none no_map] at leads
    cases leads

end Throughout

/-- A map has each of its keys once. -/
def IsDistinct : Value → Prop
  | dict entries => Table.Distinct entries
  | _ => True

/-- Each map to which a path of keys leads has each of its keys once. -/
abbrev HasDistinctKeys : Value → Prop := Throughout IsDistinct

end Blueprint.Value
