import Blueprint.Value.Basic

/-!
# Values with shared containers

In a document an alias stands for the same list or map as its anchor, and not for another one with
the same items: where one of them is changed, so is the other. A container of a document therefore
has a number. Containers with the same number are one container, which stands at several places.
-/
namespace Blueprint

/-- A value whose containers may stand at several places. -/
inductive Shared where
  /-- A value that is neither a list nor a map. -/
  | scalar (value : Value) (single : value.IsScalar)
  /-- A list; without a number it stands at one place only. -/
  | list (number : Option Nat) (items : List Shared)
  /-- A map; without a number it stands at one place only. -/
  | map (number : Option Nat) (entries : List (Key × Shared))
deriving Repr

namespace Shared

/-- A map that stands at one place only. -/
def dict (entries : Table Key Shared) : Shared := map none entries

/-- The number of a container. -/
def number? : Shared → Option Nat
  | scalar _ _ => none
  | list number _ | map number _ => number

mutual

/-- The value alone. -/
def value (shared : Shared) : Value :=
  match shared with
  | scalar value _ => value
  | list _ items => .list (values items)
  | map _ entries => .dict (valueEntries entries)
termination_by structural shared

/-- The values of items. -/
def values (items : List Shared) : List Value :=
  match items with
  | [] => []
  | first :: rest => first.value :: values rest
termination_by structural items

/-- Entries with their values alone. -/
def valueEntries (entries : List (Key × Shared)) : Dict :=
  match entries with
  | [] => []
  | (key, first) :: rest => (key, first.value) :: valueEntries rest
termination_by structural entries

end

mutual

/-- A value each container of which stands at one place only. -/
def ofValue (value : Value) : Shared :=
  match value with
  | .list items => list none (ofValues items)
  | .dict entries => map none (ofEntries entries)
  | .null => scalar .null trivial
  | .bool b => scalar (.bool b) trivial
  | .int n => scalar (.int n) trivial
  | .float x => scalar (.float x) trivial
  | .text s => scalar (.text s) trivial
  | .model name => scalar (.model name) trivial
  | .strategy strategy => scalar (.strategy strategy) trivial
  | .proxy strategy => scalar (.proxy strategy) trivial
  | .object model serial persisted fields => scalar (.object model serial persisted fields) trivial
termination_by structural value

/-- Items each container of which stands at one place only. -/
def ofValues (items : List Value) : List Shared :=
  match items with
  | [] => []
  | first :: rest => ofValue first :: ofValues rest
termination_by structural items

/-- Entries each container of which stands at one place only. -/
def ofEntries (entries : List (Key × Value)) : Table Key Shared :=
  match entries with
  | [] => []
  | (key, first) :: rest => (key, ofValue first) :: ofEntries rest
termination_by structural entries

end

mutual

/-- The value with another container wherever the one with a number stands. -/
def replace (shared : Shared) (number : Nat) (changed : Shared) : Shared :=
  match shared with
  | scalar value single => scalar value single
  | list own items =>
    if own = some number then changed else list own (replaceItems items number changed)
  | map own entries =>
    if own = some number then changed else map own (replaceEntries entries number changed)
termination_by structural shared

/-- Items with another container wherever the one with a number stands. -/
def replaceItems (items : List Shared) (number : Nat) (changed : Shared) : List Shared :=
  match items with
  | [] => []
  | first :: rest => first.replace number changed :: replaceItems rest number changed
termination_by structural items

/-- Entries with another container wherever the one with a number stands. -/
def replaceEntries (entries : List (Key × Shared)) (number : Nat) (changed : Shared) :
    Table Key Shared :=
  match entries with
  | [] => []
  | (key, first) :: rest =>
    (key, first.replace number changed) :: replaceEntries rest number changed
termination_by structural entries

end

end Shared

end Blueprint
