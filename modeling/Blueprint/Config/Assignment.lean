import Blueprint.Config.Placement
import Blueprint.Value.Shared

/-!
# Setting a value in a shared container

A value is set at a path by changing the container to which the path leads. If that container, or
one around it, stands at several places, it is changed at all of them: the innermost container with
a number on the way is changed, and put wherever the number stands.
-/
namespace Blueprint

namespace Shared

/-- A list with a value at an index; missing items before it are null. -/
def setItem (items : List Shared) (n : Nat) (value : Shared) : List Shared :=
  (items ++ List.replicate (n + 1 - items.length) (ofValue .null)).set n value

/-- Sets a value at the last step of a path. -/
def setLast (segment : Config.Segment) (value container : Shared) : Except Fault Shared :=
  match segment, container with
  | .key name, .map number entries => .ok (.map number (Table.put entries (Key.text name) value))
  | .key _, _ => .error .keyNeedsMap
  | .index n, .list number items => .ok (.list number (setItem items n value))
  | .index _, _ => .error .indexNeedsList
  | .append, .list number items => .ok (.list number (items ++ [value]))
  | .append, _ => .error .appendNeedsList

/-- Sets a value at a path in this container only. -/
def setPath (path : Config.Path) (value root : Shared) : Except Fault Shared :=
  match path with
  | [] => .ok root
  | [segment] => setLast segment value root
  | .key name :: next :: rest =>
    match root with
    | .map number entries => do
      let inner := (entries.lookup (Key.text name)).getD (ofValue next.container)
      let inner ← setPath (next :: rest) value inner
      .ok (.map number (Table.put entries (Key.text name) inner))
    | _ => .error .throughScalar
  | _ :: _ :: _ => .error .indexInside
termination_by structural path

/-- The innermost container with a number to which a path leads before its last step, with its
number and the rest of the path. -/
def owner? (path : Config.Path) (root : Shared) : Option (Nat × Shared × Config.Path) :=
  let inner := match path, root with
    | .key name :: next :: rest, .map _ entries =>
      (entries.lookup (Key.text name)).bind (owner? (next :: rest))
    | _, _ => none
  inner.or (root.number?.map fun number => (number, root, path))
termination_by structural path

/-- `ConfigManager._set_nested` — sets a value at a path, wherever the container stands to which the
path leads. -/
def assign (root : Shared) (path : Config.Path) (value : Value) : Except Fault Shared :=
  match owner? path root with
  | none => setPath path (ofValue value) root
  | some (number, container, rest) => do
    let changed ← setPath rest (ofValue value) container
    .ok (root.replace number changed)

end Shared

end Blueprint
