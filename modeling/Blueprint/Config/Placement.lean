import Blueprint.Config.Path

/-!
# Setting a value at a path

Keys lead through maps; an index or the end of a list may only be the last step. Maps and lists that
are missing on the way are made. When a step is impossible the value is not set, and what was made
before that step remains.
-/
namespace Blueprint.Config

/-- The container that a segment leads into. -/
def Segment.container : Segment → Value
  | key _ => .dict []
  | index _ | append => .list []

/-- A list with a value at an index; missing items before it are null. -/
def setItem (items : List Value) (n : Nat) (value : Value) : List Value :=
  (items ++ List.replicate (n + 1 - items.length) Value.null).set n value

/-- Sets a value at the last step of a path. -/
def setLast (segment : Segment) (value : Value) (container : Value) : Except Fault Value :=
  match segment, container with
  | .key name, .dict entries => .ok (.dict (Table.put entries (Key.text name) value))
  | .key _, _ => .error .keyNeedsMap
  | .index n, .list items => .ok (.list (setItem items n value))
  | .index _, _ => .error .indexNeedsList
  | .append, .list items => .ok (.list (items ++ [value]))
  | .append, _ => .error .appendNeedsList

/-- `ConfigManager._set_nested` — sets a value at a path, and tells the fault if that is
impossible. -/
def setPath (path : Path) (value : Value) (root : Value) : Value × Option Fault :=
  match path with
  | [] => (root, none)
  | [segment] =>
    match setLast segment value root with
    | .ok root => (root, none)
    | .error fault => (root, some fault)
  | .key name :: next :: rest =>
    match root with
    | .dict entries =>
      let inner := (entries.lookup (Key.text name)).getD next.container
      let (inner, fault) := setPath (next :: rest) value inner
      (.dict (Table.put entries (Key.text name) inner), fault)
    | root => (root, some .throughScalar)
  | _ :: _ :: _ => (root, some .indexInside)

end Blueprint.Config
