import Blueprint.Value.Shared
import Blueprint.Yaml.Node.Scalar

/-!
# Values of YAML nodes

A node is read into a value. Of a key that occurs more than once the last value counts, in the
place of the first, and what a map takes over from other maps under the key `<<` stands before its
own pairs. A list or a map keeps its number, so that it is one value wherever it stands. A document
is read level by level: of several faults the least deep one is met first, and of those of one depth
the first one.
-/
namespace Blueprint.Yaml

/-- A result, or a fault with the depth at which it lies. -/
abbrev Layered (α : Type) := Except (Nat × Fault) α

namespace Layered

/-- A result that lies at the top. -/
def atTop {α : Type} : Except Fault α → Layered α
  | .ok a => .ok a
  | .error fault => .error (0, fault)

/-- The result of what lies one level deeper. -/
def deeper {α : Type} : Layered α → Layered α
  | .ok a => .ok a
  | .error (depth, fault) => .error (depth + 1, fault)

/-- Both of two results, or the fault that is met first. -/
def both {α β : Type} : Layered α → Layered β → Layered (α × β)
  | .ok a, .ok b => .ok (a, b)
  | .error fault, .ok _ => .error fault
  | .ok _, .error fault => .error fault
  | .error first, .error second => .error (if second.1 < first.1 then second else first)

/-- All of several results, or the fault that is met first. -/
def all {α : Type} : List (Layered α) → Layered (List α)
  | [] => .ok []
  | first :: rest => (both first (all rest)).map fun pair => pair.1 :: pair.2

/-- A result as a key. What lies deeper in a list or a map does not matter, for these are no keys.
-/
def asKey : Layered Shared → Layered Key
  | .ok found =>
    match found.value.key? with
    | some key => .ok key
    | none => .error (0, .malformed)
  | .error (0, fault) => .error (0, fault)
  | .error _ => .error (0, .malformed)

/-- The fault alone. -/
def flat {α : Type} : Layered α → Except Fault α
  | .ok a => .ok a
  | .error (_, fault) => .error fault

end Layered

/-- An entry of a map. -/
abbrev Entry := Layered Key × Layered Shared

/-- The map of entries, with its number. -/
def tableOf (number : Nat) (entries : List Entry) : Layered Shared :=
  (Layered.all (entries.map fun entry => Layered.both entry.1 entry.2)).map fun pairs =>
    .map (some number) (Table.ofPairs pairs)

namespace Node

/-- The node is a key under which a map takes over other maps. -/
def isMerge : Node → Bool
  | scalar tag _ | list _ tag _ | map _ tag _ => tag == .merge

/-- The node stands for the value of a map. -/
def isValueMark : Node → Bool
  | scalar tag _ | list _ tag _ | map _ tag _ => tag == .value

mutual

/-- The text that a node stands for: its own, or the one under the key `=` of a map. -/
def text? : Node → Option String
  | scalar _ text => some text
  | list _ _ _ => none
  | map _ _ pairs => markedText? pairs
termination_by structural node => node

/-- The text under the key `=`. -/
def markedText? : List (Node × Node) → Option String
  | [] => none
  | (key, node) :: rest => if key.isValueMark then node.text? else markedText? rest
termination_by structural pairs => pairs

end

/-- The value of a node of one of the types of scalars. -/
def plainContent (tag : Tag) (node : Node) : Layered Shared :=
  match node.text? with
  | some text => .atTop ((scalarValue tag text).map .ofValue)
  | none => .error (0, .malformed)

/-- The fault of a list or map that is no such thing; it is met when its items are to be read. -/
def misnamed : Layered Shared := .error (1, .malformed)

mutual

/-- The value of a node. -/
def content (node : Node) : Layered Shared :=
  match node with
  | scalar .list _ | scalar .map _ | list _ .map _ | map _ .list _ => misnamed
  | list number .list items =>
    Layered.deeper ((Layered.all (contents items)).map (.list (some number)))
  | map number .map pairs =>
    match entries pairs with
    | .ok (taken, own) => Layered.deeper (tableOf number (taken ++ own))
    | .error fault => .error (1, fault)
  | scalar tag text => .atTop ((scalarValue tag text).map .ofValue)
  | list number tag items => plainContent tag (list number tag items)
  | map number tag pairs => plainContent tag (map number tag pairs)
termination_by structural node

/-- The values of nodes. -/
def contents (nodes : List Node) : List (Layered Shared) :=
  match nodes with
  | [] => []
  | first :: rest => first.content :: contents rest
termination_by structural nodes

/-- The entries that a map takes over, and its own. -/
def entries (pairs : List (Node × Node)) : Except Fault (List Entry × List Entry) :=
  match pairs with
  | [] => .ok ([], [])
  | (key, node) :: rest =>
    if key.isMerge then do
      let first ← node.takenOver
      let (taken, own) ← entries rest
      .ok (first ++ taken, own)
    else do
      let (taken, own) ← entries rest
      let key := if key.isValueMark then plainContent .text key else key.content
      .ok (taken, (key.asKey, node.content) :: own)
termination_by structural pairs

/-- The entries that are taken over from a map, or from a list of maps. -/
def takenOver (node : Node) : Except Fault (List Entry) :=
  match node with
  | map _ _ pairs => do
    let (taken, own) ← entries pairs
    .ok (taken ++ own)
  | list _ _ items => takenFromAll items
  | scalar _ _ => .error .malformed
termination_by structural node

/-- The entries that are taken over from several maps; those of a later map come first, so that an
earlier one wins. -/
def takenFromAll (nodes : List Node) : Except Fault (List Entry) :=
  match nodes with
  | [] => .ok []
  | map _ _ pairs :: rest => do
    let (taken, own) ← entries pairs
    .ok ((← takenFromAll rest) ++ (taken ++ own))
  | _ :: _ => .error .malformed
termination_by structural nodes

end

/-- The value of a document. -/
def value (node : Node) : Except Fault Shared := node.content.flat

end Node

end Blueprint.Yaml
