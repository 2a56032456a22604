import Blueprint.Number.Binary64

/-!
# Keys of maps

The key of a map is a scalar. Numbers of different kinds are one key when they are equal as numbers,
and a truth value is the number zero or one: after `1` has been entered, `true` and `1.0` find it.
The key keeps the form in which it was first written.
-/
namespace Blueprint

/-- A scalar that can stand as a key of a map. -/
inductive Key where
  /-- The missing value. -/
  | null
  /-- A truth value. -/
  | bool (b : Bool)
  /-- An integer. -/
  | int (n : Int)
  /-- A double-precision number. -/
  | float (x : Binary64)
  /-- A text. -/
  | text (s : String)
deriving Repr, Inhabited

namespace Key

/-- The key is a text. -/
def isText : Key → Bool
  | text _ => true
  | _ => false

/-- What makes a key the same as another one. -/
inductive Identity where
  /-- The missing value. -/
  | null
  /-- A number without a fraction. -/
  | integer (n : Int)
  /-- Any other number. -/
  | real (x : Binary64)
  /-- A text. -/
  | text (s : String)
deriving DecidableEq, Repr

/-- The identity of a key. -/
def identity : Key → Identity
  | null => .null
  | bool b => .integer (if b then 1 else 0)
  | int n => .integer n
  | float x => match x.integer? with
    | some n => .integer n
    | none => .real x
  | text s => .text s

/-- Keys are the same when their identities are. -/
instance : BEq Key := ⟨fun a b => a.identity == b.identity⟩

theorem beq_iff {a b : Key} : (a == b) = true ↔ a.identity = b.identity := by
  show (a.identity == b.identity) = true ↔ _
  simp

instance : EquivBEq Key where
  rfl := beq_iff.2 rfl
  symm h := beq_iff.2 (beq_iff.1 h).symm
  trans h h' := beq_iff.2 ((beq_iff.1 h).trans (beq_iff.1 h'))

end Key

end Blueprint
