import Blueprint.Value.Basic

/-!
# Expressions

The block of a dynamic attribute and the body of a handler are expressions. An expression reads and
sets values of the proxy at hand and asks for its strategy, reads and sets fields of the instance at
hand, reads fields of other instances and changes them in place, computes with texts, leaves marks
in the log, and may start another build.
-/
namespace Blueprint

/-- An expression. -/
inductive Expr where
  /-- A value. -/
  | const (value : Value)
  /-- The value that the proxy holds under a name. -/
  | get (name : String)
  /-- Whether the proxy holds a value under a name. -/
  | has (name : String)
  /-- Sets a value of the proxy. -/
  | put (name : String) (value : Expr) (ignored : Bool)
  /-- The tag of the strategy of the proxy. -/
  | strategyTag
  /-- A field of the instance. -/
  | field (name : String)
  /-- Sets a field of the instance. -/
  | setField (name : String) (value : Expr)
  /-- Whether the instance is saved. -/
  | persisted
  /-- A field of an instance that is some value. -/
  | part (owner : Expr) (name : String)
  /-- Changes a field of an instance that is some value in place. -/
  | alter (owner : Expr) (name : String) (value : Expr)
  /-- Texts joined. -/
  | concat (parts : List Expr)
  /-- A text with its small letters made capital. -/
  | upper (text : Expr)
  /-- A text with its capital letters made small. -/
  | lower (text : Expr)
  /-- One of two values, as a condition decides. -/
  | choose (condition yes no : Expr)
  /-- The last of several values. -/
  | sequence (steps : List Expr)
  /-- Marks that this is reached, before the value. -/
  | tick (label : String) (value : Expr)
  /-- Marks a value, after it is computed. -/
  | note (label : String) (value : Expr)
  /-- The next number of a counter. -/
  | counter (name : String)
  /-- Fails with a message. -/
  | fail (message : String)
  /-- What a run of another factory makes. -/
  | build (factory strategy : Value) (overrides : Dict)
deriving Repr, Inhabited

namespace Expr

/-- The text of a value where texts are joined: only texts, integers, truth values and the missing
value have one. -/
def textOf : Value → String
  | .text s => s
  | .int n => toString n
  | .null => "null"
  | .bool b => toString b
  | _ => "?"

/-- A small letter of ASCII as a capital one; any other character as it is. -/
def plainUpper (c : Char) : Char :=
  if 97 ≤ c.toNat && c.toNat ≤ 122 then Char.ofNat (c.toNat - 32) else c

/-- A capital letter of ASCII as a small one; any other character as it is. -/
def plainLower (c : Char) : Char :=
  if 65 ≤ c.toNat && c.toNat ≤ 90 then Char.ofNat (c.toNat + 32) else c

/-- A text with every character changed. -/
def changed (change : Char → Char) (value : Value) : Value :=
  .text (String.ofList ((textOf value).toList.map change))

end Expr

end Blueprint
