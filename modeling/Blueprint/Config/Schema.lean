import Blueprint.Value.Render

/-!
# Schemas

A schema is a list of rules that a value has to keep, in the order in which they are checked. A
rule that is about maps, lists, texts or numbers holds of every value of another type; only the
rule on the type itself refuses those. A truth value is neither an integer nor a number, a
double-precision number without a fraction is an integer, and a strategy is the text of its tag.
-/
namespace Blueprint.Config

/-- The types of values that a schema names. -/
inductive TypeName where
  /-- Maps. -/
  | object
  /-- Lists. -/
  | array
  /-- Texts. -/
  | string
  /-- Truth values. -/
  | boolean
  /-- Numbers without a fraction. -/
  | integer
deriving DecidableEq, Repr

/-- The text that a value is; a strategy counts as its tag. -/
def textOf? : Value → Option String
  | .text s => some s
  | .strategy way => some way.tag
  | _ => none

namespace TypeName

/-- The word for a type. -/
def word : TypeName → String
  | object => "object"
  | array => "array"
  | string => "string"
  | boolean => "boolean"
  | integer => "integer"

/-- The value has the type. -/
def holds : TypeName → Value → Bool
  | object, .dict _ => true
  | array, .list _ => true
  | string, value => (textOf? value).isSome
  | boolean, .bool _ => true
  | integer, .int _ => true
  | integer, .float x => x.integer?.isSome
  | _, _ => false

end TypeName

/-- One rule of a schema. -/
inductive Rule where
  /-- The value has a type. -/
  | type (name : TypeName)
  /-- A map has no other members than those of its schema. -/
  | closed
  /-- A map has these members. -/
  | required (names : List String)
  /-- The members of a map keep rules of their own. -/
  | properties (members : List (String × List Rule))
  /-- The items of a list keep these rules. -/
  | items (rules : List Rule)
  /-- The value is one of these texts. -/
  | enum (choices : List String)
  /-- A text is not empty. -/
  | nonEmpty
  /-- A number is not below a bound. -/
  | minimum (bound : Nat)
deriving Repr

/-- A schema: its rules in the order in which they are checked. -/
abbrev Schema := List Rule

/-- A step from a value to a part of it. -/
inductive Step where
  /-- The member of a map. -/
  | member (name : String)
  /-- The item of a list. -/
  | item (n : Nat)
deriving DecidableEq, Repr

/-- A step in words. -/
def Step.word : Step → String
  | member name => name
  | item n => toString n

/-- A violation of a rule: where, and what is wrong. -/
structure Violation where
  /-- The way from the whole value to the part that breaks the rule. -/
  path : List Step
  /-- What is wrong with the part. It may show a value, for which there has to be room. -/
  message : Nat → Except Value.Obstacle String

namespace Violation

/-- A violation of the value itself. -/
def here (message : Nat → Except Value.Obstacle String) : Violation := ⟨[], message⟩

/-- A violation of a part, seen from the whole. -/
def within (step : Step) (violation : Violation) : Violation :=
  { violation with path := step :: violation.path }

/-- The violation in words, where the room for nested calls depends on the way to the part. -/
def told (room : List Step → Nat) (violation : Violation) :
    Except Value.Obstacle (List Step × String) :=
  (violation.message (room violation.path)).map fun message => (violation.path, message)

end Violation

/-- The number is below the bound. -/
def belowBound (bound : Nat) : Value → Bool
  | .int n => n < bound
  | .float x =>
    match x with
    | .finite negative mantissa exponent =>
      let (n, d) := Binary64.magnitude mantissa exponent
      if negative then mantissa != 0 || bound != 0 else n < bound * d
    | .infinite negative => negative
    | .nan => false
  | _ => false

/-- The members that the rules of a schema name. -/
def memberNames (rules : Schema) : List String :=
  rules.flatMap fun
    | .properties members => members.map Prod.fst
    | _ => []

/-- The keys of a map that no rule names, sorted by their text. -/
def extraKeys (rules : Schema) (entries : Dict) : List Key :=
  let known := memberNames rules
  let extra := entries.keys.filter fun key => !known.any fun name => Key.text name == key
  extra.mergeSort fun a b => decide (a.plain ≤ b.plain)

/-- Members that are not allowed, in words. -/
def extraMessage (extra : List Key) (room : Nat) : Except Value.Obstacle String := do
  let names := ", ".intercalate (← extra.mapM (Value.shownKey? room))
  let verb := if extra.length = 1 then "was" else "were"
  .ok s!"Additional properties are not allowed ({names} {verb} unexpected)"

/-- A violation that shows the value itself. -/
def showing (value : Value) (what : String) : Violation :=
  .here fun room => (value.shown? room).map fun shown => shown ++ what

/-- The value is none of the choices. -/
def notAmong (choices : List String) (value : Value) : Violation :=
  .here fun room => do
    let shown ← value.shown? room
    let among ← (Value.list (choices.map .text)).shown? room
    .ok s!"{shown} is not one of {among}"

mutual

/-- The violations of one rule among `rules`. -/
def Rule.check (rules : Schema) (rule : Rule) (value : Value) : List Violation :=
  match rule with
  | .type name =>
    if name.holds value then []
    else [showing value s!" is not of type {Text.quote name.word}"]
  | .closed =>
    match value with
    | .dict entries =>
      match extraKeys rules entries with
      | [] => []
      | extra => [.here (extraMessage extra)]
    | _ => []
  | .required names =>
    match value with
    | .dict entries =>
      names.filterMap fun name =>
        if Table.has entries (Key.text name) then none
        else some (.here fun room => (Value.shownKey? room (.text name)).map fun shown =>
          shown ++ " is a required property")
    | _ => []
  | .properties members =>
    match value with
    | .dict entries => checkMembers members entries
    | _ => []
  | .items inner =>
    match value with
    | .list items =>
      items.zipIdx.flatMap fun (item, n) =>
        (checkRules inner inner item).map (.within (.item n))
    | _ => []
  | .enum choices =>
    match textOf? value with
    | some s => if choices.contains s then [] else [notAmong choices value]
    | none => [notAmong choices value]
  | .nonEmpty =>
    match textOf? value with
    | some "" => [showing value " should be non-empty"]
    | _ => []
  | .minimum bound =>
    if belowBound bound value then
      [showing value s!" is less than the minimum of {bound}"]
    else []
termination_by structural rule

/-- The violations of the rules `todo` among `rules`. -/
def checkRules (rules todo : Schema) (value : Value) : List Violation :=
  match todo with
  | [] => []
  | rule :: rest => rule.check rules value ++ checkRules rules rest value
termination_by structural todo

/-- The violations of the members of a map, in the order of the schema. -/
def checkMembers (members : List (String × List Rule)) (entries : Dict) : List Violation :=
  match members with
  | [] => []
  | (name, inner) :: rest =>
    (match entries.lookup (Key.text name) with
      | some value => (checkRules inner inner value).map (.within (.member name))
      | none => []) ++ checkMembers rest entries
termination_by structural members

end

/-- The order of steps: items by index, members by name. -/
def Step.le : Step → Step → Bool
  | item m, item n => m ≤ n
  | member a, member b => a ≤ b
  | item _, member _ => true
  | member _, item _ => false

/-- The order of paths: step by step, a path before its extensions. -/
def pathLe : List Step → List Step → Bool
  | [], _ => true
  | _ :: _, [] => false
  | a :: as, b :: bs => if a = b then pathLe as bs else a.le b

/-- `Draft202012Validator.iter_errors` — all violations of a schema in the order in which they are
found. -/
def violations (schema : Schema) (value : Value) : List Violation :=
  checkRules schema schema value

/-- Violations in words sorted by their paths; those of one path keep their order. -/
def byPath (told : List (List Step × String)) : List (List Step × String) :=
  told.mergeSort fun a b => pathLe a.1 b.1

end Blueprint.Config
