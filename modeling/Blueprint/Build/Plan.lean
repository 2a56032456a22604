import Blueprint.Attribute.Basic

/-!
# Plans

A plan says what is done for each attribute in turn: the overrides meant for it are set, or, if
there are none, the attribute gives its value. Overrides that are meant for no attribute are set
last. A key that is a name of an attribute is meant for the first attribute that has it; any other
key is meant for the first attribute whose name the patterns find for it.
-/
namespace Blueprint

/-- An override: a canonical key with its value. -/
abbrev Override := String × Value

/-- One step of a plan. -/
inductive Action where
  /-- A value is set. -/
  | assign (key : String) (value : Value) (ignored : Bool)
  /-- An attribute gives its value. -/
  | evaluate (attr : Attribute)
deriving Repr

/-- The steps of a plan, and the fault that ends it, if one does. -/
structure Plan where
  /-- The steps in order. -/
  actions : List Action
  /-- What makes it impossible to go on after the last step. -/
  fault : Option Fault := none
deriving Repr

namespace Plan

/-- A plan with steps before it. -/
def prepend (actions : List Action) (plan : Plan) : Plan :=
  { plan with actions := actions ++ plan.actions }

/-- The attribute of which a key is a name. -/
def owner? (attributes : List Attribute) (key : String) : Option Attribute :=
  attributes.find? fun attr => attr.answersTo key

/-- `Factory._override_targets` — whether a key is meant for an attribute. `aliases` gives the names
that the patterns find for a key. -/
def targets (aliases : String → Except Fault (List String)) (attributes : List Attribute)
    (attr : Attribute) (key : String) : Except Fault Bool :=
  match owner? attributes key with
  | some owner => .ok (owner.name == attr.name)
  | none => do .ok ((← aliases key).contains attr.name)

/-- The overrides that pass a test, and the others, both in order. -/
def split (test : String → Except Fault Bool) :
    List Override → Except Fault (List Override × List Override)
  | [] => .ok ([], [])
  | pair :: pending => do
    let chosen ← test pair.1
    let (matched, others) ← split test pending
    if chosen then .ok (pair :: matched, others) else .ok (matched, pair :: others)

/-- Overrides set with or without their values being ignored. -/
def assignAll (ignored : Bool) (overrides : List Override) : List Action :=
  overrides.map fun pair => .assign pair.1 pair.2 ignored

/-- `Factory.run` — its loop: what is done for the attributes from one on, while overrides are
pending. -/
def distribute (aliases : String → Except Fault (List String)) (attributes : List Attribute) :
    List Attribute → List Override → Plan
  | [], pending => { actions := assignAll false pending }
  | attr :: rest, pending =>
    match split (targets aliases attributes attr) pending with
    | .error fault => { actions := [], fault := some fault }
    | .ok ([], _) => (distribute aliases attributes rest pending).prepend [.evaluate attr]
    | .ok (matched, others) =>
      (distribute aliases attributes rest others).prepend (assignAll attr.ignored matched)

/-- The plan for attributes and overrides. -/
def make (aliases : String → Except Fault (List String)) (attributes : List Attribute)
    (overrides : List Override) : Plan :=
  distribute aliases attributes attributes overrides

end Plan

end Blueprint
