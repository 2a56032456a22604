import Blueprint.Value.Items

/-!
# Errors made from details

An error of any kind can be made directly from a message, a context and details. A kind takes only
the details that it knows; a detail or a context that it does not know is refused. A look-up error
words its own message and needs the name that was sought.
-/
namespace Blueprint

/-- What an error is made from. -/
structure Details where
  /-- The message, empty if there is none. -/
  message : String := ""
  /-- The context, if one is given. -/
  context : Option Value := none
  /-- The details that are given. -/
  given : List (Detail × Value) := []

namespace Details

/-- A detail, missing if it is not given. -/
def get (details : Details) (detail : Detail) : Value := (details.given.lookup detail).getD .null

/-- The kind of error takes all that is given. -/
def fit (details : Details) (kind : ErrorKind) : Bool :=
  details.given.all (fun pair => kind.takes pair.1) && (details.context.isNone || kind.takesContext)

/-- `FoundryError.__init__` — the context of a general error: whatever is given, as a map. -/
def generalContext (details : Details) : Except Fault Dict :=
  match details.context with
  | some value => if value matches .null then .ok [] else value.entries
  | none => .ok []

/-- `DefinitionError.__init__` — the context of an error of a definition: a map, if what is given
counts as true. -/
def definitionContext (details : Details) : Except Fault Dict :=
  match details.context with
  | some value => value.entriesIfTrue
  | none => .ok []

/-- The report of an error of a kind that is made from details. -/
def report (kind : ErrorKind) (details : Details) : Except Fault Report := do
  let items := fun detail => (details.get detail).itemsIfTrue
  if !details.fit kind then .error .wrongType
  else
    match kind with
    | .cycle => .ok (Report.cycle details.message (← items .chain))
    | .callbackName => .ok (Report.callbackName details.message (details.get .name))
    | .options => .ok (Report.options details.message (← items .unknown))
    | .strategy => .ok (Report.strategy details.message (details.get .strategy))
    | .ambiguity => .ok (Report.ambiguity details.message (← items .keys))
    | .general | .config =>
      .ok { kind := kind, message := details.message, context := ← details.generalContext }
    | kind =>
      if kind.isNotFound then
        match details.given.lookup .name with
        | some name => .ok (Report.notFound kind name)
        | none => .error .wrongType
      else
        .ok (Report.definition kind details.message (details.get .factory)
          (details.get .attributeName) (← details.definitionContext))

end Details

namespace ErrorKind

/-- A kind of error belongs to a wider kind. -/
def belongsTo (kind wider : ErrorKind) : Bool :=
  match wider with
  | .general => true
  | .definition => kind.isDefinition
  | .notFound => kind.isNotFound
  | wider => kind == wider

end ErrorKind

end Blueprint
