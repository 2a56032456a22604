import Blueprint.Value.Render

/-!
# Error reports

An error is reported by its kind, a message and a context: an ordered map of what the error is
about. Each kind fills its context from the details it is given. The details are kept beside the
context in the form in which they were given.
-/
namespace Blueprint

/-- `FoundryError` — the kinds of error, one for each class. -/
inductive ErrorKind where
  /-- Any error of the library. -/
  | general
  /-- A definition is invalid. -/
  | definition
  /-- A factory is associated with itself. -/
  | association
  /-- A name is defined twice. -/
  | duplicate
  /-- Parents form a cycle. -/
  | cycle
  /-- A compiled factory is changed. -/
  | factorySealed
  /-- A sealed registry is changed. -/
  | registrySealed
  /-- A callback has no valid name. -/
  | callbackName
  /-- A factory is given unknown options. -/
  | options
  /-- A strategy is unknown. -/
  | strategy
  /-- Two overrides have one name. -/
  | ambiguity
  /-- Nothing is found under a name. -/
  | notFound
  /-- No factory is found under a name. -/
  | factoryNotFound
  /-- No trait is found under a name. -/
  | traitNotFound
  /-- No model class is found under a name. -/
  | modelNotFound
  /-- A configuration cannot be loaded or is invalid. -/
  | config
deriving DecidableEq, Repr

namespace ErrorKind

/-- The errors of definitions. -/
def isDefinition : ErrorKind → Bool
  | definition | association | duplicate | cycle | factorySealed | registrySealed => true
  | _ => false

/-- The errors of look-ups. -/
def isNotFound : ErrorKind → Bool
  | notFound | factoryNotFound | traitNotFound | modelNotFound => true
  | _ => false

/-- The errors of values that are not acceptable. -/
def isUnacceptable : ErrorKind → Bool
  | callbackName | options | strategy | ambiguity | config => true
  | _ => false

/-- What a look-up of this kind looks for. -/
def sought : ErrorKind → String
  | factoryNotFound => "factory"
  | traitNotFound => "trait"
  | modelNotFound => "class"
  | _ => "entry"

end ErrorKind

/-- The details that an error may be given. -/
inductive Detail where
  /-- The factory concerned. -/
  | factory
  /-- The attribute concerned. -/
  | attributeName
  /-- The names of a cycle. -/
  | chain
  /-- The name that was sought or refused. -/
  | name
  /-- The options that are unknown. -/
  | unknown
  /-- The strategy that is unknown. -/
  | strategy
  /-- The overrides that clash. -/
  | keys
deriving DecidableEq, Repr

/-- The details that a kind of error takes. -/
def ErrorKind.takes : ErrorKind → Detail → Bool
  | .cycle, detail => detail == .chain
  | .callbackName, detail => detail == .name
  | .options, detail => detail == .unknown
  | .strategy, detail => detail == .strategy
  | .ambiguity, detail => detail == .keys
  | .general, _ | .config, _ => false
  | kind, detail =>
    if kind.isNotFound then detail == .name else detail == .factory || detail == .attributeName

/-- The kinds of error that take a context from outside. -/
def ErrorKind.takesContext : ErrorKind → Bool
  | .general | .config => true
  | .cycle => false
  | kind => kind.isDefinition

/-- `FoundryError.to_json_error` — what is reported of an error. -/
structure Report where
  /-- The kind of error. -/
  kind : ErrorKind
  /-- The message. -/
  message : String
  /-- What the error is about, in order. -/
  context : Dict := []
  /-- The details that were given. -/
  details : List (Detail × Value) := []

namespace Report

/-- A context of texts. -/
def texts (pairs : List (String × String)) : Dict :=
  pairs.map fun pair => (.text pair.1, .text pair.2)

/-- A list of texts as a value. -/
def textList (items : List String) : Value := .list (items.map .text)

/-- The context with a value that counts as true entered under a name. -/
def enter (context : Dict) (name : String) (value : Value) : Dict :=
  if value.truthy then context.put (.text name) value else context

/-- `DefinitionError.__init__` — an error of a definition. The factory and the attribute join the
context if they are named. -/
def definition (kind : ErrorKind) (message : String) (factory attributeName : Value)
    (context : Dict) : Report where
  kind := kind
  message := message
  context := enter (enter context "factory" factory) "attribute" attributeName
  details := [(.factory, factory), (.attributeName, attributeName)]

/-- `CyclicDefinitionError.__init__` — an error of a cycle of parents. -/
def cycle (message : String) (chain : List Value) : Report where
  kind := .cycle
  message := message
  context := [(.text "chain", .list chain)]
  details := [(.factory, .null), (.attributeName, .null), (.chain, .list chain)]

/-- `InvalidCallbackNameError.__init__` — an error of a callback without a valid name. -/
def callbackName (message : String) (name : Value) : Report where
  kind := .callbackName
  message := message
  context := enter [] "callback" name
  details := [(.name, name)]

/-- `InvalidOptionsError.__init__` — an error of unknown options. -/
def options (message : String) (unknown : List Value) : Report where
  kind := .options
  message := message
  context := [(.text "unknown", .list unknown)]
  details := [(.unknown, .list unknown)]

/-- `UnknownStrategyError.__init__` — an error of an unknown strategy. -/
def strategy (message : String) (tag : Value) : Report where
  kind := .strategy
  message := message
  context := [(.text "strategy", .text tag.plain)]
  details := [(.strategy, tag)]

/-- `AmbiguousOverrideError.__init__` — an error of two overrides with one name. -/
def ambiguity (message : String) (keys : List Value) : Report where
  kind := .ambiguity
  message := message
  context := [(.text "keys", textList (keys.map Value.plain))]
  details := [(.keys, .list keys)]

/-- `NotFoundError.__init__` — an error of a look-up. -/
def notFound (kind : ErrorKind) (name : Value) : Report where
  kind := kind
  message := s!"No {kind.sought} registered under {name.shown}"
  context := [(.text "name", name), (.text "kind", .text kind.sought)]
  details := [(.name, name)]

end Report

end Blueprint
