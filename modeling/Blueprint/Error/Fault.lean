import Blueprint.Error.Report

/-!
# Causes of failure

Every way in which an operation fails, with what its message tells. The faults of the library's own
rules are reported with a kind and a context (`Fault.report?`). The others come from a value of the
wrong type, an unreadable text, or a model class; some of these have a message of their own
(`Fault.note?`).
-/
namespace Blueprint

/-- The changes that a compiled factory refuses. -/
inductive Change where
  /-- Another attribute. -/
  | declareAttribute
  /-- Another trait. -/
  | defineTrait
  /-- Another callback. -/
  | addCallback
  /-- A finalizer. -/
  | setFinalizer
deriving DecidableEq, Repr

/-- A change in words. -/
def Change.words : Change → String
  | declareAttribute => "declare attribute"
  | defineTrait => "define trait"
  | addCallback => "add callback"
  | setFinalizer => "set finalizer"

/-- What can be registered. -/
inductive Registrable where
  /-- A factory. -/
  | factory
  /-- A trait. -/
  | trait
  /-- A model class. -/
  | model
deriving DecidableEq, Repr

namespace Registrable

/-- What is registered in words. -/
def word : Registrable → String
  | factory => "factory"
  | trait => "trait"
  | model => "class"

/-- The kind of error of a look-up that fails. -/
def notFound : Registrable → ErrorKind
  | factory => .factoryNotFound
  | trait => .traitNotFound
  | model => .modelNotFound

end Registrable

/-- A cause of failure. -/
inductive Fault where
  /-- A factory is given options that do not exist. -/
  | unknownOptions (unknown : List String)
  /-- A strategy that does not exist. -/
  | unknownStrategy (tag : Value)
  /-- A name is registered already. -/
  | registeredAlready (what : Registrable) (name : String)
  /-- An attribute is defined already. -/
  | definedAlready (attributeName : String)
  /-- A factory is associated with itself. -/
  | selfAssociation (factory attributeName : String)
  /-- The parents of a factory that is compiled form a cycle. -/
  | compileCycle (factory : String) (chain : List String)
  /-- The parents among which a trait is sought form a cycle. -/
  | traitCycle (trait : String) (chain : List String)
  /-- A compiled factory is changed. -/
  | factorySealed (change : Change) (factory : String) (subject : Option String)
  /-- A sealed registry is changed. -/
  | registrySealed (what : Registrable) (subject : String)
  /-- A callback is named after no event. -/
  | invalidCallbackName (name : String)
  /-- Two overrides name the same attribute. -/
  | ambiguousOverride (factory name : String) (first second : Key)
  /-- Nothing is registered under a name. -/
  | notFound (what : Registrable) (name : String)
  /-- The name of an environment variable has an empty segment. -/
  | emptySegment (raw : String)
  /-- The name of an environment variable ends with its prefix. -/
  | emptyVariable (name : String)
  /-- A list index or an append mark stands before the last segment of a path. -/
  | indexInside
  /-- A path leads through a value that is no map. -/
  | throughScalar
  /-- A value is appended to what is no list. -/
  | appendNeedsList
  /-- A value is set by index in what is no list. -/
  | indexNeedsList
  /-- A value is set by key in what is no map. -/
  | keyNeedsMap
  /-- The configuration file does not exist. -/
  | configMissing (path : String)
  /-- The configuration file cannot be read. -/
  | configUnreadable (path : String)
  /-- The configuration file holds no map. -/
  | configNoMap (path : String)
  /-- The configuration is invalid; `path` leads to the first of the errors. -/
  | configInvalid (path : String) (errors : List String)
  /-- The block of a dynamic attribute cannot be called. -/
  | blockNotCallable (attributeName : String)
  /-- A value is read before it is set. -/
  | valueUnset (name : String)
  /-- A model class has no method to save its instances. -/
  | noPersistMethod (model method : String)
  /-- A handler or a block raised an error of its own. -/
  | raised (message : String)
  /-- A model class has no such field. -/
  | noField (model field : String)
  /-- There is no file at a path. -/
  | fileMissing (path : String)
  /-- There is no bundled file of a name. -/
  | bundleMissing
  /-- A value has the wrong type. -/
  | wrongType
  /-- A text or a number is not acceptable. -/
  | badValue
  /-- A number is too large. -/
  | tooLarge
  /-- A value has no members. -/
  | noMembers
  /-- A member is missing. -/
  | memberMissing
  /-- A position or a group does not exist. -/
  | noPosition
  /-- A pattern or a template is malformed. -/
  | badPattern
  /-- Bytes are no text. -/
  | undecodable
  /-- A document is malformed. -/
  | malformed
  /-- Calls are nested too deeply. -/
  | tooDeep
deriving Repr

namespace Fault

/-- The names of the options of a factory, in order. -/
def optionNames : List String := ["aliases", "class", "default_strategy", "parent", "traits"]

/-- The names of the events of callbacks, in order. -/
def eventNames : List String := ["after_build", "after_create", "after_stub"]

/-- The prefix of environment variables. -/
def variablePrefix : String := "FOUNDRY_"

/-- Names joined by commas. -/
def listed (names : List String) : String := ", ".intercalate names

/-- Names joined by arrows. -/
def arrows (chain : List String) : String := " -> ".intercalate chain

/-- `ConfigError.__init__` — a configuration error about one thing. -/
def configReport (message : String) (context : List (String × String)) : Report where
  kind := .config
  message := message
  context := Report.texts context

/-- The report of a fault of the library's own rules. -/
def report? : Fault → Option Report
  | unknownOptions unknown =>
    some (Report.options
      s!"Unknown key(s): {listed unknown}. Valid keys are: {listed optionNames}"
      (unknown.map .text))
  | unknownStrategy tag => some (Report.strategy s!"Unknown strategy: {tag.plain}" tag)
  | registeredAlready .factory name =>
    some (Report.definition .duplicate s!"Factory already registered: {name}" (.text name) .null [])
  | registeredAlready .trait name =>
    some (Report.definition .duplicate s!"Trait already registered: {name}" .null .null
      (Report.texts [("trait", name)]))
  | registeredAlready .model name =>
    some (Report.definition .duplicate s!"Class identifier already registered: {name}" .null .null
      (Report.texts [("class", name)]))
  | definedAlready name =>
    some (Report.definition .duplicate s!"Attribute already defined: {name}" .null (.text name) [])
  | selfAssociation factory name =>
    some (Report.definition .association
      s!"Self-referencing association '{name}' in factory '{factory}'"
      (.text factory) (.text name) [])
  | compileCycle factory chain =>
    some (Report.cycle
      s!"Cyclic parent reference detected for factory '{factory}': {arrows chain}"
      (chain.map .text))
  | traitCycle trait chain =>
    some (Report.cycle
      s!"Cyclic parent reference while resolving trait '{trait}': {arrows chain}"
      (chain.map .text))
  | factorySealed change factory subject =>
    let target := match subject with
      | some name => if name.isEmpty then "" else s!" '{name}'"
      | none => ""
    some (Report.definition .factorySealed
      s!"Cannot {change.words}{target} on factory '{factory}' after it has been compiled"
      (.text factory) ((subject.map .text).getD .null) [])
  | registrySealed what subject =>
    some (Report.definition .registrySealed
      s!"Cannot register {what.word} '{subject}': registry is sealed" .null .null
      (Report.texts [("subject", subject)]))
  | invalidCallbackName name =>
    some (Report.callbackName
      s!"{name} is not a valid callback name. Valid callback names are {listed eventNames}"
      (.text name))
  | ambiguousOverride factory name first second =>
    some (Report.ambiguity
      s!"Override keys {first.shown} and {second.shown} both name '{name}' in factory '{factory}'"
      [.ofKey first, .ofKey second])
  | notFound what name => some (Report.notFound what.notFound (.text name))
  | emptySegment raw =>
    some (configReport s!"Malformed {variablePrefix}* key: empty segment in '{raw}'."
      [("key", raw)])
  | emptyVariable name => some (configReport s!"Malformed {variablePrefix}* key" [("key", name)])
  | indexInside =>
    some (configReport "Invalid path: list index/APPEND may only appear at leaf" [])
  | throughScalar => some (configReport "Path traverses non-dict container" [])
  | appendNeedsList => some (configReport "APPEND requires list" [])
  | indexNeedsList => some (configReport "Index assignment requires list" [])
  | keyNeedsMap => some (configReport "Key assignment requires dict" [])
  | configMissing path => some (configReport s!"Config file not found: {path}" [("path", path)])
  | configUnreadable path => some (configReport s!"Invalid YAML in {path}" [("path", path)])
  | configNoMap path =>
    some (configReport s!"Config file must contain a mapping: {path}" [("path", path)])
  | configInvalid path errors =>
    some { kind := .config
           message := s!"Invalid configuration at {path}: " ++ errors.headD ""
           context := [(.text "path", .text path), (.text "errors", Report.textList errors)] }
  | _ => none

/-- The message of a fault that is not reported but has words of its own. -/
def note? : Fault → Option String
  | blockNotCallable name => some s!"Dynamic attribute {Text.quote name} requires a callable"
  | valueUnset name => some s!"Attribute {Text.quote name} has not been set yet"
  | noPersistMethod model method =>
    some s!"{model} has no {method}() method; set a finalizer on the factory to create it"
  | raised message => some message
  | noField model field => some s!"{model} has no field {Text.quote field}"
  | fileMissing path => some s!"File not found: {path}"
  | _ => none

end Fault

end Blueprint
