import Blueprint.Number.Numeral
import Blueprint.Text.Case.Upper
import Blueprint.Value.Items

/-!
# Settings

Typed views of a configuration. A configuration need not have been validated: every view says what
it makes of a value of another type, and fails where nothing can be made of it. What is missing,
or counts as false where a section is expected, has a default.
-/
namespace Blueprint

/-- `FoundryConfig` — a configuration as its settings are read from it. -/
structure Settings where
  /-- The whole configuration. -/
  data : Value

/-- `AliasPattern` — a pattern of override keys, and the template of the attribute that they also
feed. -/
structure AliasSource where
  /-- The pattern. -/
  pattern : String
  /-- The template. -/
  template : String
deriving DecidableEq, Repr

namespace Settings

/-- `FoundryConfig.__init__` — the settings of a configuration; one that counts as false is
empty. -/
def ofValue (data : Value) : Settings := ⟨if data.truthy then data else .dict []⟩

/-- The member of a map under a name; what is no map has no members. -/
def member (container : Value) (name : String) : Except Fault (Option Value) :=
  match container with
  | .dict entries => .ok (entries.lookup (Key.text name))
  | _ => .error .noMembers

/-- The value, or an empty map if it is missing or counts as false. -/
def orEmpty (value : Option Value) : Value :=
  match value with
  | some value => if value.truthy then value else .dict []
  | none => .dict []

/-- `FoundryConfig.section` — a section of the configuration. -/
def section? (settings : Settings) (name : String) : Except Fault Value := do
  .ok (orEmpty (← member settings.data name))

/-- A member of a section. -/
def entry (settings : Settings) (name key : String) : Except Fault (Option Value) := do
  member (← settings.section? name) key

/-- A member of a part of a section. -/
def innerEntry (settings : Settings) (name part key : String) : Except Fault (Option Value) := do
  member (orEmpty (← settings.entry name part)) key

/-- The text of a value, or of a default. -/
def textOr (default : String) (value : Option Value) : String :=
  match value with
  | some value => value.plain
  | none => default

/-- The truth of a value, or a default. -/
def truthOr (default : Bool) (value : Option Value) : Bool :=
  match value with
  | some value => value.truthy
  | none => default

/-- The integer that a value stands for. -/
def integerOf (value : Value) : Except Fault Int :=
  match value with
  | .int n => .ok n
  | .bool b => .ok (if b then 1 else 0)
  | .float x =>
    match x with
    | .infinite _ => .error .tooLarge
    | x =>
      match x.truncate? with
      | some n => .ok n
      | none => .error .badValue
  | .text s =>
    match Numeral.integer? s.toList with
    | some n => .ok n
    | none => .error .badValue
  | .strategy _ => .error .badValue
  | _ => .error .wrongType

/-- The text of a member that has to be there. -/
def memberText (container : Value) (name : String) : Except Fault String :=
  match container with
  | .dict entries =>
    match entries.lookup (Key.text name) with
    | some value => .ok value.plain
    | none => .error .memberMissing
  | _ => .error .wrongType

/-- `FoundryConfig.default_strategy` — the text of the default strategy. -/
def defaultStrategy (settings : Settings) : Except Fault String := do
  .ok (textOr "create" (← settings.entry "factories" "default_strategy"))

/-- `FoundryConfig.allow_overrides` — whether attributes may be declared again. -/
def allowOverrides (settings : Settings) : Except Fault Bool := do
  .ok (truthOr false (← settings.entry "factories" "allow_overrides"))

/-- `FoundryConfig.persist_method` — the method that saves an instance. -/
def persistMethod (settings : Settings) : Except Fault String := do
  .ok (textOr "save" (← settings.innerEntry "strategies" "create" "persist_method"))

/-- `FoundryConfig.stub_id_start` — the first id of stubbed instances. -/
def stubIdStart (settings : Settings) : Except Fault Int := do
  match ← settings.innerEntry "strategies" "stub" "id_start" with
  | some value => integerOf value
  | none => .ok 1001

/-- One pattern of override keys. -/
def aliasSource (value : Value) : Except Fault AliasSource := do
  let pattern ← memberText value "match"
  let template ← memberText value "replace"
  .ok ⟨pattern, template⟩

/-- `FoundryConfig.alias_patterns` — the patterns of override keys. -/
def aliasSources (settings : Settings) : Except Fault (List AliasSource) := do
  match ← settings.entry "aliases" "patterns" with
  | some value =>
    (← value.itemsIfTrue).mapM aliasSource
  | none => .ok []

/-- `FoundryConfig.warn_default_strategy` — whether a factory with a default strategy is warned
about. -/
def warnDefaultStrategy (settings : Settings) : Except Fault Bool := do
  .ok (truthOr true (← settings.entry "deprecations" "warn_default_strategy"))

/-- `FoundryConfig.log_level` — the name of the least level of log records. -/
def logLevel (settings : Settings) : Except Fault String := do
  let level := textOr "WARNING" (← settings.entry "logging" "level")
  .ok (String.ofList (Text.upper level.toList))

/-- The named levels of log records. -/
def levels : List (String × Nat) :=
  [("NOTSET", 0), ("DEBUG", 10), ("INFO", 20), ("WARNING", 30), ("WARN", 30), ("ERROR", 40),
    ("CRITICAL", 50), ("FATAL", 50)]

/-- `configure_logging` — the least level of log records that the configuration names. -/
def level (settings : Settings) : Except Fault Nat := do
  match levels.lookup (← settings.logLevel) with
  | some n => .ok n
  | none => .error .badValue

/-- `FoundryConfig.as_dict` — the configuration as a map. -/
def asDict (settings : Settings) : Except Fault Dict := settings.data.entries

end Settings

end Blueprint
