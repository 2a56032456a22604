import Blueprint.Config.Schema
import Blueprint.Error.Fault

/-!
# Bundled data

The library brings two documents of its own: the default configuration, over which all others are
laid, and the schema that a configuration keeps. The schema is stated once, as rules; its document
is written from them.
-/
namespace Blueprint.Config

/-- A map of texts to values. -/
def mapOf (members : List (String × Value)) : Value :=
  .dict (members.map fun member => (Key.text member.1, member.2))

/-- A pattern of override keys with the attribute that they also feed. -/
def patternEntry (pattern replacement : String) : Value :=
  mapOf [("match", .text pattern), ("replace", .text replacement)]

/-- `ConfigManager.load_defaults` — the default configuration. -/
def defaults : Dict :=
  [(.text "factories",
      mapOf [("default_strategy", .text "create"), ("allow_overrides", .bool false)]),
    (.text "strategies",
      mapOf [("create", mapOf [("persist_method", .text "save")]),
        ("stub", mapOf [("id_start", .int 1001)])]),
    (.text "aliases",
      mapOf [("patterns", .list [patternEntry "(.+)_id" "\\1", patternEntry "(.*)" "\\1_id"])]),
    (.text "deprecations", mapOf [("warn_default_strategy", .bool true)]),
    (.text "logging", mapOf [("level", .text "WARNING")])]

/-- The rules of a map with these members and no others. -/
def record (members : List (String × Schema)) : Schema :=
  [.type .object, .closed, .properties members]

/-- The schema of configurations. -/
def schema : Schema :=
  record
    [("factories", record
        [("default_strategy",
            [.type .string, .enum ["build", "create", "attributes_for", "stub"]]),
          ("allow_overrides", [.type .boolean])]),
      ("strategies", record
        [("create", record [("persist_method", [.type .string, .nonEmpty])]),
          ("stub", record [("id_start", [.type .integer, .minimum 0])])]),
      ("aliases", record
        [("patterns",
            [.type .array,
              .items [.type .object, .closed, .required ["match", "replace"],
                .properties [("match", [.type .string]), ("replace", [.type .string])]]])]),
      ("deprecations", record [("warn_default_strategy", [.type .boolean])]),
      ("logging", record
        [("level",
            [.type .string, .enum ["DEBUG", "INFO", "WARNING", "ERROR", "CRITICAL"]])])]

mutual

/-- A rule as a member of a schema document. -/
def ruleMember : Rule → Key × Value
  | .type name => (.text "type", .text name.word)
  | .closed => (.text "additionalProperties", .bool false)
  | .required names => (.text "required", .list (names.map .text))
  | .properties members => (.text "properties", .dict (schemaMembers members))
  | .items rules => (.text "items", .dict (schemaDocument rules))
  | .enum choices => (.text "enum", .list (choices.map .text))
  | .nonEmpty => (.text "minLength", .int 1)
  | .minimum bound => (.text "minimum", .int bound)

/-- Schemas by name as a document. -/
def schemaMembers : List (String × List Rule) → Dict
  | [] => []
  | (name, rules) :: rest => (.text name, .dict (schemaDocument rules)) :: schemaMembers rest

/-- A schema as a document. -/
def schemaDocument : List Rule → Dict
  | [] => []
  | rule :: rest => ruleMember rule :: schemaDocument rest

end

/-- The document of the schema of configurations. -/
def schemaFile : Dict :=
  [(.text "$schema", .text "https://json-schema.org/draft/2020-12/schema"),
    (.text "title", .text "Foundry configuration")] ++ schemaDocument schema

/-- The bundled document in a folder under a name. -/
def bundled? (folder name : String) : Except Fault Value :=
  match folder, name with
  | "config", "defaults.yaml" => .ok (.dict defaults)
  | "schemas", "config.schema.yaml" => .ok (.dict schemaFile)
  | _, _ => .error .bundleMissing

/-- How many nested calls there is room for by default where a violation is told. The interpreter
allows for a thousand, of which those that lead there are taken already. -/
def tellingRoom : Nat := 960

/-- A path in words. -/
def pathText : List Step → String
  | [] => "<root>"
  | steps => "/".intercalate (steps.map Step.word)

/-- The fault with which a value is not shown. -/
def faultOf : Value.Obstacle → Fault
  | .tooLong => .badValue
  | .tooDeep => .tooDeep

/-- `ConfigManager.validate_schema` — a configuration that breaks the schema is refused with all its
violations, unless one of them cannot be told: the first one that is found decides then. -/
def validate (config : Value) (room : List Step → Nat := fun _ => tellingRoom) :
    Except Fault Unit :=
  match (violations schema config).mapM (Violation.told room) with
  | .error obstacle => .error (faultOf obstacle)
  | .ok told =>
    match byPath told with
    | [] => .ok ()
    | first :: rest =>
      .error (.configInvalid (pathText first.1) ((first :: rest).map Prod.snd))

end Blueprint.Config
