import Blueprint.Config.Assignment
import Blueprint.Config.Bundle
import Blueprint.Config.Coercion
import Blueprint.Config.Layers
import Blueprint.Config.Settings
import Blueprint.Merge
import Blueprint.Yaml.Document

/-!
# Loading a configuration

Three layers make a configuration: the bundled defaults, the file of the project, and the
environment. The file is laid over the defaults as a map over a map. Then each variable whose name
starts with the prefix sets one value, in the order of the names. The variable that names the file
of the project sets nothing. A list or map that an alias in the file makes stand at several places
is one thing: a value that is set in it is seen at all of them. What the file holds is for a reader
of documents to say, which is a parameter.
-/
namespace Blueprint.Config

/-- Variables with their texts. -/
abbrev Environment := Table String String

/-- How many nested calls the interpreter has room for. -/
structure Room where
  /-- Where a JSON text is read. -/
  reading : Nat := nestingRoom
  /-- Where a violation of the schema at the end of a path is told. -/
  telling : List Step → Nat := fun _ => tellingRoom

/-- `ConfigManager.__init__` — what a configuration is loaded from. -/
structure Sources where
  /-- The environment. -/
  environment : Environment := []
  /-- The file of the project, if it is given. -/
  project : Option File := none
  /-- The file at a path. -/
  fileAt : String → File := fun path => ⟨File.tidyPath path, none⟩
  /-- The reader of documents. -/
  loader : File.Loader Shared := Yaml.loader
  /-- The room that the interpreter has. -/
  room : Room := {}

/-- The variable that names the file of the project. -/
def projectVariable : String := "FOUNDRY_CONFIG"

/-- `ConfigManager.__init__` — its choice of the file of the project: the one that is given, or the
one that the environment names. -/
def Sources.file? (sources : Sources) : Option File :=
  match sources.project with
  | some file => some file
  | none =>
    match sources.environment.lookup projectVariable with
    | some path => if path.isEmpty then none else some (sources.fileAt path)
    | none => none

/-- `ConfigManager.load_project` — the map that the file of the project holds. -/
def readProject (loader : File.Loader Shared) : Option File → Except Fault (Table Key Shared)
  | none => .ok []
  | some file =>
    match file.load loader true (.dict []) with
    | .ok (.map _ entries) => .ok entries
    | .ok _ => .error (.configNoMap file.path)
    | .error (.fileMissing _) => .error (.configMissing file.path)
    | .error _ => .error (.configUnreadable file.path)

/-- `ConfigManager._iter_env_overrides` — its test: the name of a variable less the prefix, if the
variable sets a value. -/
def keyOf? (name : String) : Option String :=
  let start := Fault.variablePrefix.toList
  if name != projectVariable && start.isPrefixOf name.toList then
    some (String.ofList (name.toList.drop start.length))
  else none

/-- `ConfigManager._iter_env_overrides` — the variables of an environment in the order of their
names. -/
def sorted (environment : Environment) : Environment :=
  environment.mergeSort fun a b => a.1 ≤ b.1

/-- `ConfigManager.apply_env_overrides` — one turn of it: the configuration after a variable has set
its value. -/
def override (room : Nat) (root : Shared) (name text : String) : Except Fault Shared :=
  match keyOf? name with
  | none => .ok root
  | some key =>
    if key.isEmpty then .error (.emptyVariable name)
    else do
      let path ← parsePath key
      let value ← coerce text room
      root.assign path value

/-- `ConfigManager.load_config` without validation — the configuration that sources give. -/
def load (sources : Sources) : Except Fault Value := do
  let project ← readProject sources.loader sources.file?
  let config ← (sorted sources.environment).foldlM
    (fun root entry => override sources.room.reading root entry.1 entry.2)
    (.dict (mergeDicts defaults project))
  .ok config.value

/-- `ConfigManager.load_config` — the configuration that sources give, which has to keep the
schema. -/
def loadValid (sources : Sources) : Except Fault Value := do
  let config ← load sources
  validate config sources.room.telling
  .ok config

end Blueprint.Config
