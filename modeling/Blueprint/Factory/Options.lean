import Blueprint.Config.Settings
import Blueprint.Factory.Basic
import Blueprint.Strategy.Choice

/-!
# Options of factories

A factory is made from a name and options: its class, its parent, further names, traits, and a
default strategy. Unknown options are refused before anything is made of the others. A default
strategy is still possible, but warned about unless the configuration says otherwise.
-/
namespace Blueprint.Factory

/-- An option, missing if it is not given. -/
def option (options : Dict) (name : String) : Value := (options.lookup (Key.text name)).getD .null

/-- The names of options that do not exist, sorted. -/
def unknownOptions (options : Dict) : List String :=
  let known := fun key => Fault.optionNames.any fun name => Key.text name == key
  let unknown := options.keys.filter fun key => !known key
  (unknown.map Key.plain).mergeSort fun a b => decide (a ≤ b)

/-- The warning about a default strategy. -/
def strategyWarning (method : String) : String :=
  "default_strategy is deprecated. Set a finalizer if you need to prevent a call to " ++
    method ++ "()."

/-- `Factory._assert_valid_options` — checks the options, and tells the warning that they give rise
to. -/
def checkOptions (settings : Settings) (options : Dict) : Except Fault (Option String) := do
  let unknown := unknownOptions options
  if !unknown.isEmpty then .error (.unknownOptions unknown)
  else
    let strategy := option options "default_strategy"
    if strategy.truthy then
      let _ ← Strategy.ofValue strategy
      if ← settings.warnDefaultStrategy then
        .ok (some (strategyWarning (← settings.persistMethod)))
      else .ok none
    else .ok none

/-- The canonical names in an option that holds several. -/
def namesIn (options : Dict) (name : String) : Except Fault (List String) := do
  .ok ((← (option options name).itemsIfTrue).map Name.ofValue)

/-- `Factory.__init__` — the factory that checked options describe. -/
def ofOptions (settings : Settings) (name : Value) (options : Dict) : Except Fault Factory := do
  let parent := option options "parent"
  let aliases ← namesIn options "aliases"
  let traitRefs ← namesIn options "traits"
  let chosen := option options "default_strategy"
  let strategy ← if chosen.truthy then some <$> Strategy.ofValue chosen else .ok none
  let overridable ← settings.allowOverrides
  .ok
    { name := Name.ofValue name
      parentRef := if parent.truthy then some (Name.ofValue parent) else none
      aliases := aliases
      traitRefs := traitRefs
      identifier := option options "class"
      strategy := strategy
      definition := { overridable := overridable } }

/-- `Registry.define_factory` — its first step: options with further ones given by name, where
`class_` stands for `class`. What is no text is no name, and names that are taken otherwise are
refused. -/
def withNamed (options named : Dict) : Except Fault Dict :=
  let taken := ["self", "name", "options"]
  if !named.keys.all Key.isText || taken.any (fun name => named.has (Key.text name)) then
    .error .wrongType
  else
    let short := Key.text "class_"
    let named := match named.lookup short with
      | some value => (named.erase short).put (Key.text "class") value
      | none => named
    .ok (options.putAll named)

end Blueprint.Factory
