import Blueprint.Config.Settings
import Blueprint.Proofs.Config.Acceptance
import Blueprint.Proofs.Outcome
import Blueprint.Strategy.Choice

/-!
# The settings of valid configurations

The settings are read from a configuration without looking at the schema. Of a configuration that
the schema accepts they can all be read, and each is what the configuration says, or its default.
-/
namespace Blueprint

namespace Settings

/-! ### Sections and their members -/

/-- A map is read as it is. -/
theorem ofValue_dict (entries : Dict) : ofValue (.dict entries) = ⟨.dict entries⟩ := by
  cases entries <;> rfl

/-- A value is a map or missing. -/
def IsSection (value : Option Value) : Prop :=
  ∀ part, value = some part → ∃ entries, part = .dict entries

/-- A map, or nothing, is read as its entries. -/
theorem orEmpty_eq {value : Option Value} (map : IsSection value) :
    orEmpty value = .dict (Value.entriesOf value) := by
  cases value with
  | none => rfl
  | some part =>
    obtain ⟨entries, rfl⟩ := map part rfl
    cases entries <;> rfl

variable {entries : Dict} {name part : String}

/-- A section that is a map or missing is read as its entries. -/
theorem section?_eq (map : IsSection ((Value.dict entries).at? [.text name])) :
    (ofValue (.dict entries)).section? name =
      .ok (.dict (Value.entriesOf ((Value.dict entries).at? [.text name]))) := by
  rw [ofValue_dict]
  simp only [section?, member, ← Value.at?_dict_singleton]
  exact congrArg Except.ok (orEmpty_eq map)

/-- A member of a section is what stands below the section. -/
theorem entry_eq (map : IsSection ((Value.dict entries).at? [.text name])) (key : String) :
    (ofValue (.dict entries)).entry name key =
      .ok ((Value.dict entries).at? [.text name, .text key]) := by
  rw [entry, section?_eq map]
  exact congrArg Except.ok (Value.lookup_entriesOf_at? _ [.text name] _)

/-- A member of a part of a section is what stands below the part. -/
theorem innerEntry_eq (map : IsSection ((Value.dict entries).at? [.text name]))
    (inner : IsSection ((Value.dict entries).at? [.text name, .text part])) (key : String) :
    (ofValue (.dict entries)).innerEntry name part key =
      .ok ((Value.dict entries).at? [.text name, .text part, .text key]) := by
  rw [innerEntry, entry_eq map]
  simp only [bind, Except.bind, orEmpty_eq inner]
  exact congrArg Except.ok (Value.lookup_entriesOf_at? _ [.text name, .text part] _)

/-! ### What the schema asks of the members -/

/-- A section that the schema describes as a record is a map or missing. -/
theorem isSection_of_record {members inner : List (String × Config.Schema)} {whole : Value}
    (accepted : Config.Accepts (Config.record members) whole)
    (listed : members.lookup name = some (Config.record inner)) : IsSection (whole.at? [.text name]) :=
  fun _ found => Config.exists_entries_of_record (Config.accepts_of_record accepted listed found)

/-- The same of a part of a section. -/
theorem isSection_of_records {members inner rules : List (String × Config.Schema)} {whole : Value}
    (accepted : Config.Accepts (Config.record members) whole)
    (listed : members.lookup name = some (Config.record inner))
    (below : inner.lookup part = some (Config.record rules)) :
    IsSection (whole.at? [.text name, .text part]) := by
  intro value found
  obtain ⟨middle, kept, further⟩ := Config.exists_member_of_record accepted listed found
  exact isSection_of_record kept below value further

/-- A text, or a strategy in place of one, that is not empty has a plain text that is not empty. -/
theorem plain_ne_empty {value : Value} {s : String} (its : Config.textOf? value = some s)
    (some_ : s ≠ "") : value.plain ≠ "" := by
  cases value with
  | text other =>
    cases its
    exact some_
  | strategy way => cases way <;> decide
  | _ => cases its

/-- A truth value is read as it is. -/
theorem eq_bool_of_holds {value : Value} (truth : Config.TypeName.boolean.holds value = true)
    {default : Bool} : value = .bool (truthOr default (some value)) := by
  cases value with
  | bool b => rfl
  | _ => cases truth

/-- The plain text of a strategy is not the tag of any. -/
theorem plain_ne_tag (way other : Strategy) : (Value.strategy way).plain ≠ other.tag := by
  cases way <;> cases other <;> decide

/-- A number without a fraction is its integer part. -/
theorem truncate?_of_integer? {x : Binary64} {n : Int} (whole : x.integer? = some n) :
    x.truncate? = some n := by
  cases x with
  | finite negative mantissa exponent =>
    simp only [Binary64.integer?] at whole
    split at whole
    · exact whole
    · cases whole
  | nan | infinite => cases whole

/-- A number without a fraction that is not below zero is an integer that is not negative; the zero
with a sign is zero. -/
theorem nonneg_of_integer? {x : Binary64} {n : Int} (whole : x.integer? = some n)
    (least : Config.belowBound 0 (.float x) = false) : 0 ≤ n := by
  cases x with
  | finite negative mantissa exponent =>
    simp only [Binary64.integer?] at whole
    split at whole
    · cases negative with
      | false =>
        obtain rfl := Option.some.inj whole
        exact Int.natCast_nonneg _
      | true =>
        have zero : mantissa = 0 := by simpa [Config.belowBound] using least
        have none_ : (Binary64.magnitude mantissa exponent).1 = 0 := by
          unfold Binary64.magnitude
          split <;> simp [zero]
        obtain rfl := Option.some.inj whole
        simp [none_]
    · cases whole
  | nan | infinite => cases whole

/-- A number without a fraction that is not below zero is read as an integer that is not
negative. -/
theorem integerOf_eq_ok {value : Value} (whole : Config.TypeName.integer.holds value = true)
    (least : Config.belowBound 0 value = false) :
    ∃ n, integerOf value = .ok n ∧ 0 ≤ n ∧
      (value = .int n ∨ ∃ x, value = .float x ∧ x.integer? = some n) := by
  cases value with
  | int n =>
    have bound : 0 ≤ n := by simpa [Config.belowBound] using least
    exact ⟨n, rfl, bound, .inl rfl⟩
  | float x =>
    obtain ⟨n, its⟩ := Option.isSome_iff_exists.1 whole
    refine ⟨n, ?_, nonneg_of_integer? its least, .inr ⟨x, rfl, its⟩⟩
    cases x with
    | finite => simp only [integerOf, truncate?_of_integer? its]
    | nan | infinite => cases its
  | _ => cases whole

/-- A value reads as a text: it is the text, or a strategy shown as one. -/
def ReadsAs (value : Option Value) (text : String) : Prop :=
  ∃ found, value = some found ∧ (Config.textOf? found).isSome = true ∧ found.plain = text

/-- A pattern that the schema accepts is read as the two texts that it gives. -/
theorem exists_aliasSource {members : List (String × Config.Schema)} {names : List String}
    {item : Value}
    (accepted : Config.Accepts [.type .object, .closed, .required names, .properties members] item)
    (needed : ∀ name ∈ ["match", "replace"],
      name ∈ names ∧ ((name, [.type .string]) : String × Config.Schema) ∈ members) :
    ∃ source, aliasSource item = .ok source ∧ ReadsAs (item.at? [.text "match"]) source.pattern ∧
      ReadsAs (item.at? [.text "replace"]) source.template := by
  have object : Config.TypeName.object.holds item = true := accepted.type List.mem_cons_self
  cases item with
  | dict entries =>
    have read : ∀ name ∈ ["match", "replace"], ∃ value, entries.lookup (Key.text name) = some value ∧
        (Config.textOf? value).isSome = true := by
      intro name member
      obtain ⟨required, listed⟩ := needed name member
      obtain ⟨value, found⟩ := accepted.required (by simp) name required
      have kept : Config.Accepts [.type .string] value :=
        accepted.properties (by simp) (name, [.type .string]) listed value found
      exact ⟨value, found, kept.type List.mem_cons_self⟩
    obtain ⟨first, found, text⟩ := read "match" (by simp)
    obtain ⟨second, found', text'⟩ := read "replace" (by simp)
    refine ⟨⟨first.plain, second.plain⟩, ?_, ⟨first, ?_, text, rfl⟩, ⟨second, ?_, text', rfl⟩⟩
    · simp only [aliasSource, memberText, found, found']
      rfl
    · rw [Value.at?_dict_singleton, found]
    · rw [Value.at?_dict_singleton, found']
  | _ => cases object

/-! ### All settings of a valid configuration -/

/-- Where the default strategy stands. -/
def strategyPath : List Key := [.text "factories", .text "default_strategy"]

/-- Where it stands whether attributes may be declared again. -/
def overridesPath : List Key := [.text "factories", .text "allow_overrides"]

/-- Where the method that saves an instance stands. -/
def persistPath : List Key := [.text "strategies", .text "create", .text "persist_method"]

/-- Where the first id of stubbed instances stands. -/
def stubPath : List Key := [.text "strategies", .text "stub", .text "id_start"]

/-- Where the patterns of override keys stand. -/
def patternsPath : List Key := [.text "aliases", .text "patterns"]

/-- Where it stands whether a default strategy is warned about. -/
def warningPath : List Key := [.text "deprecations", .text "warn_default_strategy"]

/-- Where the level of log records stands. -/
def levelPath : List Key := [.text "logging", .text "level"]

/-- All settings can be read from a configuration, each in its range, and each as the configuration
gives it if it does. -/
structure Usable (config : Value) : Prop where
  /-- Each section is a map, and so is the whole. -/
  sections : (∃ entries, config = .dict entries ∧ (ofValue config).asDict = .ok entries) ∧
    ∀ name, ∃ inner, (ofValue config).section? name = .ok (.dict inner)
  /-- The default strategy is the plain text of the one that is given, or else a tag. It is the tag
  of a strategy, and names it, unless a strategy itself is given in place of a text. -/
  strategy : ∃ text, (ofValue config).defaultStrategy = .ok text ∧
    (∀ value, config.at? strategyPath = some value → text = value.plain) ∧
    ((∃ way : Strategy, text = way.tag ∧ Strategy.ofValue (.text text) = .ok way) ↔
      ∀ way, config.at? strategyPath ≠ some (.strategy way))
  /-- Whether attributes may be declared again is what is given. -/
  overrides : ∃ b, (ofValue config).allowOverrides = .ok b ∧
    ∀ value, config.at? overridesPath = some value → value = .bool b
  /-- The method that saves an instance has a name. -/
  persist : ∃ text, (ofValue config).persistMethod = .ok text ∧ text ≠ "" ∧
    ∀ value, config.at? persistPath = some value → text = value.plain
  /-- The first id of stubbed instances is an integer that is not negative. -/
  stub : ∃ n, (ofValue config).stubIdStart = .ok n ∧ 0 ≤ n ∧
    ∀ value, config.at? stubPath = some value →
      value = .int n ∨ ∃ x, value = .float x ∧ x.integer? = some n
  /-- The patterns of override keys are those of the list that is given, in its order. -/
  patterns : ∃ sources, (ofValue config).aliasSources = .ok sources ∧
    (config.at? patternsPath = none → sources = []) ∧
    ∀ value, config.at? patternsPath = some value → ∃ items, value = .list items ∧
      List.Forall₂ (fun item source => ReadsAs (item.at? [.text "match"]) source.pattern ∧
        ReadsAs (item.at? [.text "replace"]) source.template) items sources
  /-- Whether a default strategy is warned about is what is given. -/
  warning : ∃ b, (ofValue config).warnDefaultStrategy = .ok b ∧
    ∀ value, config.at? warningPath = some value → value = .bool b
  /-- The level of log records is one that there is. -/
  level : ∃ text n, (ofValue config).logLevel = .ok text ∧ (ofValue config).level = .ok n

/-- A list is gone through by its items, even if it is empty. -/
theorem itemsIfTrue_list (items : List Value) : (Value.list items).itemsIfTrue = .ok items := by
  cases items <;> rfl

/-- A text in upper case. -/
def inUpperCase (text : String) : String := String.ofList (Text.upper text.toList)

/-- The words for levels that the schema admits. -/
def levelWords : List String := ["DEBUG", "INFO", "WARNING", "ERROR", "CRITICAL"]

/-- Each of these words is the name of a level. -/
theorem exists_level_of_mem {word : String} (member : word ∈ levelWords) :
    ∃ n, levels.lookup (inUpperCase word) = some n := by
  have named : ∀ word ∈ levelWords, (levels.lookup (inUpperCase word)).isSome = true := by
    decide +kernel
  exact Option.isSome_iff_exists.1 (named word member)

section Accepted

variable {config : Value} (accepted : Config.Accepts Config.schema config)

include accepted

/-- The default strategy of a valid configuration is the tag of one, unless a strategy itself stands
there. -/
theorem exists_defaultStrategy : ∃ text, (ofValue config).defaultStrategy = .ok text ∧
    (∀ value, config.at? strategyPath = some value → text = value.plain) ∧
    ((∃ way : Strategy, text = way.tag ∧ Strategy.ofValue (.text text) = .ok way) ↔
      ∀ way, config.at? strategyPath ≠ some (.strategy way)) := by
  obtain ⟨entries, rfl⟩ := Config.exists_entries_of_record accepted
  have read : (ofValue (.dict entries)).defaultStrategy =
      .ok (textOr "create" ((Value.dict entries).at? strategyPath)) := by
    rw [defaultStrategy, entry_eq (isSection_of_record accepted rfl)]
    rfl
  refine ⟨_, read, fun value found => by rw [found]; rfl, ?_⟩
  cases found : (Value.dict entries).at? strategyPath with
  | none => exact ⟨fun _ way => nofun, fun _ => ⟨.create, rfl, Strategy.ofValue_tag .create⟩⟩
  | some value =>
    have kept := Config.accepts_of_records accepted rfl rfl found
    obtain ⟨s, choice, its⟩ := kept.enum (List.mem_cons_of_mem _ List.mem_cons_self)
    cases value with
    | text tag =>
      cases its
      obtain ⟨way, _, rfl⟩ := List.mem_map.1 (show s ∈ Strategy.all.map Strategy.tag from choice)
      exact ⟨fun _ way => nofun, fun _ => ⟨way, rfl, Strategy.ofValue_tag way⟩⟩
    | strategy way =>
      constructor
      · rintro ⟨other, same, _⟩
        exact absurd same (plain_ne_tag way other)
      · intro none_
        exact absurd rfl (none_ way)
    | _ => cases its

/-- Whether attributes may be declared again is read as it is given. -/
theorem exists_allowOverrides : ∃ b, (ofValue config).allowOverrides = .ok b ∧
    ∀ value, config.at? overridesPath = some value → value = .bool b := by
  obtain ⟨entries, rfl⟩ := Config.exists_entries_of_record accepted
  refine ⟨truthOr false ((Value.dict entries).at? overridesPath), ?_, fun value found => ?_⟩
  · rw [allowOverrides, entry_eq (isSection_of_record accepted rfl)]
    rfl
  · have kept := Config.accepts_of_records accepted rfl rfl found
    rw [found]
    exact eq_bool_of_holds (kept.type List.mem_cons_self)

/-- Whether a default strategy is warned about is read as it is given. -/
theorem exists_warnDefaultStrategy : ∃ b, (ofValue config).warnDefaultStrategy = .ok b ∧
    ∀ value, config.at? warningPath = some value → value = .bool b := by
  obtain ⟨entries, rfl⟩ := Config.exists_entries_of_record accepted
  refine ⟨truthOr true ((Value.dict entries).at? warningPath), ?_, fun value found => ?_⟩
  · rw [warnDefaultStrategy, entry_eq (isSection_of_record accepted rfl)]
    rfl
  · have kept := Config.accepts_of_records accepted rfl rfl found
    rw [found]
    exact eq_bool_of_holds (kept.type List.mem_cons_self)

/-- The method that saves an instance has a name, which is the one that is given. -/
theorem exists_persistMethod : ∃ text, (ofValue config).persistMethod = .ok text ∧ text ≠ "" ∧
    ∀ value, config.at? persistPath = some value → text = value.plain := by
  obtain ⟨entries, rfl⟩ := Config.exists_entries_of_record accepted
  have read : (ofValue (.dict entries)).persistMethod =
      .ok (textOr "save" ((Value.dict entries).at? persistPath)) := by
    rw [persistMethod,
      innerEntry_eq (isSection_of_record accepted rfl) (isSection_of_records accepted rfl rfl)]
    rfl
  refine ⟨_, read, ?_, fun value found => by rw [found]; rfl⟩
  cases found : (Value.dict entries).at? persistPath with
  | none =>
    show "save" ≠ ""
    decide
  | some value =>
    have kept := Config.accepts_of_innermost accepted rfl rfl rfl found
    obtain ⟨s, its⟩ := Option.isSome_iff_exists.1 (kept.type List.mem_cons_self)
    refine plain_ne_empty its fun empty => ?_
    subst empty
    exact kept.nonEmpty (List.mem_cons_of_mem _ List.mem_cons_self) its

/-- The first id of stubbed instances is an integer that is not negative, and the one that is
given. -/
theorem exists_stubIdStart : ∃ n, (ofValue config).stubIdStart = .ok n ∧ 0 ≤ n ∧
    ∀ value, config.at? stubPath = some value →
      value = .int n ∨ ∃ x, value = .float x ∧ x.integer? = some n := by
  obtain ⟨entries, rfl⟩ := Config.exists_entries_of_record accepted
  have read : (ofValue (.dict entries)).innerEntry "strategies" "stub" "id_start" =
      .ok ((Value.dict entries).at? stubPath) :=
    innerEntry_eq (isSection_of_record accepted rfl) (isSection_of_records accepted rfl rfl) _
  cases found : (Value.dict entries).at? stubPath with
  | none =>
    rw [found] at read
    refine ⟨1001, ?_, by decide, fun value => nofun⟩
    rw [stubIdStart, read]
    rfl
  | some value =>
    rw [found] at read
    have kept := Config.accepts_of_innermost accepted rfl rfl rfl found
    obtain ⟨n, its, least, given⟩ := integerOf_eq_ok (kept.type List.mem_cons_self)
      (kept.minimum (List.mem_cons_of_mem _ List.mem_cons_self))
    refine ⟨n, ?_, least, fun other same => ?_⟩
    · rw [stubIdStart, read]
      exact its
    · obtain rfl := Option.some.inj same
      exact given

/-- The patterns of override keys are those of the list that is given, in its order. -/
theorem exists_aliasSources : ∃ sources, (ofValue config).aliasSources = .ok sources ∧
    (config.at? patternsPath = none → sources = []) ∧
    ∀ value, config.at? patternsPath = some value → ∃ items, value = .list items ∧
      List.Forall₂ (fun item source => ReadsAs (item.at? [.text "match"]) source.pattern ∧
        ReadsAs (item.at? [.text "replace"]) source.template) items sources := by
  obtain ⟨entries, rfl⟩ := Config.exists_entries_of_record accepted
  have read : (ofValue (.dict entries)).entry "aliases" "patterns" =
      .ok ((Value.dict entries).at? patternsPath) := entry_eq (isSection_of_record accepted rfl) _
  cases found : (Value.dict entries).at? patternsPath with
  | none =>
    rw [found] at read
    refine ⟨[], ?_, fun _ => rfl, fun value => nofun⟩
    rw [aliasSources, read]
    rfl
  | some value =>
    rw [found] at read
    have kept := Config.accepts_of_records accepted rfl rfl found
    have array := kept.type List.mem_cons_self
    cases value with
    | list items =>
      have each : ∀ item ∈ items, ∃ source, aliasSource item = .ok source ∧
          ReadsAs (item.at? [.text "match"]) source.pattern ∧
            ReadsAs (item.at? [.text "replace"]) source.template := by
        intro item member
        exact exists_aliasSource
          (kept.items (List.mem_cons_of_mem _ List.mem_cons_self) item member) (by simp)
      cases made : items.mapM aliasSource with
      | error fault =>
        obtain ⟨item, member, fails⟩ := exists_of_mapM_eq_error made
        obtain ⟨source, done, _⟩ := each item member
        rw [done] at fails
        cases fails
      | ok sources =>
        refine ⟨sources, ?_, fun never => (nomatch never), fun other same => ⟨items, ?_, ?_⟩⟩
        · rw [aliasSources, read]
          simp only [bind, Except.bind, itemsIfTrue_list]
          exact made
        · exact (Option.some.inj same).symm
        · refine ((List.forall₂_and_left _ _).2 ⟨each, mapM_eq_ok.1 made⟩).imp ?_
          rintro item source ⟨⟨other, done, reads⟩, result⟩
          obtain rfl := Except.ok.inj (done.symm.trans result)
          exact reads
    | _ => cases array

/-- The level of log records is one that there is. -/
theorem exists_level :
    ∃ text n, (ofValue config).logLevel = .ok text ∧ (ofValue config).level = .ok n := by
  obtain ⟨entries, rfl⟩ := Config.exists_entries_of_record accepted
  have read : (ofValue (.dict entries)).logLevel =
      .ok (inUpperCase (textOr "WARNING" ((Value.dict entries).at? levelPath))) := by
    rw [logLevel, entry_eq (isSection_of_record accepted rfl)]
    rfl
  suffices known : textOr "WARNING" ((Value.dict entries).at? levelPath) ∈ levelWords by
    obtain ⟨n, its⟩ := exists_level_of_mem known
    refine ⟨_, n, read, ?_⟩
    rw [level, read]
    simp only [bind, Except.bind, its]
  cases found : (Value.dict entries).at? levelPath with
  | none => exact List.mem_cons_of_mem _ (List.mem_cons_of_mem _ List.mem_cons_self)
  | some value =>
    have kept := Config.accepts_of_records accepted rfl rfl found
    obtain ⟨s, choice, its⟩ := kept.enum (List.mem_cons_of_mem _ List.mem_cons_self)
    cases value with
    | text word =>
      cases its
      exact choice
    | strategy way =>
      cases its
      cases way <;> exact absurd choice (by decide)
    | _ => cases its

/-- Each section is read as a map; what the schema does not describe is not there. -/
theorem exists_section (name : String) :
    ∃ inner, (ofValue config).section? name = .ok (.dict inner) := by
  obtain ⟨entries, rfl⟩ := Config.exists_entries_of_record accepted
  refine ⟨_, section?_eq fun part found => ?_⟩
  have known : name ∈ Config.memberNames Config.schema := by
    rw [Value.at?_dict_singleton] at found
    exact accepted.closed (List.mem_cons_of_mem _ List.mem_cons_self) found
  have sections : Config.memberNames Config.schema =
      ["factories", "strategies", "aliases", "deprecations", "logging"] := rfl
  rw [sections] at known
  simp only [List.mem_cons, List.not_mem_nil, or_false] at known
  rcases known with rfl | rfl | rfl | rfl | rfl <;>
    exact isSection_of_record accepted rfl part found

end Accepted

/-- All settings can be read from a valid configuration. -/
theorem usable_of_valid {config : Value} (valid : Config.validate config = .ok ()) :
    Usable config := by
  have accepted := Config.validate_eq_ok_iff.1 valid
  exact {
    sections := ⟨by
      obtain ⟨entries, rfl⟩ := Config.exists_entries_of_record accepted
      refine ⟨entries, rfl, ?_⟩
      rw [ofValue_dict]
      rfl, exists_section accepted⟩
    strategy := exists_defaultStrategy accepted
    overrides := exists_allowOverrides accepted
    persist := exists_persistMethod accepted
    stub := exists_stubIdStart accepted
    patterns := exists_aliasSources accepted
    warning := exists_warnDefaultStrategy accepted
    level := exists_level accepted }

/-- A configuration that numbers stubbed instances from a number with a point, has two patterns, and
leaves out the rest. -/
def sparse : Value :=
  Config.mapOf
    [("strategies", Config.mapOf
        [("stub", Config.mapOf [("id_start", .float (.finite false 10 (-1)))])]),
      ("aliases", Config.mapOf
        [("patterns", .list [Config.patternEntry "(.+)_id" "\\1", Config.patternEntry "(.*)" "x"])])]

/-- All settings can be read from it. -/
theorem usable_of_valid_sparse : Config.validate sparse = .ok () ∧ Usable sparse :=
  have valid : Config.validate sparse = .ok () :=
    Config.validate_eq_ok_iff.2 (List.isEmpty_iff.1 (by decide +kernel))
  ⟨valid, usable_of_valid valid⟩

/-- A configuration in which a strategy itself stands in place of its tag. -/
def strategyItself : Value :=
  Config.mapOf [("factories", Config.mapOf [("default_strategy", .strategy .build)])]

/-- The schema accepts the strategy as a text, but it is read as a text that names no strategy. -/
theorem defaultStrategy_of_strategyItself :
    Config.validate strategyItself = .ok () ∧
      (ofValue strategyItself).defaultStrategy = .ok "Strategy.BUILD" ∧
        Strategy.isKnown (.text "Strategy.BUILD") = false :=
  ⟨Config.validate_eq_ok_iff.2 (List.isEmpty_iff.1 (by decide +kernel)), rfl, by decide +kernel⟩

end Settings

end Blueprint
