import Blueprint.Config.Bundle
import Blueprint.Proofs.Outcome
import Blueprint.Proofs.Value.Path

/-!
# What a schema accepts

A value is accepted by rules if it breaks none of them. The rules of the bundled schema are taken
apart here: what is accepted as a record is a map with no other members than those of the record,
each of which is accepted by the rules of its own.
-/
namespace Blueprint.Config

/-- A value breaks none of the rules. -/
def Accepts (rules : Schema) (value : Value) : Prop := checkRules rules rules value = []

/-- A sorted list is empty just if the list is. -/
theorem mergeSort_eq_nil_iff {α : Type} {le : α → α → Bool} {items : List α} :
    items.mergeSort le = [] ↔ items = [] := by
  rw [← List.length_eq_zero_iff, List.length_mergeSort, List.length_eq_zero_iff]

/-- A configuration is valid just if it is accepted by the schema of configurations, whatever room
there is for telling violations. -/
theorem validate_eq_ok_iff {config : Value} {room : List Step → Nat} :
    validate config room = .ok () ↔ Accepts schema config := by
  unfold validate
  constructor
  · intro valid
    cases told : (violations schema config).mapM (Violation.told room) with
    | error obstacle =>
      rw [told] at valid
      cases valid
    | ok messages =>
      rw [told] at valid
      dsimp only at valid
      split at valid
      · rename_i nothing
        obtain rfl : messages = [] := mergeSort_eq_nil_iff.1 nothing
        exact List.forall₂_nil_right_iff.1 (mapM_eq_ok.1 told)
      · cases valid
  · intro accepted
    rw [show violations schema config = [] from accepted]
    simp [pure, Except.pure, byPath]

/-- Rules are kept one by one. -/
theorem checkRules_eq_nil_iff {rules todo : Schema} {value : Value} :
    checkRules rules todo value = [] ↔ ∀ rule ∈ todo, rule.check rules value = [] := by
  induction todo with
  | nil => simp [checkRules]
  | cons rule rest ih => rw [checkRules, List.append_eq_nil_iff, ih, List.forall_mem_cons]

/-- Members of a map keep the rules of their own. -/
theorem checkMembers_eq_nil_iff {members : List (String × List Rule)} {entries : Dict} :
    checkMembers members entries = [] ↔ ∀ member ∈ members, ∀ value,
      entries.lookup (Key.text member.1) = some value → Accepts member.2 value := by
  induction members with
  | nil => simp [checkMembers]
  | cons member rest ih =>
    obtain ⟨name, inner⟩ := member
    rw [checkMembers, List.append_eq_nil_iff, ih, List.forall_mem_cons]
    refine and_congr_left fun _ => ?_
    cases entries.lookup (Key.text name) with
    | none => simp
    | some value => simp [Accepts]

/-- A map has no keys but those of the rules. -/
theorem extraKeys_eq_nil_iff {rules : Schema} {entries : Dict} :
    extraKeys rules entries = [] ↔
      ∀ key ∈ Table.keys entries, ∃ name ∈ memberNames rules, (Key.text name == key) = true := by
  rw [extraKeys, mergeSort_eq_nil_iff, List.filter_eq_nil_iff]
  simp

/-- What a rule among others asks of a value. -/
def Rule.Holds (rules : Schema) (rule : Rule) (value : Value) : Prop :=
  match rule with
  | .type name => name.holds value = true
  | .closed => ∀ entries, value = .dict entries →
      ∀ key ∈ Table.keys entries, ∃ name ∈ memberNames rules, (Key.text name == key) = true
  | .required names => ∀ entries, value = .dict entries →
      ∀ name ∈ names, ∃ inner, entries.lookup (Key.text name) = some inner
  | .properties members => ∀ entries, value = .dict entries → ∀ member ∈ members, ∀ inner,
      entries.lookup (Key.text member.1) = some inner → Accepts member.2 inner
  | .items inner => ∀ items, value = .list items → ∀ item ∈ items, Accepts inner item
  | .enum choices => ∃ s ∈ choices, textOf? value = some s
  | .nonEmpty => textOf? value ≠ some ""
  | .minimum bound => belowBound bound value = false

/-- A value that breaks no rule is as the rule asks. -/
theorem Rule.holds_of_check {rules : Schema} {rule : Rule} {value : Value}
    (kept : rule.check rules value = []) : rule.Holds rules value := by
  cases rule with
  | type name =>
    rw [Rule.check] at kept
    show name.holds value = true
    by_contra other
    rw [if_neg other] at kept
    cases kept
  | closed =>
    rintro entries rfl
    rw [Rule.check] at kept
    refine extraKeys_eq_nil_iff.1 ?_
    cases extra : extraKeys rules entries with
    | nil => rfl
    | cons first rest =>
      rw [extra] at kept
      cases kept
  | required names =>
    rintro entries rfl name inside
    rw [Rule.check, List.filterMap_eq_nil_iff] at kept
    have there := kept name inside
    by_cases has : Table.has entries (Key.text name) = true
    · exact Option.isSome_iff_exists.1 has
    · rw [if_neg has] at there
      cases there
  | properties members =>
    rintro entries rfl
    rw [Rule.check] at kept
    exact checkMembers_eq_nil_iff.1 kept
  | items inner =>
    rintro items rfl item inside
    rw [Rule.check, List.flatMap_eq_nil_iff] at kept
    rw [← List.zipIdx_map_fst 0 items] at inside
    obtain ⟨⟨found, n⟩, place, rfl⟩ := List.mem_map.1 inside
    exact List.map_eq_nil_iff.1 (kept (found, n) place)
  | enum choices =>
    rw [Rule.check] at kept
    cases its : textOf? value with
    | none =>
      rw [its] at kept
      cases kept
    | some s =>
      rw [its] at kept
      by_cases among : choices.contains s = true
      · exact ⟨s, List.contains_iff_mem.1 among, its⟩
      · simp only [if_neg among] at kept
        cases kept
  | nonEmpty =>
    intro empty
    rw [Rule.check, empty] at kept
    cases kept
  | minimum bound =>
    rw [Rule.check] at kept
    show belowBound bound value = false
    by_contra below
    rw [if_pos (Bool.not_eq_false _ ▸ below)] at kept
    cases kept

section Accepts

variable {rules : Schema} {value : Value} {entries : Dict}

/-- An accepted value is as each of the rules asks. -/
theorem Accepts.holds (accepted : Accepts rules value) {rule : Rule} (member : rule ∈ rules) :
    rule.Holds rules value := Rule.holds_of_check (checkRules_eq_nil_iff.1 accepted rule member)

/-- An accepted value has the type that is asked for. -/
theorem Accepts.type (accepted : Accepts rules value) {name : TypeName}
    (member : Rule.type name ∈ rules) : name.holds value = true := accepted.holds member

/-- An accepted value is one of the texts that are asked for. -/
theorem Accepts.enum (accepted : Accepts rules value) {choices : List String}
    (member : Rule.enum choices ∈ rules) : ∃ s ∈ choices, textOf? value = some s :=
  accepted.holds member

/-- An accepted value is no empty text if none is asked for. -/
theorem Accepts.nonEmpty (accepted : Accepts rules value) (member : Rule.nonEmpty ∈ rules) :
    textOf? value ≠ some "" := accepted.holds member

/-- An accepted value is not below the bound. -/
theorem Accepts.minimum (accepted : Accepts rules value) {bound : Nat}
    (member : Rule.minimum bound ∈ rules) : belowBound bound value = false := accepted.holds member

/-- The items of an accepted list are accepted. -/
theorem Accepts.items {inner : Schema} {items : List Value}
    (accepted : Accepts rules (.list items)) (member : Rule.items inner ∈ rules) :
    ∀ item ∈ items, Accepts inner item := accepted.holds member items rfl

/-- An accepted map has the members that are required. -/
theorem Accepts.required (accepted : Accepts rules (.dict entries)) {names : List String}
    (member : Rule.required names ∈ rules) :
    ∀ name ∈ names, ∃ inner, entries.lookup (Key.text name) = some inner :=
  accepted.holds member entries rfl

/-- Members of an accepted map are accepted. -/
theorem Accepts.properties (accepted : Accepts rules (.dict entries))
    {members : List (String × Schema)} (inside : Rule.properties members ∈ rules) :
    ∀ member ∈ members, ∀ inner,
      entries.lookup (Key.text member.1) = some inner → Accepts member.2 inner :=
  accepted.holds inside entries rfl

/-- An accepted map that is closed has no other members than those of its rules. -/
theorem Accepts.closed (accepted : Accepts rules (.dict entries)) (inside : Rule.closed ∈ rules)
    {name : String} (found : entries.lookup (Key.text name) = some value) :
    name ∈ memberNames rules := by
  obtain ⟨key, same, member⟩ := Table.exists_mem_of_lookup found
  obtain ⟨other, listed, alike⟩ :=
    accepted.holds inside entries rfl key (List.mem_map_of_mem member)
  have equal : (Key.text name).identity = (Key.text other).identity :=
    (Key.beq_iff.1 same).trans (Key.beq_iff.1 alike).symm
  obtain rfl : name = other := by simpa [Key.identity] using equal
  exact listed

end Accepts

/-! ### Records -/

/-- What is accepted as a record is a map. -/
theorem exists_entries_of_record {members : List (String × Schema)} {value : Value}
    (accepted : Accepts (record members) value) : ∃ entries, value = .dict entries := by
  have object := accepted.type (show Rule.type .object ∈ record members from List.mem_cons_self)
  cases value with
  | dict entries => exact ⟨entries, rfl⟩
  | _ => cases object

/-- What stands in a record below one of its members is accepted by the rules of the member, or
stands in what is. -/
theorem exists_member_of_record {members : List (String × Schema)} {whole : Value}
    (accepted : Accepts (record members) whole) {name : String} {rules : Schema}
    (listed : members.lookup name = some rules) {path : List Key} {value : Value}
    (leads : whole.at? (.text name :: path) = some value) :
    ∃ inner, Accepts rules inner ∧ inner.at? path = some value := by
  obtain ⟨entries, rfl⟩ := exists_entries_of_record accepted
  rw [Value.at?_dict_cons] at leads
  obtain ⟨inner, found, further⟩ := Option.bind_eq_some_iff.1 leads
  have properties : Rule.properties members ∈ record members := by simp [record]
  obtain ⟨other, same, member⟩ := Table.exists_mem_of_lookup listed
  obtain rfl : name = other := eq_of_beq same
  exact ⟨inner, accepted.properties properties (name, rules) member inner found, further⟩

/-- A member of a record is accepted by its rules. -/
theorem accepts_of_record {members : List (String × Schema)} {whole : Value}
    (accepted : Accepts (record members) whole) {name : String} {rules : Schema}
    (listed : members.lookup name = some rules) {value : Value}
    (found : whole.at? [.text name] = some value) : Accepts rules value := by
  obtain ⟨inner, kept, same⟩ := exists_member_of_record accepted listed found
  rw [Value.at?_nil] at same
  exact Option.some.inj same ▸ kept

/-- A member of a record in a record is accepted by its rules. -/
theorem accepts_of_records {members inner : List (String × Schema)} {whole : Value}
    (accepted : Accepts (record members) whole) {name key : String} {rules : Schema}
    (listed : members.lookup name = some (record inner)) (below : inner.lookup key = some rules)
    {value : Value}
    (found : whole.at? [.text name, .text key] = some value) : Accepts rules value := by
  obtain ⟨part, kept, further⟩ := exists_member_of_record accepted listed found
  exact accepts_of_record kept below further

/-- What stands below a record in a record is accepted by its rules. -/
theorem accepts_of_innermost {members inner innermost : List (String × Schema)} {whole : Value}
    (accepted : Accepts (record members) whole) {name part key : String} {rules : Schema}
    (listed : members.lookup name = some (record inner))
    (below : inner.lookup part = some (record innermost))
    (last : innermost.lookup key = some rules) {value : Value}
    (found : whole.at? [.text name, .text part, .text key] = some value) :
    Accepts rules value := by
  obtain ⟨middle, kept, further⟩ := exists_member_of_record accepted listed found
  exact accepts_of_records kept below last further

end Blueprint.Config
