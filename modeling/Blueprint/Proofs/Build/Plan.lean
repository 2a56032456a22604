import Blueprint.Build.Plan
import Mathlib.Data.List.Nodup

/-!
# Laws of plans

A plan that is made without a fault goes through the attributes in order. Each key has one
destination: the first attribute for which it is meant, or none. The overrides sent to an attribute
are set when its turn comes, and if there are none the attribute gives its value; the overrides
without a destination are set last.
-/
namespace Blueprint.Plan

/-! ### Destinations -/

/-- A test is passed, without a fault. -/
def passes (test : String → Except Fault Bool) (key : String) : Bool :=
  match test key with
  | .ok chosen => chosen
  | .error _ => false

variable (aliases : String → Except Fault (List String)) (attributes rest : List Attribute)

/-- The name of the first attribute of `rest` for which a key is meant, if there is one. -/
def destination? (key : String) : Option String :=
  (rest.find? fun attr => passes (targets aliases attributes attr) key).map Attribute.name

/-- The overrides that have a destination. -/
def sentTo (destination : Option String) (overrides : List Override) : List Override :=
  overrides.filter fun pair => destination? aliases attributes rest pair.1 == destination

/-- What is done when the turn of an attribute comes, with the overrides sent to it. -/
def portion (attr : Attribute) (overrides : List Override) : List Action :=
  if overrides.isEmpty then [.evaluate attr] else assignAll attr.ignored overrides

variable {aliases attributes rest}

/-- A key goes to the first attribute if it is meant for it, and else to one of the others. -/
theorem destination?_cons (attr : Attribute) (key : String) :
    destination? aliases attributes (attr :: rest) key =
      if passes (targets aliases attributes attr) key then some attr.name
      else destination? aliases attributes rest key := by
  rw [destination?, List.find?_cons]
  cases passes (targets aliases attributes attr) key <;> rfl

/-- A destination is the name of an attribute. -/
theorem mem_of_destination? {key name : String}
    (sent : destination? aliases attributes rest key = some name) :
    name ∈ rest.map Attribute.name := by
  obtain ⟨attr, found, rfl⟩ := Option.map_eq_some_iff.1 sent
  exact List.mem_map_of_mem (List.mem_of_find?_eq_some found)

/-- A key that is a name of an attribute goes to the first one of which it is a name. -/
theorem destination?_of_owner? {key : String} {owner : Attribute}
    (owned : owner? attributes key = some owner) :
    destination? aliases attributes attributes key = some owner.name := by
  have test : (fun attr => passes (targets aliases attributes attr) key) =
      fun attr : Attribute => owner.name == attr.name := by
    funext attr
    simp only [passes, targets, owned]
  have member : owner ∈ attributes := List.mem_of_find?_eq_some owned
  rw [destination?, test]
  cases found : attributes.find? fun attr : Attribute => owner.name == attr.name with
  | none =>
    have absent := List.find?_eq_none.1 found owner member
    exact absurd (beq_self_eq_true owner.name) absent
  | some attr =>
    have same : owner.name = attr.name := by simpa using List.find?_some found
    rw [Option.map_some, same]

/-! ### Actions -/

/-- Overrides are split into those that pass a test and those that do not. -/
theorem split_eq_ok {test : String → Except Fault Bool} {pending matched others : List Override}
    (done : split test pending = .ok (matched, others)) :
    matched = pending.filter (fun pair => passes test pair.1) ∧
      others = pending.filter fun pair => !passes test pair.1 := by
  induction pending generalizing matched others with
  | nil =>
    cases done
    exact ⟨rfl, rfl⟩
  | cons pair rest ih =>
    rw [split] at done
    cases tested : test pair.1 with
    | error fault =>
      rw [tested] at done
      cases done
    | ok chosen =>
      rw [tested] at done
      cases parts : split test rest with
      | error fault =>
        rw [parts] at done
        cases done
      | ok both =>
        obtain ⟨left, right⟩ := both
        obtain ⟨isLeft, isRight⟩ := ih parts
        rw [parts] at done
        have passed : passes test pair.1 = chosen := by rw [passes, tested]
        cases chosen with
        | true =>
          cases done
          simp [passed, ← isLeft, ← isRight]
        | false =>
          cases done
          simp [passed, ← isLeft, ← isRight]

/-- The overrides sent to the first attribute are those meant for it. -/
theorem sentTo_cons_self {attr : Attribute} (fresh : attr.name ∉ rest.map Attribute.name)
    (overrides : List Override) :
    sentTo aliases attributes (attr :: rest) (some attr.name) overrides =
      overrides.filter fun pair => passes (targets aliases attributes attr) pair.1 := by
  refine List.filter_congr fun pair _ => ?_
  rw [destination?_cons]
  cases passed : passes (targets aliases attributes attr) pair.1 with
  | true => simp
  | false =>
    have elsewhere : destination? aliases attributes rest pair.1 ≠ some attr.name :=
      fun sent => fresh (mem_of_destination? sent)
    simpa using elsewhere

/-- The overrides sent anywhere else are those of the others that are sent there. -/
theorem sentTo_cons_of_ne {attr : Attribute} {destination : Option String}
    (apart : destination ≠ some attr.name) (overrides : List Override) :
    sentTo aliases attributes (attr :: rest) destination overrides =
      sentTo aliases attributes rest destination
        (overrides.filter fun pair => !passes (targets aliases attributes attr) pair.1) := by
  rw [sentTo, sentTo, List.filter_filter]
  refine List.filter_congr fun pair _ => ?_
  rw [destination?_cons]
  cases passed : passes (targets aliases attributes attr) pair.1 with
  | true => simpa using Ne.symm apart
  | false => simp

/-- What is done from an attribute on is its portion and what is done for the others. -/
theorem distribute_cons {attr : Attribute} {pending matched others : List Override}
    (parts : split (targets aliases attributes attr) pending = .ok (matched, others)) :
    distribute aliases attributes (attr :: rest) pending =
      (distribute aliases attributes rest others).prepend (portion attr matched) := by
  rw [distribute, parts]
  cases matched with
  | cons pair matched => rfl
  | nil =>
    -- nothing is taken out of what is pending
    obtain ⟨none_, rest_⟩ := split_eq_ok parts
    have all : others = pending := by
      rw [rest_, List.filter_eq_self]
      intro pair member
      simpa using List.filter_eq_nil_iff.1 none_.symm pair member
    rw [all]
    rfl

/-- A plan without a fault does for each attribute what is due with the overrides sent to it, and
sets the overrides without a destination last. -/
theorem actions_distribute (distinct : (rest.map Attribute.name).Nodup) {pending : List Override}
    (whole : (distribute aliases attributes rest pending).fault = none) :
    (distribute aliases attributes rest pending).actions =
      (rest.flatMap fun attr =>
        portion attr (sentTo aliases attributes rest (some attr.name) pending)) ++
      assignAll false (sentTo aliases attributes rest none pending) := by
  induction rest generalizing pending with
  | nil => simp [distribute, sentTo, destination?]
  | cons attr rest ih =>
    obtain ⟨fresh, later⟩ := List.nodup_cons.1 (List.map_cons ▸ distinct)
    cases parts : split (targets aliases attributes attr) pending with
    | error fault =>
      rw [distribute, parts] at whole
      cases whole
    | ok both =>
      obtain ⟨matched, others⟩ := both
      obtain ⟨isMatched, isOthers⟩ := split_eq_ok parts
      rw [distribute_cons parts] at whole ⊢
      have own : sentTo aliases attributes (attr :: rest) (some attr.name) pending = matched := by
        rw [isMatched]
        exact sentTo_cons_self fresh pending
      have elsewhere : ∀ destination, destination ≠ some attr.name →
          sentTo aliases attributes (attr :: rest) destination pending =
            sentTo aliases attributes rest destination others := by
        intro destination apart
        rw [isOthers]
        exact sentTo_cons_of_ne apart pending
      have onward : (distribute aliases attributes rest others).fault = none := whole
      have portions : rest.flatMap (fun other => portion other
            (sentTo aliases attributes (attr :: rest) (some other.name) pending)) =
          rest.flatMap fun other => portion other
            (sentTo aliases attributes rest (some other.name) others) := by
        refine List.flatMap_congr fun other member => ?_
        have apart : some other.name ≠ some attr.name := by
          intro same
          exact fresh (Option.some.inj same ▸ List.mem_map_of_mem member)
        rw [elsewhere _ apart]
      rw [List.flatMap_cons, own, portions, elsewhere none (by simp), List.append_assoc,
        ← ih later onward]
      rfl

end Blueprint.Plan
