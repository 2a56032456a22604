import Blueprint.Proofs.Registry.Tables
import Mathlib.Logic.Function.Iterate

/-!
# Look-ups by canonical names

On its way to a look-up a name may be made canonical once or several times: a factory holds
canonical names, and what it holds is made canonical again when it is looked up. Because canonical
names are fixed points this makes no difference, so a registered factory is found by every value
that has one of its names, and what refers to a parent, a trait or the factory of an association is
as good as the value that it was made from.
-/
namespace Blueprint

/-! ### Canonical names -/

namespace Name

/-- Nothing in a name is left for canonical spelling to change. -/
structure IsSettled (name : String) : Prop where
  /-- It is its own canonical name. -/
  fixed : ofText name = name
  /-- No capital letter is in it. -/
  small : ∀ c ∈ name.toList, isCapital c = false
  /-- Neither a hyphen, nor a dot, nor white space is in it. -/
  joined : ∀ c ∈ name.toList, c ≠ '-' ∧ c ≠ '.' ∧ Text.isBlank c = false

/-- A canonical text is settled. -/
theorem IsCanonical.isSettled {name : String} (canonical : IsCanonical name.toList) :
    IsSettled name := by
  refine ⟨canonical.ofText_eq_self, fun c member => ?_, fun c member => ?_⟩
  · exact isCapital_of_isLower (canonical c member).1
  · have joined := (canonical c member).2
    simp only [isSeparator, Bool.or_eq_false_iff, beq_eq_false_iff_ne] at joined
    exact ⟨joined.1.1, joined.1.2, joined.2⟩

/-- A value spelled by its canonical name. -/
def respell (value : Value) : Value := .text (ofValue value)

/-- Canonical spelling does not change the name, however often it is repeated. -/
theorem ofValue_iterate_respell (times : Nat) (value : Value) :
    ofValue (respell^[times] value) = ofValue value := by
  induction times generalizing value with
  | zero => rfl
  | succ times ih =>
    rw [Function.iterate_succ_apply, ih]
    exact ofText_ofValue value

end Name

/-! ### Look-ups -/

namespace Registry

variable {registry : Registry} {id : FactoryId} {value other : Value}

/-- Two values are found to be the same thing wherever a name is looked up. -/
structure FindsAlike (registry : Registry) (value other : Value) : Prop where
  /-- They find the same factory, or none. -/
  factory : registry.find value = registry.find other
  /-- They find the same trait of the registry, or none. -/
  trait : registry.trait value = registry.trait other
  /-- They find the same trait for each factory, or none. -/
  traitOf : ∀ id, registry.traitOf id value = registry.traitOf id other

/-- Look-ups depend on canonical names only. -/
theorem findsAlike_of_name (same : Name.ofValue value = Name.ofValue other) :
    registry.FindsAlike value other := by
  refine ⟨?_, ?_, fun id => ?_⟩
  · rw [find, find, same]
  · rw [trait, trait, same]
  · rw [traitOf, traitOf, same]

end Registry

namespace Factory

variable {settings : Settings} {name : Value} {options : Dict} {factory : Factory}

/-- The traits of a factory are those that its options name. -/
theorem traitRefs_ofOptions (made : ofOptions settings name options = .ok factory) :
    ∃ items, (option options "traits").itemsIfTrue = .ok items ∧
      factory.traitRefs = items.map Name.ofValue := by
  obtain ⟨aliases, _, made⟩ := bind_eq_ok.1 made
  obtain ⟨traitRefs, given, made⟩ := bind_eq_ok.1 made
  obtain ⟨items, listed, same⟩ := bind_eq_ok.1 given
  refine ⟨items, listed, ?_⟩
  cases same
  simp only at made
  split at made
  · obtain ⟨strategy, _, made⟩ := bind_eq_ok.1 made
    obtain ⟨overridable, _, made⟩ := bind_eq_ok.1 made
    cases made
    rfl
  · obtain ⟨strategy, _, made⟩ := bind_eq_ok.1 made
    obtain ⟨overridable, _, made⟩ := bind_eq_ok.1 made
    cases made
    rfl

end Factory

open Registry

/-- Canonical names are fixed points without capitals and separators. So a value, and the value
spelled canonically any number of times, are the same in every look-up; what a factory keeps of the
options for its parent and its traits, and what a declaration keeps of the factory of an
association, are looked up as what was given; and in every registry that is reached, a registered
factory is found by every value that has one of its names. -/
theorem found_by_every_spelling :
    (∀ value, Name.IsSettled (Name.ofValue value)) ∧
    (∀ (registry : Registry) (value : Value) (times : Nat),
      registry.FindsAlike (Name.respell^[times] value) value) ∧
    (∀ (registry : Registry) {settings : Settings} {name : Value} {options : Dict}
      {factory : Factory}, Factory.ofOptions settings name options = .ok factory →
      (∀ ref, factory.parentRef = some ref →
        registry.FindsAlike (.text ref) (Factory.option options "parent")) ∧
      ∃ items, (Factory.option options "traits").itemsIfTrue = .ok items ∧
        List.Forall₂ (fun ref item => registry.FindsAlike (.text ref) item) factory.traitRefs items) ∧
    (∀ (registry : Registry) (name : Value) (ignored : Bool) (aliases : List Value)
      (target : String) (overrides : Dict) (strategy : Value), target ≠ "" →
      ∃ ref, (Declaration.make name ignored aliases
          (.association target overrides strategy)).content = .association ref overrides strategy ∧
        registry.FindsAlike (.text ref) (.text target)) ∧
    ∀ {history : History}, history.Reached → ∀ id ∈ history.registry.registered,
      ∃ factory, history.registry.factory? id = some factory ∧
        ∀ name ∈ factory.names, ∀ value, Name.ofValue value = name →
          ∀ times, history.registry.find (Name.respell^[times] value) = .ok id := by
  refine ⟨fun value => (Name.isCanonical_ofValue value).isSettled, ?_, ?_, ?_, ?_⟩
  · intro registry value times
    exact findsAlike_of_name (Name.ofValue_iterate_respell times value)
  · intro registry settings name options factory made
    refine ⟨fun ref refers => ?_, ?_⟩
    · have kept := (Factory.named_ofOptions made).2.2
      rw [kept] at refers
      split at refers
      · cases refers
        exact findsAlike_of_name (Name.ofText_ofValue _)
      · cases refers
    · obtain ⟨items, listed, same⟩ := Factory.traitRefs_ofOptions made
      refine ⟨items, listed, ?_⟩
      rw [same, List.forall₂_map_left_iff]
      exact List.forall₂_same.2 fun item _ => findsAlike_of_name (Name.ofText_ofValue item)
  · intro registry name ignored aliases target overrides strategy given
    have nonempty : target.isEmpty = false := by simpa using given
    refine ⟨Name.ofText target, ?_, findsAlike_of_name (Name.ofText_ofValue (.text target))⟩
    simp [Declaration.make, nonempty]
  · intro history reached id member
    obtain ⟨bound, there⟩ := exists_lookup_of_mem reached member
    obtain ⟨factory, found, _⟩ := reached.bound bound id there
    refine ⟨factory, found, fun name named value same times => ?_⟩
    rw [find_eq_ok, Name.ofValue_iterate_respell, same]
    exact reached.whole there found name named

/-- A user profile with a further name, a parent and a trait is found by both names in any spelling,
and its parent, its trait and an association with it are looked up as they were given. -/
theorem found_by_every_spelling_user :
    ∃ (history : History) (factory : Factory), history.Reached ∧
      history.registry.factory? 0 = some factory ∧
      history.registry.find (.text "UserProfile") = .ok 0 ∧
      history.registry.find (Name.respell^[2] (.text " admin-user ")) = .ok 0 ∧
      history.registry.FindsAlike (.text "base_record") (.text "BaseRecord") ∧
      history.registry.FindsAlike (.text "vip") (.text "VIP") ∧
      ∃ ref, history.registry.FindsAlike (.text ref) (.text "UserProfile") := by
  let options : Dict := [(.text "aliases", .list [.text "Admin.User"]),
    (.text "parent", .text "BaseRecord"), (.text "traits", .list [.text "VIP"])]
  let user := History.blank.define (.text "UserProfile") options
  have reached : user.Reached := History.reached_blank.define _ _
  have registered : 0 ∈ user.registry.registered := by decide +kernel
  obtain ⟨_, _, kept, declared, found⟩ := found_by_every_spelling
  obtain ⟨factory, known, byName⟩ := found reached 0 registered
  have names : (user.registry.factory? 0).map Factory.names =
      some ["user_profile", "admin_user"] := by decide +kernel
  rw [known, Option.map_some, Option.some.injEq] at names
  have own := byName "user_profile" (by simp [names]) (.text "UserProfile") (by decide +kernel) 0
  have further := byName "admin_user" (by simp [names]) (.text " admin-user ") (by decide +kernel) 2
  have described : (Factory.ofOptions ⟨.dict []⟩ (.text "UserProfile") options).toOption.map
      (fun made => (made.parentRef, made.traitRefs)) = some (some "base_record", ["vip"]) := by
    decide +kernel
  obtain ⟨made, given, refs⟩ := Option.map_eq_some_iff.1 described
  obtain ⟨parentRef, traitRefs⟩ := Prod.mk.inj refs
  obtain ⟨parent, items, listed, traits⟩ := kept user.registry (eq_ok_of_toOption given)
  cases listed
  rw [traitRefs] at traits
  obtain ⟨ref, _, target⟩ :=
    declared user.registry (.text "owner") false [] "UserProfile" [] .null (by decide)
  exact ⟨user, factory, reached, known, own, further, parent _ parentRef,
    (List.forall₂_cons.1 traits).1, ref, target⟩

end Blueprint
