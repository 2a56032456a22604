import Blueprint.Proofs.Factory.Expand
import Blueprint.Proofs.Registry.Rooted
import Blueprint.Proofs.Registry.Sealed
import Blueprint.Proofs.Registry.Stability
import Blueprint.Proofs.Registry.TraitSearch

/-!
# What sealing certifies

Once a registry is sealed, every registered factory has its model class, and it and all factories
above it are compiled. Sealing does not look at the traits to which they refer. So the attributes of
a factory are given later exactly if each of these traits could be found and expanded when the
registry was sealed.
-/
namespace Blueprint

open Relation

namespace Registry

variable {history later : History} {registry after : Registry} {id above : FactoryId}
  {factory : Factory} {own name ref : String} {fault : Fault} {list : AttributeList}

/-! ### Traits that are not found -/

/-- The search for a trait goes up from a factory to one without a parent, and the trait is neither
defined on the way nor registered. -/
def Lacks (registry : Registry) (id : FactoryId) (name : String) : Prop :=
  ∃ last factory, ReflTransGen (registry.Seeks name) id last ∧
    registry.factory? last = some factory ∧ factory.trait? name = none ∧
      factory.parentName? = none ∧ registry.traits.lookup name = none

/-- For a compiled factory the search for a trait fails only because the trait is nowhere. -/
theorem traitOf_eq_error (reached : history.Reached)
    (registered : history.registry.findText own = .ok id) (finished : history.registry.Finished id)
    (name : Value) : history.registry.traitOf id name = .error fault ↔
      fault = .notFound .trait (Name.ofValue name) ∧
        history.registry.Lacks id (Name.ofValue name) := by
  have canonicalName := Name.ofText_ofValue name
  have enough : history.registry.factories.length <
      2 * history.registry.factories.length + 2 := by omega
  constructor
  · intro failed
    obtain ⟨last, ends⟩ :=
      finished.endsAt reached fun factory => factory.trait? (Name.ofValue name) = none
    obtain ⟨factory, found, told⟩ := answers_of_endsAt reached registered canonicalName ends enough
    rw [show history.registry.seekTrait _ _ [] id = .error fault from failed] at told
    cases told with
    | missing absent orphan unknown =>
      exact ⟨rfl, last, factory, ends.1, found, absent, orphan, unknown⟩
    | dangling absent named unknown =>
      -- the last factory is compiled, so that its parent is registered
      obtain ⟨its, list, known, compiled⟩ := finished.of_walk reached ends.1
      rw [found] at known
      cases known
      obtain ⟨_, _, _, _, bound, _⟩ := (reached.linked found).exists_parent compiled named
      rw [findText_eq_ok, (reached.canonical found).parentName? named, unknown] at bound
      cases bound
  · rintro ⟨rfl, last, factory, walk, found, absent, orphan, unknown⟩
    obtain ⟨its, known, told⟩ := answers_of_endsAt reached registered canonicalName
      (endsAt_of_orphan walk found orphan) enough
    rw [found] at known
    cases known
    rw [traitOf]
    generalize history.registry.seekTrait _ _ [] id = outcome at told
    cases told with
    | defined here =>
      rw [absent] at here
      cases here
    | registered _ _ known =>
      rw [unknown] at known
      cases known
    | missing => rfl
    | dangling _ named =>
      rw [orphan] at named
      cases named

/-- A trait that is nowhere stays so, as long as no trait is registered. -/
theorem Lacks.extends (reached : history.Reached) (longer : history.registry.Extends after)
    (traits : after.traits = history.registry.traits) (finished : history.registry.Finished id)
    (lacks : history.registry.Lacks id name) : after.Lacks id name := by
  obtain ⟨last, factory, walk, found, absent, orphan, unknown⟩ := lacks
  obtain ⟨its, list, known, compiled⟩ := finished.of_walk reached walk
  rw [found] at known
  cases known
  obtain ⟨later, there, kept⟩ := longer.compiled found compiled
  have onward := longer.walk reached (fun kept absent => (kept.trait? name).trans absent) finished
    walk
  exact ⟨last, later, onward, there, (kept.trait? name).trans absent,
    kept.options.parentName?.trans orphan, traits ▸ unknown⟩

/-! ### References that fail -/

/-- The fault for which the list of a trait to which a factory refers is not given. -/
inductive TraitFault (registry : Registry) (id : FactoryId) (ref : String) : Fault → Prop where
  /-- The trait is nowhere. -/
  | missing (lacks : registry.Lacks id (Name.ofText ref)) :
      TraitFault registry id ref (.notFound .trait (Name.ofText ref))
  /-- What the trait declares is refused. -/
  | refused {trait : Trait} {fault : Fault} (means : registry.traitOf id (.text ref) = .ok trait)
      (refused : trait.attributes = .error fault) (reason : fault.isRefusal = true) :
      TraitFault registry id ref fault

/-- The lists of all traits are given to which a factory and those above it refer. -/
def TraitsFound (registry : Registry) (id : FactoryId) : Prop :=
  ∀ above factory, ReflTransGen registry.Rises id above → registry.factory? above = some factory →
    ∀ ref ∈ factory.traitRefs, ∃ list, registry.TraitList above ref list

/-- The list of a trait is not given to which a factory or one above it refers. -/
def TraitFails (registry : Registry) (id : FactoryId) (fault : Fault) : Prop :=
  ∃ above factory, ReflTransGen registry.Rises id above ∧ registry.factory? above = some factory ∧
    ∃ ref ∈ factory.traitRefs, registry.TraitFault above ref fault

/-- If a trait fails, not all traits are found. -/
theorem TraitFails.not_found (reached : history.Reached)
    (registered : history.registry.findText own = .ok id) (finished : history.registry.Finished id)
    (fails : history.registry.TraitFails id fault) : ¬ history.registry.TraitsFound id := by
  obtain ⟨above, factory, walk, found, ref, member, fails⟩ := fails
  intro all
  obtain ⟨list, trait, means, expands⟩ := all above factory walk found ref member
  cases fails with
  | missing lacks =>
    obtain ⟨_, known⟩ := registered_of_walk registered walk
    have misses := (traitOf_eq_error reached known (finished.of_walk reached walk) (.text ref)).2
      ⟨rfl, lacks⟩
    rw [means] at misses
    cases misses
  | refused other refused =>
    rw [means] at other
    cases other
    rw [expands] at refused
    cases refused

/-- A trait that fails for a compiled factory fails later, as long as no trait is registered. -/
theorem TraitFails.extends (reached : history.Reached) (longer : history.registry.Extends after)
    (traits : after.traits = history.registry.traits) (finished : history.registry.Finished id)
    (fails : history.registry.TraitFails id fault) : after.TraitFails id fault := by
  obtain ⟨above, factory, walk, found, ref, member, fails⟩ := fails
  have done := finished.of_walk reached walk
  obtain ⟨its, list, known, compiled⟩ := done
  rw [found] at known
  cases known
  obtain ⟨later, there, kept⟩ := longer.compiled found compiled
  refine ⟨above, later, longer.walk reached (fun _ _ => trivial) finished walk, there, ref,
    kept.options.traitRefs ▸ member, ?_⟩
  cases fails with
  | missing lacks => exact .missing (lacks.extends reached longer traits ⟨_, _, found, compiled⟩)
  | refused means refused reason =>
    exact .refused (longer.traitOf (fun known => reached.linked known) found compiled means) refused
      reason

/-! ### Resolving -/

/-- If the lists of the traits of a compiled factory are not given, a trait fails. -/
theorem traitFails_of_traitLists (reached : history.Reached)
    (registered : history.registry.findText own = .ok id) (finished : history.registry.Finished id)
    (found : history.registry.factory? id = some factory)
    (failed : history.registry.traitLists id factory = .error fault) :
    history.registry.TraitFails id fault := by
  obtain unsought | ⟨traits, sought, refused⟩ := bind_eq_error.1 failed
  · obtain ⟨ref, member, fails⟩ := exists_of_mapM_eq_error unsought
    obtain ⟨rfl, lacks⟩ := (traitOf_eq_error reached registered finished _).1 fails
    exact ⟨id, factory, .refl, found, ref, List.mem_reverse.1 member, .missing lacks⟩
  · obtain ⟨trait, member, refuses⟩ := exists_of_mapM_eq_error refused
    obtain ⟨ref, inside, means⟩ := exists_of_forall₂ (mapM_eq_ok.1 sought).flip member
    exact ⟨id, factory, .refl, found, ref, List.mem_reverse.1 inside,
      .refused means refuses (Trait.isRefusal_of_attributes refuses)⟩

/-- A factory does not resolve because the list of a trait is not given, or because its parent does
not resolve. -/
theorem resolve_eq_error {fuel : Nat} (found : registry.factory? id = some factory)
    (failed : registry.resolve (fuel + 1) id = .error fault) :
    registry.traitLists id factory = .error fault ∨
      ∃ parent, factory.parent = some parent ∧ registry.resolve fuel parent = .error fault := by
  rw [resolve] at failed
  simp only [found] at failed
  obtain unmade | ⟨layers, _, failed⟩ := bind_eq_error.1 failed
  · exact .inl unmade
  · cases its : factory.parent with
    | none =>
      simp only [its] at failed
      cases failed
    | some parent =>
      simp only [its] at failed
      obtain above | ⟨_, _, never⟩ := bind_eq_error.1 failed
      · exact .inr ⟨parent, rfl, above⟩
      · cases never

/-- If a factory at the beginning of a walk up does not resolve, a trait fails. -/
theorem traitFails_of_visit (reached : history.Reached) (visit : Nat → FactoryId) {k fuel : Nat}
    (registered : history.registry.findText own = .ok (visit 0))
    (finished : history.registry.Finished (visit 0))
    (steps : ∀ i < k, history.registry.Rises (visit i) (visit (i + 1)))
    (final : ∀ above, ¬ history.registry.Rises (visit k) above) (enough : k < fuel)
    (failed : history.registry.resolve fuel (visit 0) = .error fault) :
    history.registry.TraitFails (visit 0) fault := by
  induction k generalizing visit fuel own with
  | zero =>
    obtain ⟨fuel, rfl⟩ := Nat.exists_eq_succ_of_ne_zero (Nat.ne_of_gt enough)
    have ⟨factory, list, found, compiled⟩ := finished
    obtain here | ⟨parent, its, _⟩ := resolve_eq_error found failed
    · exact traitFails_of_traitLists reached registered finished found here
    · exact absurd (rises_of_parent reached found its) (final parent)
  | succ k ih =>
    obtain ⟨fuel, rfl⟩ := Nat.exists_eq_succ_of_ne_zero (Nat.ne_of_gt (Nat.zero_lt_of_lt enough))
    have ⟨factory, list, found, compiled⟩ := finished
    have step := steps 0 (Nat.succ_pos k)
    obtain here | ⟨parent, its, onward⟩ := resolve_eq_error found failed
    · exact traitFails_of_traitLists reached registered finished found here
    · obtain ⟨same, done⟩ := parent_of_leads reached found compiled step
      rw [its] at same
      cases same
      obtain ⟨above, other, walk, rest⟩ := ih (fun i => visit (i + 1)) step.findText done
        (fun i less => steps (i + 1) (Nat.succ_lt_succ less)) final (Nat.lt_of_succ_lt_succ enough)
        onward
      exact ⟨above, other, .head step walk, rest⟩

/-- If a compiled factory does not resolve, a trait fails. -/
theorem traitFails_of_resolve (reached : history.Reached)
    (registered : history.registry.findText own = .ok id) (finished : history.registry.Finished id)
    {fuel : Nat} (enough : history.registry.factories.length < fuel)
    (failed : history.registry.resolve fuel id = .error fault) :
    history.registry.TraitFails id fault := by
  obtain ⟨top, ends⟩ := finished.endsAt reached fun _ => True
  obtain ⟨visit, k, rfl, rfl, steps, _, short⟩ :=
    Walk.exists_short_path (Leads.rightUnique _ _) (fun _ _ => Leads.inside) ends
  exact traitFails_of_visit reached visit registered finished steps ends.2 (by omega) failed

/-- If a compiled factory resolves, its traits are found, and those of the factories above it. -/
theorem traitsFound_of_resolve (reached : history.Reached)
    (finished : history.registry.Finished id) {fuel : Nat}
    (resolved : history.registry.resolve fuel id = .ok list) :
    history.registry.TraitsFound id := by
  intro above factory walk known ref member
  induction walk using ReflTransGen.head_induction_on generalizing fuel list with
  | refl =>
    cases fuel with
    | zero => cases resolved
    | succ fuel =>
      obtain ⟨layers, _, made, _⟩ := (resolve_eq_ok known).1 resolved
      obtain ⟨list, _, given⟩ := exists_of_forall₂ (traitLists_eq_ok made) member
      exact ⟨list, given⟩
  | head rises _ ih =>
    cases fuel with
    | zero => cases resolved
    | succ fuel =>
      obtain ⟨its, own, found, compiled⟩ := finished
      obtain ⟨parent, done⟩ := parent_of_leads reached found compiled rises
      obtain ⟨_, inherited, _, onward, _⟩ := (resolve_eq_ok found).1 resolved
      simp only [parent] at onward
      exact ih done onward

/-- A compiled factory resolves exactly if its traits are found, and those of the factories above
it. -/
theorem exists_resolve_iff (reached : history.Reached)
    (registered : history.registry.findText own = .ok id) (finished : history.registry.Finished id)
    {fuel : Nat} (enough : history.registry.factories.length < fuel) :
    (∃ list, history.registry.resolve fuel id = .ok list) ↔ history.registry.TraitsFound id := by
  refine ⟨fun ⟨list, resolved⟩ => traitsFound_of_resolve reached finished resolved, fun all => ?_⟩
  cases resolved : history.registry.resolve fuel id with
  | ok list => exact ⟨list, rfl⟩
  | error fault =>
    have fails := traitFails_of_resolve reached registered finished enough resolved
    exact absurd all (fails.not_found reached registered finished)

/-- While no trait is registered, what is found for a compiled factory stays the same. -/
theorem traitsFound_extends (reached : history.Reached) (reachedLater : later.Reached)
    (longer : history.registry.Extends later.registry)
    (traits : later.registry.traits = history.registry.traits)
    (registered : history.registry.findText own = .ok id)
    (finished : history.registry.Finished id) :
    later.registry.TraitsFound id ↔ history.registry.TraitsFound id := by
  have ⟨factory, list, found, compiled⟩ := finished
  obtain ⟨last, there, kept⟩ := longer.compiled found compiled
  have finishedLater : later.registry.Finished id := ⟨last, list, there, kept.status.trans compiled⟩
  have enough := Nat.lt_succ_self history.registry.factories.length
  constructor
  · intro all
    cases resolved : history.registry.resolve (history.registry.factories.length + 1) id with
    | ok list => exact traitsFound_of_resolve reached finished resolved
    | error fault =>
      have fails := traitFails_of_resolve reached registered finished enough resolved
      have failsLater := fails.extends reached longer traits finished
      exact absurd all
        (failsLater.not_found reachedLater (longer.findText registered) finishedLater)
  · intro all
    obtain ⟨list, resolved⟩ := (exists_resolve_iff reached registered finished enough).2 all
    exact traitsFound_of_resolve reachedLater finishedLater
      (longer.resolve (fun known => reached.linked known) found compiled resolved)

/-! ### What is asked of a sealed registry -/

/-- What is asked of a compiled factory is what it resolves to, and asking changes nothing. -/
theorem attributes_of_finished (finished : registry.Finished id) :
    Registry.attributes id registry =
      (registry.resolve (registry.factories.length + 1) id, registry) := by
  obtain ⟨factory, list, found, compiled⟩ := finished
  rw [attributes, compile_of_sealed found compiled]

/-- After a registry was sealed, whatever is done, a registered factory and all those above it are
compiled, the last of them has no parent, and the model class of the factory is given. Its
attributes are given, and so are its callbacks and associations, exactly if all its traits and those
of the factories above it could be found and expanded when the registry was sealed; otherwise the
fault is that of one of these traits. -/
theorem close_certifies (reached : history.Reached)
    (closed : Registry.close history.registry = (.ok (), after))
    (activities : History.Activities (history.withRegistry after) later) {name : Value}
    (registered : later.registry.find name = .ok id) :
    (∀ above, ReflTransGen later.registry.Rises id above → later.registry.Finished above) ∧
    (∃ top factory, ReflTransGen later.registry.Rises id top ∧
      later.registry.factory? top = some factory ∧ factory.parentName? = none) ∧
    (∃ model, Registry.model id later.registry = (.ok model, later.registry)) ∧
    ∃ outcome, Registry.attributes id later.registry = (outcome, later.registry) ∧
      Registry.callbacks id later.registry =
        (outcome.map AttributeList.callbacks, later.registry) ∧
      Registry.associations id later.registry =
        (outcome.map AttributeList.associations, later.registry) ∧
      ((∃ list, outcome = .ok list) ↔ after.TraitsFound id) ∧
      ∀ fault, outcome = .error fault → later.registry.TraitFails id fault := by
  have reachedAfter : (history.withRegistry after).Reached := by
    have closedOnce := reached.tail .closed
    rwa [closed] at closedOnce
  have reachedLater : later.Reached := reachedAfter.activities activities
  have isSealed : after.isSealed = true := isSealed_of_close closed
  have longer : after.Extends later.registry := activities.operations.extends reachedAfter.bound
  have same : after.SameRegistered later.registry :=
    sameRegistered_of_sealed reachedAfter isSealed activities.operations
  -- the factory was registered when the registry was sealed, and it is ready since then
  have bound : later.registry.names.lookup (Name.ofValue name) = some id := find_eq_ok.1 registered
  have known : later.registry.findText (Name.ofValue name) = .ok id := by
    rwa [findText_eq_ok, Name.ofText_ofValue]
  have knownAfter : after.findText (Name.ofValue name) = .ok id :=
    (findText_congr same.names _).symm.trans known
  obtain ⟨factory, list, model, found, compiled, held⟩ :=
    exists_ready reachedLater (longer.isSealed isSealed) bound
  obtain ⟨before, own, _, foundAfter, compiledAfter, _⟩ :=
    exists_ready reachedAfter isSealed (same.names ▸ bound)
  have finished : later.registry.Finished id := ⟨factory, list, found, compiled⟩
  have finishedAfter : after.Finished id := ⟨before, own, foundAfter, compiledAfter⟩
  have given := attributes_of_finished finished
  have enough := Nat.lt_succ_self later.registry.factories.length
  refine ⟨fun above walk => finished.of_walk reachedLater walk, finished.exists_top reachedLater,
    ⟨model, ?_⟩, _, given, ?_, ?_, ?_, ?_⟩
  · simp only [Registry.model, found, held]
  · simp only [callbacks, Step.map, given]
  · simp only [associations, Step.map, given]
  · rw [exists_resolve_iff reachedLater known finished enough]
    exact traitsFound_extends reachedAfter reachedLater longer same.traits knownAfter finishedAfter
  · intro fault failed
    exact traitFails_of_resolve reachedLater known finished enough failed

/-- The user of `badgeHistory` has its badge and its name when the registry is sealed and the user
is then told to allow overrides: its trait was found. -/
theorem close_certifies_badge :
    ∃ (after : Registry) (later : History), badgeHistory.Reached ∧
      Registry.close badgeHistory.registry = (.ok (), after) ∧
      History.Activities (badgeHistory.withRegistry after) later ∧
      later.registry.find (.text "user") = .ok 0 ∧ after.TraitsFound 0 ∧
      (∃ model, Registry.model 0 later.registry = (.ok model, later.registry)) ∧
      ∃ list, Registry.attributes 0 later.registry = (.ok list, later.registry) ∧
        list.names = ["badge", "name"] := by
  have done : (Registry.close badgeHistory.registry).1.toOption = some () := by decide +kernel
  have closed : Registry.close badgeHistory.registry =
      (.ok (), (Registry.close badgeHistory.registry).2) := Prod.ext (eq_ok_of_toOption done) rfl
  let asked := badgeHistory.withRegistry (Registry.close badgeHistory.registry).2
  let permitted : History :=
    { asked with registry := asked.registry.allowOverrides 0, permitted := 0 :: asked.permitted }
  have activities : History.Activities asked permitted := .single (.operated (.permitted 0))
  have registered : permitted.registry.find (.text "user") = .ok 0 :=
    find_eq_ok.2 (by decide +kernel)
  have names : (Registry.attributes 0 permitted.registry).1.toOption.map AttributeList.names =
      some ["badge", "name"] := by decide +kernel
  obtain ⟨_, _, model, outcome, given, _, _, found, _⟩ :=
    close_certifies reached_badge closed activities registered
  rw [given] at names
  obtain ⟨list, has, ordered⟩ := Option.map_eq_some_iff.1 names
  obtain rfl := eq_ok_of_toOption has
  exact ⟨_, permitted, reached_badge, closed, activities, registered, found.1 ⟨list, rfl⟩, model,
    list, given, ordered⟩

/-- The name of the trait that is not found, if that is the fault. -/
def missingTrait? : Except Fault AttributeList → Option String
  | .error (.notFound .trait name) => some name
  | _ => none

/-- A registry with a user that refers to a trait that is not there is sealed, although the
attributes of the user cannot be given. -/
theorem close_leaves_missing_trait :
    ∃ (history : History) (after : Registry), history.Reached ∧
      Registry.close history.registry = (.ok (), after) ∧ after.find (.text "user") = .ok 0 ∧
      (Registry.attributes 0 after).1 = .error (.notFound .trait "missing") := by
  let options : Dict := [(.text "traits", .list [.text "missing"])]
  let user := (History.blank.define (.text "user") options).registerModel "User" "user"
  have reached : user.Reached := (History.reached_blank.define _ _).registerModel _ _
  have done : (Registry.close user.registry).1.toOption = some () := by decide +kernel
  have registered : (Registry.close user.registry).2.find (.text "user") = .ok 0 :=
    find_eq_ok.2 (by decide +kernel)
  have misses : missingTrait? (Registry.attributes 0 (Registry.close user.registry).2).1 =
      some "missing" := by decide +kernel
  refine ⟨user, _, reached, Prod.ext (eq_ok_of_toOption done) rfl, registered, ?_⟩
  unfold missingTrait? at misses
  split at misses
  · cases misses
    assumption
  · cases misses

end Registry

end Blueprint
