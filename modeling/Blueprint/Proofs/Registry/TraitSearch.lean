import Blueprint.Proofs.Registry.Parents

/-!
# The search for a trait

A trait is sought along the parents of a factory. Where the walk ends, the search finds the trait of
the last factory, or that of the registry, or misses a factory. Where the walk comes back, the
search notices only a parent that is referred to by its own name: if every reference on the cycle is
by a further name, it goes round for ever.
-/
namespace Blueprint

open Relation

namespace Registry

variable {registry : Registry} {name : String} {id parent last : FactoryId} {factory : Factory}
  {visit : Nat → FactoryId} {k : Nat}

/-- The search for a trait goes on from a factory in which it is not defined. -/
abbrev Seeks (registry : Registry) (name : String) : FactoryId → FactoryId → Prop :=
  registry.Leads fun factory => factory.trait? name = none

/-- What the search for a trait tells at the factory where it ends. -/
inductive Answers (registry : Registry) (name : String) (factory : Factory) :
    Except Fault Trait → Prop where
  /-- The trait is defined in the factory. -/
  | defined {trait : Trait} (here : factory.trait? name = some trait) :
      Answers registry name factory (.ok trait)
  /-- It is not, and there is no parent, but the registry has the trait. -/
  | registered {trait : Trait} (absent : factory.trait? name = none)
      (orphan : factory.parentName? = none) (known : registry.traits.lookup name = some trait) :
      Answers registry name factory (.ok trait)
  /-- Nor has the registry the trait. -/
  | missing (absent : factory.trait? name = none) (orphan : factory.parentName? = none)
      (unknown : registry.traits.lookup name = none) :
      Answers registry name factory (.error (.notFound .trait name))
  /-- The trait is not defined in the factory, and its parent is not registered. -/
  | dangling {ref : String} (absent : factory.trait? name = none)
      (named : factory.parentName? = some ref) (unknown : registry.names.lookup ref = none) :
      Answers registry name factory (.error (.notFound .factory ref))

/-- The search comes back to a factory that is referred to by its own name from where it comes. -/
def MeetsName (registry : Registry) (name : String) (id : FactoryId) : Prop :=
  ∃ point next, ReflTransGen (registry.Seeks name) id point ∧
    TransGen (registry.Seeks name) point point ∧ registry.Seeks name point next ∧
    registry.refAt point = registry.nameAt next

/-- The search goes on from a factory without the trait to what is registered under the name of its
parent. -/
theorem seeks_of_ref {ref : String}
    (refers : ((registry.factory? id).filter fun factory => (factory.trait? name).isNone).bind
      Factory.parentName? = some ref)
    (registered : registry.names.lookup (Name.ofText ref) = some parent) :
    registry.Seeks name id parent :=
  .of_ref (fun _ => Option.isNone_iff_eq_none.1) refers registered

/-! ### One step of the search -/

/-- The search goes on to a parent that is not referred to by the name of a factory it has met. -/
theorem seekTrait_of_seeks {fuel : Nat} {seen : List String} (seeks : registry.Seeks name id parent)
    (new : registry.refAt id ∉ registry.nameAt id :: seen) :
    registry.seekTrait name (fuel + 1) seen id =
      registry.seekTrait name fuel (registry.nameAt id :: seen) parent := by
  obtain ⟨factory, ref, found, absent, named, registered⟩ := seeks
  rw [nameAt_eq found, refAt_eq found named] at new
  rw [seekTrait, nameAt_eq found]
  simp only [found, absent, named]
  rw [if_neg (by simpa using new), registered]
  rfl

/-- The search fails at a parent that is referred to by the name of a factory it has met. -/
theorem seekTrait_of_met (fuel : Nat) {seen : List String} (seeks : registry.Seeks name id parent)
    (met : registry.refAt id ∈ registry.nameAt id :: seen) :
    ∃ factory, registry.factory? id = some factory ∧
      registry.seekTrait name (fuel + 1) seen id =
        .error (registry.traitCycleFault factory name) := by
  obtain ⟨factory, ref, found, absent, named, registered⟩ := seeks
  rw [nameAt_eq found, refAt_eq found named] at met
  refine ⟨factory, found, ?_⟩
  rw [seekTrait]
  simp only [found, absent, named]
  rw [if_pos (by simpa using met)]

/-- Where the search goes no further it tells its answer. -/
theorem answers_seekTrait {fuel : Nat} {seen : List String} (canonicalName : Name.ofText name = name)
    (found : registry.factory? id = some factory) (canonical : factory.Canonical)
    (final : ∀ parent, ¬ registry.Seeks name id parent)
    (known : ∀ met ∈ factory.name :: seen, ∃ id, registry.findText met = .ok id) :
    registry.Answers name factory (registry.seekTrait name (fuel + 1) seen id) := by
  rw [seekTrait]
  simp only [found]
  cases absent : factory.trait? name with
  | some trait => exact .defined absent
  | none =>
    cases named : factory.parentName? with
    | none =>
      have key : Name.ofValue (.text name) = name := canonicalName
      show registry.Answers name factory (registry.trait (.text name))
      simp only [trait, key]
      cases sought : registry.traits.lookup name with
      | some trait => exact .registered absent named sought
      | none => exact .missing absent named sought
    | some ref =>
      have spelled : Name.ofText ref = ref := canonical.parentName? named
      have unknown : registry.names.lookup ref = none := by
        cases bound : registry.names.lookup ref with
        | none => rfl
        | some parent =>
          rw [← spelled] at bound
          exact absurd ⟨factory, ref, found, absent, named, findText_eq_ok.2 bound⟩ (final parent)
      have fails : registry.findText ref = .error (.notFound .factory ref) :=
        findText_eq_error.2 (by rw [spelled]; exact ⟨unknown, rfl⟩)
      have new : ref ∉ factory.name :: seen := by
        intro met
        obtain ⟨id, bound⟩ := known ref met
        rw [fails] at bound
        cases bound
      simp only
      rw [if_neg (by simpa using new), fails]
      exact .dangling absent named unknown

/-! ### The search along a walk -/

/-- The names of the factories visited before, the latest first. -/
def sought (registry : Registry) (visit : Nat → FactoryId) : Nat → List String
  | 0 => []
  | k + 1 => registry.nameAt (visit k) :: sought registry visit k

/-- What has been sought are the names of the factories visited before. -/
theorem mem_sought {name : String} :
    name ∈ registry.sought visit k ↔ ∃ i < k, registry.nameAt (visit i) = name := by
  induction k with
  | zero => simp [sought]
  | succ k ih =>
    rw [sought, List.mem_cons, ih, Nat.exists_lt_succ_right, or_comm, @eq_comm _ name]

/-- Until a factory met before is referred to by its name, the search follows the walk. -/
theorem seekTrait_visit (steps : ∀ i < k, registry.Seeks name (visit i) (visit (i + 1)))
    (new : ∀ i < k, registry.refAt (visit i) ∉ registry.sought visit (i + 1)) (fuel : Nat) :
    registry.seekTrait name (fuel + k) [] (visit 0) =
      registry.seekTrait name fuel (registry.sought visit k) (visit k) := by
  induction k generalizing fuel with
  | zero => rfl
  | succ k ih =>
    have before := ih (fun i less => steps i (Nat.lt_succ_of_lt less))
      (fun i less => new i (Nat.lt_succ_of_lt less)) (fuel + 1)
    rw [show fuel + (k + 1) = fuel + 1 + k by omega, before]
    exact seekTrait_of_seeks (steps k (Nat.lt_succ_self k)) (new k (Nat.lt_succ_self k))

/-- A factory met before that is referred to by its name is visited again. -/
theorem visit_again (known : ∀ i ≤ k, registry.findText (registry.nameAt (visit i)) = .ok (visit i))
    (step : registry.Seeks name (visit k) (visit (k + 1)))
    (met : registry.refAt (visit k) ∈ registry.sought visit (k + 1)) :
    ∃ i ≤ k, registry.nameAt (visit i) = registry.refAt (visit k) ∧ visit (k + 1) = visit i := by
  obtain ⟨i, less, same⟩ := mem_sought.1 met
  have next := step.findText
  rw [← same, known i (Nat.le_of_lt_succ less)] at next
  exact ⟨i, Nat.le_of_lt_succ less, same, (Except.ok.inj next).symm⟩

/-- Whether a factory met before is referred to by its name shows in the second round. -/
theorem exists_first_met (steps : ∀ k, registry.Seeks name (visit k) (visit (k + 1)))
    (known : ∀ k, registry.findText (registry.nameAt (visit k)) = .ok (visit k))
    {i j : Nat} (less : i < j) (same : visit i = visit j)
    (met : registry.refAt (visit k) ∈ registry.sought visit (k + 1)) :
    ∃ k ≤ 2 * j, registry.refAt (visit k) ∈ registry.sought visit (k + 1) ∧
      ∀ i < k, registry.refAt (visit i) ∉ registry.sought visit (i + 1) := by
  have unique := Leads.rightUnique registry fun factory => factory.trait? name = none
  have sometimes : ∃ k, registry.refAt (visit k) ∈ registry.sought visit (k + 1) := ⟨k, met⟩
  obtain ⟨k, met, new⟩ := Nat.findX sometimes
  refine ⟨k, ?_, met, new⟩
  by_contra late
  -- one round earlier the same factory was referred to by its name
  have earlier : ∀ n, j ≤ n → visit (n - (j - i)) = visit n := by
    intro n after
    have round := Walk.congr_add unique steps same (n - j)
    rwa [show i + (n - j) = n - (j - i) by omega, show j + (n - j) = n by omega] at round
  obtain ⟨a, _, named, again⟩ := visit_again (fun i _ => known i) (steps k) met
  refine new (k - (j - i)) (by omega) ?_
  rw [earlier k (by omega), ← named, ← again]
  refine mem_sought.2 ⟨k + 1 - (j - i) - (j - i), by omega, ?_⟩
  rw [earlier (k + 1 - (j - i)) (by omega), earlier (k + 1) (by omega)]

/-! ### The search in a registry that is reached -/

variable {history : History}

/-- Every factory on a walk from a registered one is found under its own name. -/
theorem findText_nameAt (reached : history.Reached) {ref : String}
    (registered : history.registry.findText ref = .ok id)
    (walk : ReflTransGen (history.registry.Seeks name) id parent) :
    history.registry.findText (history.registry.nameAt parent) = .ok parent := by
  obtain ⟨_, known⟩ := registered_of_walk registered walk
  obtain ⟨factory, found, own⟩ := reached.registered known
  rwa [nameAt_eq found]

/-- A walk that comes back visits one factory after the other, each found under its own name. -/
theorem exists_visit_of_returns (reached : history.Reached) {ref : String}
    (registered : history.registry.findText ref = .ok id)
    (returns : Returns (history.registry.Seeks name) id) :
    ∃ visit : Nat → FactoryId, visit 0 = id ∧
      (∀ k, history.registry.Seeks name (visit k) (visit (k + 1))) ∧
      ∀ k, history.registry.findText (history.registry.nameAt (visit k)) = .ok (visit k) := by
  have unique := Leads.rightUnique history.registry fun factory => factory.trait? name = none
  obtain ⟨visit, rfl, steps⟩ :=
    Walk.exists_visit fun _ walk => Walk.endless_of_returns unique returns walk
  exact ⟨visit, rfl, steps, fun k => findText_nameAt reached registered
    (Walk.walk_visit (fun i _ => steps i) (Nat.zero_le k))⟩

/-- If the walk ends, the search tells the answer of the last factory. -/
theorem answers_of_endsAt (reached : history.Reached) {ref : String} {fuel : Nat}
    (registered : history.registry.findText ref = .ok id) (canonicalName : Name.ofText name = name)
    (ends : EndsAt (history.registry.Seeks name) id last)
    (enough : history.registry.factories.length < fuel) :
    ∃ factory, history.registry.factory? last = some factory ∧
      history.registry.Answers name factory (history.registry.seekTrait name fuel [] id) := by
  have unique := Leads.rightUnique history.registry fun factory => factory.trait? name = none
  obtain ⟨visit, k, rfl, rfl, steps, apart, short⟩ :=
    Walk.exists_short_path unique (fun _ _ => Leads.inside) ends
  have known : ∀ i ≤ k, history.registry.findText (history.registry.nameAt (visit i)) =
      .ok (visit i) :=
    fun i within => findText_nameAt reached registered
      (Walk.walk_visit (fun j less => steps j (by omega)) (Nat.zero_le i))
  have new : ∀ i < k, history.registry.refAt (visit i) ∉
      history.registry.sought visit (i + 1) := by
    intro i less met
    obtain ⟨j, within, _, again⟩ :=
      visit_again (fun l below => known l (by omega)) (steps i less) met
    exact apart j (i + 1) (Nat.lt_succ_of_le within) less again.symm
  obtain ⟨factory, found, own⟩ := reached.registered (known k le_rfl)
  obtain ⟨left, rfl⟩ : ∃ left, fuel = left + 1 + k := ⟨fuel - k - 1, by omega⟩
  refine ⟨factory, found, ?_⟩
  rw [seekTrait_visit steps new]
  refine answers_seekTrait canonicalName found (reached.canonical found) ends.2 ?_
  intro met member
  have visited : met ∈ history.registry.sought visit (k + 1) := by
    rwa [sought, nameAt_eq found]
  obtain ⟨i, less, rfl⟩ := mem_sought.1 visited
  exact ⟨_, known i (Nat.le_of_lt_succ less)⟩

/-- If the walk comes back to a factory by its own name, the search tells the closed walk. -/
theorem traitCycle_of_meetsName (reached : history.Reached) {ref : String} {fuel : Nat}
    (registered : history.registry.findText ref = .ok id)
    (returns : Returns (history.registry.Seeks name) id)
    (meets : history.registry.MeetsName name id)
    (enough : 2 * history.registry.factories.length < fuel) :
    ∃ chain, history.registry.seekTrait name fuel [] id = .error (.traitCycle name chain) ∧
      history.registry.ClosedWalk chain := by
  have unique := Leads.rightUnique history.registry fun factory => factory.trait? name = none
  obtain ⟨visit, rfl, steps, known⟩ := exists_visit_of_returns reached registered returns
  obtain ⟨point, next, onward, cycle, step, named⟩ := meets
  obtain ⟨a, _, rfl⟩ := Walk.exists_visit_eq unique steps onward
  obtain ⟨b, later, again⟩ := Walk.exists_visit_again unique steps cycle
  have met : history.registry.refAt (visit b) ∈ history.registry.sought visit (b + 1) := by
    rw [again, named, unique step (steps a)]
    exact mem_sought.2 ⟨a + 1, by omega, rfl⟩
  obtain ⟨i, j, less, bound, same⟩ := exists_visit_twice fun k _ => (steps k).inside
  obtain ⟨k, soon, met, new⟩ := exists_first_met steps known less same met
  obtain ⟨left, rfl⟩ : ∃ left, fuel = left + 1 + k := ⟨fuel - k - 1, by omega⟩
  obtain ⟨factory, found, fails⟩ := seekTrait_of_met left (steps k) met
  obtain ⟨first, within, _, back⟩ := visit_again (fun i _ => known i) (steps k) met
  have onCycle : TransGen (history.registry.Seeks name) (visit k) (visit k) :=
    Walk.cycle_of_back unique steps within back
  have own : history.registry.findText factory.name = .ok (visit k) := by
    rw [← nameAt_eq found]
    exact known k
  obtain ⟨chain, told, closed⟩ := parentChain_of_cycle found own onCycle
  refine ⟨chain, ?_, closed⟩
  rw [seekTrait_visit (fun i _ => steps i) new, fails, traitCycleFault, told]

/-- If the walk comes back by further names only, the search does not end. -/
theorem seekTrait_endless (reached : history.Reached) {ref : String}
    (registered : history.registry.findText ref = .ok id)
    (returns : Returns (history.registry.Seeks name) id)
    (unmet : ¬ history.registry.MeetsName name id) (fuel : Nat) :
    history.registry.seekTrait name fuel [] id = .error .tooDeep := by
  have unique := Leads.rightUnique history.registry fun factory => factory.trait? name = none
  obtain ⟨visit, rfl, steps, known⟩ := exists_visit_of_returns reached registered returns
  have new : ∀ k < fuel, history.registry.refAt (visit k) ∉
      history.registry.sought visit (k + 1) := by
    intro k _ met
    obtain ⟨i, within, named, back⟩ := visit_again (fun i _ => known i) (steps k) met
    refine unmet ⟨visit k, visit (k + 1), Walk.walk_visit (fun i _ => steps i) (Nat.zero_le k),
      Walk.cycle_of_back unique steps within back, steps k, ?_⟩
    rw [back, named]
  have followed := seekTrait_visit (fun i _ => steps i) new 0
  rwa [Nat.zero_add] at followed

/-- The search for a trait from a registered factory follows its parents as far as the trait is not
defined in them. Where this walk ends the search tells the answer of the last factory. Where it
comes back, the search tells a closed walk of names, if some factory on the cycle is referred to by
its own name, and otherwise it does not end. -/
theorem traitOf_along_parents (reached : history.Reached) {factoryName : Value}
    (registered : history.registry.find factoryName = .ok id) (traitName : Value) :
    let name := Name.ofValue traitName
    (∀ last, EndsAt (history.registry.Seeks name) id last →
      ∃ factory, history.registry.factory? last = some factory ∧
        history.registry.Answers name factory (history.registry.traitOf id traitName)) ∧
    (Returns (history.registry.Seeks name) id → history.registry.MeetsName name id →
      ∃ chain, history.registry.traitOf id traitName = .error (.traitCycle name chain) ∧
        history.registry.ClosedWalk chain) ∧
    (Returns (history.registry.Seeks name) id → ¬ history.registry.MeetsName name id →
      ∀ fuel, history.registry.seekTrait name fuel [] id = .error .tooDeep) ∧
    ((∃ last, EndsAt (history.registry.Seeks name) id last) ∨
      Returns (history.registry.Seeks name) id) := by
  intro name
  have known : history.registry.findText (Name.ofValue factoryName) = .ok id := by
    rw [findText_eq_ok, Name.ofText_ofValue]
    exact find_eq_ok.1 registered
  refine ⟨fun last ends => ?_, fun returns meets => ?_, fun returns unmet => ?_, ?_⟩
  · exact answers_of_endsAt reached known (Name.ofText_ofValue traitName) ends (by omega)
  · exact traitCycle_of_meetsName reached known returns meets (by omega)
  · exact seekTrait_endless reached known returns unmet
  · exact ends_or_returns history.registry _ id

/-- Two factories that are each other's parent: a trait of the second one is found from the first
one, and any other trait is answered with the closed walk. -/
theorem traitOf_along_parents_mutual :
    ∃ history : History, history.Reached ∧ history.registry.find (.text "user") = .ok 0 ∧
      (∃ factory, history.registry.factory? 1 = some factory ∧
        history.registry.Answers "vip" factory (history.registry.traitOf 0 (.text "vip"))) ∧
      ∃ chain, history.registry.traitOf 0 (.text "Late") = .error (.traitCycle "late" chain) ∧
        history.registry.ClosedWalk chain := by
  let user := History.blank.define (.text "user") [(.text "parent", .text "guest")]
  let both := user.define (.text "guest") [(.text "parent", .text "user")]
  let pair := both.edit 1 (.defineTrait ⟨"vip", [], []⟩)
  have reached : pair.Reached :=
    ((History.reached_blank.define _ _).define _ _).edit _ _
  have registered : pair.registry.find (.text "user") = .ok 0 :=
    find_eq_ok.2 (by decide +kernel)
  have vip : pair.registry.Seeks "vip" 0 1 :=
    seeks_of_ref (show _ = some "guest" by decide +kernel) (by decide +kernel)
  have stops : ∀ other, ¬ pair.registry.Seeks "vip" 1 other := by
    rintro other ⟨factory, ref, found, absent, _⟩
    have defined : ((pair.registry.factory? 1).bind
        fun factory => factory.trait? "vip").isSome = true := by decide +kernel
    simp [found, absent] at defined
  have onward : pair.registry.Seeks "late" 0 1 :=
    seeks_of_ref (show _ = some "guest" by decide +kernel) (by decide +kernel)
  have back : pair.registry.Seeks "late" 1 0 :=
    seeks_of_ref (show _ = some "user" by decide +kernel) (by decide +kernel)
  have cycle : TransGen (pair.registry.Seeks "late") 0 0 := .tail (.single onward) back
  have named : pair.registry.refAt 0 = pair.registry.nameAt 1 := by decide +kernel
  exact ⟨pair, reached, registered,
    (traitOf_along_parents reached registered (.text "vip")).1 1 ⟨.single vip, stops⟩,
    (traitOf_along_parents reached registered (.text "Late")).2.1 ⟨0, .refl, cycle⟩
      ⟨0, 1, .refl, cycle, onward, named⟩⟩

/-- A factory whose parent is given by its own further name: the search does not end. -/
theorem seekTrait_endless_alias :
    ∃ history : History, history.Reached ∧ history.registry.find (.text "a") = .ok 0 ∧
      Returns (history.registry.Seeks "anything") 0 ∧
      ∀ fuel, history.registry.seekTrait "anything" fuel [] 0 = .error .tooDeep := by
  let options : Dict := [(.text "aliases", .list [.text "b"]), (.text "parent", .text "b")]
  let alone := History.blank.define (.text "a") options
  have reached : alone.Reached := History.reached_blank.define _ _
  have registered : alone.registry.find (.text "a") = .ok 0 := find_eq_ok.2 (by decide +kernel)
  have loops : alone.registry.Seeks "anything" 0 0 :=
    seeks_of_ref (show _ = some "b" by decide +kernel) (by decide +kernel)
  have returns : Returns (alone.registry.Seeks "anything") 0 := ⟨0, .refl, .single loops⟩
  have single : alone.registry.factories.length = 1 := by decide +kernel
  have unmet : ¬ alone.registry.MeetsName "anything" 0 := by
    rintro ⟨point, next, _, _, step, named⟩
    -- the only factory is number 0, and its name is not that of its parent
    obtain rfl : point = 0 := Nat.lt_one_iff.1 (single ▸ step.inside)
    obtain rfl := Leads.rightUnique _ _ step loops
    revert named
    decide +kernel
  have known : alone.registry.findText "a" = .ok 0 := registered
  exact ⟨alone, reached, registered, returns, seekTrait_endless reached known returns unmet⟩

end Registry

end Blueprint
