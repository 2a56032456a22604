import Blueprint.Proofs.Build.Resolved
import Blueprint.Proofs.Name
import Blueprint.Proofs.Pattern.Bundled
import Mathlib.Data.List.Find

/-!
# Routes by the bundled patterns

With the bundled patterns an override key reaches the attribute of its own name and those whose
names differ from it by one ending, so the relation is symmetric and reaches no further. A key that
no attribute answers to is taken by the first attribute that is related to it so, and is set last,
on its own, if there is none.
-/
namespace Blueprint

namespace Registry

/-- A key feeds the attributes of a name by the patterns of a registry. -/
def Feeds (registry : Registry) (key name : String) : Prop :=
  ∃ names, registry.aliasesFor key = .ok names ∧ name ∈ names

variable {registry : Registry} {key name : String}

/-- By the bundled patterns a key feeds what is named as it is, up to one ending. -/
theorem HasBundledPatterns.feeds_iff (bundled : registry.HasBundledPatterns)
    (line : '\n' ∉ key.toList) (nonempty : name ≠ "") :
    registry.Feeds key name ↔ name = key ∨ name = key ++ "_id" ∨ key = name ++ "_id" := by
  have inline : ∀ c ∈ key.toList, Pattern.isInline c := by
    intro c member
    rw [Pattern.isInline, bne_iff_ne]
    rintro rfl
    exact line member
  obtain ⟨names, found, each⟩ := aliasesFor_of_bundled bundled inline
  have known : registry.Feeds key name ↔ name ∈ names := by
    rw [Feeds, found]
    exact ⟨fun ⟨_, same, member⟩ => Except.ok.inj same ▸ member, fun member => ⟨_, rfl, member⟩⟩
  rw [known, each]
  simp only [nonempty, ne_eq, not_false_eq_true, true_and]

/-- By the bundled patterns no key feeds what is named with two endings more or less. -/
theorem HasBundledPatterns.not_feeds_twice (bundled : registry.HasBundledPatterns)
    (line : '\n' ∉ key.toList) (nonempty : key ≠ "") :
    ¬registry.Feeds key (key ++ "_id" ++ "_id") ∧ ¬registry.Feeds (key ++ "_id" ++ "_id") key := by
  have longer : (key ++ "_id" ++ "_id").length = key.length + 6 := by
    rw [String.length_append, String.length_append]
    rfl
  have once : (key ++ "_id").length = key.length + 3 := by
    rw [String.length_append]
    rfl
  have further : key ++ "_id" ++ "_id" ≠ "" := by
    intro same
    rw [same] at longer
    cases longer
  have lines : '\n' ∉ (key ++ "_id" ++ "_id").toList := by
    simp [line]
  rw [bundled.feeds_iff line further, bundled.feeds_iff lines nonempty]
  constructor
  · rintro (same | same | same)
    all_goals
      have lengths := congrArg String.length same
      simp only [String.length_append] at *
      omega
  · rintro (same | same | same)
    all_goals
      have lengths := congrArg String.length same
      simp only [String.length_append] at *
      omega

/-- Work on factories leaves the bundled patterns. -/
theorem HasBundledPatterns.of_reworks {after : Registry} (bundled : registry.HasBundledPatterns)
    (reworks : registry.Reworks after) : after.HasBundledPatterns := by
  obtain ⟨fresh, created, same⟩ := bundled
  refine ⟨fresh, created, ?_⟩
  rw [reworks.rest]
  exact same

end Registry

/-! ### The routes -/

namespace Name

/-- A canonical name has no line feed. -/
theorem isInline_of_mem_ofValue {value : Value} {c : Char} (member : c ∈ (ofValue value).toList) :
    Pattern.isInline c := by
  have joined := (isCanonical_ofValue value c member).2
  rw [Pattern.isInline, bne_iff_ne]
  rintro rfl
  cases joined

end Name

namespace Plan

section

variable (attributes : List Attribute)

/-- The first attribute that is named as a key with the ending, or as the key without its own. -/
def kin? (key : String) : Option Attribute :=
  attributes.find? fun attr => attr.name == key ++ "_id" || attr.name ++ "_id" == key

/-- The attribute that takes a key: the first one that answers to it, or else the first one whose
name differs from it by one ending. -/
def taker? (key : String) : Option Attribute := (owner? attributes key).or (kin? attributes key)

variable (overrides : List Override)

/-- The overrides that an attribute takes. -/
def taken (attr : Attribute) : List Override :=
  overrides.filter fun pair => (taker? attributes pair.1).map Attribute.name == some attr.name

/-- The overrides that no attribute takes. -/
def leftover : List Override :=
  overrides.filter fun pair => (taker? attributes pair.1).map Attribute.name == none

/-- What is to be done if keys are related to attributes by the ending: each attribute sets what it
takes, or gives its value if it takes nothing, and the rest is set last. -/
def byEnding : Plan where
  actions :=
    attributes.flatMap (fun attr => portion attr (taken attributes overrides attr)) ++
      assignAll false (leftover attributes overrides)

end

variable {registry : Registry} {attributes : List Attribute} {overrides : List Override}
  {key : String} {value : Value} {attr : Attribute}

/-- By the bundled patterns a canonical key is routed to the attribute that takes it. -/
theorem route_of_bundled (bundled : registry.HasBundledPatterns)
    (line : ∀ c ∈ key.toList, Pattern.isInline c) (named : ∀ attr ∈ attributes, attr.name ≠ "") :
    route registry.aliasesFor attributes key = .ok (taker? attributes key) := by
  unfold route taker?
  cases owned : owner? attributes key with
  | some owner => rfl
  | none =>
    obtain ⟨names, found, each⟩ := Registry.aliasesFor_of_bundled bundled line
    have related : attributes.find? (fun attr => names.contains attr.name) =
        kin? attributes key := by
      refine List.find?_congr fun attr member => ?_
      -- the attribute does not answer to the key, so the key is not its name
      have other : attr.name ≠ key := by
        rintro rfl
        exact List.find?_eq_none.1 owned attr member (by simp [Attribute.answersTo])
      have kept : attr.name ≠ "" := named attr member
      rw [Bool.eq_iff_iff, List.contains_iff_mem, each, Bool.or_eq_true, beq_iff_eq, beq_iff_eq]
      simp only [other, kept, false_or, ne_eq, not_false_eq_true, true_and, @eq_comm _ key]
    by_cases empty : attributes = []
    · rw [empty]
      rfl
    · rw [if_neg (by simpa using empty), found, Option.none_or, ← related]
      rfl

/-- By the bundled patterns all canonical keys have routes. -/
theorem routed_of_bundled (bundled : registry.HasBundledPatterns)
    (lines : ∀ pair ∈ overrides, ∀ c ∈ pair.1.toList, Pattern.isInline c)
    (named : ∀ attr ∈ attributes, attr.name ≠ "") :
    routed registry.aliasesFor attributes overrides =
      .ok (overrides.map fun pair => ((taker? attributes pair.1).map Attribute.name, pair)) := by
  rw [routed_eq_ok, List.forall₂_map_right_iff]
  refine List.forall₂_same.2 fun pair member => routeOf_eq_ok.2 ⟨_, ?_, rfl⟩
  exact route_of_bundled bundled (lines pair member) named

/-- By the bundled patterns the plan by the routes is the one by the ending. -/
theorem byRoute_of_bundled (bundled : registry.HasBundledPatterns)
    (lines : ∀ pair ∈ overrides, ∀ c ∈ pair.1.toList, Pattern.isInline c)
    (named : ∀ attr ∈ attributes, attr.name ≠ "") :
    byRoute registry.aliasesFor attributes overrides = byEnding attributes overrides := by
  have sent : ∀ destination,
      bound (overrides.map fun pair => ((taker? attributes pair.1).map Attribute.name, pair))
          destination =
        overrides.filter fun pair =>
          (taker? attributes pair.1).map Attribute.name == destination := by
    intro destination
    rw [bound, List.filter_map, List.map_map]
    exact List.map_id _
  rw [byRoute, routed_of_bundled bundled lines named]
  simp only [sent]
  rfl

/-! ### Keys that no attribute answers to -/

/-- A key that no attribute answers to is taken by its kin. -/
theorem mem_taken_of_kin? (given : (key, value) ∈ overrides) (free : owner? attributes key = none)
    (related : kin? attributes key = some attr) : (key, value) ∈ taken attributes overrides attr := by
  rw [taken, List.mem_filter]
  exact ⟨given, by simp [taker?, free, related]⟩

/-- A key that no attribute answers to and that has no kin is left over. -/
theorem mem_leftover_of_kin? (given : (key, value) ∈ overrides)
    (free : owner? attributes key = none) (alone : kin? attributes key = none) :
    (key, value) ∈ leftover attributes overrides := by
  rw [leftover, List.mem_filter]
  exact ⟨given, by simp [taker?, free, alone]⟩

/-- An attribute that takes an override does not give its value. -/
theorem evaluate_not_mem_byEnding {pair : Override}
    (takes : pair ∈ taken attributes overrides attr) :
    .evaluate attr ∉ (byEnding attributes overrides).actions := by
  intro member
  obtain turn | last := List.mem_append.1 member
  · obtain ⟨other, _, due⟩ := List.mem_flatMap.1 turn
    unfold portion at due
    split at due
    · rename_i unsent
      cases List.mem_singleton.1 due
      rw [List.isEmpty_iff.1 unsent] at takes
      cases takes
    · obtain ⟨_, _, never⟩ := List.mem_map.1 due
      cases never
  · obtain ⟨_, _, never⟩ := List.mem_map.1 last
    cases never

end Plan

/-- With the bundled patterns a key feeds just the attributes whose names are the key, the key with
the ending, or the key without its own. So the relation is symmetric and does not reach two endings
away, and a run whose overrides have distinct keys goes by the ending: a key that no attribute
answers to is set in the turn of the first attribute related to it, which does not give its value,
or last if there is none. Every override is set once. -/
theorem run_by_ending {world : World} (bundled : world.registry.HasBundledPatterns) :
    (∀ key name : String, key ≠ "" → name ≠ "" → '\n' ∉ key.toList → '\n' ∉ name.toList →
      (world.registry.Feeds key name ↔
        name = key ∨ name = key ++ "_id" ∨ key = name ++ "_id") ∧
      (world.registry.Feeds key name ↔ world.registry.Feeds name key) ∧
      ¬world.registry.Feeds key (key ++ "_id" ++ "_id") ∧
      ¬world.registry.Feeds (key ++ "_id" ++ "_id") key) ∧
    ∀ {id : FactoryId} {choice : Value} {strategy : Strategy} {model : Value}
      {list : AttributeList} {ready : Registry} (runner : Runner) (overrides : Dict),
      world.Opens id choice strategy model list ready →
      (overrides.map fun pair => Name.ofKey pair.1).Nodup →
      (∀ attr ∈ list.attributes, attr.name ≠ "") →
      let given := overrides.map fun pair => (Name.ofKey pair.1, pair.2)
      let plan := Plan.byEnding list.attributes given
      let proxy := Proxy.fresh strategy model list.callbacks
      let finalizer := (ready.factory? id).bind Factory.finalizer
      (runner.next id choice overrides).run world =
          (Build.carryOut runner proxy plan finalizer).run { world with registry := ready } ∧
        (plan.actions.filterMap Action.override?).Perm given ∧
        ∀ key value, (key, value) ∈ given → key ≠ "" → Plan.owner? list.attributes key = none →
          match Plan.kin? list.attributes key with
          | some attr =>
            (key, value) ∈ Plan.taken list.attributes given attr ∧ .evaluate attr ∉ plan.actions
          | none => (key, value) ∈ Plan.leftover list.attributes given := by
  refine ⟨fun key name filled named line lineOfName => ?_, ?_⟩
  · have forth := bundled.feeds_iff line named
    have back := bundled.feeds_iff lineOfName filled
    refine ⟨forth, ?_, bundled.not_feeds_twice line filled⟩
    rw [forth, back]
    exact or_congr eq_comm or_comm
  · intro id choice strategy model list ready runner overrides opens distinct named given plan proxy
      finalizer
    have still : ready.HasBundledPatterns := bundled.of_reworks opens.reworks
    have lines : ∀ pair ∈ given, ∀ c ∈ pair.1.toList, Pattern.isInline c := by
      intro pair member c inside
      obtain ⟨entry, _, rfl⟩ := List.mem_map.1 member
      exact Name.isInline_of_mem_ofValue inside
    have whole : Plan.byRoute ready.aliasesFor list.attributes given = plan :=
      Plan.byRoute_of_bundled still lines named
    have made : Plan.make ready.aliasesFor list.attributes given = plan :=
      (Plan.make_eq_byRoute opens.distinct given).trans whole
    have parts := Plan.byRoute_parts opens.distinct (Plan.routed_of_bundled still lines named)
    rw [whole] at parts
    refine ⟨?_, parts.2.1, fun key value inside _ free => ?_⟩
    · rw [opens.run_next_of_nodup runner distinct, ← made]
    cases related : Plan.kin? list.attributes key with
    | some attr =>
      have takes := Plan.mem_taken_of_kin? inside free related
      exact ⟨takes, Plan.evaluate_not_mem_byEnding takes⟩
    | none => exact Plan.mem_leftover_of_kin? inside free related

/-- The world of the registry with the book, under the bundled patterns. -/
def bundledBookWorld : World :=
  let patterns := [⟨Pattern.stemPattern, "\\1"⟩, ⟨Pattern.linePattern, "\\1_id"⟩]
  { bookWorld with registry := { bookWorld.registry with patterns := patterns } }

/-- A book's author is set by the id that is given, and does not give its value. The title is no
attribute, and is set last. -/
theorem run_by_ending_book :
    bundledBookWorld.registry.Feeds "author_id" "author" ∧
      ∃ proxy finalizer list ready, ∃ author ∈ AttributeList.attributes list,
        let given := bookOverrides.map fun pair => (Name.ofKey pair.1, pair.2)
        let plan := Plan.byEnding list.attributes given
        (Runner.standard.next 0 (.strategy .build) bookOverrides).run bundledBookWorld =
          (Build.carryOut Runner.standard proxy plan finalizer).run ready ∧
        author.name = "author" ∧ .evaluate author ∉ plan.actions ∧
        ("title", .text "Emma") ∈ Plan.leftover list.attributes given := by
  have bundled : bundledBookWorld.registry.HasBundledPatterns :=
    Registry.hasBundledPatterns_iff.2 rfl
  obtain ⟨relation, runs⟩ := run_by_ending bundled
  have feeds := relation "author_id" "author" (by decide) (by decide) (by decide) (by decide)
  refine ⟨feeds.1.2 (.inr (.inr rfl)), ?_⟩
  have chosen : Strategy.ofProxy (.strategy .build) = .ok .build := rfl
  have compiles : (bundledBookWorld.registry.compile 0).1 = .ok () :=
    eq_ok_of_toOption (by decide +kernel)
  have distinct : (bookOverrides.map fun pair => Name.ofKey pair.1).Nodup := by decide +kernel
  let compiled := (bundledBookWorld.registry.compile 0).2
  let classed := (Registry.model 0 compiled).2
  let given := bookOverrides.map fun pair => (Name.ofKey pair.1, pair.2)
  have readsId : Name.ofKey (.text "author_id") = "author_id" := by decide +kernel
  have readsTitle : Name.ofKey (.text "title") = "title" := by decide +kernel
  have givenId : ("author_id", .int 3) ∈ given :=
    List.mem_map.2 ⟨(.text "author_id", .int 3), by simp [bookOverrides], by rw [readsId]⟩
  have givenTitle : ("title", .text "Emma") ∈ given :=
    List.mem_map.2 ⟨(.text "title", .text "Emma"), by simp [bookOverrides], by rw [readsTitle]⟩
  obtain ⟨model, made⟩ : ∃ model, (Registry.model 0 compiled).1.toOption = some model :=
    Option.isSome_iff_exists.1 (by decide +kernel)
  have seen : ((Registry.attributes 0 classed).1.toOption.map fun list =>
      (list.attributes.map Attribute.name,
        (Plan.kin? list.attributes "author_id").map Attribute.name,
        (Plan.kin? list.attributes "title").map Attribute.name,
        (Plan.owner? list.attributes "author_id").isNone,
        (Plan.owner? list.attributes "title").isNone)) =
      some (["author", "editor", "pages"], some "author", none, true, true) := by decide +kernel
  obtain ⟨list, resolved, same⟩ := Option.map_eq_some_iff.1 seen
  simp only [Prod.mk.injEq, Option.isNone_iff_eq_none, Option.map_eq_none_iff] at same
  obtain ⟨names, kin, alone, freeId, freeTitle⟩ := same
  obtain ⟨author, related, isAuthor⟩ := Option.map_eq_some_iff.1 kin
  have named : ∀ attr ∈ list.attributes, attr.name ≠ "" := by
    intro attr member empty
    have inside := List.mem_map_of_mem (f := Attribute.name) member
    rw [names, empty] at inside
    simp at inside
  have opens : bundledBookWorld.Opens 0 (.strategy .build) .build model list
      (Registry.attributes 0 classed).2 :=
    ⟨chosen, compiled, classed, Prod.ext compiles rfl, Prod.ext (eq_ok_of_toOption made) rfl,
      Prod.ext (eq_ok_of_toOption resolved) rfl⟩
  obtain ⟨same, _, each⟩ := runs Runner.standard bookOverrides opens distinct named
  have byId := each "author_id" (.int 3) givenId (by decide) freeId
  have byTitle := each "title" (.text "Emma") givenTitle (by decide) freeTitle
  rw [related] at byId
  rw [alone] at byTitle
  exact ⟨_, _, list, _, author, List.mem_of_find?_eq_some related, same, isAuthor, byId.2, byTitle⟩

end Blueprint
