import Blueprint.Proofs.Build.Cause
import Blueprint.Proofs.Build.Resolved
import Mathlib.Data.List.Induction

/-!
# Overrides that clash

Overrides are refused if two of their keys have one canonical name. They are refused when all that
they are for is known and before anything is done with it, so that a run that refuses its overrides
leaves the world as it was, up to what compiling its factory has done.
-/
namespace Blueprint

/-- Among overrides a key is the first whose canonical name came before, and it came with another
key. -/
def FirstClash (overrides : Dict) (first second : Key) : Prop :=
  ∃ front middle back value other,
    overrides = front ++ (first, value) :: middle ++ (second, other) :: back ∧
      Name.ofKey first = Name.ofKey second ∧
      ((front ++ (first, value) :: middle).map fun pair => Name.ofKey pair.1).Nodup

namespace FirstClash

variable {overrides rest : Dict} {first second : Key}

/-- A clash stays the first one when overrides are added at the end. -/
theorem append (clash : FirstClash overrides first second) (rest : Dict) :
    FirstClash (overrides ++ rest) first second := by
  obtain ⟨front, middle, back, value, other, rfl, same, distinct⟩ := clash
  exact ⟨front, middle, back ++ rest, value, other, by simp, same, distinct⟩

/-- Overrides with a clash have two keys of one canonical name. -/
theorem not_nodup (clash : FirstClash overrides first second) :
    ¬(overrides.map fun pair => Name.ofKey pair.1).Nodup := by
  obtain ⟨front, middle, back, value, other, rfl, same, _⟩ := clash
  intro distinct
  rw [List.map_append, List.nodup_append] at distinct
  have earlier : Name.ofKey first ∈
      (front ++ (first, value) :: middle).map fun pair => Name.ofKey pair.1 := by simp
  exact distinct.2.2 _ earlier _ List.mem_cons_self same

end FirstClash

/-- Overrides with two keys of one canonical name have a first clash. -/
theorem exists_firstClash {overrides : Dict}
    (twice : ¬(overrides.map fun pair => Name.ofKey pair.1).Nodup) :
    ∃ first second, FirstClash overrides first second := by
  induction overrides using List.reverseRecOn with
  | nil => exact absurd List.nodup_nil twice
  | append_singleton before pair ih =>
    by_cases distinct : (before.map fun pair => Name.ofKey pair.1).Nodup
    · -- the last key is the one whose name came before
      have there : Name.ofKey pair.1 ∈ before.map fun pair => Name.ofKey pair.1 := by
        by_contra absent
        rw [List.map_append, List.map_singleton] at twice
        exact twice (List.nodup_append.2 ⟨distinct, List.nodup_singleton _, by
          rintro name member _ last rfl
          exact absent (List.mem_singleton.1 last ▸ member)⟩)
      obtain ⟨⟨first, value⟩, inside, same⟩ := List.mem_map.1 there
      obtain ⟨front, middle, rfl⟩ := List.append_of_mem inside
      exact ⟨first, pair.1, front, middle, [], value, pair.2, by simp, same, distinct⟩
    · obtain ⟨first, second, clash⟩ := ih distinct
      exact ⟨first, second, clash.append [pair]⟩

namespace Build

/-- Overrides are refused for their first clash. -/
theorem canonicalOverrides_of_firstClash (factory : String) {overrides : Dict} {first second : Key}
    (clash : FirstClash overrides first second) :
    canonicalOverrides factory overrides =
      .error (.ambiguousOverride factory (Name.ofKey second) first second) := by
  obtain ⟨front, middle, back, value, other, rfl, same, distinct⟩ := clash
  have read := @canonicalFrom_append factory [] [] _ ((second, other) :: back) rfl distinct
  have absent : (front.map fun pair => (Name.ofKey pair.1, pair.1)).lookup (Name.ofKey second) =
      none := by
    rw [List.lookup_eq_none_iff]
    intro entry inside
    obtain ⟨pair, member, rfl⟩ := List.mem_map.1 inside
    rw [List.map_append, List.nodup_append] at distinct
    rw [bne_iff_ne, ← same]
    exact (distinct.2.2 _ (List.mem_map_of_mem member) _ List.mem_cons_self).symm
  have known : (([] : Table String Key) ++ (front ++ (first, value) :: middle).map
      fun pair => (Name.ofKey pair.1, pair.1)).lookup (Name.ofKey second) = some first := by
    rw [List.nil_append, List.map_append, List.lookup_append, absent, Option.none_or, List.map_cons,
      List.lookup_cons, same, beq_self_eq_true]
  rw [canonicalOverrides, read, canonicalFrom]
  simp only [known]

end Build

/-! ### Runs -/

/-- All usual faults are other ones than that overrides clash. -/
theorem takesUsual_isClash_false : TakesUsual fun fault => fault.isClash = false := by
  intro fault its
  cases fault <;> first | rfl | cases its

/-- A run for overrides with distinct keys does not end in a clash unless a run nested in it
does. -/
theorem World.Opens.failsBy_next {world : World} {id : FactoryId} {choice : Value}
    {strategy : Strategy} {model : Value} {list : AttributeList} {ready : Registry}
    (opens : world.Opens id choice strategy model list ready) {runner : Runner}
    (nested : runner.RunsFailBy fun fault => fault.isClash = false) {overrides : Dict}
    (distinct : (overrides.map fun pair => Name.ofKey pair.1).Nodup) :
    FailsBy (fun fault => fault.isClash = false) ((runner.next id choice overrides).run world).1 := by
  have told := Registry.failsBy_aliasesFor takesUsual_isClash_false ready
  rw [opens.run_next_of_nodup runner distinct]
  exact Build.failsBy_carryOut takesUsual_isClash_false nested _ (Plan.failsBy_fault told _) _ _

/-- Where the factory of a run compiles and its model class and attributes are found, the run
refuses its overrides if and only if two of their keys have one canonical name. It refuses them for
the first key whose name came before and the key with which it came, whatever runs factories, and
nothing has happened but that the factory is compiled. Otherwise it carries out a plan. -/
theorem run_refuses_clash {world : World} {id : FactoryId} {choice : Value} {strategy : Strategy}
    {model : Value} {list : AttributeList} {ready : Registry} {factory : Factory}
    (opens : world.Opens id choice strategy model list ready)
    (found : ready.factory? id = some factory) (overrides : Dict) :
    (∀ runner : Runner, (runner.RunsFailBy fun fault => fault.isClash = false) →
      ((∃ fault, ((runner.next id choice overrides).run world).1 = .error fault ∧ fault.isClash) ↔
        ¬(overrides.map fun pair => Name.ofKey pair.1).Nodup)) ∧
    (¬(overrides.map fun pair => Name.ofKey pair.1).Nodup ↔
      ∃ first second, FirstClash overrides first second) ∧
    (∀ first second, FirstClash overrides first second →
      let fault := Fault.ambiguousOverride factory.name (Name.ofKey second) first second
      (∀ runner : Runner, (runner.next id choice overrides).run world =
        (.error fault, { world with registry := ready })) ∧
      ready.nextStub = world.registry.nextStub ∧
      ∃ message, fault.report? = some (Report.ambiguity message [.ofKey first, .ofKey second])) ∧
    ((overrides.map fun pair => Name.ofKey pair.1).Nodup → ∀ runner : Runner,
      let given := overrides.map fun pair => (Name.ofKey pair.1, pair.2)
      let proxy := Proxy.fresh strategy model list.callbacks
      let plan := Plan.make ready.aliasesFor list.attributes given
      (runner.next id choice overrides).run world =
        (Build.carryOut runner proxy plan factory.finalizer).run
          { world with registry := ready }) := by
  have refuses : ∀ first second, FirstClash overrides first second → ∀ runner : Runner,
      (runner.next id choice overrides).run world =
        (.error (.ambiguousOverride factory.name (Name.ofKey second) first second),
          { world with registry := ready }) := by
    intro first second clash runner
    rw [opens.run_next, found]
    simp only [Option.map_some, Option.getD_some, Build.canonicalOverrides_of_firstClash _ clash]
  have clashes : ¬(overrides.map fun pair => Name.ofKey pair.1).Nodup ↔
      ∃ first second, FirstClash overrides first second :=
    ⟨exists_firstClash, fun ⟨_, _, clash⟩ => clash.not_nodup⟩
  refine ⟨fun runner nested => ⟨?_, fun twice => ?_⟩, clashes, fun first second clash => ?_, ?_⟩
  · rintro ⟨fault, failed, clash⟩ distinct
    have other : fault.isClash = false := opens.failsBy_next nested distinct fault failed
    rw [clash] at other
    cases other
  · obtain ⟨first, second, clash⟩ := clashes.1 twice
    exact ⟨_, congrArg Prod.fst (refuses first second clash runner), rfl⟩
  · exact ⟨refuses first second clash, opens.reworks.nextStub, _, rfl⟩
  · intro distinct runner
    rw [opens.run_next_of_nodup runner distinct, found]
    rfl

/-- A book whose title is given twice is refused for the second title, whatever runs factories. -/
theorem run_refuses_clash_book :
    let overrides : Dict :=
      [(.text "Title", .int 1), (.text "author", .int 2), (.text "title", .int 3)]
    FirstClash overrides (.text "Title") (.text "title") ∧
      (∃ ready, ∀ runner : Runner,
        (runner.next 0 (.strategy .build) overrides).run bookWorld =
          (.error (.ambiguousOverride "book" "title" (.text "Title") (.text "title")), ready)) ∧
      ∃ fault, (((Runner.within 0).next 0 (.strategy .build) overrides).run bookWorld).1 =
        .error fault ∧ fault.isClash := by
  intro overrides
  have reads : Name.ofKey (.text "title") = "title" := by decide +kernel
  have clash : FirstClash overrides (.text "Title") (.text "title") :=
    ⟨[], [(.text "author", .int 2)], [], .int 1, .int 3, rfl, by decide +kernel, by decide +kernel⟩
  have compiles : (bookWorld.registry.compile 0).1 = .ok () := eq_ok_of_toOption (by decide +kernel)
  let compiled := (bookWorld.registry.compile 0).2
  let classed := (Registry.model 0 compiled).2
  let ready := (Registry.attributes 0 classed).2
  obtain ⟨model, made⟩ : ∃ model, (Registry.model 0 compiled).1.toOption = some model :=
    Option.isSome_iff_exists.1 (by decide +kernel)
  obtain ⟨list, resolved⟩ : ∃ list, (Registry.attributes 0 classed).1.toOption = some list :=
    Option.isSome_iff_exists.1 (by decide +kernel)
  have opens : bookWorld.Opens 0 (.strategy .build) .build model list ready :=
    ⟨rfl, compiled, classed, Prod.ext compiles rfl, Prod.ext (eq_ok_of_toOption made) rfl,
      Prod.ext (eq_ok_of_toOption resolved) rfl⟩
  have named : (ready.factory? 0).map Factory.name = some "book" := by decide +kernel
  obtain ⟨factory, found, isBook⟩ := Option.map_eq_some_iff.1 named
  obtain ⟨onlyThen, clashes, refuses, _⟩ := run_refuses_clash opens found overrides
  obtain ⟨always, _⟩ := refuses _ _ clash
  rw [isBook, reads] at always
  have nested : (Runner.within 0).RunsFailBy fun fault => fault.isClash = false := by
    rintro _ _ _ _ _ ⟨⟩
    rfl
  exact ⟨clash, ⟨_, always⟩, (onlyThen _ nested).2 (clashes.2 ⟨_, _, clash⟩)⟩

end Blueprint
