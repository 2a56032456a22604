import Blueprint.Proofs.Registry.Yield

/-!
# The order of compiling

Compiling a factory, whether it succeeds or not, changes nothing of what any factory comes to when
it is compiled, nor where compiling does not get to where it can begin. So in whatever order the
factories of a registry are compiled, and however often, each one fails or succeeds in the same way
and comes to the same.
-/
namespace Blueprint

open Relation

namespace Registry

variable {registry after other : Registry} {history : History} {id last parentId : FactoryId}
  {factory later : Factory} {fault : Fault} {outcome : Except Fault Factory}

/-! ### Where compiling can begin -/

/-- Compiling goes up from a factory to where it can begin. -/
def Founded (registry : Registry) (id : FactoryId) : Prop :=
  ∃ top, ReflTransGen registry.Climbs id top ∧ registry.Begins top

/-- Below where compiling can begin it can begin too. -/
theorem Founded.of_walk (founded : registry.Founded last)
    (walk : ReflTransGen registry.Climbs id last) : registry.Founded id := by
  obtain ⟨top, rest, begins⟩ := founded
  exact ⟨top, walk.trans rest, begins⟩

/-- Where it is told what a factory comes to, compiling gets to where it can begin. -/
theorem Yields.founded (yields : registry.Yields id outcome) : registry.Founded id := by
  induction yields with
  | @compiled id factory list found compiled =>
    refine ⟨id, .refl, fun its known => ?_⟩
    rw [found] at known
    cases known
    exact .inl ⟨list, compiled⟩
  | @alone id factory found unsealed orphan =>
    refine ⟨id, .refl, fun its known => ?_⟩
    rw [found] at known
    cases known
    exact .inr ⟨unsealed, orphan⟩
  | heir found unsealed named registered _ ih =>
    exact ih.of_walk (.single ⟨_, _, found, unsealed, named, registered⟩)

/-- Where compiling fails on its way up, it does not get to where it can begin. -/
theorem Ascent.not_founded (reached : history.Reached)
    (ascent : Ascent history.registry id (some fault)) : ¬ history.registry.Founded id := by
  rintro ⟨top, walk, begins⟩
  have unique := Leads.rightUnique history.registry fun factory => factory.status = .unsealed
  have ends := begins.endsAt walk
  obtain ⟨never, _⟩ | ⟨_, _, _, _, returns, _⟩ | ⟨ref, _, _, misses⟩ := ascent.outcome_eq reached
  · cases never
  · exact Walk.not_returns unique ends returns
  · obtain ⟨stop, factory, ends', found, unsealed, named⟩ := ((misses ref).2 rfl).ends reached
    obtain rfl := Walk.endsAt_unique unique ends ends'
    rw [begins.orphan found unsealed] at named
    cases named

/-- Compiling goes up in the same way where the factories on its way are the same. -/
theorem Ascent.congr {outcome : Option Fault} (ascent : Ascent registry id outcome)
    (parents : registry.SameParents other)
    (same : ∀ last, ReflTransGen registry.Climbs id last →
      other.factory? last = registry.factory? last) : Ascent other id outcome := by
  induction ascent generalizing other with
  | absent missing => exact .absent ((same _ .refl).trans missing)
  | compiled found compiled => exact .compiled ((same _ .refl).trans found) compiled
  | orphan found unsealed orphan => exact .orphan ((same _ .refl).trans found) unsealed orphan
  | met found compiling =>
    rw [← parents.cycleFault _ _ rfl rfl]
    exact .met ((same _ .refl).trans found) compiling
  | dangling found unsealed named missing =>
    exact .dangling ((same _ .refl).trans found) unsealed named ((parents.findText _).trans missing)
  | @above registry id parentId factory ref outcome found unsealed named registered _ ih =>
    have there : other.factory? id = some factory := (same id .refl).trans found
    have step : registry.Climbs id parentId := ⟨factory, ref, found, unsealed, named, registered⟩
    refine .above there unsealed named ((parents.findText ref).trans registered) (ih ⟨?_, ?_⟩ ?_)
    · exact parents.names
    · rw [put, put, List.map_set, List.map_set, parents.parentRefs]
    · intro last walk
      by_cases self : last = id
      · subst self
        rw [factory?_put_self there, factory?_put_self found]
      · have rest : ReflTransGen registry.Climbs parentId last :=
          ReflTransGen.mono (fun _ _ => climbs_of_started) parentId last walk
        rw [factory?_put_ne (Ne.symm self), factory?_put_ne (Ne.symm self)]
        exact same last (.head step rest)

/-! ### What compiling leaves the same -/

/-- A later registry tells the same of all factories as an earlier one. -/
structure Agrees (registry after : Registry) : Prop where
  /-- Factories come to the same. -/
  yields : ∀ {id outcome}, registry.Yields id outcome → after.Yields id outcome
  /-- Compiling fails in the same way where it does not get to where it can begin. -/
  stuck : ∀ {id fault}, Ascent registry id (some fault) → Ascent after id (some fault)
  /-- No factory is new. -/
  absent : ∀ {id}, registry.factory? id = none → after.factory? id = none

theorem Agrees.refl (registry : Registry) : registry.Agrees registry :=
  ⟨fun yields => yields, fun ascent => ascent, fun missing => missing⟩

theorem Agrees.trans {last : Registry} (first : registry.Agrees after) (second : after.Agrees last) :
    registry.Agrees last :=
  ⟨second.yields ∘ first.yields, second.stuck ∘ first.stuck, second.absent ∘ first.absent⟩

/-- While the names stay the same, so do the parents to which the factories refer. -/
theorem Moves.sameParents (moves : Moves registry after) (names : after.names = registry.names) :
    registry.SameParents after := by
  refine ⟨names, List.ext_getElem? fun id => ?_⟩
  rw [List.getElem?_map, List.getElem?_map]
  show (after.factory? id).map _ = (registry.factory? id).map _
  cases found : registry.factory? id with
  | some factory =>
    obtain ⟨later, there, same⟩ := moves.factory? found
    rw [there, Option.map_some, Option.map_some, same.parentRef]
  | none =>
    cases there : after.factory? id with
    | none => rfl
    | some later =>
      obtain ⟨factory, known⟩ := moves.factory?_before there
      rw [found] at known
      cases known

/-- An uncompiled factory stays as it is, or is compiled, or is stopped. -/
theorem Compilation.of_unsealed {stopped : Option (FactoryId × Fault)}
    (compilation : Compilation registry after stopped) (found : registry.factory? id = some factory)
    (unsealed : factory.status = .unsealed) :
    after.factory? id = some factory ∨ after.Finished id ∨ ∃ fault, Stopped registry after id fault := by
  obtain ⟨later, there, fate | ⟨fault, halted⟩⟩ := compilation.each found
  · cases fate with
    | kept => exact .inl there
    | compiled _ compiled => exact .inr (.inl ⟨_, _, there, compiled⟩)
    | followed compiled =>
      rw [unsealed] at compiled
      cases compiled
  · exact .inr (.inr ⟨fault, compilation.stops halted⟩)

section

variable {stopped : Option (FactoryId × Fault)} (compilation : Compilation registry after stopped)
  (tells : registry.Tells after)
include compilation tells

/-- What a factory comes to, it comes to after compiling. -/
theorem Compilation.yields (yields : registry.Yields id outcome) : after.Yields id outcome := by
  have names := findText_congr compilation.names
  -- a factory that is compiled by then is what it comes to
  have finished : ∀ {id outcome}, registry.Yields id outcome → after.Finished id →
      after.Yields id outcome := by
    rintro id outcome yields ⟨later, list, there, compiled⟩
    rw [← yields.unique (tells.told there compiled)]
    exact .compiled there compiled
  induction yields with
  | compiled found compiled =>
    obtain ⟨later, there, fate | ⟨fault, halted⟩⟩ := compilation.each found
    · cases fate with
      | kept => exact .compiled there compiled
      | compiled unsealed =>
        rw [compiled] at unsealed
        cases unsealed
      | followed =>
        have still := Yields.compiled there compiled
        exact still
    · obtain ⟨known, unsealed, _⟩ := compilation.stops halted
      rw [found] at known
      cases known
      rw [compiled] at unsealed
      cases unsealed
  | alone found unsealed orphan =>
    obtain there | done | ⟨fault, known, _, named, _⟩ := compilation.of_unsealed found unsealed
    · exact .alone there unsealed orphan
    · exact finished (.alone found unsealed orphan) done
    · rw [found] at known
      cases known
      rw [orphan] at named
      cases named
  | @heir id parentId factory ref outcome found unsealed named registered above ih =>
    have registeredStill : after.findText ref = .ok parentId := (names ref).trans registered
    obtain there | done |
        ⟨fault, @⟨_, parent, _, _, own, known, _, its, bound, upper, compiled, _, stays, _⟩⟩ :=
      compilation.of_unsealed found unsealed
    · exact .heir there unsealed named registeredStill ih
    · exact finished (.heir found unsealed named registered above) done
    · -- the factory has inherited, and inherits again from the same parent
      rw [found] at known
      cases known
      rw [named] at its
      cases its
      rw [registeredStill] at bound
      cases bound
      cases above.unique (tells.told upper compiled)
      have namedStill : (heir factory parent parentId).parentName? = some ref := by
        rw [heir_eq]
        exact named
      have again : after.Yields id
          (heir (heir factory parent parentId) parent.bare parentId).settled :=
        .heir stays (heir_status.trans unsealed) namedStill registeredStill ih
      rw [heir_bare, heir_heir] at again
      exact again

/-- A factory from which compiling does not get to where it can begin stays as it is. -/
theorem Compilation.factory?_of_not_founded (away : ¬ registry.Founded id) :
    after.factory? id = registry.factory? id := by
  cases found : registry.factory? id with
  | none =>
    refine absurd ⟨id, .refl, fun factory known => ?_⟩ away
    rw [found] at known
    cases known
  | some factory =>
    obtain ⟨later, there, fate | ⟨fault, halted⟩⟩ := compilation.each found
    · cases fate with
      | kept => exact there
      | compiled _ compiled => exact absurd (tells.told there compiled).founded away
      | followed compiled => exact absurd (Yields.compiled found compiled).founded away
    · obtain ⟨known, unsealed, named, registered, above, compiled, _⟩ := compilation.stops halted
      rw [findText_congr compilation.names] at registered
      have up : registry.Climbs id _ := ⟨_, _, known, unsealed, named, registered⟩
      exact absurd ((tells.told above compiled).founded.of_walk (.single up)) away

end

/-- After a factory is compiled, or fails to be, all factories come to the same as before. -/
theorem agrees_compile (reached : history.Reached) (id : FactoryId) :
    history.registry.Agrees (history.registry.compile id).2 := by
  have childless : history.registry.Childless := reached.calm.childless
  obtain ⟨tells, _⟩ := tells_compile history.registry id reached.bound childless
  obtain ⟨stopped, compilation, _⟩ := compilation_compile history.registry id reached.bound childless
  have moves := (compiles_compile history.registry id reached.bound).1.moves
  refine ⟨compilation.yields tells, fun ascent => ?_, fun missing => ?_⟩
  · refine ascent.congr (Moves.sameParents moves compilation.names) fun last walk => ?_
    exact compilation.factory?_of_not_founded tells fun founded =>
      ascent.not_founded reached (founded.of_walk walk)
  · by_contra there
    obtain ⟨later, found⟩ := Option.ne_none_iff_exists'.1 there
    obtain ⟨factory, known⟩ := Moves.factory?_before moves found
    rw [missing] at known
    cases known

/-! ### Compiling in any order -/

/-- A factory is compiled, or its attributes are asked for, with whatever success. -/
inductive Call (registry : Registry) : Registry → Prop where
  /-- A factory is compiled. -/
  | compiled (id : FactoryId) : Call registry (registry.compile id).2
  /-- The attributes of a factory are asked for. -/
  | resolved (id : FactoryId) : Call registry (Registry.attributes id registry).2

/-- Calls in turn. -/
abbrev Calls : Registry → Registry → Prop := ReflTransGen Call

/-- Calls lead to a registry that is reached and tells the same of all factories. -/
theorem Calls.agrees (reached : history.Reached) (calls : Calls history.registry after) :
    (history.withRegistry after).Reached ∧ history.registry.Agrees after := by
  have compiling : ∀ {middle : Registry} (id : FactoryId), (history.withRegistry middle).Reached →
      history.registry.Agrees middle →
      (history.withRegistry (middle.compile id).2).Reached ∧
        history.registry.Agrees (middle.compile id).2 :=
    fun id still agrees => ⟨still.tail (.compiled id), agrees.trans (agrees_compile still id)⟩
  induction calls with
  | refl => exact ⟨reached, .refl _⟩
  | tail _ call ih =>
    cases call with
    | compiled id => exact compiling id ih.1 ih.2
    | resolved id =>
      rw [snd_attributes]
      exact compiling id ih.1 ih.2

/-- What compiling a factory results in is told by what the factory comes to. -/
theorem Yields.compile_fst (reached : history.Reached)
    (yields : history.registry.Yields id outcome) :
    (history.registry.compile id).1 = outcome.map fun _ => () := by
  obtain ⟨tells, fails⟩ :=
    tells_compile history.registry id reached.bound reached.calm.childless
  obtain ⟨compiles, done⟩ := compiles_compile history.registry id reached.bound
  cases result : (history.registry.compile id).1 with
  | ok value =>
    obtain ⟨factory, found⟩ := yields.exists_factory
    obtain ⟨later, there, _⟩ := Moves.factory? compiles.moves found
    obtain ⟨list, compiled⟩ := done result later there
    rw [← yields.unique (tells.told there compiled)]
    rfl
  | error fault =>
    obtain same | ascent := fails fault result
    · rw [← yields.unique same]
      rfl
    · exact absurd yields.founded (ascent.not_founded reached)

/-- Of every factory it is told what it comes to, or that compiling does not get to where it can
begin. -/
theorem exists_yields_or_stuck (reached : history.Reached)
    (found : history.registry.factory? id = some factory) :
    (∃ outcome, history.registry.Yields id outcome) ∨
      ∃ fault, Ascent history.registry id (some fault) := by
  obtain ⟨tells, fails⟩ :=
    tells_compile history.registry id reached.bound reached.calm.childless
  obtain ⟨compiles, done⟩ := compiles_compile history.registry id reached.bound
  cases result : (history.registry.compile id).1 with
  | ok value =>
    obtain ⟨later, there, _⟩ := Moves.factory? compiles.moves found
    obtain ⟨list, compiled⟩ := done result later there
    exact .inl ⟨_, tells.told there compiled⟩
  | error fault =>
    obtain yields | ascent := fails fault result
    · exact .inl ⟨_, yields⟩
    · exact .inr ⟨fault, ascent⟩

/-- Whatever is compiled and asked for, in whatever order, with whatever success: compiling a
factory afterwards has the same outcome, the fault included, and a factory that is compiled in the
end is the same but for its children. -/
theorem compile_in_any_order (reached : history.Reached) {one other : Registry}
    (first : Calls history.registry one) (second : Calls history.registry other) (id : FactoryId) :
    (one.compile id).1 = (other.compile id).1 ∧
      ∀ factory later own list, one.factory? id = some factory → factory.status = .sealed own →
        other.factory? id = some later → later.status = .sealed list →
          later.bare = factory.bare := by
  obtain ⟨reachedOne, agreesOne⟩ := first.agrees reached
  obtain ⟨reachedOther, agreesOther⟩ := second.agrees reached
  cases found : history.registry.factory? id with
  | none =>
    have missing := agreesOne.absent found
    rw [compile_of_none missing, compile_of_none (agreesOther.absent found)]
    refine ⟨rfl, fun factory _ _ _ known => ?_⟩
    rw [missing] at known
    cases known
  | some factory =>
    obtain ⟨outcome, yields⟩ | ⟨fault, ascent⟩ := exists_yields_or_stuck reached found
    · have yieldsOne := agreesOne.yields yields
      have yieldsOther := agreesOther.yields yields
      have resultOne : (one.compile id).1 = _ := yieldsOne.compile_fst reachedOne
      have resultOther : (other.compile id).1 = _ := yieldsOther.compile_fst reachedOther
      refine ⟨resultOne.trans resultOther.symm, fun factory later own list known compiled there
        done => ?_⟩
      · have same := yieldsOne.of_compiled known compiled
        rw [yieldsOther.of_compiled there done] at same
        exact Except.ok.inj same
    · have stuckOne := agreesOne.stuck ascent
      refine ⟨?_, fun factory _ own _ known compiled _ _ => ?_⟩
      · rw [stuckOne.compile_eq rfl, (agreesOther.stuck ascent).compile_eq rfl]
      · exact absurd (Yields.compiled known compiled).founded (stuckOne.not_founded reachedOne)

/-- A registry with a guest that is registered before its parent, the user, and a stray whose parent
is not registered. -/
def strayHistory : History :=
  let guest := History.blank.define (.text "guest") [(.text "parent", .text "user")]
  let role := guest.edit 0 (.declare ⟨"role", false, [], .static (.text "guest")⟩)
  let user := role.define (.text "user") []
  user.define (.text "stray") [(.text "parent", .text "nobody")]

/-- Whether the guest is compiled at once, or after the stray has failed and the user is compiled,
it is the same guest, and the stray fails in the same way. -/
theorem compile_in_any_order_guest :
    ∃ one other guest later own list,
      strayHistory.Reached ∧ Calls strayHistory.registry one ∧ Calls strayHistory.registry other ∧
        one.factory? 0 = some guest ∧ guest.status = .sealed own ∧
        other.factory? 0 = some later ∧ later.status = .sealed list ∧ own.names = ["role"] ∧
        later.bare = guest.bare ∧ (one.compile 2).1 = (other.compile 2).1 := by
  have reached : strayHistory.Reached :=
    (((History.reached_blank.define _ _).edit _ _).define _ _).define _ _
  let one := (strayHistory.registry.compile 0).2
  let failed := (strayHistory.registry.compile 2).2
  let above := (failed.compile 1).2
  let other := (above.compile 0).2
  have first : Calls strayHistory.registry one := .single (.compiled 0)
  have second : Calls strayHistory.registry other :=
    ((ReflTransGen.single (.compiled 2)).tail (.compiled 1)).tail (.compiled 0)
  have names : ((one.factory? 0).filter fun guest => guest.status.isSealed).map
      (fun guest => guest.compiled.names) = some ["role"] := by decide +kernel
  have done : ((other.factory? 0).filter fun guest => guest.status.isSealed).isSome = true := by
    decide +kernel
  obtain ⟨guest, here, ordered⟩ := Option.map_eq_some_iff.1 names
  obtain ⟨found, isSealed⟩ := Option.filter_eq_some_iff.1 here
  obtain ⟨later, there⟩ := Option.isSome_iff_exists.1 done
  obtain ⟨foundLater, isSealedLater⟩ := Option.filter_eq_some_iff.1 there
  obtain ⟨own, compiled⟩ := exists_of_isSealed isSealed
  obtain ⟨list, compiledLater⟩ := exists_of_isSealed isSealedLater
  have itsOwn : guest.compiled = own := by rw [Factory.compiled, compiled]
  exact ⟨one, other, guest, later, own, list, reached, first, second, found, compiled, foundLater,
    compiledLater, itsOwn ▸ ordered,
    (compile_in_any_order reached first second 0).2 guest later own list found compiled foundLater
      compiledLater,
    (compile_in_any_order reached first second 2).1⟩

end Registry

end Blueprint
