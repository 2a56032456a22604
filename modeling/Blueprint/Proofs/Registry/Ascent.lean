import Blueprint.Proofs.Factory.Expand
import Blueprint.Proofs.Registry.Calm
import Blueprint.Proofs.Registry.Parents

/-!
# Compiling along parents

Before anything is inherited or expanded, compiling goes up from a factory along its parents. Where
a parent is not registered, or a factory is met again, it turns back and leaves everything as it
was. This is decided by the parents alone, whatever the factories declare.
-/
namespace Blueprint

open Relation

namespace Registry

variable {registry other : Registry} {id parentId last : FactoryId} {factory later : Factory}
  {fault : Fault} {outcome : Option Fault} {ref : String}

/-- Compiling an uncompiled factory goes up to its parent. -/
abbrev Climbs (registry : Registry) : FactoryId → FactoryId → Prop :=
  registry.Leads fun factory => factory.status = .unsealed

/-- How compiling goes up from a factory: it gets to where it can begin, or it fails. -/
inductive Ascent : Registry → FactoryId → Option Fault → Prop where
  /-- There is no factory. -/
  | absent {registry : Registry} {id : FactoryId} (missing : registry.factory? id = none) :
      Ascent registry id none
  /-- The factory is compiled. -/
  | compiled {registry : Registry} {id : FactoryId} {factory : Factory} {list : AttributeList}
      (found : registry.factory? id = some factory) (compiled : factory.status = .sealed list) :
      Ascent registry id none
  /-- The factory has no parent. -/
  | orphan {registry : Registry} {id : FactoryId} {factory : Factory}
      (found : registry.factory? id = some factory) (unsealed : factory.status = .unsealed)
      (orphan : factory.parentName? = none) : Ascent registry id none
  /-- The factory is met again. -/
  | met {registry : Registry} {id : FactoryId} {factory : Factory}
      (found : registry.factory? id = some factory) (compiling : factory.status = .compiling) :
      Ascent registry id (some (registry.cycleFault factory))
  /-- The parent is not registered. -/
  | dangling {registry : Registry} {id : FactoryId} {factory : Factory} {ref : String}
      {fault : Fault} (found : registry.factory? id = some factory)
      (unsealed : factory.status = .unsealed) (named : factory.parentName? = some ref)
      (missing : registry.findText ref = .error fault) : Ascent registry id (some fault)
  /-- Compiling goes up to the parent. -/
  | above {registry : Registry} {id parentId : FactoryId} {factory : Factory} {ref : String}
      {outcome : Option Fault} (found : registry.factory? id = some factory)
      (unsealed : factory.status = .unsealed) (named : factory.parentName? = some ref)
      (registered : registry.findText ref = .ok parentId)
      (ascent : Ascent (registry.put id { factory with status := .compiling }) parentId outcome) :
      Ascent registry id outcome

namespace Ascent

/-- Compiling always goes up in one of these ways. -/
theorem total (registry : Registry) (id : FactoryId) : ∃ outcome, Ascent registry id outcome := by
  have above : ∀ {registry : Registry} {id parentId : FactoryId} {factory : Factory} {ref : String},
      registry.factory? id = some factory → factory.status = .unsealed →
      factory.parentName? = some ref → registry.findText ref = .ok parentId →
      (∃ outcome, Ascent (registry.put id { factory with status := .compiling }) parentId outcome) →
      ∃ outcome, Ascent registry id outcome := by
    rintro registry id parentId factory ref found unsealed named registered ⟨outcome, ascent⟩
    exact ⟨outcome, .above found unsealed named registered ascent⟩
  induction registry, id using compile.induct with
  | case1 registry id missing => exact ⟨none, .absent missing⟩
  | case2 registry id factory found list compiled => exact ⟨none, .compiled found compiled⟩
  | case3 registry id factory found compiling => exact ⟨_, .met found compiling⟩
  | case4 registry id factory found unsealed orphan => exact ⟨none, .orphan found unsealed orphan⟩
  | case5 registry id factory found unsealed started ref named fault missing =>
    exact ⟨some fault, .dangling found unsealed named missing⟩
  | case6 registry id factory found unsealed started ref named parentId registered fault after
      failed ih => exact above found unsealed named registered ih
  | case7 registry id factory found unsealed started ref named parentId registered after
      done ih => exact above found unsealed named registered ih

/-- A failing ascent is all that compiling does. -/
theorem compile_eq (ascent : Ascent registry id outcome) (failed : outcome = some fault) :
    registry.compile id = (.error fault, registry) := by
  induction ascent with
  | absent => cases failed
  | compiled => cases failed
  | orphan => cases failed
  | met found compiling =>
    cases failed
    exact compile_of_compiling found compiling
  | dangling found unsealed named missing =>
    cases failed
    exact compile_of_dangling found unsealed named missing
  | above found unsealed named registered _ ih =>
    rw [compile_of_failed found unsealed named registered (ih failed),
      finish_of_error (factory?_put_self found), put_put]
    simp only [unsealed_eq_self unsealed, put_eq_self found]

/-- After an ascent that does not fail, compiling fails where declarations are refused only. -/
theorem isRefusal (ascent : Ascent registry id outcome) (begins : outcome = none)
    (failed : (registry.compile id).1 = .error fault) : fault.isRefusal := by
  have ending : ∀ {registry : Registry} {id : FactoryId},
      (finish id (.ok (), registry)).1 = .error fault → fault.isRefusal := by
    intro registry id failed
    simp only [finish] at failed
    split at failed
    · cases failed
    · rename_i refused
      cases failed
      obtain ⟨factory, _, refused⟩ := Option.map_eq_some_iff.1 refused
      exact Factory.isRefusal_of_expand refused
    · cases failed
  induction ascent with
  | absent missing =>
    rw [compile_of_none missing] at failed
    cases failed
  | compiled found compiled =>
    rw [compile_of_sealed found compiled] at failed
    cases failed
  | orphan found unsealed orphan =>
    rw [compile_of_orphan found unsealed orphan] at failed
    exact ending failed
  | met => cases begins
  | dangling => cases begins
  | @above registry id parentId factory ref outcome found unsealed named registered _ ih =>
    cases upper : (registry.put id { factory with status := .compiling }).compile parentId with
    | mk result after =>
      cases result with
      | error other =>
        rw [compile_of_failed found unsealed named registered upper] at failed
        cases failed
        exact ih begins (by rw [upper])
      | ok done =>
        rw [compile_of_done found unsealed named registered upper] at failed
        exact ending failed

end Ascent

/-! ### Ascents as walks -/

/-- Compiling can begin with a factory: it is compiled, or has no parent. -/
def Begins (registry : Registry) (last : FactoryId) : Prop :=
  ∀ factory, registry.factory? last = some factory →
    (∃ list, factory.status = .sealed list) ∨
      factory.status = .unsealed ∧ factory.parentName? = none

/-- Where compiling has gone up to, and with what outcome. -/
inductive Stops (registry : Registry) (last : FactoryId) : Option Fault → Prop where
  /-- Compiling can begin. -/
  | begins (top : registry.Begins last) : Stops registry last none
  /-- The factory is met again. -/
  | again {factory : Factory} (found : registry.factory? last = some factory)
      (round : factory.status = .compiling ∨ TransGen registry.Climbs last last) :
      Stops registry last (some (registry.cycleFault factory))
  /-- The parent is not registered. -/
  | dangling {factory : Factory} {ref : String} {fault : Fault}
      (found : registry.factory? last = some factory) (unsealed : factory.status = .unsealed)
      (named : factory.parentName? = some ref)
      (missing : registry.findText ref = .error fault) : Stops registry last (some fault)

/-- Registries with the same parents tell the same about a factory that is met again. -/
theorem SameParents.cycleFault (same : registry.SameParents other) (factory later : Factory)
    (name : later.name = factory.name) (parentRef : later.parentRef = factory.parentRef) :
    other.cycleFault later = registry.cycleFault factory := by
  have chain : registry.parentChain later = registry.parentChain factory := by
    rw [Registry.parentChain, Registry.parentChain, name, parentRef]
  rw [Registry.cycleFault, Registry.cycleFault, same.parentChain, chain, name]

/-- Putting in a factory that refers to the same parent keeps the parents. -/
theorem sameParents_put (found : registry.factory? id = some factory)
    (same : later.parentRef = factory.parentRef) : registry.SameParents (registry.put id later) := by
  refine ⟨rfl, ?_⟩
  obtain ⟨inside, rfl⟩ := List.getElem?_eq_some_iff.1 found
  rw [put, List.map_set, same, ← List.getElem_map Factory.parentRef (h := by simpa using inside),
    List.set_getElem_self]

/-- While a factory is being compiled, compiling goes up as it would before. -/
theorem climbs_of_started
    (climbs : (registry.put id { factory with status := .compiling }).Climbs last parentId) :
    registry.Climbs last parentId := by
  obtain ⟨its, ref, known, unsealed, named, registered⟩ := climbs
  obtain ⟨rfl, rfl⟩ | ⟨_, before⟩ := factory?_put known
  · cases unsealed
  · exact ⟨its, ref, before, unsealed, named, registered⟩

/-- Where compiling stops while a factory below is being compiled, it stops in any case. -/
theorem Stops.of_started (found : registry.factory? id = some factory)
    (walk : TransGen registry.Climbs id last)
    (stops : Stops (registry.put id { factory with status := .compiling }) last outcome) :
    Stops registry last outcome := by
  have same : registry.SameParents (registry.put id { factory with status := .compiling }) :=
    sameParents_put found rfl
  cases stops with
  | begins top =>
    refine .begins fun its known => ?_
    by_cases self : last = id
    · subst self
      obtain ⟨list, compiled⟩ | ⟨unsealed, _⟩ := top _ (factory?_put_self found)
      · cases compiled
      · cases unsealed
    · exact top its ((factory?_put_ne (Ne.symm self)).trans known)
  | @again its known round =>
    obtain ⟨rfl, rfl⟩ | ⟨_, before⟩ := factory?_put known
    · rw [same.cycleFault factory { factory with status := .compiling } rfl rfl]
      exact .again found (.inr walk)
    · rw [same.cycleFault its its rfl rfl]
      exact .again before
        (round.imp_right (TransGen.mono (fun _ _ => climbs_of_started) last last))
  | dangling known unsealed named missing =>
    obtain ⟨rfl, rfl⟩ | ⟨_, before⟩ := factory?_put known
    · cases unsealed
    · exact .dangling before unsealed named missing

/-- Compiling goes up along the walk to where it stops. -/
theorem Ascent.stops (ascent : Ascent registry id outcome) :
    ∃ last, ReflTransGen registry.Climbs id last ∧ Stops registry last outcome := by
  induction ascent with
  | @absent registry id missing =>
    refine ⟨id, .refl, .begins fun factory found => ?_⟩
    rw [missing] at found
    cases found
  | @compiled registry id factory list found compiled =>
    refine ⟨id, .refl, .begins fun other known => ?_⟩
    rw [found] at known
    cases known
    exact .inl ⟨list, compiled⟩
  | @orphan registry id factory found unsealed orphan =>
    refine ⟨id, .refl, .begins fun other known => ?_⟩
    rw [found] at known
    cases known
    exact .inr ⟨unsealed, orphan⟩
  | met found compiling => exact ⟨_, .refl, .again found (.inl compiling)⟩
  | dangling found unsealed named missing =>
    exact ⟨_, .refl, .dangling found unsealed named missing⟩
  | @above registry id parentId factory ref outcome found unsealed named registered _ ih =>
    obtain ⟨last, walk, stops⟩ := ih
    have step : registry.Climbs id parentId := ⟨factory, ref, found, unsealed, named, registered⟩
    have rest : ReflTransGen registry.Climbs parentId last :=
      ReflTransGen.mono (fun _ _ => climbs_of_started) parentId last walk
    have onward : TransGen registry.Climbs id last := .head' step rest
    exact ⟨last, onward.to_reflTransGen, stops.of_started found onward⟩

/-! ### Other declarations -/

/-- The registry where the factories declare something else. -/
def redeclared (registry : Registry) (declarations : FactoryId → List Declaration) : Registry :=
  { registry with
    factories := registry.factories.mapIdx fun id factory =>
      { factory with
        definition := { factory.definition with declarations := declarations id } } }

variable {declarations : FactoryId → List Declaration}

/-- A factory that declares something else is the same otherwise. -/
theorem factory?_redeclared (found : registry.factory? id = some factory) :
    (registry.redeclared declarations).factory? id = some
      { factory with definition := { factory.definition with declarations := declarations id } } := by
  have there : registry.factories[id]? = some factory := found
  simp [redeclared, factory?, there]

/-- Factories that declare something else refer to the same parents. -/
theorem sameParents_redeclared (registry : Registry) (declarations : FactoryId → List Declaration) :
    registry.SameParents (registry.redeclared declarations) := by
  refine ⟨rfl, List.ext_getElem? fun id => ?_⟩
  simp only [redeclared, List.getElem?_map, List.getElem?_mapIdx, Option.map_map]
  rfl

/-- Compiling goes up in the same way whatever the factories declare. -/
theorem Ascent.redeclared (ascent : Ascent registry id outcome) :
    Ascent (registry.redeclared declarations) id outcome := by
  induction ascent with
  | @absent registry id missing =>
    have there : registry.factories[id]? = none := missing
    exact .absent (by simp [Registry.redeclared, factory?, there])
  | compiled found compiled => exact .compiled (factory?_redeclared found) compiled
  | orphan found unsealed orphan => exact .orphan (factory?_redeclared found) unsealed orphan
  | @met registry id factory found compiling =>
    have same := sameParents_redeclared registry declarations
    rw [← same.cycleFault factory { factory with
      definition := { factory.definition with declarations := declarations id } } rfl rfl]
    exact .met (factory?_redeclared found) compiling
  | dangling found unsealed named missing =>
    exact .dangling (factory?_redeclared found) unsealed named missing
  | @above registry id parentId factory ref outcome found unsealed named registered _ ih =>
    refine .above (factory?_redeclared found) unsealed named registered ?_
    have commutes : (registry.put id { factory with status := .compiling }).redeclared declarations =
        (registry.redeclared declarations).put id { factory with
          definition := { factory.definition with declarations := declarations id }
          status := .compiling } := by
      simp [Registry.redeclared, put, List.mapIdx_set]
    rwa [commutes] at ih

/-! ### Compiling in a registry that is reached -/

/-- Going up from a factory, compiling gets to a parent's name that is not registered. -/
def Dangles (registry : Registry) (id : FactoryId) (ref : String) : Prop :=
  ∃ last factory, ReflTransGen registry.Climbs id last ∧ registry.factory? last = some factory ∧
    factory.status = .unsealed ∧ factory.parentName? = some ref ∧
      registry.names.lookup ref = none

variable {history : History}

/-- A walk up that gets to a name that is not registered ends there. -/
theorem Dangles.ends (reached : history.Reached) (dangles : history.registry.Dangles id ref) :
    ∃ last factory, EndsAt history.registry.Climbs id last ∧
      history.registry.factory? last = some factory ∧ factory.status = .unsealed ∧
        factory.parentName? = some ref := by
  obtain ⟨last, factory, walk, found, unsealed, named, unknown⟩ := dangles
  refine ⟨last, factory, ⟨walk, ?_⟩, found, unsealed, named⟩
  rintro parent ⟨its, other, known, _, refers, registered⟩
  rw [found] at known
  cases known
  rw [named] at refers
  cases refers
  rw [findText_eq_ok, (reached.canonical found).parentName? named, unknown] at registered
  cases registered

/-- A walk up gets to one name at most that is not registered. -/
theorem Dangles.unique (reached : history.Reached) {other : String}
    (dangles : history.registry.Dangles id ref) (again : history.registry.Dangles id other) :
    other = ref := by
  obtain ⟨last, factory, ends, found, _, named⟩ := dangles.ends reached
  obtain ⟨last', factory', ends', found', _, named'⟩ := again.ends reached
  obtain rfl := Walk.endsAt_unique (Leads.rightUnique _ _) ends ends'
  rw [found] at found'
  cases found'
  rw [named] at named'
  cases named'
  rfl

/-- An uncompiled factory with which compiling can begin has no parent. -/
theorem Begins.orphan (top : registry.Begins last)
    (found : registry.factory? last = some factory) (unsealed : factory.status = .unsealed) :
    factory.parentName? = none := by
  obtain ⟨list, compiled⟩ | ⟨_, orphan⟩ := top factory found
  · rw [unsealed] at compiled
    cases compiled
  · exact orphan

/-- Where compiling can begin, the walk up ends. -/
theorem Begins.endsAt (top : registry.Begins last) (walk : ReflTransGen registry.Climbs id last) :
    EndsAt registry.Climbs id last := by
  refine ⟨walk, ?_⟩
  rintro parent ⟨factory, ref, found, unsealed, named, _⟩
  rw [top.orphan found unsealed] at named
  cases named

/-- The outcome of an ascent is what becomes of the walk along parents. -/
theorem Ascent.outcome_eq (reached : history.Reached)
    (ascent : Ascent history.registry id outcome) :
    (outcome = none ∧ ¬ Returns history.registry.Climbs id ∧
      ∀ ref, ¬ history.registry.Dangles id ref) ∨
    (∃ name chain, outcome = some (.compileCycle name chain) ∧
      history.registry.ClosedWalk chain ∧ Returns history.registry.Climbs id ∧
        ∀ ref, ¬ history.registry.Dangles id ref) ∨
    ∃ ref, outcome = some (.notFound .factory ref) ∧ ¬ Returns history.registry.Climbs id ∧
      ∀ other, history.registry.Dangles id other ↔ other = ref := by
  have unique := Leads.rightUnique history.registry fun factory => factory.status = .unsealed
  obtain ⟨last, walk, stops⟩ := ascent.stops
  cases stops with
  | begins top =>
    have ends := top.endsAt walk
    refine .inl ⟨rfl, Walk.not_returns unique ends, fun ref dangles => ?_⟩
    obtain ⟨other, factory, ends', found, unsealed, named⟩ := dangles.ends reached
    obtain rfl := Walk.endsAt_unique unique ends ends'
    rw [top.orphan found unsealed] at named
    cases named
  | @again factory found round =>
    have cycle : TransGen history.registry.Climbs last last :=
      round.resolve_left (reached.calm.settled found)
    obtain ⟨before, _, back⟩ := TransGen.tail'_iff.1 cycle
    obtain ⟨its, known, own⟩ := reached.registered back.findText
    rw [found] at known
    cases known
    obtain ⟨chain, told, closed⟩ := parentChain_of_cycle found own cycle
    have returns : Returns history.registry.Climbs id := ⟨last, walk, cycle⟩
    refine .inr (.inl ⟨factory.name, chain, ?_, closed, returns, fun ref dangles => ?_⟩)
    · rw [cycleFault, told]
    · obtain ⟨other, _, ends, _⟩ := dangles.ends reached
      exact Walk.not_returns unique ends returns
  | @dangling factory ref fault found unsealed named missing =>
    obtain ⟨unknown, rfl⟩ := findText_eq_error.1 missing
    rw [(reached.canonical found).parentName? named] at unknown ⊢
    have dangles : history.registry.Dangles id ref :=
      ⟨last, factory, walk, found, unsealed, named, unknown⟩
    obtain ⟨_, _, ends, _⟩ := dangles.ends reached
    refine .inr (.inr ⟨ref, rfl, Walk.not_returns unique ends, fun other => ⟨?_, ?_⟩⟩)
    · exact dangles.unique reached
    · rintro rfl
      exact dangles

/-- Compiling a factory fails with a cycle exactly if the walk along its parents, as far as they are
uncompiled, comes back, and it misses a factory exactly if the walk gets to a name that is not
registered; any other failure is that declarations are refused. The chain that is told with a cycle
is a closed walk. In both cases nothing changes, and nothing depends on what is declared. -/
theorem compile_along_parents (reached : history.Reached) (id : FactoryId) :
    let result := (history.registry.compile id).1
    let comesBack := Returns history.registry.Climbs id
    ((∃ name chain, result = .error (.compileCycle name chain)) ↔ comesBack) ∧
    (∀ ref, result = .error (.notFound .factory ref) ↔ history.registry.Dangles id ref) ∧
    (∀ fault, result = .error fault → fault.isRefusal ∨ comesBack ∨
      ∃ ref, history.registry.Dangles id ref) ∧
    (∀ name chain, result = .error (.compileCycle name chain) →
      history.registry.ClosedWalk chain) ∧
    ((comesBack ∨ ∃ ref, history.registry.Dangles id ref) →
      (history.registry.compile id).2 = history.registry ∧
        ∀ declarations, (history.registry.redeclared declarations).compile id =
          (result, history.registry.redeclared declarations)) := by
  intro result comesBack
  obtain ⟨outcome, ascent⟩ := Ascent.total history.registry id
  have unchanged : ∀ {fault}, outcome = some fault →
      result = .error fault ∧ (history.registry.compile id).2 = history.registry ∧
        ∀ declarations, (history.registry.redeclared declarations).compile id =
          (result, history.registry.redeclared declarations) := by
    intro fault failed
    have compiled := ascent.compile_eq failed
    have same : result = .error fault := congrArg Prod.fst compiled
    refine ⟨same, congrArg Prod.snd compiled, fun declarations => ?_⟩
    rw [same]
    exact ascent.redeclared.compile_eq failed
  obtain ⟨begins, away, known⟩ | ⟨name, chain, failed, closed, returns, known⟩ |
    ⟨ref, failed, away, missed⟩ := ascent.outcome_eq reached
  · have refusal : ∀ {fault}, result = .error fault → fault.isRefusal :=
      fun failed => ascent.isRefusal begins failed
    refine ⟨⟨?_, fun returns => absurd returns away⟩, fun ref => ⟨fun failed => ?_, fun dangles =>
      absurd dangles (known ref)⟩, fun fault failed => .inl (refusal failed), ?_, ?_⟩
    · rintro ⟨name, chain, failed⟩
      cases refusal failed
    · cases refusal failed
    · intro name chain failed
      cases refusal failed
    · rintro (returns | ⟨ref, dangles⟩)
      · exact absurd returns away
      · exact absurd dangles (known ref)
  · obtain ⟨same, still, redeclared⟩ := unchanged failed
    refine ⟨⟨fun _ => returns, fun _ => ⟨name, chain, same⟩⟩, fun ref => ⟨fun other => ?_,
      fun dangles => absurd dangles (known ref)⟩, fun _ _ => .inr (.inl returns), ?_,
      fun _ => ⟨still, redeclared⟩⟩
    · rw [same] at other
      cases other
    · intro other told failed
      rw [same] at failed
      cases failed
      exact closed
  · obtain ⟨same, still, redeclared⟩ := unchanged failed
    refine ⟨⟨?_, fun returns => absurd returns away⟩, fun other => ?_,
      fun _ _ => .inr (.inr ⟨ref, (missed ref).2 rfl⟩), ?_, fun _ => ⟨still, redeclared⟩⟩
    · rintro ⟨name, chain, failed⟩
      rw [same] at failed
      cases failed
    · rw [same, missed]
      constructor
      · rintro ⟨⟩
        rfl
      · rintro rfl
        rfl
    · intro name chain failed
      rw [same] at failed
      cases failed

/-- Two factories that are each other's parent, and one whose parent does not exist. -/
theorem compile_along_parents_mutual :
    ∃ history : History, history.Reached ∧
      (∃ name chain, (history.registry.compile 0).1 = .error (.compileCycle name chain) ∧
        history.registry.ClosedWalk chain) ∧
      (history.registry.compile 2).1 = .error (.notFound .factory "nobody") := by
  let user := History.blank.define (.text "user") [(.text "parent", .text "guest")]
  let guest := user.define (.text "guest") [(.text "parent", .text "user")]
  let orphan := guest.define (.text "orphan") [(.text "parent", .text "nobody")]
  have reached : orphan.Reached :=
    ((History.reached_blank.define _ _).define _ _).define _ _
  have isUnsealed : ∀ factory : Factory, factory.status.isUnsealed = true →
      factory.status = .unsealed := by
    intro factory unsealed
    cases status : factory.status <;> simp [status, Status.isUnsealed] at unsealed ⊢
  have climbs : ∀ {id parent ref}, ((orphan.registry.factory? id).filter
      fun factory => factory.status.isUnsealed).bind Factory.parentName? = some ref →
      orphan.registry.names.lookup (Name.ofText ref) = some parent →
      orphan.registry.Climbs id parent :=
    fun refers registered => .of_ref isUnsealed refers registered
  have up : orphan.registry.Climbs 0 1 :=
    climbs (show _ = some "guest" by decide +kernel) (by decide +kernel)
  have back : orphan.registry.Climbs 1 0 :=
    climbs (show _ = some "user" by decide +kernel) (by decide +kernel)
  have returns : Returns orphan.registry.Climbs 0 := ⟨0, .refl, .tail (.single up) back⟩
  have refers : ((orphan.registry.factory? 2).filter
      fun factory => factory.status.isUnsealed).bind Factory.parentName? = some "nobody" := by
    decide +kernel
  have dangles : orphan.registry.Dangles 2 "nobody" := by
    obtain ⟨factory, there, named⟩ := Option.bind_eq_some_iff.1 refers
    obtain ⟨found, unsealed⟩ := Option.filter_eq_some_iff.1 there
    exact ⟨2, factory, .refl, found, isUnsealed factory unsealed, named, by decide +kernel⟩
  obtain ⟨cycles, _, _, closed, _⟩ := compile_along_parents reached 0
  obtain ⟨name, chain, failed⟩ := cycles.2 returns
  exact ⟨orphan, reached, ⟨name, chain, failed, closed name chain failed⟩,
    ((compile_along_parents reached 2).2.1 "nobody").2 dangles⟩

end Registry

end Blueprint
