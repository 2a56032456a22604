import Blueprint.Proofs.Build.Step
import Blueprint.Proofs.Registry.Linked

/-!
# Default strategies

A factory is meant to follow the strategy that it declares, or else the one declared nearest along
its parents, or else that of the configuration. It takes over its parent's strategy when it is
compiled. Asked before that, as a run without a strategy does, it knows only of its own.
-/
namespace Blueprint

namespace Registry

/-- The strategy of a declaration, or else that of the configuration. -/
def chosen (registry : Registry) (declared : Option Strategy) : Except Fault Strategy :=
  match declared with
  | some strategy => .ok strategy
  | none => do Strategy.ofValue (.text (← registry.settings.defaultStrategy))

/-- The strategy of a factory is what it holds, or else that of the configuration. -/
theorem strategyOf_eq_chosen {registry : Registry} {id : FactoryId} {factory : Factory}
    (found : registry.factory? id = some factory) :
    registry.strategyOf id = registry.chosen factory.strategy := by
  rw [strategyOf, found, Option.bind_some]
  cases factory.strategy <;> rfl

/-- Moves keep what is chosen. -/
theorem Moves.chosen_eq {registry after : Registry} (moves : Moves registry after)
    (declared : Option Strategy) : after.chosen declared = registry.chosen declared := by
  unfold chosen
  rw [moves.settings_eq]

end Registry

open Registry

/-! ### The nearest declaration -/

/-- The strategy declared nearest to a factory along its parents, if one is declared. `made` holds
each factory as it was made. -/
inductive Nearest (made : List Factory) (registry : Registry) :
    FactoryId → Option Strategy → Prop where
  /-- The factory declares a strategy itself. -/
  | own {id : FactoryId} {factory : Factory} {strategy : Strategy}
      (known : made[id]? = some factory) (declared : factory.strategy = some strategy) :
      Nearest made registry id (some strategy)
  /-- It declares none, and names no parent. -/
  | root {id : FactoryId} {factory : Factory} (known : made[id]? = some factory)
      (undeclared : factory.strategy = none) (orphan : factory.parentName? = none) :
      Nearest made registry id none
  /-- It declares none, and names a parent. -/
  | parent {id parentId : FactoryId} {factory : Factory} {ref : String}
      {nearest : Option Strategy} (known : made[id]? = some factory)
      (undeclared : factory.strategy = none) (named : factory.parentName? = some ref)
      (found : registry.findText ref = .ok parentId)
      (above : Nearest made registry parentId nearest) :
      Nearest made registry id nearest

namespace Nearest

variable {made : List Factory} {registry after : Registry} {id : FactoryId}
  {nearest other : Option Strategy}

/-- One declaration at most is the nearest. -/
theorem unique (near : Nearest made registry id nearest) (near' : Nearest made registry id other) :
    nearest = other := by
  induction near with
  | own known declared => cases near' <;> simp_all
  | root known undeclared orphan => cases near' <;> simp_all
  | parent known undeclared named found _ ih =>
    cases near' with
    | own known' declared => simp_all
    | root known' _ orphan => simp_all
    | parent known' _ named' found' above =>
      obtain rfl := Option.some.inj (known.symm.trans known')
      obtain rfl := Option.some.inj (named.symm.trans named')
      obtain rfl := Except.ok.inj (found.symm.trans found')
      exact ih above

/-- The nearest declaration stays so in every move. -/
theorem move (near : Nearest made registry id nearest) (move : Move registry after) :
    Nearest made after id nearest := by
  induction near with
  | own known declared => exact .own known declared
  | root known undeclared orphan => exact .root known undeclared orphan
  | parent known undeclared named found _ ih =>
    exact .parent known undeclared named
      (findText_eq_ok.2 (move.lookup (findText_eq_ok.1 found))) ih

/-- The nearest declaration stays so in moves. -/
theorem moves (near : Nearest made registry id nearest) (moves : Moves registry after) :
    Nearest made after id nearest := by
  induction moves with
  | refl => exact near
  | tail _ step ih => exact ih.move step

/-- The nearest declaration is the same wherever names mean the same. -/
theorem congr (near : Nearest made registry id nearest)
    (same : ∀ ref, after.findText ref = registry.findText ref) : Nearest made after id nearest := by
  induction near with
  | own known declared => exact .own known declared
  | root known undeclared orphan => exact .root known undeclared orphan
  | parent known undeclared named found _ ih =>
    exact .parent known undeclared named ((same _).trans found) ih

/-- The nearest declaration stays so when another factory is made. -/
theorem add (near : Nearest made registry id nearest) (factory : Factory) :
    Nearest (made ++ [factory]) (registry.add factory).1 id nearest := by
  have still : ∀ {id : FactoryId} {old : Factory}, made[id]? = some old →
      (made ++ [factory])[id]? = some old := by
    intro id old known
    obtain ⟨inside, _⟩ := List.getElem?_eq_some_iff.1 known
    exact (List.getElem?_append_left inside).trans known
  induction near with
  | own known declared => exact .own (still known) declared
  | root known undeclared orphan => exact .root (still known) undeclared orphan
  | parent known undeclared named found _ ih =>
    exact .parent (still known) undeclared named found ih

end Nearest

/-! ### What a factory takes over -/

/-- A factory holds the strategy that it declared as it was made, and from the moment it has
inherited the one declared nearest. -/
structure Takes (made : List Factory) (registry : Registry) (id : FactoryId)
    (origin factory : Factory) : Prop where
  /-- It was made so. -/
  known : made[id]? = some origin
  /-- Its options are those that it was made with. -/
  options : origin.SameOptions factory
  /-- It keeps what it declares itself. -/
  declared : ∀ {strategy}, origin.strategy = some strategy → factory.strategy = some strategy
  /-- Until it has inherited it holds nothing else. -/
  unlinked : factory.parent = none → factory.strategy = origin.strategy
  /-- Once it has inherited it holds what is declared nearest. -/
  linked : factory.parent.isSome → Nearest made registry id factory.strategy

namespace Takes

variable {made : List Factory} {registry after : Registry} {id : FactoryId}
  {origin factory later : Factory}

/-- A factory without its parent's name holds the nearest strategy, and so does a compiled one. -/
theorem nearest (takes : Takes made registry id origin factory) (linked : registry.Linked factory)
    (ready : factory.parentName? = none ∨ factory.parent.isSome) :
    Nearest made registry id factory.strategy := by
  obtain orphan | its := ready
  · have alone : factory.parent = none := by
      cases its : factory.parent with
      | none => rfl
      | some parentId =>
        obtain ⟨ref, _, _, named, _⟩ := linked.parent its
        rw [orphan] at named
        cases named
    rw [takes.unlinked alone]
    rw [takes.options.parentName?] at orphan
    cases declared : origin.strategy with
    | none => exact .root takes.known declared orphan
    | some strategy => exact .own takes.known declared
  · exact takes.linked its

/-- A compiled factory holds the nearest strategy. -/
theorem nearest_of_sealed {list : AttributeList} (takes : Takes made registry id origin factory)
    (linked : registry.Linked factory) (compiled : factory.status = .sealed list) :
    Nearest made registry id factory.strategy := by
  refine takes.nearest linked ?_
  cases named : factory.parentName? with
  | none => exact .inl rfl
  | some ref => exact .inr (linked.inherited compiled named)

/-- A factory holds the nearest strategy, unless it has neither declared nor inherited one. -/
theorem strategy_eq_or {nearest : Option Strategy} (takes : Takes made registry id origin factory)
    (near : Nearest made registry id nearest) :
    factory.strategy = nearest ∨
      (factory.strategy = none ∧ origin.strategy = none ∧ factory.parent = none) := by
  cases declared : origin.strategy with
  | some strategy =>
    have own : Nearest made registry id (some strategy) := .own takes.known declared
    exact .inl ((takes.declared declared).trans (own.unique near))
  | none =>
    cases its : factory.parent with
    | none => exact .inr ⟨(takes.unlinked its).trans declared, rfl, rfl⟩
    | some parentId =>
      have held := takes.linked (by rw [its]; rfl)
      exact .inl (held.unique near)

/-- What a factory is meant to follow is what it holds, just if it has declared or inherited a
strategy, or there is none to inherit, or the one to inherit is that of the configuration anyway. -/
theorem chosen_eq_iff {nearest : Option Strategy} (takes : Takes made registry id origin factory)
    (near : Nearest made registry id nearest) :
    registry.chosen factory.strategy = registry.chosen nearest ↔
      origin.strategy.isSome ∨ factory.parent.isSome ∨ nearest = none ∨
        registry.chosen nearest = registry.chosen none := by
  obtain held | ⟨held, undeclared, alone⟩ := takes.strategy_eq_or near
  · rw [held]
    refine ⟨fun _ => ?_, fun _ => rfl⟩
    cases declared : origin.strategy with
    | some strategy => exact .inl rfl
    | none =>
      cases its : factory.parent with
      | some parentId => exact .inr (.inl rfl)
      | none => exact .inr (.inr (.inl (held.symm.trans ((takes.unlinked its).trans declared))))
  · rw [held, undeclared, alone]
    constructor
    · exact fun same => .inr (.inr (.inr same.symm))
    · rintro (none_ | none_ | rfl | same)
      · cases none_
      · cases none_
      · rfl
      · exact same.symm

/-- A factory that changes nothing but what is not read here takes over as before. -/
theorem congr (takes : Takes made registry id origin factory) (same : factory.SameOptions later)
    (strategy : later.strategy = factory.strategy) (parent : later.parent = factory.parent) :
    Takes made registry id origin later := by
  refine ⟨takes.known, takes.options.trans same, ?_, ?_, ?_⟩
  · rw [strategy]
    exact takes.declared
  · rw [strategy, parent]
    exact takes.unlinked
  · rw [strategy, parent]
    exact takes.linked

/-- A factory that inherits takes over the nearest strategy. -/
theorem inherited {parent parentOrigin : Factory} {ref : String} {parentId : FactoryId}
    {list : AttributeList} (takes : Takes made registry id origin factory)
    (named : factory.parentName? = some ref) (found : registry.findText ref = .ok parentId)
    (above : Takes made registry parentId parentOrigin parent) (linked : registry.Linked parent)
    (compiled : parent.status = .sealed list) :
    Takes made registry id origin (Registry.inherited factory parent parentId) := by
  refine ⟨takes.known, takes.options.trans ⟨rfl, rfl, rfl, rfl⟩, ?_, ?_, fun _ => ?_⟩
  · intro strategy declared
    show (factory.strategy <|> parent.strategy) = some strategy
    rw [takes.declared declared]
    rfl
  · intro alone
    cases alone
  · show Nearest made registry id (factory.strategy <|> parent.strategy)
    cases held : factory.strategy with
    | none =>
      -- what it holds it has not declared itself, so that the parent decides
      have undeclared : origin.strategy = none := by
        cases declared : origin.strategy with
        | none => rfl
        | some strategy =>
          have kept := takes.declared declared
          rw [held] at kept
          cases kept
      rw [takes.options.parentName?] at named
      exact .parent takes.known undeclared named found (above.nearest_of_sealed linked compiled)
    | some strategy =>
      show Nearest made registry id (some strategy)
      rw [← held]
      cases its : factory.parent with
      | some earlier => exact takes.linked (by rw [its]; rfl)
      | none =>
        have own := takes.unlinked its
        rw [held] at own ⊢
        exact .own takes.known own.symm

end Takes

namespace History

variable {history : History}

/-- In a registry that is reached every factory is linked and takes over as it should. -/
theorem Reached.takes (reached : history.Reached) {id : FactoryId} {factory : Factory}
    (found : history.registry.factory? id = some factory) :
    ∃ origin, Takes history.made history.registry id origin factory := by
  have all := reached.each (fun made registry id factory =>
    registry.Linked factory ∧ ∃ origin, Takes made registry id origin factory) ?_ ?_ ?_ ?_ found
  · exact all.2
  · intro made registry factory new length
    refine ⟨.of_isNew new, factory, ⟨?_, .refl factory, fun declared => declared, fun _ => rfl, ?_⟩⟩
    · rw [← length]
      exact List.getElem?_concat_length
    · rw [new.parent]
      intro its
      cases its
  · rintro made registry id factory other ⟨linked, origin, takes⟩
    refine ⟨linked.add other, origin, ⟨?_, takes.options, takes.declared, takes.unlinked, ?_⟩⟩
    · obtain ⟨inside, _⟩ := List.getElem?_eq_some_iff.1 takes.known
      exact (List.getElem?_append_left inside).trans takes.known
    · exact fun its => (takes.linked its).add other
  · rintro made registry after id factory move ⟨linked, origin, takes⟩
    exact ⟨linked.move move, origin, takes.known, takes.options, takes.declared, takes.unlinked,
      fun its => (takes.linked its).move move⟩
  · rintro made registry id factory later turn each ⟨linked, origin, takes⟩
    refine ⟨linked.turn turn, origin, ?_⟩
    cases turn with
    | edited => exact takes.congr ⟨rfl, rfl, rfl, rfl⟩ rfl rfl
    | permitted => exact takes.congr ⟨rfl, rfl, rfl, rfl⟩ rfl rfl
    | started => exact takes.congr ⟨rfl, rfl, rfl, rfl⟩ rfl rfl
    | followed => exact takes.congr ⟨rfl, rfl, rfl, rfl⟩ rfl rfl
    | completed => exact takes.congr ⟨rfl, rfl, rfl, rfl⟩ rfl rfl
    | abandoned => exact takes.congr ⟨rfl, rfl, rfl, rfl⟩ rfl rfl
    | classed => exact takes.congr ⟨rfl, rfl, rfl, rfl⟩ rfl rfl
    | inherited compiling named registered known compiled =>
      obtain ⟨linkedParent, parentOrigin, above⟩ := each _ _ known
      exact takes.inherited named registered above linkedParent compiled

/-- A compiled factory of a registry that is reached follows the strategy declared nearest. -/
theorem Reached.strategyOf_of_sealed (reached : history.Reached) {id : FactoryId}
    {factory : Factory} {list : AttributeList} {nearest : Option Strategy}
    (found : history.registry.factory? id = some factory) (compiled : factory.status = .sealed list)
    (near : Nearest history.made history.registry id nearest) :
    history.registry.strategyOf id = history.registry.chosen nearest := by
  obtain ⟨origin, takes⟩ := reached.takes found
  have held := takes.nearest_of_sealed (reached.linked found) compiled
  rw [strategyOf_eq_chosen found, held.unique near]

end History

/-! ### Runs without a strategy -/

/-- A run without a strategy is a run with the strategy that the factory holds. -/
theorem Runner.named_null {runner : Runner} {name : Value} {id : FactoryId} {world : World}
    (registered : world.registry.find name = .ok id) (overrides : Dict) :
    (runner.named name .null overrides).run world =
      match world.registry.strategyOf id with
      | .ok strategy => (runner.named name (.strategy strategy) overrides).run world
      | .error fault => (.error fault, world) := by
  unfold Runner.named
  rw [run_bind, Build.run_ask, registered]
  simp only
  rw [run_bind, Build.run_ask]
  cases world.registry.strategyOf id with
  | error fault => rfl
  | ok strategy =>
    simp only
    rw [run_bind, Build.run_ask, registered]

namespace History

variable {history : History} {id : FactoryId}

/-- Where the parents of a factory compile, one declaration is the nearest, if there is one. -/
theorem Reached.exists_nearest (reached : history.Reached) {factory : Factory}
    (found : history.registry.factory? id = some factory)
    (compiles : (history.registry.compile id).1 = .ok ()) :
    ∃ nearest, Nearest history.made history.registry id nearest := by
  obtain ⟨compiled, done⟩ := compiles_compile history.registry id reached.bound
  obtain ⟨later, there, _⟩ := compiled.kept found
  obtain ⟨list, status⟩ := done compiles later there
  have reachedAfter : (history.withRegistry (history.registry.compile id).2).Reached :=
    reached.tail (.compiled id)
  obtain ⟨origin, takes⟩ := reachedAfter.takes there
  have near := takes.nearest_of_sealed (reachedAfter.linked there) status
  exact ⟨later.strategy, near.congr fun ref => (compiled.findText_eq ref).symm⟩

/-- After a run, which compiles its factory, the factory follows the strategy declared nearest. -/
theorem Reached.strategyOf_after_run (reached : history.Reached) {factory : Factory}
    {nearest : Option Strategy} (found : history.registry.factory? id = some factory)
    (compiles : (history.registry.compile id).1 = .ok ())
    (near : Nearest history.made history.registry id nearest) {world : World}
    (same : world.registry = history.registry) (choice : Value) (overrides : Dict) :
    ((Runner.standard id choice overrides).run world).2.registry.strategyOf id =
      history.registry.chosen nearest := by
  obtain ⟨compiled, done⟩ := compiles_compile history.registry id reached.bound
  obtain ⟨middle, there, _⟩ := compiled.kept found
  obtain ⟨list, status⟩ := done compiles middle there
  -- the run goes on from the compiled factory in moves, which keep it compiled
  have steps := Runner.steps_standard id choice overrides world
  rw [same] at steps
  have onward := moves_of_steps steps (compiled.moves.keeps_bound reached.bound)
  obtain ⟨last, here, still⟩ := onward.factory?_of_sealed there status
  have moves := compiled.moves.trans onward
  have held := (reached.run same id choice overrides).strategyOf_of_sealed here still
    (near.moves moves)
  exact held.trans (Moves.chosen_eq moves nearest)

end History

/-- Asked for no strategy, a run of a factory whose parents compile follows the strategy that the
factory holds. That is the one declared nearest, by the factory itself or along its parents, or else
the one of the configuration, just if the factory declares one itself, or has inherited already, or
none is declared, or the one declared nearest is that of the configuration. After any run of the
factory it is the one declared nearest in all cases. -/
theorem default_strategy_nearest_iff {history : History} (reached : history.Reached) {name : Value}
    {id : FactoryId} (registered : history.registry.find name = .ok id)
    (compiles : (history.registry.compile id).1 = .ok ()) :
    ∃ nearest origin factory, Nearest history.made history.registry id nearest ∧
      history.made[id]? = some origin ∧ history.registry.factory? id = some factory ∧
      (history.registry.strategyOf id = history.registry.chosen nearest ↔
        origin.strategy.isSome ∨ factory.parent.isSome ∨ nearest = none ∨
          history.registry.chosen nearest = history.registry.chosen none) ∧
      ∀ (world : World) (overrides : Dict), world.registry = history.registry →
        (∀ runner : Runner, (runner.named name .null overrides).run world =
          match history.registry.strategyOf id with
          | .ok strategy => (runner.named name (.strategy strategy) overrides).run world
          | .error fault => (.error fault, world)) ∧
        ∀ choice, ((Runner.standard id choice overrides).run world).2.registry.strategyOf id =
          history.registry.chosen nearest := by
  obtain ⟨factory, found⟩ := reached.factory?_of_find registered
  obtain ⟨nearest, near⟩ := reached.exists_nearest found compiles
  obtain ⟨origin, takes⟩ := reached.takes found
  refine ⟨nearest, origin, factory, near, takes.known, found, ?_, ?_⟩
  · rw [strategyOf_eq_chosen found]
    exact takes.chosen_eq_iff near
  · intro world overrides same
    refine ⟨fun runner => ?_, fun choice => ?_⟩
    · rw [← same] at registered ⊢
      exact Runner.named_null registered overrides
    · exact reached.strategyOf_after_run found compiles near same choice overrides

/-- A registry with a user that is built by default, and a guest that inherits from it. -/
def guestHistory : History :=
  let empty : History := { registry := { settings := ⟨.dict []⟩, nextStub := 1001 } }
  let user := empty.define (.text "user") [(.text "default_strategy", .text "build")]
  let guest := user.define (.text "guest") [(.text "parent", .text "user")]
  guest.registerModel "User" "user"

/-- The registry with the guest is reached. -/
theorem guestHistory_reached : guestHistory.Reached := by
  have created : Registry.create ⟨.dict []⟩ =
      .ok { settings := ⟨.dict []⟩, nextStub := 1001 } := rfl
  exact (((History.Reached.start created).define _ _).define _ _).registerModel _ _

/-- The strategy declared nearest to the guest is the user's. -/
theorem guestHistory_nearest :
    Nearest guestHistory.made guestHistory.registry 1 (some .build) := by
  have user : guestHistory.made[0]?.map Factory.strategy = some (some .build) := by decide +kernel
  have guest : guestHistory.made[1]?.map (fun factory => (factory.strategy, factory.parentName?)) =
      some (none, some "user") := by decide +kernel
  have found : guestHistory.registry.findText "user" = .ok 0 :=
    findText_eq_ok.2 (by decide +kernel)
  obtain ⟨userMade, userKnown, declared⟩ := Option.map_eq_some_iff.1 user
  obtain ⟨guestMade, guestKnown, both⟩ := Option.map_eq_some_iff.1 guest
  obtain ⟨undeclared, named⟩ := Prod.mk.inj both
  exact .parent guestKnown undeclared named found (.own userKnown declared)

/-- The guest's names and parents are in order, so that it compiles. -/
theorem guestHistory_compiles : guestHistory.registry.find (.text "guest") = .ok 1 ∧
    (guestHistory.registry.compile 1).1 = .ok () :=
  ⟨find_eq_ok.2 (by decide +kernel), eq_ok_of_toOption (by decide +kernel)⟩

/-- In the registry with the guest, the strategy of the configuration is not the one declared
nearest, and the guest has not inherited yet, so that it does not follow the latter. -/
theorem default_strategy_nearest_guest :
    guestHistory.Reached ∧ guestHistory.registry.find (.text "guest") = .ok 1 ∧
      (guestHistory.registry.compile 1).1 = .ok () ∧
      ∃ nearest origin factory, Nearest guestHistory.made guestHistory.registry 1 nearest ∧
        guestHistory.made[1]? = some origin ∧ guestHistory.registry.factory? 1 = some factory ∧
        (guestHistory.registry.strategyOf 1 = guestHistory.registry.chosen nearest ↔
          origin.strategy.isSome ∨ factory.parent.isSome ∨ nearest = none ∨
            guestHistory.registry.chosen nearest = guestHistory.registry.chosen none) := by
  obtain ⟨registered, compiles⟩ := guestHistory_compiles
  obtain ⟨nearest, origin, factory, near, known, found, iff, _⟩ :=
    default_strategy_nearest_iff guestHistory_reached registered compiles
  exact ⟨guestHistory_reached, registered, compiles, nearest, origin, factory, near, known, found,
    iff⟩

/-- The world of the registry with the guest. -/
def guestWorld : World :=
  { registry := guestHistory.registry, models := [("User", { name := "User" })] }

/-- Runs of the guest. -/
def runGuest (strategy : Value) : World → Except Fault Value × World :=
  (Runner.standard.named (.text "guest") strategy []).run

/-- Whether an outcome is an instance that is saved, if it is an instance. -/
def saved? : Except Fault Value → Option Bool
  | .ok (.object _ _ persisted _) => some persisted
  | _ => none

/-- The first run of the guest without a strategy creates it, although the strategy declared nearest
is to build it; the second one builds it. -/
theorem default_strategy_of_new_guest :
    guestHistory.Reached ∧ guestHistory.registry.find (.text "guest") = .ok 1 ∧
      (guestHistory.registry.compile 1).1 = .ok () ∧
      Nearest guestHistory.made guestHistory.registry 1 (some .build) ∧
      saved? (runGuest .null guestWorld).1 = some true ∧
      saved? (runGuest (.strategy .build) guestWorld).1 = some false ∧
      saved? (runGuest .null (runGuest .null guestWorld).2).1 = some false := by
  obtain ⟨registered, compiles⟩ := guestHistory_compiles
  refine ⟨guestHistory_reached, registered, compiles, guestHistory_nearest, ?_, ?_, ?_⟩
  · decide +kernel
  · decide +kernel
  · decide +kernel

end Blueprint
