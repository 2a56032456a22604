import Blueprint.Proofs.Build.Job
import Blueprint.Proofs.Registry.Tables
import Blueprint.Proofs.Registry.Used

/-!
# Model classes

A factory is meant to have the model class that it gives, or else the one given nearest along its
parents, or else the one named like the last of them. It takes over what identifies the class when
it is compiled, but it keeps the class that was looked up first. Asked before it has inherited, it
keeps the class that is registered under its own name, if there is one.
-/
namespace Blueprint

open Registry

/-! ### Where a class comes from -/

/-- What identifies a model class is never missing. -/
theorem Factory.classIdentifier_ne_null (factory : Factory) : factory.classIdentifier ≠ .null := by
  unfold classIdentifier
  split
  · exact Value.noConfusion
  · assumption

/-- A factory that gives a class is identified by it. -/
theorem Factory.classIdentifier_of_given {factory : Factory} (given : factory.identifier ≠ .null) :
    factory.classIdentifier = factory.identifier := by
  unfold classIdentifier
  split
  · contradiction
  · rfl

/-- A factory that gives no class is identified by its name. -/
theorem Factory.classIdentifier_of_null {factory : Factory} (silent : factory.identifier = .null) :
    factory.classIdentifier = .text factory.name := by
  rw [classIdentifier, silent]

/-- The factory, as it was made, that decides on the model class of a factory: the first one along
the parents that gives a class, or else the last one. `made` holds each factory as it was made. -/
inductive Decides (made : List Factory) (registry : Registry) : FactoryId → Factory → Prop where
  /-- The factory decides itself. -/
  | own {id : FactoryId} {factory : Factory} (known : made[id]? = some factory)
      (last : factory.identifier ≠ .null ∨ factory.parentName? = none) :
      Decides made registry id factory
  /-- It gives no class, and names a parent. -/
  | parent {id parentId : FactoryId} {factory source : Factory} {ref : String}
      (known : made[id]? = some factory) (silent : factory.identifier = .null)
      (named : factory.parentName? = some ref) (found : registry.findText ref = .ok parentId)
      (above : Decides made registry parentId source) : Decides made registry id source

namespace Decides

variable {made : List Factory} {registry after : Registry} {id : FactoryId} {source other : Factory}

/-- One factory at most decides. -/
theorem unique (decides : Decides made registry id source)
    (decides' : Decides made registry id other) : source = other := by
  induction decides with
  | own known last =>
    cases decides' with
    | own known' _ => exact Option.some.inj (known.symm.trans known')
    | parent known' silent named _ _ =>
      obtain rfl := Option.some.inj (known.symm.trans known')
      obtain given | orphan := last
      · exact absurd silent given
      · rw [orphan] at named
        cases named
  | parent known silent named found _ ih =>
    cases decides' with
    | own known' last =>
      obtain rfl := Option.some.inj (known.symm.trans known')
      obtain given | orphan := last
      · exact absurd silent given
      · rw [orphan] at named
        cases named
    | parent known' _ named' found' above =>
      obtain rfl := Option.some.inj (known.symm.trans known')
      obtain rfl := Option.some.inj (named.symm.trans named')
      obtain rfl := Except.ok.inj (found.symm.trans found')
      exact ih above

/-- The factory that decides goes on to decide in every move. -/
theorem move (decides : Decides made registry id source) (move : Move registry after) :
    Decides made after id source := by
  induction decides with
  | own known last => exact .own known last
  | parent known silent named found _ ih =>
    exact .parent known silent named (findText_eq_ok.2 (move.lookup (findText_eq_ok.1 found))) ih

/-- The factory that decides goes on to decide when another one is made. -/
theorem add (decides : Decides made registry id source) (factory : Factory) :
    Decides (made ++ [factory]) (registry.add factory).1 id source := by
  have still : ∀ {id : FactoryId} {old : Factory}, made[id]? = some old →
      (made ++ [factory])[id]? = some old := by
    intro id old known
    obtain ⟨inside, _⟩ := List.getElem?_eq_some_iff.1 known
    exact (List.getElem?_append_left inside).trans known
  induction decides with
  | own known last => exact .own (still known) last
  | parent known silent named found _ ih => exact .parent (still known) silent named found ih

end Decides

/-! ### What a factory takes over -/

/-- A factory identifies its model class as it was made to, and from the moment it has inherited as
the factory does that decides. The class that it keeps is one of these two. -/
structure Identifies (made : List Factory) (registry : Registry) (id : FactoryId)
    (origin factory : Factory) : Prop where
  /-- It was made so. -/
  known : made[id]? = some origin
  /-- Its options are those that it was made with. -/
  options : origin.SameOptions factory
  /-- It keeps the class that it gives itself. -/
  given : origin.identifier ≠ .null → factory.identifier = origin.identifier
  /-- Until it has inherited it has nothing else. -/
  unlinked : factory.parent = none → factory.identifier = origin.identifier
  /-- Once it has inherited it is identified like the factory that decides. -/
  linked : factory.parent.isSome → ∃ source, Decides made registry id source ∧
    factory.classIdentifier = source.classIdentifier
  /-- The class that it keeps is found for what identifies it, or did when it was made. -/
  model : ∀ {model}, factory.model = some model →
    registry.modelFor factory.classIdentifier = .ok model ∨
      registry.modelFor origin.classIdentifier = .ok model

namespace Identifies

variable {made : List Factory} {registry after : Registry} {id : FactoryId}
  {origin factory later : Factory}

/-- A factory that has what identifies it from the start is identified as it was made to be. -/
theorem classIdentifier_eq (identifies : Identifies made registry id origin factory)
    (same : factory.identifier = origin.identifier) :
    factory.classIdentifier = origin.classIdentifier := by
  rw [Factory.classIdentifier, Factory.classIdentifier, same, identifies.options.name]

/-- A compiled factory is identified like the factory that decides. -/
theorem decides_of_sealed {list : AttributeList}
    (identifies : Identifies made registry id origin factory) (linked : registry.Linked factory)
    (compiled : factory.status = .sealed list) :
    ∃ source, Decides made registry id source ∧
      factory.classIdentifier = source.classIdentifier := by
  cases its : factory.parent with
  | some parentId => exact identifies.linked (by rw [its]; rfl)
  | none =>
    refine ⟨origin, .own identifies.known (.inr ?_),
      identifies.classIdentifier_eq (identifies.unlinked its)⟩
    rw [← identifies.options.parentName?]
    cases named : factory.parentName? with
    | none => rfl
    | some ref =>
      have inherited := linked.inherited compiled named
      rw [its] at inherited
      cases inherited

/-- A factory that changes nothing but what is not read here identifies its class as before. -/
theorem congr (identifies : Identifies made registry id origin factory)
    (same : factory.SameOptions later) (identifier : later.identifier = factory.identifier)
    (parent : later.parent = factory.parent) (model : later.model = factory.model) :
    Identifies made registry id origin later := by
  have alike : later.classIdentifier = factory.classIdentifier := by
    rw [Factory.classIdentifier, Factory.classIdentifier, identifier, same.name]
  refine ⟨identifies.known, identifies.options.trans same, ?_, ?_, ?_, ?_⟩
  · rw [identifier]
    exact identifies.given
  · rw [identifier, parent]
    exact identifies.unlinked
  · rw [parent, alike]
    exact identifies.linked
  · rw [model, alike]
    exact identifies.model

/-- A factory whose model class is looked up keeps one that is found for what identifies it. -/
theorem classed {model : Value} (identifies : Identifies made registry id origin factory)
    (found : registry.modelFor factory.classIdentifier = .ok model) :
    Identifies made registry id origin { factory with model := some model } := by
  refine ⟨identifies.known, identifies.options.trans ⟨rfl, rfl, rfl, rfl⟩, identifies.given,
    identifies.unlinked, identifies.linked, ?_⟩
  intro kept same
  cases same
  exact .inl found

/-- A factory that inherits is identified like the factory that decides. -/
theorem inherited {parent parentOrigin : Factory} {ref : String} {parentId : FactoryId}
    {list : AttributeList} (identifies : Identifies made registry id origin factory)
    (named : factory.parentName? = some ref) (found : registry.findText ref = .ok parentId)
    (above : Identifies made registry parentId parentOrigin parent)
    (linked : registry.Linked parent) (compiled : parent.status = .sealed list) :
    Identifies made registry id origin (Registry.inherited factory parent parentId) := by
  have options : origin.SameOptions (Registry.inherited factory parent parentId) :=
    identifies.options.trans ⟨rfl, rfl, rfl, rfl⟩
  by_cases silent : factory.identifier = .null
  · -- the factory gives no class, so that the one of the parent is taken over
    have undecided : origin.identifier = .null := by
      by_contra given
      exact given ((identifies.given given).symm.trans silent)
    have taken : (Registry.inherited factory parent parentId).identifier =
        parent.classIdentifier := by
      rw [Registry.inherited, silent]
    have identified : (Registry.inherited factory parent parentId).classIdentifier =
        parent.classIdentifier := by
      have present : (Registry.inherited factory parent parentId).identifier ≠ .null := by
        rw [taken]
        exact parent.classIdentifier_ne_null
      rw [Factory.classIdentifier_of_given present, taken]
    refine ⟨identifies.known, options, ?_, ?_, fun _ => ?_, ?_⟩
    · exact fun given => absurd undecided given
    · intro alone
      cases alone
    · obtain ⟨source, decides, same⟩ := above.decides_of_sealed linked compiled
      rw [identifies.options.parentName?] at named
      exact ⟨source, .parent identifies.known undecided named found decides, identified.trans same⟩
    · -- what it keeps it has looked up under its own name
      intro model kept
      have own : factory.classIdentifier = origin.classIdentifier :=
        identifies.classIdentifier_eq (silent.trans undecided.symm)
      obtain now | before := identifies.model kept
      · rw [own] at now
        exact .inr now
      · exact .inr before
  · have kept : (Registry.inherited factory parent parentId).identifier = factory.identifier := by
      unfold Registry.inherited
      simp only
    have alike : (Registry.inherited factory parent parentId).classIdentifier =
        factory.classIdentifier := by
      rw [Factory.classIdentifier_of_given (kept ▸ silent), Factory.classIdentifier_of_given silent,
        kept]
    refine ⟨identifies.known, options, ?_, ?_, fun _ => ?_, ?_⟩
    · rw [kept]
      exact identifies.given
    · intro alone
      cases alone
    · rw [alike]
      cases its : factory.parent with
      | some earlier => exact identifies.linked (by rw [its]; rfl)
      | none =>
        have same := identifies.unlinked its
        exact ⟨origin, .own identifies.known (.inl (same ▸ silent)),
          identifies.classIdentifier_eq same⟩
    · rw [alike]
      exact identifies.model

/-- A factory identifies its class as before after a move of the registry. -/
theorem move (identifies : Identifies made registry id origin factory) (move : Move registry after)
    (only : registry.OnlyModels) : Identifies made after id origin factory := by
  refine ⟨identifies.known, identifies.options, identifies.given, identifies.unlinked, ?_, ?_⟩
  · intro linked
    obtain ⟨source, decides, same⟩ := identifies.linked linked
    exact ⟨source, decides.move move, same⟩
  · intro model kept
    obtain now | before := identifies.model kept
    · exact .inl (move.modelFor_eq_ok only now)
    · exact .inr (move.modelFor_eq_ok only before)

/-- A factory identifies its class as before when another one is made. -/
theorem add (identifies : Identifies made registry id origin factory) (other : Factory) :
    Identifies (made ++ [other]) (registry.add other).1 id origin factory := by
  obtain ⟨inside, _⟩ := List.getElem?_eq_some_iff.1 identifies.known
  refine ⟨(List.getElem?_append_left inside).trans identifies.known, identifies.options,
    identifies.given, identifies.unlinked, ?_, identifies.model⟩
  intro linked
  obtain ⟨source, decides, same⟩ := identifies.linked linked
  exact ⟨source, decides.add other, same⟩

end Identifies

namespace History

variable {history later : History} {id : FactoryId} {factory : Factory} {list : AttributeList}

/-- In a registry that is reached nothing but model classes is registered as one. -/
theorem Reached.onlyModels (reached : history.Reached) : history.registry.OnlyModels :=
  fun _ _ found => exists_model_of_lookup reached found

/-- In a registry that is reached every factory identifies its class as it should. -/
theorem Reached.identifies (reached : history.Reached)
    (found : history.registry.factory? id = some factory) :
    ∃ origin, Identifies history.made history.registry id origin factory := by
  have all := reached.each_while Registry.OnlyModels onlyModels_create (fun only => only)
    (fun move only => move.onlyModels only) (fun made registry id factory =>
      registry.Linked factory ∧ ∃ origin, Identifies made registry id origin factory)
    ?_ ?_ ?_ ?_ found
  · exact all.2
  · intro made registry factory new length
    have known : (made ++ [factory])[registry.factories.length]? = some factory := by
      rw [← length]
      exact List.getElem?_concat_length
    refine ⟨.of_isNew new, factory, known, .refl factory, fun _ => rfl, fun _ => rfl, ?_, ?_⟩
    · rw [new.parent]
      intro its
      cases its
    · rw [new.model]
      intro model kept
      cases kept
  · rintro made registry id factory other ⟨linked, origin, identifies⟩
    exact ⟨linked.add other, origin, identifies.add other⟩
  · rintro made registry after id factory move only ⟨linked, origin, identifies⟩
    exact ⟨linked.move move, origin, identifies.move move only⟩
  · rintro made registry id factory later turn each ⟨linked, origin, identifies⟩
    refine ⟨linked.turn turn, origin, ?_⟩
    cases turn with
    | edited => exact identifies.congr ⟨rfl, rfl, rfl, rfl⟩ rfl rfl rfl
    | permitted => exact identifies.congr ⟨rfl, rfl, rfl, rfl⟩ rfl rfl rfl
    | started => exact identifies.congr ⟨rfl, rfl, rfl, rfl⟩ rfl rfl rfl
    | followed => exact identifies.congr ⟨rfl, rfl, rfl, rfl⟩ rfl rfl rfl
    | completed => exact identifies.congr ⟨rfl, rfl, rfl, rfl⟩ rfl rfl rfl
    | abandoned => exact identifies.congr ⟨rfl, rfl, rfl, rfl⟩ rfl rfl rfl
    | classed _ found => exact identifies.classed found
    | inherited compiling named registered known compiled =>
      obtain ⟨linkedParent, parentOrigin, above⟩ := each _ _ known
      exact identifies.inherited named registered above linkedParent compiled

end History

/-! ### The class of a compiled factory -/

namespace Registry

variable {registry after : Registry} {id : FactoryId} {factory later : Factory}
  {list : AttributeList} {model : Value}

/-- A compiled factory keeps its model class in every turn. -/
theorem Turn.classOf_eq_ok (turn : Turn registry id factory later)
    (compiled : factory.status = .sealed list) (has : registry.classOf factory = .ok model) :
    registry.classOf later = .ok model := by
  cases turn with
  | edited unsealed => rw [compiled] at unsealed; cases unsealed
  | started unsealed => rw [compiled] at unsealed; cases unsealed
  | inherited compiling => rw [compiled] at compiling; cases compiling
  | completed compiling => rw [compiled] at compiling; cases compiling
  | abandoned compiling => rw [compiled] at compiling; cases compiling
  | permitted => exact has
  | followed => exact has
  | classed unset found =>
    rw [classOf, unset] at has
    rw [found] at has
    exact has

/-- A factory has the same model class after a move of the registry, once it can be found. -/
theorem Move.classOf_eq_ok (move : Move registry after) (only : registry.OnlyModels)
    (has : registry.classOf factory = .ok model) : after.classOf factory = .ok model := by
  unfold classOf at has ⊢
  cases kept : factory.model with
  | some own =>
    rw [kept] at has
    exact has
  | none =>
    rw [kept] at has
    exact move.modelFor_eq_ok only has

/-- A compiled factory keeps its model class in moves. -/
theorem Moves.classOf_eq_ok (moves : Moves registry after) (only : registry.OnlyModels)
    (found : registry.factory? id = some factory) (compiled : factory.status = .sealed list)
    (has : registry.classOf factory = .ok model) :
    ∃ later, after.factory? id = some later ∧ later.status = .sealed list ∧
      after.classOf later = .ok model := by
  have all : after.OnlyModels ∧ ∃ later, after.factory? id = some later ∧
      later.status = .sealed list ∧ after.classOf later = .ok model := by
    induction moves with
    | refl => exact ⟨only, factory, found, compiled, has⟩
    | tail _ move ih =>
      obtain ⟨before, between, there, still, same⟩ := ih
      refine ⟨move.onlyModels before, ?_⟩
      obtain ⟨later, here, rfl | turn⟩ := move.factory? there
      · exact ⟨later, here, still, move.classOf_eq_ok before same⟩
      · exact ⟨later, here, turn.status_of_sealed still,
          move.classOf_eq_ok before (turn.classOf_eq_ok still same)⟩
  exact all.2

end Registry

namespace History

variable {history later : History} {id : FactoryId} {factory : Factory} {list : AttributeList}
  {model : Value}

/-- A compiled factory keeps its model class, whatever is done. -/
theorem Reached.fst_model_of_operations (reached : history.Reached)
    (operations : Operations history later) (found : history.registry.factory? id = some factory)
    (compiled : factory.status = .sealed list)
    (has : (Registry.model id history.registry).1 = .ok model) :
    (Registry.model id later.registry).1 = .ok model := by
  have held : later.Reached ∧ ∃ its, later.registry.factory? id = some its ∧
      its.status = .sealed list ∧ later.registry.classOf its = .ok model := by
    induction operations with
    | refl => exact ⟨reached, factory, found, compiled, (fst_model found).symm.trans has⟩
    | tail _ operation ih =>
      obtain ⟨before, its, there, still, same⟩ := ih
      refine ⟨before.tail operation, ?_⟩
      obtain ⟨_, _, _, added⟩ | ⟨_, moves⟩ := operation.made_or_moves before.bound
      · rw [added]
        exact ⟨its, factory?_add there, still, same⟩
      · exact moves.classOf_eq_ok before.onlyModels there still same
  obtain ⟨_, its, there, _, same⟩ := held
  exact (fst_model there).trans same

end History

/-- A run of a compiled factory begins with the model class that looking it up gives. -/
theorem Runner.model_of_begin {id : FactoryId} {factory : Factory} {list : AttributeList}
    {world ready : World} {run : Prepared} {choice : Value} {overrides : Dict}
    (found : world.registry.factory? id = some factory) (compiled : factory.status = .sealed list)
    (done : (begin id choice overrides).run world = (.ok run, ready)) :
    (Registry.model id world.registry).1 = .ok run.proxy.model := by
  obtain ⟨_, first, started, done⟩ := run_bind_eq_ok.1 done
  obtain ⟨strategy, second, chosen, done⟩ := run_bind_eq_ok.1 done
  obtain ⟨model, third, classed, done⟩ := run_bind_eq_ok.1 done
  obtain ⟨attributes, fourth, _, done⟩ := run_bind_eq_ok.1 done
  obtain ⟨name, fifth, _, done⟩ := run_bind_eq_ok.1 done
  obtain ⟨pending, sixth, _, done⟩ := run_bind_eq_ok.1 done
  obtain ⟨aliases, seventh, _, done⟩ := run_bind_eq_ok.1 done
  obtain ⟨finalizer, eighth, _, done⟩ := run_bind_eq_ok.1 done
  cases done
  have same : first = world := by
    have after := (Prod.mk.inj started).2
    rw [compile_of_sealed found compiled] at after
    exact after.symm
  obtain rfl : second = first := (Prod.mk.inj chosen).2.symm
  rw [← same]
  exact (Prod.mk.inj classed).1

/-- One factory decides on the model class of a compiled factory: the first along its parents that
gives a class, or else the last. If the class is registered, the factory has it just if it does not
keep another one, which it can only have from before it had inherited: it gives no class, names a
parent, and what it keeps is registered under its own name. Whichever class it has, it has ever
after, and its runs begin with it. -/
theorem class_of_compiled_iff {history : History} (reached : history.Reached) {id : FactoryId}
    {factory : Factory} {list : AttributeList}
    (found : history.registry.factory? id = some factory)
    (compiled : factory.status = .sealed list) :
    ∃ origin source, history.made[id]? = some origin ∧
      Decides history.made history.registry id source ∧
      (∀ model, history.registry.modelFor source.classIdentifier = .ok model →
        ((Registry.model id history.registry).1 = .ok model ↔
          ¬ ∃ own, factory.model = some own ∧ own ≠ model ∧ origin.identifier = .null ∧
            origin.parentName?.isSome ∧
            history.registry.modelFor (.text origin.name) = .ok own)) ∧
      (∀ later model, History.Operations history later →
        (Registry.model id history.registry).1 = .ok model →
          (Registry.model id later.registry).1 = .ok model) ∧
      ∀ (world ready : World) choice overrides run, world.registry = history.registry →
        (Runner.begin id choice overrides).run world = (.ok run, ready) →
          (Registry.model id history.registry).1 = .ok run.proxy.model := by
  obtain ⟨origin, identifies⟩ := reached.identifies found
  have linked := reached.linked found
  obtain ⟨source, decides, identified⟩ := identifies.decides_of_sealed linked compiled
  refine ⟨origin, source, identifies.known, decides, fun model registered => ?_,
    fun later model operations has => reached.fst_model_of_operations operations found compiled has,
    fun world ready choice overrides run same done => ?_⟩
  · rw [← identified] at registered
    rw [fst_model found, classOf]
    cases kept : factory.model with
    | none =>
      refine iff_of_true registered ?_
      rintro ⟨own, none_, _⟩
      cases none_
    | some own =>
      constructor
      · rintro has ⟨other, its, apart, _⟩
        cases its
        exact apart (Except.ok.inj has)
      · intro excluded
        by_contra apart
        have differs : own ≠ model := fun same => apart (congrArg Except.ok same)
        -- it keeps another class than it is identified by, so that it has that from the start
        obtain now | before := identifies.model kept
        · exact differs (Except.ok.inj (now.symm.trans registered))
        · have inherits : origin.identifier ≠ .null ∨ factory.parent = none →
              factory.classIdentifier = origin.classIdentifier := by
            rintro (given | alone)
            · exact identifies.classIdentifier_eq (identifies.given given)
            · exact identifies.classIdentifier_eq (identifies.unlinked alone)
          have changed : ¬ (origin.identifier ≠ .null ∨ factory.parent = none) := by
            intro either
            rw [← inherits either] at before
            exact differs (Except.ok.inj (before.symm.trans registered))
          obtain ⟨silent, its⟩ := not_or.1 changed
          have silent := not_not.1 silent
          obtain ⟨parentId, link⟩ := Option.ne_none_iff_exists'.1 its
          obtain ⟨ref, _, _, named, _⟩ := linked.parent link
          rw [Factory.classIdentifier_of_null silent] at before
          rw [identifies.options.parentName?] at named
          exact excluded ⟨own, rfl, differs, silent, by rw [named]; rfl, before⟩
  · rw [← same] at found ⊢
    exact Runner.model_of_begin found compiled done

/-! ### A class looked up early -/

/-- A user, a guest of whom the user is the parent, and a model class of either name. -/
def twoClasses : History :=
  let user := History.blank.define (.text "user") []
  let guest := user.define (.text "guest") [(.text "parent", .text "user")]
  (guest.registerModel "User" "user").registerModel "Thing" "guest"

/-- The history where the guest is compiled. -/
def guestCompiled (history : History) : History :=
  history.withRegistry (history.registry.compile 1).2

/-- The history where the model class of the guest is looked up. -/
def guestClassed (history : History) : History :=
  history.withRegistry (Registry.model 1 history.registry).2

/-- The name of the model class that an outcome is, if it is one. -/
def className? : Except Fault Value → Option String
  | .ok (.model name) => some name
  | _ => none

/-- An outcome with the name of a model class is the class. -/
theorem eq_ok_of_className? {outcome : Except Fault Value} {name : String}
    (named : className? outcome = some name) : outcome = .ok (.model name) := by
  unfold className? at named
  split at named
  · cases named
    rfl
  · cases named

/-- The histories of the guest are histories of registries, whether its class is looked up first or
not. -/
theorem reached_guestCompiled :
    (guestCompiled twoClasses).Reached ∧ (guestCompiled (guestClassed twoClasses)).Reached := by
  have reached : twoClasses.Reached :=
    (((History.reached_blank.define _ _).define _ _).registerModel _ _).registerModel _ _
  exact ⟨reached.tail (.compiled 1), (reached.tail (.classed 1)).tail (.compiled 1)⟩

/-- The guest is compiled in the end. -/
theorem isSealed_guestCompiled :
    (∃ guest list, (guestCompiled twoClasses).registry.factory? 1 = some guest ∧
      guest.status = .sealed list) ∧
    ∃ guest list, (guestCompiled (guestClassed twoClasses)).registry.factory? 1 = some guest ∧
      guest.status = .sealed list := by
  have sealed_ : ∀ {history : History},
      (history.registry.factory? 1).map (fun guest => guest.status.isSealed) = some true →
      ∃ guest list, history.registry.factory? 1 = some guest ∧ guest.status = .sealed list := by
    intro history seen
    obtain ⟨guest, found, isSealed⟩ := Option.map_eq_some_iff.1 seen
    obtain ⟨list, compiled⟩ := exists_of_isSealed isSealed
    exact ⟨guest, list, found, compiled⟩
  exact ⟨sealed_ (by decide +kernel), sealed_ (by decide +kernel)⟩

/-- The value is missing. -/
def Value.isNull : Value → Bool
  | .null => true
  | _ => false

/-- A value that is missing is no other. -/
theorem Value.eq_null_of_isNull {value : Value} (missing : value.isNull) : value = .null := by
  cases value <;> first | rfl | cases missing

/-- Neither the user nor the guest gives a class, and the user has no parent. -/
theorem made_twoClasses : ∃ user guest, twoClasses.made[0]? = some user ∧
    twoClasses.made[1]? = some guest ∧ user.identifier = .null ∧ user.name = "user" ∧
      user.parentName? = none ∧ guest.identifier = .null ∧ guest.parentName? = some "user" := by
  have seen : ∀ (id : FactoryId) (name : String) (parent : Option String),
      twoClasses.made[id]?.map (fun factory =>
        (factory.identifier.isNull, factory.name, factory.parentName?)) =
          some (true, name, parent) →
      ∃ factory, twoClasses.made[id]? = some factory ∧ factory.identifier = .null ∧
        factory.name = name ∧ factory.parentName? = parent := by
    intro id name parent all
    obtain ⟨factory, known, same⟩ := Option.map_eq_some_iff.1 all
    obtain ⟨silent, named, above⟩ : _ ∧ _ ∧ _ := by simpa using same
    exact ⟨factory, known, Value.eq_null_of_isNull silent, named, above⟩
  obtain ⟨user, known, silent, named, orphan⟩ := seen 0 "user" none (by decide +kernel)
  obtain ⟨guest, there, still, _, above⟩ := seen 1 "guest" (some "user") (by decide +kernel)
  exact ⟨user, guest, known, there, silent, named, orphan, still, above⟩

/-- The user decides on the model class of the guest. -/
theorem decides_guest (history : History) (same : history.made = twoClasses.made)
    (found : history.registry.names.lookup "user" = some 0)
    (registered : className? (history.registry.modelFor (.text "user")) = some "User") :
    ∃ source, Decides history.made history.registry 1 source ∧
      history.registry.modelFor source.classIdentifier = .ok (.model "User") := by
  obtain ⟨user, guest, known, there, plain, called, orphan, silent, named⟩ := made_twoClasses
  rw [← same] at known there
  refine ⟨user, .parent there silent named (findText_eq_ok.2 found) (.own known (.inr orphan)), ?_⟩
  rw [Factory.classIdentifier_of_null plain, called]
  exact eq_ok_of_className? registered

/-- Compiled at once, the guest has the class of the user, on which the user decides. -/
theorem class_of_compiled_iff_guest : ∃ guest list source,
    (guestCompiled twoClasses).Reached ∧
      (guestCompiled twoClasses).registry.factory? 1 = some guest ∧ guest.status = .sealed list ∧
      Decides (guestCompiled twoClasses).made (guestCompiled twoClasses).registry 1 source ∧
      (guestCompiled twoClasses).registry.modelFor source.classIdentifier = .ok (.model "User") ∧
      (Registry.model 1 (guestCompiled twoClasses).registry).1 = .ok (.model "User") := by
  have reached := reached_guestCompiled.1
  obtain ⟨guest, list, found, compiled⟩ := isSealed_guestCompiled.1
  obtain ⟨decider, decides, registered⟩ :=
    decides_guest (guestCompiled twoClasses) rfl (by decide +kernel) (by decide +kernel)
  obtain ⟨origin, source, _, decides', iff, _⟩ := class_of_compiled_iff reached found compiled
  obtain rfl := decides.unique decides'
  refine ⟨guest, list, decider, reached, found, compiled, decides, registered,
    (iff _ registered).2 ?_⟩
  -- nothing has been looked up
  rintro ⟨own, kept, _⟩
  have unread : ((guestCompiled twoClasses).registry.factory? 1).map (fun guest =>
      guest.model.isSome) = some false := by decide +kernel
  rw [found, Option.map_some, kept] at unread
  cases unread

/-- Looked up before it is compiled, the class of the guest is the one registered under its own
name, and stays so, although the user decides. -/
theorem class_of_early_guest : ∃ guest list source,
    (guestCompiled (guestClassed twoClasses)).Reached ∧
      (guestCompiled (guestClassed twoClasses)).registry.factory? 1 = some guest ∧
      guest.status = .sealed list ∧
      Decides (guestCompiled (guestClassed twoClasses)).made
        (guestCompiled (guestClassed twoClasses)).registry 1 source ∧
      (guestCompiled (guestClassed twoClasses)).registry.modelFor source.classIdentifier =
        .ok (.model "User") ∧
      (Registry.model 1 (guestCompiled (guestClassed twoClasses)).registry).1 =
        .ok (.model "Thing") := by
  obtain ⟨guest, list, found, compiled⟩ := isSealed_guestCompiled.2
  obtain ⟨source, decides, registered⟩ :=
    decides_guest (guestCompiled (guestClassed twoClasses)) rfl (by decide +kernel)
      (by decide +kernel)
  have named : className? (Registry.model 1 (guestCompiled (guestClassed twoClasses)).registry).1 =
      some "Thing" := by decide +kernel
  exact ⟨guest, list, source, reached_guestCompiled.2, found, compiled, decides, registered,
    eq_ok_of_className? named⟩

end Blueprint
