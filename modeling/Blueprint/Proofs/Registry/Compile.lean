import Blueprint.Proofs.Registry.Overrides

/-!
# Compiling as moves

Compiling a factory moves the registry. Only factories change, their options never do, and a
factory that is compiled, or is being compiled further out, keeps its status; what compiles without
a fault is compiled afterwards.
-/
namespace Blueprint.Registry

variable {registry after : Registry} {id parentId : FactoryId} {factory : Factory}

/-! ### Names and factories -/

/-- Every name is bound to a factory that has it. -/
def Bound (registry : Registry) : Prop :=
  ∀ name id, registry.names.lookup name = some id →
    ∃ factory, registry.factory? id = some factory ∧ name ∈ factory.names

/-- The factory registered under a name is the one bound under its canonical name. -/
theorem find_eq_ok {name : Value} :
    registry.find name = .ok id ↔ registry.names.lookup (Name.ofValue name) = some id := by
  unfold find
  cases found : registry.names.lookup (Name.ofValue name) with
  | none => simp [found]
  | some other => simp [found]

/-- The factory registered under a text is the one bound under its canonical name. -/
theorem findText_eq_ok {ref : String} :
    registry.findText ref = .ok id ↔ registry.names.lookup (Name.ofText ref) = some id :=
  find_eq_ok

/-- Registries with the same names have the same factories registered under them. -/
theorem findText_congr (same : after.names = registry.names) (ref : String) :
    after.findText ref = registry.findText ref := by
  rw [findText, findText, find, find, same]

/-- Putting a factory back changes nothing. -/
theorem put_eq_self (found : registry.factory? id = some factory) :
    registry.put id factory = registry := by
  obtain ⟨inside, rfl⟩ := List.getElem?_eq_some_iff.1 found
  unfold put
  rw [List.set_getElem_self]

/-! ### What compiling leaves as it is -/

/-- One registry comes of another one by compiling. -/
structure Compiles (registry after : Registry) : Prop where
  /-- The registry moved. -/
  moves : Moves registry after
  /-- Only factories changed. -/
  rest : after = { registry with factories := after.factories }
  /-- A factory keeps its options, and a status other than that of an uncompiled one. -/
  kept : ∀ {id : FactoryId} {factory : Factory}, registry.factory? id = some factory →
    ∃ later, after.factory? id = some later ∧ factory.SameOptions later ∧
      (factory.status ≠ .unsealed → later.status = factory.status)

namespace Compiles

theorem refl (registry : Registry) : Compiles registry registry :=
  ⟨.refl, rfl, fun {_ factory} found => ⟨factory, found, .refl factory, fun _ => rfl⟩⟩

theorem trans {middle : Registry} (first : Compiles registry middle)
    (second : Compiles middle after) : Compiles registry after := by
  refine ⟨first.moves.trans second.moves, ?_, ?_⟩
  · rw [second.rest, first.rest]
  · intro id factory found
    obtain ⟨between, there, same, status⟩ := first.kept found
    obtain ⟨later, here, still, then_⟩ := second.kept there
    refine ⟨later, here, same.trans still, fun settled => ?_⟩
    have settledThere : between.status ≠ .unsealed := by rwa [status settled]
    rw [then_ settledThere, status settled]

/-- A turn of one factory is compiling if it keeps every status but that of an uncompiled one. -/
theorem turned {later : Factory} (found : registry.factory? id = some factory)
    (turn : Turn registry id factory later)
    (status : factory.status ≠ .unsealed → later.status = factory.status) :
    Compiles registry (registry.put id later) := by
  refine ⟨.single (.turned found turn), rfl, ?_⟩
  intro other there known
  by_cases same : other = id
  · subst same
    rw [found] at known
    cases known
    exact ⟨later, factory?_put_self found, turn.sameOptions, status⟩
  · exact ⟨there, (factory?_put_ne (Ne.symm same)).trans known, .refl there, fun _ => rfl⟩

/-- Allowing overrides is compiling in this sense. -/
theorem of_relaxes (relaxes : Relaxes registry after) : Compiles registry after := by
  refine ⟨relaxes.moves, relaxes.rest, ?_⟩
  intro id factory found
  obtain ⟨chosen, each⟩ := relaxes.factories
  rw [each, found]
  cases chosen id with
  | false => exact ⟨factory, by simp, .refl factory, fun _ => rfl⟩
  | true => exact ⟨factory.allowOverrides, by simp, ⟨rfl, rfl, rfl, rfl⟩, fun _ => rfl⟩

/-- Compiling keeps the names. -/
theorem names_eq (compiles : Compiles registry after) : after.names = registry.names := by
  rw [compiles.rest]

/-- Compiling leaves every name bound. -/
theorem bound (compiles : Compiles registry after) (bound : registry.Bound) : after.Bound := by
  intro name id found
  rw [compiles.names_eq] at found
  obtain ⟨factory, known, named⟩ := bound name id found
  obtain ⟨later, there, same, _⟩ := compiles.kept known
  refine ⟨later, there, ?_⟩
  rwa [Factory.names, same.name, same.aliases]

/-- Compiling finds the same factories under names. -/
theorem findText_eq (compiles : Compiles registry after) (ref : String) :
    after.findText ref = registry.findText ref :=
  findText_congr compiles.names_eq ref

end Compiles

/-! ### The parts of compiling -/

/-- The child that inherits keeps its parent while overrides are allowed. -/
theorem factory?_of_relaxes (relaxes : Relaxes registry after)
    (found : registry.factory? id = some factory) :
    ∃ later, after.factory? id = some later ∧ later.parent = factory.parent ∧
      later.children = factory.children ∧ later.status = factory.status := by
  obtain ⟨chosen, each⟩ := relaxes.factories
  rw [each, found]
  cases chosen id with
  | false => exact ⟨factory, by simp, rfl, rfl, rfl⟩
  | true => exact ⟨factory.allowOverrides, by simp, rfl, rfl, rfl⟩

/-- A factory that is being compiled adopts what its compiled parent leaves to it. -/
theorem compiles_adopt {child parent : Factory} {ref : String} {list : AttributeList}
    (found : registry.factory? id = some child) (compiling : child.status = .compiling)
    (named : child.parentName? = some ref) (registered : registry.findText ref = .ok parentId)
    (known : registry.factory? parentId = some parent) (compiled : parent.status = .sealed list) :
    Compiles registry (registry.adopt id parentId) ∧
      ∃ later, (registry.adopt id parentId).factory? id = some later ∧
        later.parent = some parentId := by
  have apart : id ≠ parentId := by
    rintro rfl
    rw [found] at known
    cases known
    rw [compiling] at compiled
    cases compiled
  -- the child takes over what it lacks
  let linked := registry.put id (inherited child parent parentId)
  have turn : Turn registry id child (inherited child parent parentId) :=
    .inherited compiling named registered known compiled
  have toLinked : Compiles registry linked := .turned found turn fun _ => rfl
  -- then overrides spread
  let allowed := if parent.overridesAllowed then linked.allowOverrides id else linked
  have relaxes : Relaxes linked allowed := by
    by_cases permitted : parent.overridesAllowed
    · simpa [allowed, permitted] using relaxes_allowOverrides linked id
    · simpa [allowed, permitted] using Relaxes.refl linked
  have heirThere : linked.factory? id = some (inherited child parent parentId) :=
    factory?_put_self found
  obtain ⟨heir, here, itsParent, _, _⟩ := factory?_of_relaxes relaxes heirThere
  have knownLinked : linked.factory? parentId = some parent := (factory?_put_ne apart).trans known
  obtain ⟨parentNow, there, _, _, _⟩ := factory?_of_relaxes relaxes knownLinked
  -- and the parent has one more child
  have adopted : registry.adopt id parentId = allowed.addChild parentId id := by
    simp only [adopt, found, known, linked, allowed]
  have grown : allowed.addChild parentId id = allowed.put parentId
      (if parentNow.children.contains id then parentNow
        else { parentNow with children := parentNow.children ++ [id] }) :=
    modify_eq_put there _
  have itself : (allowed.addChild parentId id).factory? id = some heir := by
    rw [grown, factory?_put_ne (Ne.symm apart), here]
  refine ⟨?_, heir, adopted ▸ itself, itsParent⟩
  have toAllowed := toLinked.trans (.of_relaxes relaxes)
  rw [adopted, grown]
  by_cases child_ : id ∈ parentNow.children
  · rw [if_pos (List.contains_iff_mem.2 child_), put_eq_self there]
    exact toAllowed
  · rw [if_neg (by simpa using child_)]
    exact toAllowed.trans (.turned there (.followed child_ here itsParent) fun _ => rfl)

/-- The end of a compilation gives the factory the status that its outcome calls for. -/
theorem finish_eq_put {outcome : Except Fault Unit}
    (found : registry.factory? id = some factory) (compiling : factory.status = .compiling)
    (linked : outcome = .ok () →
      ∀ ref, factory.parentName? = some ref → factory.parent.isSome) :
    ∃ status,
      (finish id (outcome, registry)).2 = registry.put id { factory with status := status } ∧
      Turn registry id factory { factory with status := status } ∧
      ((finish id (outcome, registry)).1 = .ok () → ∃ list, status = .sealed list) := by
  have failed : Turn registry id factory { factory with status := .unsealed } :=
    .abandoned compiling
  cases outcome with
  | error fault =>
    exact ⟨.unsealed, withStatus_eq_put found .unsealed, failed, fun ok => by cases ok⟩
  | ok _ =>
    cases expanded : factory.expand with
    | error fault =>
      refine ⟨.unsealed, ?_, failed, ?_⟩
      · simpa [finish, found, expanded] using withStatus_eq_put found .unsealed
      · simp [finish, found, expanded]
    | ok list =>
      refine ⟨.sealed list, ?_, .completed compiling (linked rfl) expanded, fun _ => ⟨list, rfl⟩⟩
      simpa [finish, found, expanded] using withStatus_eq_put found (.sealed list)

/-- Putting in one factory after another is putting in the last one. -/
theorem put_put (registry : Registry) (id : FactoryId) (first second : Factory) :
    (registry.put id first).put id second = registry.put id second := by
  simp [put]

/-- The end of a compilation that has failed leaves the factory uncompiled. -/
theorem finish_of_error (found : registry.factory? id = some factory) (fault : Fault) :
    finish id (.error fault, registry) =
      (.error fault, registry.put id { factory with status := .unsealed }) :=
  congrArg (Prod.mk _) (withStatus_eq_put found .unsealed)

/-- The end of a compilation compiles the factory if its declarations become attributes. -/
theorem finish_of_expand {list : AttributeList} (found : registry.factory? id = some factory)
    (expanded : factory.expand = .ok list) :
    finish id (.ok (), registry) =
      (.ok (), registry.put id { factory with status := .sealed list }) := by
  simp only [finish, found, Option.map_some, expanded]
  rw [withStatus_eq_put found]

/-- The end of a compilation fails if the declarations of the factory are refused. -/
theorem finish_of_refused {fault : Fault} (found : registry.factory? id = some factory)
    (refused : factory.expand = .error fault) :
    finish id (.ok (), registry) =
      (.error fault, registry.put id { factory with status := .unsealed }) := by
  simp only [finish, found, Option.map_some, refused]
  rw [withStatus_eq_put found]

/-! ### Compiling as a whole -/

/-- Where there is no factory, nothing is compiled. -/
theorem compile_of_none (missing : registry.factory? id = none) :
    registry.compile id = (.ok (), registry) := by
  rw [compile]
  split
  · rfl
  · rename_i found
    rw [missing] at found
    cases found

/-- A compiled factory stays as it is. -/
theorem compile_of_sealed {list : AttributeList} (found : registry.factory? id = some factory)
    (compiled : factory.status = .sealed list) : registry.compile id = (.ok (), registry) := by
  rw [compile]
  split
  · rfl
  · rename_i other known
    rw [found] at known
    cases known
    split
    · rfl
    · simp_all
    · simp_all

/-- A factory that is being compiled closes a cycle. -/
theorem compile_of_compiling (found : registry.factory? id = some factory)
    (compiling : factory.status = .compiling) :
    registry.compile id = (.error (registry.cycleFault factory), registry) := by
  rw [compile]
  split
  · simp_all
  · rename_i other known
    rw [found] at known
    cases known
    split
    · simp_all
    · rfl
    · simp_all

/-- An uncompiled factory is compiled after its parent, if it has one. -/
theorem compile_of_unsealed (found : registry.factory? id = some factory)
    (unsealed : factory.status = .unsealed) :
    registry.compile id =
      let started := registry.put id { factory with status := .compiling }
      match factory.parentName? with
      | none => finish id (.ok (), started)
      | some ref =>
        match started.findText ref with
        | .error fault => finish id (.error fault, started)
        | .ok parent =>
          match started.compile parent with
          | (.error fault, after) => finish id (.error fault, after)
          | (.ok (), after) => finish id (.ok (), after.adopt id parent) := by
  rw [compile]
  split
  · simp_all
  · rename_i other known
    rw [found] at known
    cases known
    split
    · simp_all
    · simp_all
    · rfl

/-- An uncompiled factory is itself with its status given back. -/
theorem unsealed_eq_self (unsealed : factory.status = .unsealed) :
    { factory with status := .unsealed } = factory := by
  cases factory
  cases unsealed
  rfl

section

variable (found : registry.factory? id = some factory) (unsealed : factory.status = .unsealed)
include found unsealed

/-- A factory without a parent is compiled alone. -/
theorem compile_of_orphan (orphan : factory.parentName? = none) :
    registry.compile id =
      finish id (.ok (), registry.put id { factory with status := .compiling }) := by
  rw [compile_of_unsealed found unsealed]
  simp only [orphan]

variable {ref : String} (named : factory.parentName? = some ref)
include named

/-- If the parent is not registered, nothing changes. -/
theorem compile_of_dangling {fault : Fault} (missing : registry.findText ref = .error fault) :
    registry.compile id = (.error fault, registry) := by
  rw [compile_of_unsealed found unsealed]
  simp only [named]
  rw [show (registry.put id { factory with status := .compiling }).findText ref = _ from missing]
  simp only
  rw [finish_of_error (factory?_put_self found), put_put]
  simp only [unsealed_eq_self unsealed, put_eq_self found]

variable (registered : registry.findText ref = .ok parentId)
include registered

/-- If the parent fails to be compiled, so does the factory. -/
theorem compile_of_failed {fault : Fault}
    (failed : (registry.put id { factory with status := .compiling }).compile parentId =
      (.error fault, after)) :
    registry.compile id = finish id (.error fault, after) := by
  rw [compile_of_unsealed found unsealed]
  simp only [named]
  rw [show (registry.put id { factory with status := .compiling }).findText ref = _ from registered]
  simp only
  rw [failed]

/-- If the parent is compiled, the factory inherits from it. -/
theorem compile_of_done
    (done : (registry.put id { factory with status := .compiling }).compile parentId =
      (.ok (), after)) :
    registry.compile id = finish id (.ok (), after.adopt id parentId) := by
  rw [compile_of_unsealed found unsealed]
  simp only [named]
  rw [show (registry.put id { factory with status := .compiling }).findText ref = _ from registered]
  simp only
  rw [done]

end

/-- A factory of a number is compiled, if there is one. -/
def IsCompiled (registry : Registry) (id : FactoryId) : Prop :=
  ∀ factory, registry.factory? id = some factory → ∃ list, factory.status = .sealed list

/-- Compiling ends with the factory given a status, after what was done for its parent. -/
theorem compiles_finish {started middle : Registry} {outcome : Except Fault Unit}
    {compiling : Factory} (unsealed : factory.status = .unsealed)
    (found : registry.factory? id = some factory)
    (start : started = registry.put id { factory with status := .compiling })
    (between : Compiles started middle) (known : middle.factory? id = some compiling)
    (linked : outcome = .ok () →
      ∀ ref, compiling.parentName? = some ref → compiling.parent.isSome) :
    Compiles registry (finish id (outcome, middle)).2 ∧
      ((finish id (outcome, middle)).1 = .ok () →
        IsCompiled (finish id (outcome, middle)).2 id) := by
  subst start
  let opened : Factory := { factory with status := .compiling }
  have startTurn : Turn registry id factory opened := .started unsealed
  have toStarted : Compiles registry (registry.put id opened) :=
    .turned found startTurn fun settled => absurd unsealed settled
  have openedThere : (registry.put id opened).factory? id = some opened :=
    factory?_put_self found
  obtain ⟨now, there, _, status⟩ := between.kept openedThere
  rw [known] at there
  cases there
  have stillCompiling : compiling.status = .compiling := status (by simp [opened])
  obtain ⟨last, result, endTurn, done⟩ := finish_eq_put known stillCompiling linked
  have moved := (toStarted.trans between).moves.tail (.turned known endTurn)
  rw [result]
  refine ⟨⟨moved, ?_, ?_⟩, ?_⟩
  · rw [put, (toStarted.trans between).rest]
  · -- the factory itself was uncompiled before, so that its status is free
    intro other there before
    obtain ⟨later, still, same, settled⟩ := (toStarted.trans between).kept before
    by_cases itself : other = id
    · subst itself
      rw [found] at before
      cases before
      rw [known] at still
      cases still
      exact ⟨_, factory?_put_self known, same.trans endTurn.sameOptions,
        fun settled => absurd unsealed settled⟩
    · exact ⟨later, (factory?_put_ne (Ne.symm itself)).trans still, same, settled⟩
  · intro ok later here
    obtain ⟨list, rfl⟩ := done ok
    rw [factory?_put_self known] at here
    cases here
    exact ⟨list, rfl⟩

/-- Starting a compilation is a move. -/
theorem compiles_start (found : registry.factory? id = some factory)
    (unsealed : factory.status = .unsealed) :
    Compiles registry (registry.put id { factory with status := .compiling }) :=
  .turned found (.started unsealed) fun settled => absurd unsealed settled

/-- Compiling a factory moves the registry, and compiles the factory unless it fails. -/
theorem compiles_compile (registry : Registry) (id : FactoryId) (bound : registry.Bound) :
    Compiles registry (registry.compile id).2 ∧
      ((registry.compile id).1 = .ok () → IsCompiled (registry.compile id).2 id) := by
  induction registry, id using compile.induct with
  | case1 registry id missing =>
    rw [compile_of_none missing]
    exact ⟨.refl registry, fun _ factory found => by rw [missing] at found; cases found⟩
  | case2 registry id factory found list compiled =>
    rw [compile_of_sealed found compiled]
    refine ⟨.refl registry, fun _ other known => ?_⟩
    rw [found] at known
    cases known
    exact ⟨list, compiled⟩
  | case3 registry id factory found compiling =>
    rw [compile_of_compiling found compiling]
    exact ⟨.refl registry, fun ok => by cases ok⟩
  | case4 registry id factory found unsealed orphan =>
    rw [compile_of_unsealed found unsealed]
    simp only [orphan]
    refine compiles_finish unsealed found rfl (.refl _) (factory?_put_self found) ?_
    intro _ ref named
    have its : factory.parentName? = some ref := named
    rw [orphan] at its
    cases its
  | case5 registry id factory found unsealed started ref named fault missing =>
    rw [compile_of_unsealed found unsealed]
    simp only [named]
    rw [show started.findText ref = .error fault from missing]
    exact compiles_finish unsealed found rfl (.refl _) (factory?_put_self found)
      fun ok => by cases ok
  | case6 registry id factory found unsealed started ref named parent registered fault after
      failed ih =>
    rw [compile_of_unsealed found unsealed]
    simp only [named]
    rw [show started.findText ref = .ok parent from registered]
    simp only
    rw [show started.compile parent = (.error fault, after) from failed]
    have inner := (ih ((compiles_start found unsealed).bound bound)).1
    rw [failed] at inner
    obtain ⟨compiling, there, _⟩ := inner.kept (factory?_put_self found)
    exact compiles_finish unsealed found rfl inner there fun ok => by cases ok
  | case7 registry id factory found unsealed started ref named parent registered after
      done ih =>
    rw [compile_of_unsealed found unsealed]
    simp only [named]
    rw [show started.findText ref = .ok parent from registered]
    simp only
    rw [show started.compile parent = (.ok (), after) from done]
    have boundStarted := (compiles_start found unsealed).bound bound
    obtain ⟨inner, parentDone⟩ := ih boundStarted
    rw [done] at inner parentDone
    obtain ⟨child, there, same, status⟩ := inner.kept (factory?_put_self found)
    have childName : child.parentName? = some ref := same.parentName?.trans named
    have stillCompiling : child.status = .compiling := status (by simp)
    -- the parent is there, since its name is bound
    obtain ⟨parentFactory, known, _⟩ :=
      inner.bound boundStarted _ _ (findText_eq_ok.1 ((inner.findText_eq ref).trans registered))
    obtain ⟨list, compiled⟩ := parentDone rfl parentFactory known
    obtain ⟨adopted, heir, here, itsParent⟩ := compiles_adopt there stillCompiling childName
      ((inner.findText_eq ref).trans registered) known compiled
    exact compiles_finish unsealed found rfl (inner.trans adopted) here
      fun _ _ _ => by rw [itsParent]; rfl

end Blueprint.Registry
