import Blueprint.Proofs.Build.Step
import Blueprint.Proofs.Registry.Kin

/-!
# The state of compiled factories

Compiling is re-entrant, and it can fail at any depth. Still no factory is left half compiled:
between operations each of them is compiled for good or can be changed, and what is certain of a
compiled factory stays certain whatever succeeds or fails later.
-/
namespace Blueprint

open Relation

namespace Factory

/-- What a change of a definition is called. -/
def Edit.kind : Edit → Change
  | .declare _ => .declareAttribute
  | .defineTrait _ => .defineTrait
  | .addCallback _ _ => .addCallback
  | .setFinalizer _ => .setFinalizer

/-- What a change of a definition is about, if that has a name. -/
def Edit.subject : Edit → Option String
  | .declare declaration => some declaration.name
  | .defineTrait trait => some trait.name
  | .addCallback name _ => some name.plain
  | .setFinalizer _ => none

/-- The definition of a compiled factory is not changed. -/
theorem apply_of_sealed {factory : Factory} {list : AttributeList}
    (compiled : factory.status = .sealed list) (edit : Edit) :
    edit.apply factory = .error (.factorySealed edit.kind factory.name edit.subject) := by
  have shut : factory.status.isUnsealed = false := by rw [compiled]; rfl
  cases edit with
  | declare declaration => simp [Edit.apply, declare, change, shut, Edit.kind, Edit.subject]
  | defineTrait trait => simp [Edit.apply, defineTrait, change, shut, Edit.kind, Edit.subject]
  | addCallback name handler =>
    simp [Edit.apply, addCallback, change, shut, Edit.kind, Edit.subject]
  | setFinalizer handler =>
    simp [Edit.apply, setFinalizer, change, shut, Edit.kind, Edit.subject]

end Factory

namespace Registry

variable {history : History} {id : FactoryId} {factory : Factory} {list : AttributeList}

/-- What is certain of a compiled factory. -/
structure CompiledState (history : History) (id : FactoryId) (factory : Factory)
    (list : AttributeList) : Prop where
  /-- Its attributes have distinct names. -/
  distinct : list.names.Nodup
  /-- If it names a parent, then it has inherited from what is registered under the name, which is
  compiled and counts it once among its children. -/
  parent : ∀ {ref}, factory.parentName? = some ref → ∃ parentId parent above,
    factory.parent = some parentId ∧ history.registry.findText ref = .ok parentId ∧
      history.registry.factory? parentId = some parent ∧ parent.status = .sealed above ∧
        parent.children.count id = 1
  /-- The factories from which it and those above it have inherited form no cycle. -/
  acyclic : ¬ Returns history.registry.Inherits id
  /-- It stays compiled to the same attributes and callbacks. -/
  lasting : ∀ {later}, History.Operations history later → ∃ now kept,
    later.registry.factory? id = some now ∧ now.status = .sealed kept ∧
      kept.attributes = list.attributes ∧ kept.callbacks = list.callbacks
  /-- A change of its definition is refused, and changes nothing. -/
  refused : ∀ {world : World} (edit : Factory.Edit), world.registry = history.registry →
    (Build.changeRegistry fun registry => registry.tryModify id edit.apply).run world =
      (.error (.factorySealed edit.kind factory.name edit.subject), world)

/-- A compiled factory is once among the children of the compiled factory from which it has
inherited. -/
theorem exists_parent_counting (reached : history.Reached)
    (found : history.registry.factory? id = some factory) (compiled : factory.status = .sealed list)
    {ref : String} (named : factory.parentName? = some ref) : ∃ parentId parent above,
      factory.parent = some parentId ∧ history.registry.findText ref = .ok parentId ∧
        history.registry.factory? parentId = some parent ∧ parent.status = .sealed above ∧
          parent.children.count id = 1 := by
  obtain ⟨parentId, parent, above, its, registered, known, done⟩ :=
    (reached.linked found).exists_parent compiled named
  have kin := kin_of_reached reached
  have member : id ∈ history.registry.childrenOf parentId :=
    kin.listed ((parentOf_eq found).trans its)
  have distinct := kin.distinct parentId
  rw [childrenOf_eq known] at member distinct
  exact ⟨parentId, parent, above, its, registered, known, done,
    List.count_eq_one_of_mem distinct member⟩

/-- The way from a compiled factory to what it has inherited from, and on, does not come back. -/
theorem Finished.not_returns (reached : history.Reached) (finished : history.registry.Finished id) :
    ¬ Returns history.registry.Inherits id := by
  rintro ⟨point, walk, cycle⟩
  obtain ⟨top, last, up, found, orphan⟩ := finished.exists_top reached
  have rises : ∀ one other, history.registry.Inherits one other → history.registry.Rises one other :=
    fun _ _ => Inherits.rises reached
  have returns : Returns history.registry.Rises id :=
    ⟨point, ReflTransGen.mono rises id point walk, TransGen.mono rises point point cycle⟩
  exact Walk.not_returns (Leads.rightUnique _ _) (endsAt_of_orphan up found orphan) returns

/-- Between operations no factory is being compiled, and a compiled one is in the state that is
certain of compiled factories. -/
theorem compileState_of_reached (reached : history.Reached) :
    (∀ {id factory}, history.registry.factory? id = some factory →
      factory.status ≠ .compiling) ∧
    ∀ {id factory list}, history.registry.factory? id = some factory →
      factory.status = .sealed list → CompiledState history id factory list := by
  refine ⟨reached.calm.settled, ?_⟩
  intro id factory list found compiled
  have finished : history.registry.Finished id := ⟨factory, list, found, compiled⟩
  refine ⟨?_, ?_, ?_, ?_, ?_⟩
  · exact (reached.linked found).distinct compiled
  · exact exists_parent_counting reached found compiled
  · exact finished.not_returns reached
  · intro later operations
    obtain ⟨now, there, kept⟩ :=
      (operations.extends reached.bound).compiled found compiled
    exact ⟨now, list, there, kept.status.trans compiled, rfl, rfl⟩
  · intro world edit same
    have refuses : world.registry.tryModify id edit.apply =
        .error (.factorySealed edit.kind factory.name edit.subject) := by
      rw [same, tryModify, found]
      exact congrArg (· >>= _) (Factory.apply_of_sealed compiled edit)
    exact Build.changeRegistry_of_error refuses

/-- A guest is compiled after its compilation has failed, for the user that is its parent was not
there yet. -/
theorem compileState_of_reached_guest : ∃ (history : History) (guest : Factory)
    (list : AttributeList), history.Reached ∧ history.registry.factory? 0 = some guest ∧
      guest.status = .sealed list ∧ guest.parentName? = some "user" ∧ list.names = ["role"] ∧
        CompiledState history 0 guest list := by
  let options : Dict := [(.text "parent", .text "user")]
  let guest := History.blank.define (.text "guest") options
  let ranked := guest.edit 0 (.declare ⟨"role", false, [], .static (.text "guest")⟩)
  let failed := ranked.withRegistry (ranked.registry.compile 0).2
  let mended := failed.define (.text "user") []
  let compiled := mended.withRegistry (mended.registry.compile 0).2
  have reached : compiled.Reached :=
    ((((History.reached_blank.define _ _).edit _ _).tail (.compiled 0)).define _ _).tail
      (.compiled 0)
  have kept : (compiled.registry.factory? 0).map (fun factory =>
      (factory.status.isSealed, factory.parentName?, factory.compiled.names)) =
        some (true, some "user", ["role"]) := by decide +kernel
  obtain ⟨factory, found, same⟩ := Option.map_eq_some_iff.1 kept
  obtain ⟨done, named, names⟩ : factory.status.isSealed = true ∧
      factory.parentName? = some "user" ∧ factory.compiled.names = ["role"] := by simpa using same
  obtain ⟨list, status⟩ := exists_of_isSealed done
  rw [Factory.compiled, status] at names
  exact ⟨compiled, factory, list, reached, found, status, named, names,
    (compileState_of_reached reached).2 found status⟩

end Registry

end Blueprint
