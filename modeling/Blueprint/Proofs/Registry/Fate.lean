import Blueprint.Proofs.Registry.History

/-!
# What compiling does to each factory

Compiling a factory touches it and the parents above it. Each of them is compiled, or is as it was
before, but for one: a factory that has inherited and whose declarations are then refused keeps what
it inherited, although it is not compiled. Between operations no factory is being compiled.
-/
namespace Blueprint

namespace Factory

/-- The factory with one more child, unless it is one already. -/
def follow (factory : Factory) (child : FactoryId) : Factory :=
  if factory.children.contains child then factory
  else { factory with children := factory.children ++ [child] }

/-- A factory with one more child differs in its children only. -/
theorem follow_eq (factory : Factory) (child : FactoryId) :
    ∃ children, factory.follow child = { factory with children := children } := by
  unfold follow
  split
  · exact ⟨factory.children, rfl⟩
  · exact ⟨_, rfl⟩

@[simp] theorem status_follow (factory : Factory) (child : FactoryId) :
    (factory.follow child).status = factory.status := by
  obtain ⟨children, grown⟩ := factory.follow_eq child
  rw [grown]

/-- The children are the former ones and the new one. -/
theorem mem_children_follow {factory : Factory} {child other : FactoryId} :
    other ∈ (factory.follow child).children ↔ other ∈ factory.children ∨ other = child := by
  unfold follow
  split
  · rename_i present
    have member : child ∈ factory.children := List.contains_iff_mem.1 present
    refine ⟨.inl, ?_⟩
    rintro (old | rfl)
    · exact old
    · exact member
  · simp

end Factory

namespace Registry

variable {registry middle after : Registry} {id parentId : FactoryId}
  {factory later child parent : Factory} {stopped : Option (FactoryId × Fault)} {fault : Fault}

/-! ### Inheriting -/

/-- A child as it is once it has inherited from a compiled parent. -/
def heir (child parent : Factory) (parentId : FactoryId) : Factory :=
  let linked := inherited child parent parentId
  if parent.overridesAllowed then linked.allowOverrides else linked

/-- What a child inherits is its class, its strategy, its parent, and that overrides are allowed. -/
theorem heir_eq (child parent : Factory) (parentId : FactoryId) :
    heir child parent parentId =
      { child with
        identifier := (inherited child parent parentId).identifier
        strategy := child.strategy <|> parent.strategy
        parent := some parentId
        definition := if parent.overridesAllowed then child.definition.allowOverrides
          else child.definition } := by
  unfold heir
  split <;> rfl

@[simp] theorem heir_status : (heir child parent parentId).status = child.status := by
  rw [heir_eq]

@[simp] theorem heir_children : (heir child parent parentId).children = child.children := by
  rw [heir_eq]

@[simp] theorem heir_parent : (heir child parent parentId).parent = some parentId := by
  rw [heir_eq]

/-- Inheriting does not depend on the child's status. -/
theorem heir_withStatus (child parent : Factory) (parentId : FactoryId) (status : Status) :
    heir { child with status := status } parent parentId =
      { heir child parent parentId with status := status } := by
  simp only [heir_eq]
  rfl

/-- Inheriting does not depend on the parent's children. -/
theorem heir_follow (child parent : Factory) (parentId id : FactoryId) :
    heir child (parent.follow id) parentId = heir child parent parentId := by
  obtain ⟨children, grown⟩ := parent.follow_eq id
  rw [grown]
  rfl

/-- A factory without children that allows overrides passes this on to none. -/
theorem allowOverrides_of_childless (found : registry.factory? id = some factory)
    (childless : factory.children = []) :
    registry.allowOverrides id = registry.put id factory.allowOverrides := by
  have alone : registry.childrenOf id = [] := by simp [childrenOf, found, childless]
  rw [allowOverrides, alone, spreadOverrides]
  simp [permit, found]

/-- A factory without children is adopted by inheriting and becoming a child. -/
theorem adopt_eq (found : registry.factory? id = some child) (childless : child.children = [])
    (known : registry.factory? parentId = some parent) (apart : id ≠ parentId) :
    registry.adopt id parentId =
      (registry.put id (heir child parent parentId)).put parentId (parent.follow id) := by
  have there : (registry.put id (heir child parent parentId)).factory? parentId = some parent :=
    (factory?_put_ne apart).trans known
  have linked : (if parent.overridesAllowed then
      (registry.put id (inherited child parent parentId)).allowOverrides id
      else registry.put id (inherited child parent parentId)) =
        registry.put id (heir child parent parentId) := by
    have still : (inherited child parent parentId).children = [] := childless
    simp only [heir]
    split
    · rw [allowOverrides_of_childless (factory?_put_self found) still]
      simp [put]
    · rfl
  simp only [adopt, found, known, linked]
  rw [addChild, modify_eq_put there]
  rfl

/-! ### Fates -/

/-- Only compiled factories have children. -/
def Childless (registry : Registry) : Prop :=
  ∀ {id factory}, registry.factory? id = some factory → factory.status.isSealed = false →
    factory.children = []

/-- Starting to compile a factory leaves the uncompiled ones childless. -/
theorem childless_start (found : registry.factory? id = some factory)
    (unsealed : factory.status = .unsealed) (childless : registry.Childless) :
    (registry.put id { factory with status := .compiling }).Childless := by
  intro other later known uncompiled
  obtain ⟨rfl, rfl⟩ | ⟨_, before⟩ := factory?_put known
  · show factory.children = []
    exact childless found (by rw [unsealed]; rfl)
  · exact childless before uncompiled

/-- The factory of a number is compiled. -/
def Finished (registry : Registry) (id : FactoryId) : Prop :=
  ∃ factory list, registry.factory? id = some factory ∧ factory.status = .sealed list

/-- A factory has inherited from its compiled parent and become its child, but is not compiled,
since its declarations are refused. -/
inductive Stopped (registry after : Registry) (id : FactoryId) (fault : Fault) : Prop where
  /-- It is what inheriting makes of it. -/
  | intro {factory parent : Factory} {ref : String} {parentId : FactoryId} {list : AttributeList}
      (found : registry.factory? id = some factory) (unsealed : factory.status = .unsealed)
      (named : factory.parentName? = some ref) (registered : after.findText ref = .ok parentId)
      (known : after.factory? parentId = some parent) (compiled : parent.status = .sealed list)
      (follows : id ∈ parent.children)
      (stays : after.factory? id = some (heir factory parent parentId))
      (refused : (heir factory parent parentId).expand = .error fault)

/-- What becomes of a factory while one is compiled, unless it is stopped. -/
inductive Fate (factory : Factory) : Factory → Prop where
  /-- It stays as it is. -/
  | kept : Fate factory factory
  /-- It is compiled. -/
  | compiled {later : Factory} {list : AttributeList} (unsealed : factory.status = .unsealed)
      (compiled : later.status = .sealed list) : Fate factory later
  /-- It was compiled before, and may have more children now. -/
  | followed {list : AttributeList} (compiled : factory.status = .sealed list)
      (children : List FactoryId) : Fate factory { factory with children := children }

/-- What compiling does to all factories, of which one may be stopped. -/
structure Compilation (registry after : Registry) (stopped : Option (FactoryId × Fault)) : Prop where
  /-- The names stay. -/
  names : after.names = registry.names
  /-- Each factory has its fate, but for the stopped one. -/
  each : ∀ {id factory}, registry.factory? id = some factory → ∃ later,
    after.factory? id = some later ∧ (Fate factory later ∨ ∃ fault, stopped = some (id, fault))
  /-- The stopped factory has inherited. -/
  stops : ∀ {id fault}, stopped = some (id, fault) → Stopped registry after id fault
  /-- A factory has no new children but compiled ones, and the stopped one if it is its parent. -/
  children : ∀ {id factory later child}, registry.factory? id = some factory →
    after.factory? id = some later → child ∈ later.children →
      child ∈ factory.children ∨ after.Finished child ∨ ∃ fault, stopped = some (child, fault) ∧
        (after.factory? child).bind Factory.parent = some id

/-- A factory that is being compiled further out stays as it is. -/
theorem Fate.of_compiling (fate : Fate factory later) (compiling : factory.status = .compiling) :
    later = factory := by
  cases fate with
  | kept => rfl
  | compiled unsealed => rw [compiling] at unsealed; cases unsealed
  | followed compiled => rw [compiling] at compiled; cases compiled

namespace Compilation

/-- Compiling that does nothing. -/
theorem refl (registry : Registry) : Compilation registry registry none := by
  refine ⟨rfl, fun found => ⟨_, found, .inl .kept⟩, ?_, fun found known member => ?_⟩
  · intro id fault stopped
    cases stopped
  · rw [found] at known
    cases known
    exact .inl member

section

variable (found : registry.factory? id = some factory)
  (inner : Compilation (registry.put id { factory with status := .compiling }) middle stopped)
include found inner

/-- While a factory is being compiled it is not the one that is stopped. -/
theorem stopped_ne {other : FactoryId} (stopped : stopped = some (other, fault)) : other ≠ id := by
  rintro rfl
  obtain ⟨known, unsealed, _⟩ := inner.stops stopped
  rw [factory?_put_self found] at known
  cases known
  cases unsealed

/-- While a factory is being compiled the compilation of its parent leaves it. -/
theorem factory?_compiling :
    middle.factory? id = some { factory with status := .compiling } := by
  obtain ⟨later, there, fate | ⟨_, stopped⟩⟩ := inner.each (factory?_put_self found)
  · obtain rfl := fate.of_compiling rfl
    exact there
  · exact absurd rfl (inner.stopped_ne found stopped)

/-- A compiled factory is not the one that is being compiled. -/
theorem finished_ne {other : FactoryId} (finished : middle.Finished other) : other ≠ id := by
  rintro rfl
  obtain ⟨its, list, known, compiled⟩ := finished
  rw [inner.factory?_compiling found] at known
  cases known
  cases compiled

/-- A factory whose parent fails to be compiled is as it was before. -/
theorem abandon : Compilation registry (middle.put id factory) stopped := by
  have itself : (middle.put id factory).factory? id = some factory :=
    factory?_put_self (inner.factory?_compiling found)
  have others : ∀ {other}, other ≠ id →
      (middle.put id factory).factory? other = middle.factory? other :=
    fun apart => factory?_put_ne (Ne.symm apart)
  have before : ∀ {other its}, other ≠ id → registry.factory? other = some its →
      (registry.put id { factory with status := .compiling }).factory? other = some its :=
    fun apart known => (factory?_put_ne (Ne.symm apart)).trans known
  refine ⟨inner.names, ?_, ?_, ?_⟩
  · intro other its known
    by_cases same : other = id
    · subst same
      rw [found] at known
      cases known
      exact ⟨factory, itself, .inl .kept⟩
    · obtain ⟨later, there, fate⟩ := inner.each (before same known)
      exact ⟨later, (others same).trans there, fate⟩
  · intro other fault stopped
    have apart := inner.stopped_ne found stopped
    obtain ⟨known, unsealed, named, registered, above, compiled, follows, stays, refused⟩ :=
      inner.stops stopped
    have aboveApart := inner.finished_ne found ⟨_, _, above, compiled⟩
    rw [factory?_put_ne (Ne.symm apart)] at known
    exact ⟨known, unsealed, named, registered, (others aboveApart).trans above, compiled, follows,
      (others apart).trans stays, refused⟩
  · intro other its later child known there member
    by_cases same : other = id
    · subst same
      rw [itself] at there
      cases there
      rw [found] at known
      cases known
      exact .inl member
    · rw [others same] at there
      obtain old | finished | ⟨fault, stopped, linked⟩ :=
        inner.children (before same known) there member
      · exact .inl old
      · obtain ⟨its, list, done, compiled⟩ := finished
        have apart := inner.finished_ne found ⟨its, list, done, compiled⟩
        exact .inr (.inl ⟨its, list, (others apart).trans done, compiled⟩)
      · refine .inr (.inr ⟨fault, stopped, ?_⟩)
        rwa [others (inner.stopped_ne found stopped)]

end

end Compilation

/-- A factory has become a child of its parent, which was compiled in `middle`. The factory has come
to be `later` in `after`; whether it is compiled is left open. -/
structure Adoption (registry middle after : Registry) (id parentId : FactoryId)
    (factory parent later : Factory) : Prop where
  /-- The factory as it was. -/
  found : registry.factory? id = some factory
  /-- The parent was compiled while the factory was being compiled. -/
  inner : Compilation (registry.put id { factory with status := .compiling }) middle none
  /-- The parent before it had the child. -/
  known : middle.factory? parentId = some parent
  /-- The parent is compiled. -/
  compiled : ∃ list, parent.status = .sealed list
  /-- The names stay. -/
  names : after.names = registry.names
  /-- The factory as it is. -/
  itself : after.factory? id = some later
  /-- The parent has the child. -/
  above : after.factory? parentId = some (parent.follow id)
  /-- The others stay as they are. -/
  others : ∀ other, other ≠ id → other ≠ parentId → after.factory? other = middle.factory? other
  /-- The factory has no new children. -/
  children : later.children = factory.children
  /-- The factory is linked to the parent. -/
  linked : later.parent = some parentId

namespace Adoption

variable {other : FactoryId} {its : Factory}
  (adoption : Adoption registry middle after id parentId factory parent later)
include adoption

/-- What was compiled before the factory became a child is compiled afterwards. -/
theorem finished (done : middle.Finished other) : after.Finished other := by
  have apart := adoption.inner.finished_ne adoption.found done
  obtain ⟨its, own, there, sealedIts⟩ := done
  by_cases up : other = parentId
  · subst up
    obtain ⟨list, compiled⟩ := adoption.compiled
    exact ⟨_, list, adoption.above, by simpa using compiled⟩
  · exact ⟨its, own, (adoption.others other apart up).trans there, sealedIts⟩

/-- Each factory but the one adopted has its fate. -/
theorem fate_of_ne (apart : other ≠ id) (there : registry.factory? other = some its) :
    ∃ last, after.factory? other = some last ∧ Fate its last := by
  obtain ⟨between, now, fate | ⟨_, never⟩⟩ :=
    adoption.inner.each ((factory?_put_ne apart.symm).trans there)
  · by_cases up : other = parentId
    · subst up
      rw [adoption.known] at now
      cases now
      refine ⟨_, adoption.above, ?_⟩
      obtain ⟨list, compiled⟩ := adoption.compiled
      obtain ⟨children, grown⟩ := parent.follow_eq id
      rw [grown]
      cases fate with
      | kept => exact .followed compiled children
      | compiled unsealed => exact .compiled unsealed compiled
      | followed before => exact .followed before children
    · exact ⟨between, (adoption.others other apart up).trans now, fate⟩
  · cases never

/-- A factory but the one adopted has no new children except compiled ones, and except the adopted
one if it is its parent. -/
theorem children_of_ne {last : Factory} {child : FactoryId} (apart : other ≠ id)
    (there : registry.factory? other = some its) (now : after.factory? other = some last)
    (member : child ∈ last.children) :
    child ∈ its.children ∨ after.Finished child ∨ other = parentId ∧ child = id := by
  have older : ∀ {between}, middle.factory? other = some between → child ∈ between.children →
      child ∈ its.children ∨ after.Finished child := by
    intro between compiledThere inside
    obtain old | done | ⟨_, never, _⟩ :=
      adoption.inner.children ((factory?_put_ne apart.symm).trans there) compiledThere inside
    · exact .inl old
    · exact .inr (adoption.finished done)
    · cases never
  by_cases up : other = parentId
  · subst up
    rw [adoption.above] at now
    cases now
    obtain inside | new := Factory.mem_children_follow.1 member
    · exact (older adoption.known inside).imp_right .inl
    · exact .inr (.inr ⟨rfl, new⟩)
  · rw [adoption.others other apart up] at now
    exact (older now member).imp_right .inl

end Adoption

namespace Compilation

/-- A factory that becomes a child of its parent is compiled, or else it is the one stopped. -/
theorem adopt (adoption : Adoption registry middle after id parentId factory parent later)
    (fate : (∃ list, factory.status = .unsealed ∧ later.status = .sealed list ∧ stopped = none) ∨
      ∃ fault, stopped = some (id, fault) ∧ Stopped registry after id fault) :
    Compilation registry after stopped := by
  refine ⟨adoption.names, ?_, ?_, ?_⟩
  · intro other its there
    by_cases self : other = id
    · subst self
      rw [adoption.found] at there
      cases there
      refine ⟨later, adoption.itself, ?_⟩
      obtain ⟨own, unsealed, done, _⟩ | ⟨fault, stopped, _⟩ := fate
      · exact .inl (.compiled unsealed done)
      · exact .inr ⟨fault, stopped⟩
    · obtain ⟨last, now, fate⟩ := adoption.fate_of_ne self there
      exact ⟨last, now, .inl fate⟩
  · intro other fault halted
    obtain ⟨_, _, _, never⟩ | ⟨_, here, stops⟩ := fate
    · rw [never] at halted
      cases halted
    · rw [here] at halted
      cases halted
      exact stops
  · intro other its last child there now member
    by_cases self : other = id
    · subst self
      rw [adoption.itself] at now
      cases now
      rw [adoption.found] at there
      cases there
      exact .inl (adoption.children ▸ member)
    obtain old | done | ⟨rfl, rfl⟩ := adoption.children_of_ne self there now member
    · exact .inl old
    · exact .inr (.inl done)
    · obtain ⟨own, _, done, _⟩ | ⟨fault, stopped, _⟩ := fate
      · exact .inr (.inl ⟨later, own, adoption.itself, done⟩)
      · exact .inr (.inr ⟨fault, stopped, by simp [adoption.itself, adoption.linked]⟩)

/-- A factory without a parent is compiled alone. -/
theorem alone (found : registry.factory? id = some factory) (unsealed : factory.status = .unsealed)
    (list : AttributeList) :
    Compilation registry (registry.put id { factory with status := .sealed list }) none := by
  refine ⟨rfl, ?_, ?_, ?_⟩
  · intro other its there
    by_cases self : other = id
    · subst self
      rw [found] at there
      cases there
      exact ⟨_, factory?_put_self found, .inl (.compiled unsealed rfl)⟩
    · exact ⟨its, (factory?_put_ne (Ne.symm self)).trans there, .inl .kept⟩
  · intro other fault never
    cases never
  · intro other its last child there now member
    obtain ⟨rfl, rfl⟩ | ⟨_, now⟩ := factory?_put now
    · rw [found] at there
      cases there
      exact .inl member
    · rw [there] at now
      cases now
      exact .inl member

end Compilation

/-- After its parent is compiled, a factory inherits and is compiled, or else stopped. -/
theorem compilation_finish (found : registry.factory? id = some factory)
    (unsealed : factory.status = .unsealed) (childless : factory.children = []) {ref : String}
    (named : factory.parentName? = some ref)
    (inner : Compilation (registry.put id { factory with status := .compiling }) middle none)
    (above : middle.findText ref = .ok parentId) (known : middle.factory? parentId = some parent)
    {list : AttributeList} (compiled : parent.status = .sealed list) :
    ∃ stopped, Compilation registry (finish id (.ok (), middle.adopt id parentId)).2 stopped ∧
      ∀ other fault, stopped = some (other, fault) →
        (finish id (.ok (), middle.adopt id parentId)).1 = .error fault := by
  have opened := inner.factory?_compiling found
  have apart : id ≠ parentId := (inner.finished_ne found ⟨parent, list, known, compiled⟩).symm
  rw [adopt_eq opened childless known apart]
  -- the factory as it has inherited, in the registry where it has become a child
  let started : Factory := { factory with status := .compiling }
  let linked : Registry :=
    (middle.put id (heir started parent parentId)).put parentId (parent.follow id)
  have heirThere : linked.factory? id = some (heir started parent parentId) :=
    (factory?_put_ne apart.symm).trans (factory?_put_self opened)
  have parentThere : linked.factory? parentId = some (parent.follow id) :=
    factory?_put_self ((factory?_put_ne apart).trans known)
  have settle : ∀ {last : Factory} {stopped : Option (FactoryId × Fault)},
      last.children = factory.children → last.parent = some parentId →
      ((∃ list, factory.status = .unsealed ∧ last.status = .sealed list ∧ stopped = none) ∨
        ∃ fault, stopped = some (id, fault) ∧ Stopped registry (linked.put id last) id fault) →
      Compilation registry (linked.put id last) stopped := by
    intro last stopped same itsParent fate
    have adoption :
        Adoption registry middle (linked.put id last) id parentId factory parent last :=
      { found := found
        inner := inner
        known := known
        compiled := ⟨list, compiled⟩
        names := inner.names
        itself := factory?_put_self heirThere
        above := (factory?_put_ne apart).trans parentThere
        others := fun other self up => (factory?_put_ne self.symm).trans
          ((factory?_put_ne up.symm).trans (factory?_put_ne self.symm))
        children := same
        linked := itsParent }
    exact .adopt adoption fate
  have alike : (heir started parent parentId).expand = (heir factory parent parentId).expand := by
    rw [heir_withStatus]
    rfl
  cases expanded : (heir factory parent parentId).expand with
  | ok own =>
    rw [finish_of_expand heirThere (alike.trans expanded)]
    exact ⟨none, settle heir_children heir_parent (.inl ⟨own, unsealed, rfl, rfl⟩),
      fun _ _ never => by cases never⟩
  | error fault =>
    have back : { heir started parent parentId with status := .unsealed } =
        heir factory parent parentId := by
      rw [heir_withStatus]
      exact unsealed_eq_self (heir_status.trans unsealed)
    rw [finish_of_refused heirThere (alike.trans expanded), back]
    refine ⟨some (id, fault), settle heir_children heir_parent (.inr ⟨fault, rfl, ?_⟩), ?_⟩
    · have stays : (linked.put id (heir factory parent parentId)).factory? id =
          some (heir factory (parent.follow id) parentId) := by
        rw [heir_follow]
        exact factory?_put_self heirThere
      exact .intro found unsealed named above ((factory?_put_ne apart).trans parentThere)
        ((parent.status_follow id).trans compiled) (Factory.mem_children_follow.2 (.inr rfl)) stays
        (by rwa [heir_follow])
    · rintro other _ ⟨⟩
      rfl

/-- Compiling a factory gives each factory its fate, and fails as the stopped one does. -/
theorem compilation_compile (registry : Registry) (id : FactoryId) (bound : registry.Bound)
    (childless : registry.Childless) :
    ∃ stopped, Compilation registry (registry.compile id).2 stopped ∧
      ∀ other fault, stopped = some (other, fault) → (registry.compile id).1 = .error fault := by
  have nothing : ∀ {registry : Registry} {result : Except Fault Unit}, ∃ stopped,
      Compilation registry registry stopped ∧
        ∀ other fault, stopped = some (other, fault) → result = .error fault :=
    fun {registry result} => ⟨none, .refl registry, fun _ _ never => by cases never⟩
  induction registry, id using compile.induct with
  | case1 registry id missing =>
    rw [compile_of_none missing]
    exact nothing
  | case2 registry id factory found list compiled =>
    rw [compile_of_sealed found compiled]
    exact nothing
  | case3 registry id factory found compiling =>
    rw [compile_of_compiling found compiling]
    exact nothing
  | case4 registry id factory found unsealed orphan =>
    rw [compile_of_orphan found unsealed orphan]
    have opened : (registry.put id { factory with status := .compiling }).factory? id =
        some { factory with status := .compiling } := factory?_put_self found
    cases expanded : factory.expand with
    | ok list =>
      rw [finish_of_expand opened expanded, put_put]
      exact ⟨none, .alone found unsealed list, fun _ _ never => by cases never⟩
    | error fault =>
      rw [finish_of_refused opened expanded, put_put]
      simp only [unsealed_eq_self unsealed, put_eq_self found]
      exact nothing
  | case5 registry id factory found unsealed started ref named fault missing =>
    rw [compile_of_dangling found unsealed named missing]
    exact nothing
  | case6 registry id factory found unsealed started ref named parent registered fault after
      failed ih =>
    have startBound := (compiles_start found unsealed).bound bound
    obtain ⟨stopped, inner, fails⟩ := ih startBound (childless_start found unsealed childless)
    rw [failed] at inner fails
    rw [compile_of_failed found unsealed named registered failed,
      finish_of_error (inner.factory?_compiling found)]
    simp only [unsealed_eq_self unsealed]
    exact ⟨stopped, inner.abandon found, fails⟩
  | case7 registry id factory found unsealed started ref named parentId registered after
      done ih =>
    have startBound := (compiles_start found unsealed).bound bound
    obtain ⟨stopped, inner, fails⟩ := ih startBound (childless_start found unsealed childless)
    rw [done] at inner fails
    obtain rfl : stopped = none := by
      cases stopped with
      | none => rfl
      | some halted => cases fails halted.1 halted.2 rfl
    obtain ⟨compiles, parentDone⟩ := compiles_compile started parentId startBound
    rw [done] at compiles parentDone
    have above : after.findText ref = .ok parentId := (compiles.findText_eq ref).trans registered
    obtain ⟨parent, known, _⟩ := compiles.bound startBound _ _ (findText_eq_ok.1 above)
    obtain ⟨list, compiled⟩ := parentDone rfl parent known
    have noChildren : factory.children = [] := childless found (by rw [unsealed]; rfl)
    rw [compile_of_done found unsealed named registered done]
    exact compilation_finish found unsealed noChildren named inner above known compiled

end Registry

end Blueprint
