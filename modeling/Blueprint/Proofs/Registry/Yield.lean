import Blueprint.Proofs.Registry.Ascent

/-!
# What factories come to

What a factory comes to when it is compiled is told by itself and by the factories above it: one
that is compiled stays what it is, one without a parent comes to what its declarations make of it,
and any other one inherits first from what its parent comes to. All that compiling compiles is
what is told in this way, so that nothing is told of the order in which factories are compiled.
-/
namespace Blueprint

open Relation

namespace Factory

/-- A factory without its children. -/
def bare (factory : Factory) : Factory := { factory with children := [] }

/-- What a factory comes to, without its children, when its declarations become attributes. -/
def settled (factory : Factory) : Except Fault Factory := do
  .ok { factory.bare with status := .sealed (← factory.expand) }

variable {factory : Factory}

/-- A factory whose declarations become attributes comes to be compiled to them. -/
theorem settled_of_expand {list : AttributeList} (expanded : factory.expand = .ok list) :
    factory.settled = .ok { factory.bare with status := .sealed list } :=
  bind_eq_ok.2 ⟨list, expanded, rfl⟩

/-- A factory whose declarations are refused comes to nothing. -/
theorem settled_of_refused {fault : Fault} (refused : factory.expand = .error fault) :
    factory.settled = .error fault :=
  bind_eq_error.2 (.inl refused)

/-- How far a factory is compiled does not matter for what it comes to. -/
theorem settled_withStatus (factory : Factory) (status : Status) :
    { factory with status := status }.settled = factory.settled := rfl

end Factory

namespace Registry

variable {registry after : Registry} {id other parentId : FactoryId} {factory later parent : Factory}
  {ref : String} {list : AttributeList} {fault : Fault} {outcome : Except Fault Factory}

/-! ### Inheriting again -/

/-- What is inherited does not depend on the parent's children. -/
theorem heir_bare (child parent : Factory) (parentId : FactoryId) :
    heir child parent.bare parentId = heir child parent parentId := rfl

/-- Inheriting from the same parent again changes nothing. -/
theorem heir_heir (child parent : Factory) (parentId : FactoryId) :
    heir (heir child parent parentId) parent parentId = heir child parent parentId := by
  have own : (heir child parent parentId).identifier =
      (inherited child parent parentId).identifier := by rw [heir_eq]
  have identifier : (inherited (heir child parent parentId) parent parentId).identifier =
      (heir child parent parentId).identifier := by
    rw [own]
    simp only [inherited, own]
    cases child.identifier <;> simp only
    cases parent.classIdentifier <;> rfl
  have strategy : ((heir child parent parentId).strategy <|> parent.strategy) =
      (heir child parent parentId).strategy := by
    rw [heir_eq]
    cases child.strategy <;> cases parent.strategy <;> rfl
  have definition : (if parent.overridesAllowed then
      (heir child parent parentId).definition.allowOverrides
      else (heir child parent parentId).definition) = (heir child parent parentId).definition := by
    rw [heir_eq]
    split <;> rfl
  have linked : (heir child parent parentId).parent = some parentId := heir_parent
  rw [heir_eq (heir child parent parentId), identifier, strategy, definition, ← linked]

/-! ### What is told along parents -/

/-- What a factory comes to, without its children, when it is compiled, or the fault with which this
fails. -/
inductive Yields (registry : Registry) : FactoryId → Except Fault Factory → Prop where
  /-- A compiled factory stays what it is. -/
  | compiled {id : FactoryId} {factory : Factory} {list : AttributeList}
      (found : registry.factory? id = some factory) (compiled : factory.status = .sealed list) :
      Yields registry id (.ok factory.bare)
  /-- A factory without a parent comes to what its declarations make of it. -/
  | alone {id : FactoryId} {factory : Factory} (found : registry.factory? id = some factory)
      (unsealed : factory.status = .unsealed) (orphan : factory.parentName? = none) :
      Yields registry id factory.settled
  /-- Any other factory inherits first from what its parent comes to, or fails as its parent. -/
  | heir {id parentId : FactoryId} {factory : Factory} {ref : String}
      {outcome : Except Fault Factory} (found : registry.factory? id = some factory)
      (unsealed : factory.status = .unsealed) (named : factory.parentName? = some ref)
      (registered : registry.findText ref = .ok parentId)
      (above : Yields registry parentId outcome) :
      Yields registry id (outcome >>= fun parent => (heir factory parent parentId).settled)

namespace Yields

/-- A compiled factory comes to nothing but itself. -/
theorem of_compiled (found : registry.factory? id = some factory)
    (compiled : factory.status = .sealed list) (yields : registry.Yields id outcome) :
    outcome = .ok factory.bare := by
  cases yields with
  | compiled known =>
    rw [found] at known
    cases known
    rfl
  | alone known unsealed =>
    rw [found] at known
    cases known
    rw [compiled] at unsealed
    cases unsealed
  | heir known unsealed =>
    rw [found] at known
    cases known
    rw [compiled] at unsealed
    cases unsealed

section

variable (found : registry.factory? id = some factory) (unsealed : factory.status = .unsealed)
include found unsealed

/-- A factory without a parent comes to what its declarations make of it. -/
theorem of_orphan (orphan : factory.parentName? = none) (yields : registry.Yields id outcome) :
    outcome = factory.settled := by
  cases yields with
  | compiled known compiled =>
    rw [found] at known
    cases known
    rw [unsealed] at compiled
    cases compiled
  | alone known =>
    rw [found] at known
    cases known
    rfl
  | heir known _ named =>
    rw [found] at known
    cases known
    rw [orphan] at named
    cases named

/-- A factory with a parent inherits from what the parent comes to. -/
theorem of_parent (named : factory.parentName? = some ref)
    (registered : registry.findText ref = .ok parentId) (yields : registry.Yields id outcome) :
    ∃ above, registry.Yields parentId above ∧
      outcome = above >>= fun parent => (Registry.heir factory parent parentId).settled := by
  cases yields with
  | compiled known compiled =>
    rw [found] at known
    cases known
    rw [unsealed] at compiled
    cases compiled
  | alone known _ orphan =>
    rw [found] at known
    cases known
    rw [named] at orphan
    cases orphan
  | heir known _ its registered' above =>
    rw [found] at known
    cases known
    rw [named] at its
    cases its
    rw [registered] at registered'
    cases registered'
    exact ⟨_, above, rfl⟩

end

/-- What comes to something is a factory. -/
theorem exists_factory (yields : registry.Yields id outcome) :
    ∃ factory, registry.factory? id = some factory := by
  cases yields with
  | compiled found => exact ⟨_, found⟩
  | alone found => exact ⟨_, found⟩
  | heir found => exact ⟨_, found⟩

/-- A factory comes to one thing only. -/
theorem unique {result : Except Fault Factory} (first : registry.Yields id outcome)
    (second : registry.Yields id result) : result = outcome := by
  induction first generalizing result with
  | compiled found compiled => exact second.of_compiled found compiled
  | alone found unsealed orphan => exact second.of_orphan found unsealed orphan
  | heir found unsealed named registered _ ih =>
    obtain ⟨above, upper, rfl⟩ := second.of_parent found unsealed named registered
    rw [ih upper]

/-- What is told while a factory is being compiled is told in any case. -/
theorem of_started (found : registry.factory? id = some factory)
    (yields : (registry.put id { factory with status := .compiling }).Yields other outcome) :
    registry.Yields other outcome := by
  induction yields with
  | compiled known compiled =>
    obtain ⟨rfl, rfl⟩ | ⟨_, before⟩ := factory?_put known
    · cases compiled
    · exact .compiled before compiled
  | alone known unsealed orphan =>
    obtain ⟨rfl, rfl⟩ | ⟨_, before⟩ := factory?_put known
    · cases unsealed
    · exact .alone before unsealed orphan
  | heir known unsealed named registered _ ih =>
    obtain ⟨rfl, rfl⟩ | ⟨_, before⟩ := factory?_put known
    · cases unsealed
    · exact .heir before unsealed named registered ih

end Yields

/-! ### Compiling as it is told -/

/-- What is compiled in a later registry is told by an earlier one. -/
structure Tells (registry after : Registry) : Prop where
  /-- A compiled factory is what it comes to. -/
  told : ∀ {id later list}, after.factory? id = some later → later.status = .sealed list →
    registry.Yields id (.ok later.bare)

namespace Tells

/-- What is compiled is told. -/
theorem refl (registry : Registry) : registry.Tells registry :=
  ⟨fun found compiled => .compiled found compiled⟩

/-- What is told stays so when a factory is put in that is not compiled, or as it is told. -/
theorem put (tells : registry.Tells after)
    (new : ∀ list, later.status = .sealed list → registry.Yields id (.ok later.bare)) :
    registry.Tells (after.put id later) := by
  refine ⟨fun found compiled => ?_⟩
  obtain ⟨rfl, rfl⟩ | ⟨_, before⟩ := factory?_put found
  · exact new _ compiled
  · exact tells.told before compiled

/-- What is told while a factory is being compiled is told in any case. -/
theorem of_started (found : registry.factory? id = some factory)
    (tells : (registry.put id { factory with status := .compiling }).Tells after) :
    registry.Tells after :=
  ⟨fun known compiled => (tells.told known compiled).of_started found⟩

end Tells

/-- After a factory has inherited from its compiled parent, its compilation ends as it is told. -/
theorem tells_finish {middle : Registry} {own : AttributeList}
    (found : registry.factory? id = some factory) (unsealed : factory.status = .unsealed)
    (childless : factory.children = []) (named : factory.parentName? = some ref)
    (registered : registry.findText ref = .ok parentId) (apart : id ≠ parentId)
    (opened : middle.factory? id = some { factory with status := .compiling })
    (known : middle.factory? parentId = some parent) (compiled : parent.status = .sealed own)
    (tells : registry.Tells middle) :
    registry.Tells (finish id (.ok (), middle.adopt id parentId)).2 ∧
      ∀ fault, (finish id (.ok (), middle.adopt id parentId)).1 = .error fault →
        registry.Yields id (.error fault) := by
  rw [adopt_eq opened childless known apart]
  let started : Factory := { factory with status := .compiling }
  let grown : Registry :=
    (middle.put id (heir started parent parentId)).put parentId (parent.follow id)
  have above : registry.Yields parentId (.ok parent.bare) := tells.told known compiled
  have heirThere : grown.factory? id = some (heir started parent parentId) :=
    (factory?_put_ne apart.symm).trans (factory?_put_self opened)
  -- the factory inherits from its parent as it does from what is told of the parent
  have yields : registry.Yields id (heir factory parent parentId).settled :=
    .heir found unsealed named registered above
  have same : (heir started parent parentId).settled = (heir factory parent parentId).settled := by
    rw [heir_withStatus, Factory.settled_withStatus]
  have grownTells : registry.Tells grown := by
    refine (tells.put fun list never => ?_).put fun list _ => ?_
    · rw [heir_status] at never
      cases never
    · obtain ⟨children, follows⟩ := parent.follow_eq id
      rw [follows]
      exact above
  rw [← same] at yields
  cases expanded : (heir started parent parentId).expand with
  | ok list =>
    rw [finish_of_expand heirThere expanded]
    rw [Factory.settled_of_expand expanded] at yields
    exact ⟨grownTells.put fun _ _ => yields, fun _ never => by cases never⟩
  | error fault =>
    rw [finish_of_refused heirThere expanded]
    rw [Factory.settled_of_refused expanded] at yields
    refine ⟨grownTells.put (fun _ never => by cases never), ?_⟩
    rintro _ ⟨⟩
    exact yields

/-- What compiling compiles is told, and so is the fault with which it fails, unless it does not
get to where it can begin. -/
theorem tells_compile (registry : Registry) (id : FactoryId) (bound : registry.Bound)
    (childless : registry.Childless) :
    registry.Tells (registry.compile id).2 ∧
      ∀ fault, (registry.compile id).1 = .error fault →
        registry.Yields id (.error fault) ∨ Ascent registry id (some fault) := by
  induction registry, id using compile.induct with
  | case1 registry id missing =>
    rw [compile_of_none missing]
    exact ⟨.refl registry, fun _ never => by cases never⟩
  | case2 registry id factory found list compiled =>
    rw [compile_of_sealed found compiled]
    exact ⟨.refl registry, fun _ never => by cases never⟩
  | case3 registry id factory found compiling =>
    rw [compile_of_compiling found compiling]
    refine ⟨.refl registry, ?_⟩
    rintro _ ⟨⟩
    exact .inr (.met found compiling)
  | case4 registry id factory found unsealed orphan =>
    rw [compile_of_orphan found unsealed orphan]
    have opened : (registry.put id { factory with status := .compiling }).factory? id =
        some { factory with status := .compiling } := factory?_put_self found
    have yields : registry.Yields id factory.settled := .alone found unsealed orphan
    cases expanded : factory.expand with
    | ok list =>
      rw [finish_of_expand opened expanded, put_put]
      rw [Factory.settled_of_expand expanded] at yields
      exact ⟨(Tells.refl registry).put fun _ _ => yields, fun _ never => by cases never⟩
    | error fault =>
      rw [finish_of_refused opened expanded, put_put]
      rw [Factory.settled_of_refused expanded] at yields
      refine ⟨(Tells.refl registry).put (fun _ never => by cases never), ?_⟩
      rintro _ ⟨⟩
      exact .inl yields
  | case5 registry id factory found unsealed started ref named fault missing =>
    rw [compile_of_dangling found unsealed named missing]
    refine ⟨.refl registry, ?_⟩
    rintro _ ⟨⟩
    exact .inr (.dangling found unsealed named missing)
  | case6 registry id factory found unsealed started ref named parentId registered fault after
      failed ih =>
    have startBound := (compiles_start found unsealed).bound bound
    have startChildless : started.Childless := childless_start found unsealed childless
    obtain ⟨tells, fails⟩ := ih startBound startChildless
    obtain ⟨stopped, inner, _⟩ := compilation_compile started parentId startBound startChildless
    rw [failed] at tells fails inner
    rw [compile_of_failed found unsealed named registered failed,
      finish_of_error (inner.factory?_compiling found)]
    refine ⟨(tells.of_started found).put (fun _ never => by cases never), ?_⟩
    rintro _ ⟨⟩
    obtain yields | ascent := fails fault rfl
    · exact .inl (.heir found unsealed named registered (yields.of_started found))
    · exact .inr (.above found unsealed named registered ascent)
  | case7 registry id factory found unsealed started ref named parentId registered after
      done ih =>
    have startBound := (compiles_start found unsealed).bound bound
    have startChildless : started.Childless := childless_start found unsealed childless
    obtain ⟨tells, _⟩ := ih startBound startChildless
    obtain ⟨stopped, inner, _⟩ := compilation_compile started parentId startBound startChildless
    obtain ⟨compiles, parentDone⟩ := compiles_compile started parentId startBound
    rw [done] at tells inner compiles parentDone
    have above : after.findText ref = .ok parentId := (compiles.findText_eq ref).trans registered
    obtain ⟨parent, known, _⟩ := compiles.bound startBound _ _ (findText_eq_ok.1 above)
    obtain ⟨list, compiled⟩ := parentDone rfl parent known
    have noChildren : factory.children = [] := childless found (by rw [unsealed]; rfl)
    have apart : id ≠ parentId := (inner.finished_ne found ⟨parent, list, known, compiled⟩).symm
    rw [compile_of_done found unsealed named registered done]
    obtain ⟨tellsAll, fails⟩ := tells_finish found unsealed noChildren named registered apart
      (inner.factory?_compiling found) known compiled (tells.of_started found)
    exact ⟨tellsAll, fun fault failed => .inl (fails fault failed)⟩

end Registry

end Blueprint
