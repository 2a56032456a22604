import Blueprint.Proofs.Factory.Expand
import Blueprint.Proofs.Registry.Precedence

/-!
# Pieces of code

A registry holds code in the blocks of declarations and attributes, in callbacks and in finalizers.
Compiling a factory and looking up its model class are work on factories that brings in no code, and
what a factory resolves to holds code of the registry only. So what is true of all code that a
registry holds stays true while factories are run, and is true of all code that is run.
-/
namespace Blueprint

/-! ### Code -/

namespace Expr

mutual

/-- A part of an expression, or the expression itself, passes a test. -/
def any (test : Expr → Bool) : Expr → Bool
  | put name value ignored => test (put name value ignored) || value.any test
  | setField name value => test (setField name value) || value.any test
  | concat parts => test (concat parts) || anyOf test parts
  | upper value => test (upper value) || value.any test
  | lower value => test (lower value) || value.any test
  | choose condition yes no =>
    test (choose condition yes no) || condition.any test || yes.any test || no.any test
  | sequence steps => test (sequence steps) || anyOf test steps
  | tick label value => test (tick label value) || value.any test
  | note label value => test (note label value) || value.any test
  | part owner name => test (part owner name) || owner.any test
  | alter owner name value =>
    test (alter owner name value) || owner.any test || value.any test
  | const value => test (const value)
  | get name => test (get name)
  | has name => test (has name)
  | strategyTag => test strategyTag
  | field name => test (field name)
  | persisted => test persisted
  | counter name => test (counter name)
  | fail message => test (fail message)
  | build factory strategy overrides => test (build factory strategy overrides)
termination_by structural expr => expr

/-- A part of one of several expressions passes a test. -/
def anyOf (test : Expr → Bool) : List Expr → Bool
  | [] => false
  | expr :: exprs => expr.any test || anyOf test exprs
termination_by structural exprs => exprs

end

section

variable (test other : Expr → Bool)

mutual

/-- A part passes one of two tests if a part passes the first or a part passes the second. -/
theorem any_or (expr : Expr) : expr.any (fun part => test part || other part) =
    (expr.any test || expr.any other) := by
  cases expr with
  | put _ value _ | setField _ value | upper value | lower value | tick _ value | note _ value
    | part value _ =>
    simp only [any, any_or value]
    ac_rfl
  | concat exprs | sequence exprs =>
    simp only [any, anyOf_or exprs]
    ac_rfl
  | alter owner _ value =>
    simp only [any, any_or owner, any_or value]
    ac_rfl
  | choose condition yes no =>
    simp only [any, any_or condition, any_or yes, any_or no]
    ac_rfl
  | _ => rfl
termination_by structural expr

/-- The same of a part of one of several expressions. -/
theorem anyOf_or (exprs : List Expr) : anyOf (fun part => test part || other part) exprs =
    (anyOf test exprs || anyOf other exprs) := by
  cases exprs with
  | nil => rfl
  | cons expr rest =>
    simp only [anyOf, any_or expr, anyOf_or rest]
    ac_rfl
termination_by structural exprs

end

end

/-- The expression runs another factory. -/
def isBuild : Expr → Bool
  | build _ _ _ => true
  | _ => false

/-- The expression takes the number of a counter. -/
def isCounter : Expr → Bool
  | counter _ => true
  | _ => false

/-- The expression asks for the strategy of the proxy. -/
def isStrategyTag : Expr → Bool
  | strategyTag => true
  | _ => false

/-- The expression reads a field of an instance that is some value. -/
def isPart : Expr → Bool
  | part _ _ => true
  | _ => false

/-- The expression changes an instance that is some value in place. -/
def isAlter : Expr → Bool
  | alter _ _ _ => true
  | _ => false

/-- What the expression comes to depends on what other values look like. -/
def isInspection : Expr → Bool
  | concat _ | upper _ | lower _ | choose _ _ _ => true
  | _ => false

end Expr

/-- A piece of code, with what it is for. -/
inductive Piece where
  /-- It computes the value of an attribute. -/
  | block (body : Expr)
  /-- It is called at a moment in the making of an instance. -/
  | callback (moment : Moment) (handler : Handler)
  /-- It saves an instance. -/
  | finalizer (handler : Handler)

/-- The expression of a piece of code. -/
def Piece.body : Piece → Expr
  | block body => body
  | callback _ handler => handler.body
  | finalizer handler => handler.body

/-- The code of a declaration, if it has a block. -/
def Declaration.piece? (declaration : Declaration) : Option Piece :=
  match declaration.content with
  | .dynamic block => block.map .block
  | _ => none

/-- The code of an attribute, if it has a block. -/
def Attribute.piece? (attr : Attribute) : Option Piece :=
  match attr.source with
  | .dynamic block => some (.block block)
  | _ => none

/-- The code of a callback, if it has a handler. -/
def Callback.piece? (callback : Callback) : Option Piece :=
  callback.handler.map (.callback callback.moment)

/-- The code in a list of attributes. -/
def AttributeList.pieces (list : AttributeList) : List Piece :=
  list.declarations.filterMap Declaration.piece? ++
    list.attributes.filterMap Attribute.piece? ++ list.callbacks.filterMap Callback.piece?

/-- The code in a trait. -/
def Trait.pieces (trait : Trait) : List Piece :=
  trait.declarations.filterMap Declaration.piece? ++ trait.callbacks.filterMap Callback.piece?

/-- The code in a factory. -/
def Factory.pieces (factory : Factory) : List Piece :=
  factory.definition.pieces ++ factory.compiled.pieces ++ factory.traits.flatMap Trait.pieces ++
    (factory.finalizer.map .finalizer).toList

/-- The code in a registry. -/
def Registry.pieces (registry : Registry) : List Piece :=
  registry.factories.flatMap Factory.pieces ++ registry.traits.values.flatMap Trait.pieces

/-! ### Code that is expanded -/

/-- The code of an attribute is that of its declaration. -/
theorem Declaration.piece?_of_attribute {declaration : Declaration} {attr : Attribute}
    (made : declaration.attribute? = .ok attr) : attr.piece? = declaration.piece? := by
  obtain ⟨source, its, same⟩ := bind_eq_ok.1 made
  cases same
  unfold Declaration.source at its
  unfold Attribute.piece? Declaration.piece?
  split at its
  all_goals cases its
  all_goals simp_all

/-- The attributes that declarations become are the old ones or have the code of declarations. -/
theorem AttributeList.piece?_of_expand {accept : Attribute → Except Fault Unit}
    {list expanded : AttributeList} {declarations : List Declaration}
    (made : list.expand accept declarations = .ok expanded) {attr : Attribute}
    (member : attr ∈ expanded.attributes) :
    attr ∈ list.attributes ∨ ∃ declaration ∈ declarations, attr.piece? = declaration.piece? := by
  induction declarations generalizing list with
  | nil =>
    cases made
    exact .inl member
  | cons declaration rest ih =>
    rw [expand, List.foldlM_cons] at made
    obtain ⟨next, step, others⟩ := bind_eq_ok.1 made
    obtain ⟨new, becomes, admitted⟩ := bind_eq_ok.1 step
    obtain ⟨_, _, defined⟩ := bind_eq_ok.1 admitted
    obtain inside | ⟨other, there, same⟩ := ih others
    · unfold define at defined
      split at defined <;> cases defined
      obtain rfl | old := eq_or_mem_of_mem_place inside
      · exact .inr ⟨declaration, List.mem_cons_self, declaration.piece?_of_attribute becomes⟩
      · exact .inl old
    · exact .inr ⟨other, List.mem_cons_of_mem _ there, same⟩

/-- Expanding declarations leaves callbacks and what is declared otherwise. -/
theorem AttributeList.rest_of_expand {accept : Attribute → Except Fault Unit}
    {list expanded : AttributeList} {declarations : List Declaration}
    (made : list.expand accept declarations = .ok expanded) :
    expanded.callbacks = list.callbacks ∧ expanded.declarations = list.declarations := by
  induction declarations generalizing list with
  | nil =>
    cases made
    exact ⟨rfl, rfl⟩
  | cons declaration rest ih =>
    rw [expand, List.foldlM_cons] at made
    obtain ⟨next, step, others⟩ := bind_eq_ok.1 made
    obtain ⟨_, _, admitted⟩ := bind_eq_ok.1 step
    obtain ⟨_, _, defined⟩ := bind_eq_ok.1 admitted
    have later := ih others
    unfold define at defined
    split at defined <;> cases defined
    exact later

/-- The code in a list is that of its declarations, attributes and callbacks. -/
theorem AttributeList.mem_pieces {list : AttributeList} {piece : Piece} :
    piece ∈ list.pieces ↔
      (∃ declaration ∈ list.declarations, declaration.piece? = some piece) ∨
      (∃ attr ∈ list.attributes, attr.piece? = some piece) ∨
      ∃ callback ∈ list.callbacks, callback.piece? = some piece := by
  simp [pieces, List.mem_filterMap]

/-- What declarations become, with callbacks, holds the code of the declarations and callbacks. -/
theorem AttributeList.pieces_of_expand {accept : Attribute → Except Fault Unit}
    {overridable : Bool} {expanded : AttributeList} {declarations : List Declaration}
    {callbacks : List Callback}
    (made : expand accept { overridable := overridable } declarations = .ok expanded) :
    { expanded with callbacks := callbacks }.pieces ⊆
      declarations.filterMap Declaration.piece? ++ callbacks.filterMap Callback.piece? := by
  intro piece member
  have declared := (rest_of_expand made).2
  obtain ⟨_, inside, _⟩ | ⟨attr, inside, its⟩ | ⟨callback, inside, its⟩ := mem_pieces.1 member
  · rw [show expanded.declarations = [] from declared] at inside
    cases inside
  · obtain never | ⟨declaration, there, same⟩ := piece?_of_expand made inside
    · cases never
    · exact List.mem_append_left _ (List.mem_filterMap.2 ⟨declaration, there, same ▸ its⟩)
  · exact List.mem_append_right _ (List.mem_filterMap.2 ⟨callback, inside, its⟩)

/-- The attributes of a trait hold its code only. -/
theorem Trait.pieces_of_attributes {trait : Trait} {list : AttributeList}
    (made : trait.attributes = .ok list) : list.pieces ⊆ trait.pieces := by
  obtain ⟨expanded, declared, same⟩ := bind_eq_ok.1 made
  cases same
  exact AttributeList.pieces_of_expand declared

/-- What the declarations of a factory become holds the code of its definition only. -/
theorem Factory.pieces_of_expand {factory : Factory} {list : AttributeList}
    (made : factory.expand = .ok list) : list.pieces ⊆ factory.definition.pieces := by
  obtain ⟨expanded, declared, same⟩ := bind_eq_ok.1 made
  cases same
  intro piece member
  rw [AttributeList.pieces, List.append_assoc]
  obtain inside | inside := List.mem_append.1 (AttributeList.pieces_of_expand declared member)
  · exact List.mem_append_left _ inside
  · exact List.mem_append_right _ (List.mem_append_right _ inside)

/-- A compiled factory holds the code of its declarations and of what it is compiled to. -/
theorem Factory.pieces_withStatus {factory : Factory} {status : Status}
    (made : ∀ list, status = .sealed list → factory.expand = .ok list) :
    { factory with status := status }.pieces ⊆ factory.pieces := by
  intro piece member
  simp only [pieces, List.mem_append] at member ⊢
  obtain ((inside | inside) | inside) | inside := member
  · exact .inl (.inl (.inl inside))
  · cases status with
    | unsealed | compiling => cases inside
    | «sealed» list => exact .inl (.inl (.inl (pieces_of_expand (made list rfl) inside)))
  · exact .inl (.inr inside)
  · exact .inr inside

namespace Registry

variable {registry : Registry} {id : FactoryId} {factory later : Factory}

/-! ### Code that stays -/

/-- One registry comes of another one by work on its factories that brings in no code. -/
structure Reworks (registry after : Registry) : Prop where
  /-- Only factories changed. -/
  rest : after = { registry with factories := after.factories }
  /-- All code was there before. -/
  pieces : after.pieces ⊆ registry.pieces

namespace Reworks

theorem refl (registry : Registry) : registry.Reworks registry := ⟨rfl, List.Subset.refl _⟩

theorem trans {middle after : Registry} (first : registry.Reworks middle)
    (second : middle.Reworks after) : registry.Reworks after :=
  ⟨by rw [second.rest, first.rest], List.Subset.trans second.pieces first.pieces⟩

/-- Work on factories draws no id. -/
theorem nextStub {after : Registry} (reworks : registry.Reworks after) :
    after.nextStub = registry.nextStub := by
  rw [reworks.rest]

/-- Putting in a factory with no new code is such work. -/
theorem put (found : registry.factory? id = some factory) (less : later.pieces ⊆ factory.pieces) :
    registry.Reworks (registry.put id later) := by
  refine ⟨rfl, fun piece member => ?_⟩
  obtain inside | inside := List.mem_append.1 member
  · obtain ⟨other, there, its⟩ := List.mem_flatMap.1 inside
    obtain old | rfl := List.mem_or_eq_of_mem_set there
    · exact List.mem_append_left _ (List.mem_flatMap.2 ⟨other, old, its⟩)
    · have known : factory ∈ registry.factories := List.mem_of_getElem? found
      exact List.mem_append_left _ (List.mem_flatMap.2 ⟨factory, known, less its⟩)
  · exact List.mem_append_right _ inside

/-- A change of one factory that brings in no code is such work. -/
theorem modify {change : Factory → Factory}
    (less : ∀ factory, (change factory).pieces ⊆ factory.pieces) (registry : Registry)
    (id : FactoryId) : registry.Reworks (registry.modify id change) := by
  cases found : registry.factory? id with
  | some factory =>
    rw [modify_eq_put found]
    exact .put found (less factory)
  | none =>
    have same : registry.factories.modify id change = registry.factories := by
      rw [List.modify_eq_set_getElem?, show registry.factories[id]? = none from found]
      rfl
    rw [Registry.modify, same]
    exact .refl registry

/-- Letting a factory allow overrides is such work. -/
theorem permit (registry : Registry) (id : FactoryId) : registry.Reworks (registry.permit id) := by
  unfold Registry.permit
  cases found : registry.factory? id with
  | none => exact .refl registry
  | some factory => exact .put found (List.Subset.refl _)

/-- Letting a factory and its children allow overrides is such work. -/
theorem allowOverrides (registry : Registry) (id : FactoryId) :
    registry.Reworks (registry.allowOverrides id) := by
  have spread : ∀ (registry : Registry) (pending : List FactoryId),
      registry.Reworks (registry.spreadOverrides pending) := by
    intro registry pending
    induction registry, pending using spreadOverrides.induct with
    | case1 registry pending none =>
      rw [spreadOverrides, none]
      exact .refl registry
    | case2 registry pending id found ih =>
      rw [spreadOverrides, found]
      exact (permit registry id).trans ih
  exact (permit registry id).trans (spread _ _)

/-- Inheriting is such work. -/
theorem adopt (registry : Registry) (id parentId : FactoryId) :
    registry.Reworks (registry.adopt id parentId) := by
  unfold Registry.adopt
  split
  · rename_i child parent found _
    have linked : registry.Reworks (registry.put id (inherited child parent parentId)) :=
      .put found (List.Subset.refl _)
    refine trans ?_ (modify (fun factory => ?_) _ _)
    · split
      · exact linked.trans (allowOverrides _ id)
      · exact linked
    · split <;> exact List.Subset.refl _
  · exact .refl registry

/-- Ending a compilation is such work. -/
theorem finish (id : FactoryId) (outcome : Except Fault Unit) (registry : Registry) :
    registry.Reworks (Registry.finish id (outcome, registry)).2 := by
  have reset : registry.Reworks (registry.withStatus id .unsealed) :=
    modify (fun factory => factory.pieces_withStatus fun _ never => by cases never) _ _
  cases outcome with
  | error fault => exact reset
  | ok done =>
    cases found : registry.factory? id with
    | none =>
      simp only [Registry.finish, found, Option.map_none]
      exact .refl registry
    | some factory =>
      cases expanded : factory.expand with
      | ok list =>
        rw [finish_of_expand found expanded]
        refine .put found (factory.pieces_withStatus fun other same => ?_)
        cases same
        exact expanded
      | error fault =>
        rw [finish_of_refused found expanded]
        exact .put found (factory.pieces_withStatus fun _ never => by cases never)

/-- Compiling a factory is such work. -/
theorem compile (registry : Registry) (id : FactoryId) :
    registry.Reworks (registry.compile id).2 := by
  have start : ∀ {registry : Registry} {id factory}, registry.factory? id = some factory →
      registry.Reworks (registry.put id { factory with status := .compiling }) :=
    fun {_ _ factory} found =>
      .put found (factory.pieces_withStatus fun _ never => by cases never)
  induction registry, id using compile.induct with
  | case1 registry id missing =>
    rw [compile_of_none missing]
    exact .refl registry
  | case2 registry id factory found list compiled =>
    rw [compile_of_sealed found compiled]
    exact .refl registry
  | case3 registry id factory found compiling =>
    rw [compile_of_compiling found compiling]
    exact .refl registry
  | case4 registry id factory found unsealed orphan =>
    rw [compile_of_orphan found unsealed orphan]
    exact (start found).trans (finish _ _ _)
  | case5 registry id factory found unsealed started ref named fault =>
    rename_i missing
    rw [compile_of_dangling found unsealed named missing]
    exact .refl registry
  | case6 registry id factory found unsealed started ref named parentId registered fault after
      failed =>
    rename_i ih
    rw [failed] at ih
    rw [compile_of_failed found unsealed named registered failed]
    exact ((start found).trans ih).trans (finish _ _ _)
  | case7 registry id factory found unsealed started ref named parentId registered after
      done =>
    rename_i ih
    rw [done] at ih
    rw [compile_of_done found unsealed named registered done]
    exact (((start found).trans ih).trans (adopt _ _ _)).trans (finish _ _ _)

/-- Looking up a model class is such work. -/
theorem model (registry : Registry) (id : FactoryId) :
    registry.Reworks (Registry.model id registry).2 := by
  unfold Registry.model
  cases found : registry.factory? id with
  | none => exact .refl registry
  | some factory =>
    dsimp only
    split
    · exact .refl registry
    · split
      · exact .put found (List.Subset.refl _)
      · exact .refl registry

end Reworks

/-! ### Code that is resolved -/

/-- A list laid over another one brings in its own code only. -/
theorem pieces_override (list other : AttributeList) :
    (list.override other).pieces ⊆ list.pieces ++ other.pieces := by
  have placed : ∀ (more attributes : List Attribute) {attr : Attribute},
      attr ∈ more.foldl (fun placed attr => AttributeList.place attr placed) attributes →
        attr ∈ attributes ∨ attr ∈ more := by
    intro more
    induction more with
    | nil => exact fun _ _ member => .inl member
    | cons first rest ih =>
      intro attributes attr member
      obtain inside | later := ih _ member
      · obtain rfl | old := AttributeList.eq_or_mem_of_mem_place inside
        · exact .inr List.mem_cons_self
        · exact .inl old
      · exact .inr (List.mem_cons_of_mem _ later)
  intro piece member
  rw [List.mem_append, AttributeList.mem_pieces, AttributeList.mem_pieces]
  obtain declared | ⟨attr, inside, its⟩ | ⟨callback, inside, its⟩ :=
    AttributeList.mem_pieces.1 member
  · exact .inl (.inl declared)
  · obtain old | new := placed _ _ inside
    · exact .inl (.inr (.inl ⟨attr, old, its⟩))
    · exact .inr (.inr (.inl ⟨attr, new, its⟩))
  · obtain old | new := List.mem_append.1 inside
    · exact .inl (.inr (.inr ⟨callback, old, its⟩))
    · exact .inr (.inr (.inr ⟨callback, new, its⟩))

/-- A list put under another one brings in its own code only. -/
theorem pieces_inherit (list other : AttributeList) :
    (list.inherit other).pieces ⊆ list.pieces ++ other.pieces := by
  intro piece member
  rw [List.mem_append, AttributeList.mem_pieces, AttributeList.mem_pieces]
  obtain declared | ⟨attr, inside, its⟩ | ⟨callback, inside, its⟩ :=
    AttributeList.mem_pieces.1 member
  · exact .inl (.inl declared)
  · obtain new | old := List.mem_append.1 inside
    · exact .inr (.inr (.inl ⟨attr, List.mem_of_mem_filter new, its⟩))
    · exact .inl (.inr (.inl ⟨attr, old, its⟩))
  · obtain old | new := List.mem_append.1 inside
    · exact .inl (.inr (.inr ⟨callback, old, its⟩))
    · exact .inr (.inr (.inr ⟨callback, new, its⟩))

/-- Layers hold their own code only. -/
theorem pieces_layered (layers : List AttributeList) (own : AttributeList) :
    (layered layers own).pieces ⊆ layers.flatMap AttributeList.pieces ++ own.pieces := by
  have laid : ∀ (layers : List AttributeList) (base : AttributeList),
      (layers.foldl AttributeList.override base).pieces ⊆
        base.pieces ++ layers.flatMap AttributeList.pieces := by
    intro layers
    induction layers with
    | nil => simp
    | cons layer rest ih =>
      intro base piece member
      have inside := ih _ member
      rw [List.mem_append] at inside
      rw [List.flatMap_cons, ← List.append_assoc, List.mem_append]
      exact inside.imp_left fun there => pieces_override base layer there
  have all := laid (layers ++ [own]) {}
  rwa [List.flatMap_append, List.flatMap_singleton] at all

/-- A trait that is found for a factory holds code of the registry only. -/
theorem pieces_of_seekTrait {name : String} {fuel : Nat} {seen : List String} {trait : Trait}
    (found : registry.seekTrait name fuel seen id = .ok trait) : trait.pieces ⊆ registry.pieces := by
  have registered : ∀ {trait}, registry.trait (.text name) = .ok trait →
      trait.pieces ⊆ registry.pieces := by
    intro trait found piece member
    unfold Registry.trait at found
    cases held : registry.traits.lookup (Name.ofValue (.text name)) with
    | none => simp [held] at found
    | some own =>
      obtain rfl : own = trait := by simpa [held] using found
      obtain ⟨before, after, split, _⟩ := List.lookup_eq_some_iff.1 held
      have there : own ∈ registry.traits.values := by simp [Table.values, split]
      exact List.mem_append_right _ (List.mem_flatMap.2 ⟨own, there, member⟩)
  induction fuel generalizing seen id with
  | zero => cases found
  | succ fuel ih =>
    rw [seekTrait] at found
    cases known : registry.factory? id with
    | none =>
      simp only [known] at found
      exact registered found
    | some factory =>
      simp only [known] at found
      cases here : factory.trait? name with
      | some own =>
        obtain rfl : own = trait := by simpa [here] using found
        have there : own ∈ factory.traits := List.mem_of_find?_eq_some here
        have member : factory ∈ registry.factories := List.mem_of_getElem? known
        intro piece inside
        refine List.mem_append_left _ (List.mem_flatMap.2 ⟨factory, member, ?_⟩)
        exact List.mem_append_left _
          (List.mem_append_right _ (List.mem_flatMap.2 ⟨own, there, inside⟩))
      | none =>
        simp only [here] at found
        cases named : factory.parentName? with
        | none =>
          simp only [named] at found
          exact registered found
        | some ref =>
          simp only [named] at found
          split at found
          · cases found
          · obtain ⟨parent, _, above⟩ := bind_eq_ok.1 found
            exact ih above

/-- What a factory resolves to holds code of the registry only. -/
theorem pieces_of_resolve {fuel : Nat} {list : AttributeList}
    (resolved : registry.resolve fuel id = .ok list) : list.pieces ⊆ registry.pieces := by
  induction fuel generalizing id list with
  | zero => cases resolved
  | succ fuel ih =>
    cases found : registry.factory? id with
    | none =>
      rw [resolve] at resolved
      simp only [found] at resolved
      cases resolved
      exact List.nil_subset _
    | some factory =>
      obtain ⟨layers, inherited, made, above, rfl⟩ := (resolve_eq_ok found).1 resolved
      have member : factory ∈ registry.factories := List.mem_of_getElem? found
      intro piece inside
      obtain own | under := List.mem_append.1 (pieces_inherit _ _ inside)
      · obtain traits | compiled := List.mem_append.1 (pieces_layered layers _ own)
        · obtain ⟨layer, there, its⟩ := List.mem_flatMap.1 traits
          have each := List.forall₂_reverse_iff.2 (traitLists_eq_ok made)
          rw [List.reverse_reverse] at each
          obtain ⟨ref, _, trait, means, expanded⟩ := exists_of_forall₂ each.flip there
          exact pieces_of_seekTrait means (trait.pieces_of_attributes expanded its)
        · refine List.mem_append_left _ (List.mem_flatMap.2 ⟨factory, member, ?_⟩)
          exact List.mem_append_left _ (List.mem_append_left _ (List.mem_append_right _ compiled))
      · cases linked : factory.parent with
        | none =>
          simp only [linked] at above
          rw [above] at under
          cases under
        | some parent =>
          simp only [linked] at above
          exact ih above under

end Registry

end Blueprint
