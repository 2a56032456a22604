import Blueprint.Proofs.Build.Nested
import Blueprint.Proofs.Build.Sites

/-!
# Values without associations

A plan is carried out once where associations are built, and once where they are passed over. The
two sites stay beside each other: but for the names of the associations they hold the same values,
and what blocks can tell of the worlds is the same. For this no block may touch such a name or ask
for the strategy; and after an association is built no block may run a factory, take a number from a
counter that was changed, or handle fields of instances if any were changed in place.
-/
namespace Blueprint

namespace Expr

/-- The expression takes a number from a counter. -/
def takes (name : String) : Expr → Bool
  | counter other => other == name
  | _ => false

/-- The expression reads a field of an instance that is some value, or changes it in place. -/
def handles : Expr → Bool
  | part _ _ | alter _ _ _ => true
  | _ => false

/-- The expression reads a value under one of some names. -/
def reads (names : List String) : Expr → Bool
  | get name => names.contains name
  | _ => false

/-- The expression reads or sets a value under one of some names, or tests for one. -/
def touches (names : List String) : Expr → Bool
  | get name | has name | put name _ _ => names.contains name
  | _ => false

end Expr

/-- Operations in turn go abreast if the first ones come to the same and the second ones go abreast
for all values. -/
theorem Abreast.bind_eq {ε σ τ α γ δ : Type} {states : σ → τ → Prop} {results : γ → δ → Prop}
    {one : ExceptT ε (StateM σ) α} {other : ExceptT ε (StateM τ) α}
    {next : α → ExceptT ε (StateM σ) γ} {onward : α → ExceptT ε (StateM τ) δ}
    (before : Abreast states Eq one other)
    (after : ∀ value, Abreast states results (next value) (onward value)) :
    Abreast states results (one >>= next) (other >>= onward) := by
  refine before.bind ?_
  rintro value _ rfl
  exact after value

/-! ### Worlds -/

/-- A block can tell nothing of two worlds apart: it runs no factory, the counters from which it
takes numbers stand at the same ones, and if it handles fields of instances, the same ones were
changed in place. -/
structure World.NearFor (block : Expr) (world other : World) : Prop where
  /-- The block runs no factory. -/
  silent : block.any Expr.isBuild = false
  /-- The counters stand at the same numbers. -/
  counters : ∀ name, block.any (Expr.takes name) = true →
    world.counters.lookup name = other.counters.lookup name
  /-- The same instances were changed, in the same way. -/
  altered : block.any Expr.handles = true → world.altered = other.altered

/-- Blocks can tell nothing of two worlds apart: these are the same, or each block can tell
nothing. -/
def World.Near (blocks : List Expr) (world other : World) : Prop :=
  world = other ∨ ∀ block ∈ blocks, World.NearFor block world other

section Near

variable {blocks fewer : List Expr} {world other : World}

/-- What more blocks cannot tell apart fewer cannot. -/
theorem World.Near.mono (near : world.Near blocks other) (part : fewer ⊆ blocks) :
    world.Near fewer other :=
  near.imp_right fun each block member => each block (part member)

/-- A counter stands at the same number if a block takes numbers from it. -/
theorem World.Near.counters (near : world.Near blocks other) {block : Expr}
    (member : block ∈ blocks) {name : String} (takes : block.any (Expr.takes name) = true) :
    world.counters.lookup name = other.counters.lookup name := by
  obtain rfl | each := near
  · rfl
  · exact (each block member).counters name takes

/-- The same instances were changed in place if a block handles fields of instances. -/
theorem World.Near.altered (near : world.Near blocks other) {block : Expr} (member : block ∈ blocks)
    (handles : block.any Expr.handles = true) : world.altered = other.altered := by
  obtain rfl | each := near
  · rfl
  · exact (each block member).altered handles

namespace Build

/-- Logging an event goes abreast. -/
theorem near_emit (event : Event) : Abreast (World.Near blocks) Eq (emit event) (emit event) := by
  rintro world other (rfl | each)
  · exact ⟨.ok rfl, .inl rfl⟩
  · exact ⟨.ok rfl, .inr fun block member => { each block member with }⟩

/-- Taking a number goes abreast if a block does so. -/
theorem near_count {name : String}
    (taken : ∃ block ∈ blocks, block.any (Expr.takes name) = true) :
    Abreast (World.Near blocks) Eq (count name) (count name) := by
  rintro world other (rfl | each)
  · exact ⟨.refl (fun _ => rfl) _, .inl rfl⟩
  · obtain ⟨block, member, takes⟩ := taken
    have same := (each block member).counters name takes
    simp only [count, ExceptT.run_mk, same]
    refine ⟨.ok rfl, .inr fun block member => { each block member with counters := ?_ }⟩
    intro key takes
    simp only [Table.lookup_put, (each block member).counters key takes]

/-- Changing an instance in place goes abreast if a block handles fields of instances. -/
theorem near_alter (handled : ∃ block ∈ blocks, block.any Expr.handles = true) (value : Value)
    (name : String) (part : Value) :
    Abreast (World.Near blocks) Eq (alter value name part) (alter value name part) := by
  rintro world other (rfl | each)
  · exact ⟨.refl (fun _ => rfl) _, .inl rfl⟩
  · obtain ⟨block, member, handles⟩ := handled
    have same := (each block member).altered handles
    cases value with
    | object model serial persisted fields =>
      simp only [alter, ExceptT.run_mk, World.fieldsOf, same]
      exact ⟨.ok rfl, .inr fun block member => { each block member with altered := fun _ => rfl }⟩
    | _ => exact ⟨.error _, .inr each⟩

/-- Whatever is done goes abreast if a block runs a factory. -/
theorem near_of_isBuild {α : Type} (runs : ∃ block ∈ blocks, block.any Expr.isBuild = true)
    (build : Build α) : Abreast (World.Near blocks) Eq build build := by
  rintro world other (rfl | each)
  · exact ⟨.refl (fun _ => rfl) _, .inl rfl⟩
  · obtain ⟨block, member, builds⟩ := runs
    rw [(each block member).silent] at builds
    cases builds

end Build

end Near

/-! ### Sites -/

/-- Two sites are beside each other: but for the values under some names, which are only in the
second one, there is the same in both as far as blocks can tell. -/
structure Site.Beside (names : List String) (blocks : List Expr) (bare full : Site) : Prop where
  /-- The values of the first are those of the second but for the names. -/
  values : bare.proxy.values = full.proxy.values.filter fun entry => !names.contains entry.1
  /-- But for the names the same ones are ignored. -/
  ignored : ∀ key ∉ names, bare.proxy.ignored.contains key = full.proxy.ignored.contains key
  /-- In the first only values are wanted. -/
  valued : bare.proxy.strategy = .attributesFor
  /-- In the second an instance is to be built. -/
  built : full.proxy.strategy = .build
  /-- The same instance is at hand, if one is. -/
  subject : bare.subject = full.subject
  /-- Blocks cannot tell the worlds apart. -/
  worlds : World.Near blocks bare.world full.world

section Beside

variable {names : List String} {blocks fewer : List Expr} {α β : Type} {related : α → β → Prop}

namespace Site.Beside

variable {bare full : Site}

/-- Sites are beside each other for fewer blocks. -/
theorem mono (beside : Beside names blocks bare full) (part : fewer ⊆ blocks) :
    Beside names fewer bare full :=
  { beside with worlds := beside.worlds.mono part }

/-- The same value is found under any other name. -/
theorem lookup (beside : Beside names blocks bare full) {key : String} (other : key ∉ names) :
    bare.proxy.values.lookup key = full.proxy.values.lookup key := by
  rw [beside.values]
  exact Table.lookup_filter (fun name => !names.contains name) (by simpa using other) _

/-- The values that reach the instance from the first site are those from the second but for the
names. -/
theorem persistedValues (beside : Beside names blocks bare full) :
    bare.proxy.persistedValues =
      full.proxy.persistedValues.filter fun entry => !names.contains entry.1 := by
  rw [Proxy.persistedValues, Proxy.persistedValues, beside.values, List.filter_filter,
    List.filter_filter]
  refine List.filter_congr fun entry _ => ?_
  by_cases dropped : entry.1 ∈ names
  · simp [dropped]
  · rw [beside.ignored entry.1 dropped, Bool.and_comm]

end Site.Beside

namespace Act

/-- Builds that go abreast do so at sites. -/
theorem beside_ofBuild {one : Build α} {other : Build β}
    (abreast : Abreast (World.Near blocks) related one other) :
    Abreast (Site.Beside names blocks) related (ofBuild one) (ofBuild other) := by
  intro bare full beside
  obtain ⟨agree, near⟩ := abreast beside.worlds
  exact ⟨agree, beside.values, beside.ignored, beside.valued, beside.built, beside.subject, near⟩

/-- Setting a value under another name goes abreast. -/
theorem beside_set {key : String} (other : key ∉ names) (value : Value) (ignored : Bool) :
    Abreast (Site.Beside names blocks) Eq (onProxy fun proxy => proxy.set key value ignored)
      (onProxy fun proxy => proxy.set key value ignored) := by
  intro bare full beside
  refine ⟨.ok rfl, ?_, fun name apart => ?_, beside.valued, beside.built, beside.subject,
    beside.worlds⟩
  · show bare.proxy.values.put key value = _
    rw [beside.values]
    exact (Table.filter_put (fun name => !names.contains name) (by simpa using other) _ value).symm
  · show (bare.proxy.set key value ignored).ignored.contains name =
      (full.proxy.set key value ignored).ignored.contains name
    rw [Proxy.contains_ignored_set, Proxy.contains_ignored_set, beside.ignored name apart]

/-- What is asked of the fields of an instance goes abreast if a block handles such fields. -/
theorem beside_part (handled : ∃ block ∈ blocks, block.any Expr.handles = true) (value : Value)
    (name : String) :
    Abreast (Site.Beside names blocks) Eq (ask fun site => site.world.part value name)
      (ask fun site => site.world.part value name) := by
  refine abreast_ask fun {bare full} beside => ?_
  obtain ⟨block, member, handles⟩ := handled
  have same : bare.world.part value name = full.world.part value name := by
    unfold World.part World.fieldsOf
    rw [beside.worlds.altered member handles]
  rw [same]
  exact .refl (fun _ => rfl) _

/-- Changing the instance goes abreast. -/
theorem beside_onSubject (change : Instance → Instance) :
    Abreast (Site.Beside names blocks) Eq (onSubject change) (onSubject change) := by
  intro bare full beside
  have same := beside.subject
  simp only [onSubject, ExceptT.run_mk, same]
  cases full.subject with
  | none => exact ⟨.error _, beside⟩
  | some subject =>
    exact ⟨.ok rfl, beside.values, beside.ignored, beside.valued, beside.built, rfl, beside.worlds⟩

/-- What is asked of the instance goes abreast. -/
theorem beside_askSubject (view : Instance → α) :
    Abreast (Site.Beside names blocks) Eq (askSubject view) (askSubject view) := by
  refine abreast_ask fun {bare full} beside => ?_
  rw [beside.subject]
  exact .refl (fun _ => rfl) _

end Act

/-! ### Expressions -/

mutual

/-- An expression that is part of a block, touches none of the names and does not ask for the
strategy is evaluated abreast. -/
theorem Expr.beside_eval (runner : Runner) (seesProxy : Bool) (expr : Expr)
    (apart : expr.any (touches names) = false) (unaware : expr.any isStrategyTag = false)
    (inside : ∀ test, expr.any test = true → ∃ block ∈ blocks, block.any test = true) :
    Abreast (Site.Beside names blocks) Eq (expr.eval runner seesProxy)
      (expr.eval runner seesProxy) := by
  have reach : Abreast (Site.Beside names blocks) Eq (Expr.reach seesProxy)
      (Expr.reach seesProxy) := by
    cases seesProxy with
    | false => exact Act.abreast_fail _
    | true => exact .pure rfl
  cases expr with
  | const value => exact .pure rfl
  | get name =>
    have other : name ∉ names := by simpa [any, touches] using apart
    refine reach.bind_eq fun _ => Act.abreast_ask fun {bare full} beside => ?_
    rw [Proxy.get, beside.lookup other]
    exact .refl (fun _ => rfl) _
  | has name =>
    have other : name ∉ names := by simpa [any, touches] using apart
    refine reach.bind_eq fun _ => Act.abreast_ask fun {bare full} beside => ?_
    rw [Proxy.has, Table.has, beside.lookup other]
    exact .ok rfl
  | put name value ignored =>
    have other : name ∉ names := by
      intro member
      simp [any, touches, member] at apart
    have inner := Expr.beside_eval runner seesProxy value (by simp_all [any]) (by simp_all [any])
      fun test is => inside test (by simp [any, is])
    exact reach.bind_eq fun _ => inner.bind_eq fun value =>
      (Act.beside_set other value ignored).bind_eq fun _ => .pure rfl
  | strategyTag => simp [any, isStrategyTag] at unaware
  | field name => exact Act.beside_askSubject _
  | setField name value =>
    have inner := Expr.beside_eval runner seesProxy value (by simp_all [any]) (by simp_all [any])
      fun test is => inside test (by simp [any, is])
    exact inner.bind_eq fun _ => (Act.beside_onSubject _).bind_eq fun _ => .pure rfl
  | persisted => exact Act.beside_askSubject _
  | part owner name =>
    have inner := Expr.beside_eval runner seesProxy owner (by simp_all [any]) (by simp_all [any])
      fun test is => inside test (by simp [any, is])
    have handled := inside handles (by simp [any, handles])
    exact inner.bind_eq fun value => Act.beside_part handled value name
  | alter owner name value =>
    have first := Expr.beside_eval runner seesProxy owner (by simp_all [any]) (by simp_all [any])
      fun test is => inside test (by simp [any, is])
    have second := Expr.beside_eval runner seesProxy value (by simp_all [any]) (by simp_all [any])
      fun test is => inside test (by simp [any, is])
    have handled := inside handles (by simp [any, handles])
    exact first.bind_eq fun value => second.bind_eq fun part =>
      (Act.beside_ofBuild (Build.near_alter handled value name part)).bind_eq fun _ => .pure rfl
  | concat parts =>
    have inner := Expr.beside_evalAll runner seesProxy parts (by simp_all [any]) (by simp_all [any])
      fun test is => inside test (by simp [any, is])
    exact inner.bind_eq fun _ => .pure rfl
  | upper value =>
    have inner := Expr.beside_eval runner seesProxy value (by simp_all [any]) (by simp_all [any])
      fun test is => inside test (by simp [any, is])
    exact inner.bind_eq fun _ => .pure rfl
  | lower value =>
    have inner := Expr.beside_eval runner seesProxy value (by simp_all [any]) (by simp_all [any])
      fun test is => inside test (by simp [any, is])
    exact inner.bind_eq fun _ => .pure rfl
  | choose condition yes no =>
    have first := Expr.beside_eval runner seesProxy condition (by simp_all [any])
      (by simp_all [any]) fun test is => inside test (by simp [any, is])
    have second := Expr.beside_eval runner seesProxy yes (by simp_all [any]) (by simp_all [any])
      fun test is => inside test (by simp [any, is])
    have third := Expr.beside_eval runner seesProxy no (by simp_all [any]) (by simp_all [any])
      fun test is => inside test (by simp [any, is])
    refine first.bind_eq fun value => ?_
    cases value.truthy with
    | true => exact second
    | false => exact third
  | sequence steps =>
    have inner := Expr.beside_evalAll runner seesProxy steps (by simp_all [any]) (by simp_all [any])
      fun test is => inside test (by simp [any, is])
    exact inner.bind_eq fun _ => .pure rfl
  | tick label value =>
    have inner := Expr.beside_eval runner seesProxy value (by simp_all [any]) (by simp_all [any])
      fun test is => inside test (by simp [any, is])
    exact (Act.beside_ofBuild (Build.near_emit (.tick label))).bind_eq fun _ => inner
  | note label value =>
    have inner := Expr.beside_eval runner seesProxy value (by simp_all [any]) (by simp_all [any])
      fun test is => inside test (by simp [any, is])
    exact inner.bind_eq fun value =>
      (Act.beside_ofBuild (Build.near_emit (.note label value))).bind_eq fun _ => .pure rfl
  | counter name =>
    have counts := Build.near_count (inside (takes name) (by simp [any, takes]))
    exact (Act.beside_ofBuild counts).bind_eq fun _ => .pure rfl
  | fail message => exact Act.abreast_fail _
  | build factory strategy overrides =>
    exact Act.beside_ofBuild (Build.near_of_isBuild (inside isBuild rfl) _)
termination_by structural expr

/-- Expressions in turn are evaluated abreast if they are parts of blocks, touch none of the names
and do not ask for the strategy. -/
theorem Expr.beside_evalAll (runner : Runner) (seesProxy : Bool) (exprs : List Expr)
    (apart : anyOf (touches names) exprs = false) (unaware : anyOf isStrategyTag exprs = false)
    (inside : ∀ test, anyOf test exprs = true → ∃ block ∈ blocks, block.any test = true) :
    Abreast (Site.Beside names blocks) Eq (evalAll runner seesProxy exprs)
      (evalAll runner seesProxy exprs) := by
  cases exprs with
  | nil => exact .pure rfl
  | cons expr rest =>
    have first := Expr.beside_eval runner seesProxy expr (by simp_all [anyOf]) (by simp_all [anyOf])
      fun test is => inside test (by simp [anyOf, is])
    have later := Expr.beside_evalAll runner seesProxy rest (by simp_all [anyOf])
      (by simp_all [anyOf]) fun test is => inside test (by simp [anyOf, is])
    exact first.bind_eq fun _ => later.bind_eq fun _ => .pure rfl
termination_by structural exprs

end

end Beside

end Blueprint
