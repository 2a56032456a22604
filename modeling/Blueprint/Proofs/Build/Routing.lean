import Blueprint.Proofs.Build.Prepared
import Mathlib.Data.List.Perm.Basic

/-!
# Routes of overrides

The route of an override key depends on the attributes and the patterns only, and not on what else
is pending when an attribute has its turn. What a run does with its overrides is told by the routes
alone: every override is set once, and an attribute gives its value once if no override is routed to
it, and otherwise never.
-/
namespace Blueprint

namespace Action

/-- The override that a step sets. -/
def override? : Action → Option Override
  | .assign key value _ => some (key, value)
  | .evaluate _ => none

/-- The attribute that gives its value in a step. -/
def evaluated? : Action → Option Attribute
  | .assign _ _ _ => none
  | .evaluate attr => some attr

end Action

namespace Plan

section

variable (aliases : String → Except Fault (List String)) (attributes : List Attribute)

/-- The attribute to which a key is routed: the first one of which it is a name, or else the first
one whose name the patterns find for it. The patterns are asked only if there is an attribute. -/
def route (key : String) : Except Fault (Option Attribute) :=
  match owner? attributes key with
  | some owner => .ok (some owner)
  | none =>
    if attributes.isEmpty then .ok none
    else do
      let names ← aliases key
      .ok (attributes.find? fun attr => names.contains attr.name)

/-- An override with the name of the attribute to which it is routed. -/
def routeOf (pair : Override) : Except Fault (Option String × Override) := do
  .ok ((← route aliases attributes pair.1).map Attribute.name, pair)

/-- The overrides in order, each with the name of the attribute to which it is routed. -/
def routed (overrides : List Override) : Except Fault (List (Option String × Override)) :=
  overrides.mapM (routeOf aliases attributes)

/-- The overrides that are routed to an attribute, or to none. -/
def bound (routed : List (Option String × Override)) (destination : Option String) :
    List Override :=
  (routed.filter fun entry => entry.1 == destination).map Prod.snd

/-- What is to be done by the routes: for each attribute the overrides routed to it are set, or else
it gives its value; and the overrides that are routed to none are set last. If a key has no route,
because the patterns fail for it, nothing is done. -/
def byRoute (overrides : List Override) : Plan :=
  match routed aliases attributes overrides with
  | .error fault => { actions := [], fault := some fault }
  | .ok routed =>
    { actions :=
        attributes.flatMap (fun attr => portion attr (bound routed (some attr.name))) ++
          assignAll false (bound routed none) }

end

variable {aliases : String → Except Fault (List String)} {attributes rest : List Attribute}
  {overrides : List Override} {routes : List (Option String × Override)} {key : String}
  {fault : Fault}

/-! ### The route of one key -/

/-- The destination of a key is the name of the attribute to which it is routed. -/
theorem destination?_of_route {target : Option Attribute}
    (routes : route aliases attributes key = .ok target) :
    destination? aliases attributes attributes key = target.map Attribute.name := by
  unfold route at routes
  cases owned : owner? attributes key with
  | some owner =>
    rw [owned] at routes
    cases routes
    exact destination?_of_owner? owned
  | none =>
    simp only [owned] at routes
    split at routes
    · rename_i empty
      cases routes
      rw [List.isEmpty_iff.1 empty]
      rfl
    · obtain ⟨names, found, same⟩ := bind_eq_ok.1 routes
      cases same
      have test : (fun attr => passes (targets aliases attributes attr) key) =
          fun attr : Attribute => names.contains attr.name := by
        funext attr
        simp [passes, targets, owned, found, bind, Except.bind]
      rw [destination?, test]

/-- Where a key has a route, it is decided for every attribute whether the key is meant for it. -/
theorem targets_of_route {target : Option Attribute} {attr : Attribute}
    (routes : route aliases attributes key = .ok target) (member : attr ∈ attributes) :
    ∃ chosen, targets aliases attributes attr key = .ok chosen := by
  unfold route at routes
  unfold targets
  cases owned : owner? attributes key with
  | some owner => exact ⟨owner.name == attr.name, rfl⟩
  | none =>
    have nonempty : attributes.isEmpty = false := by
      cases attributes with
      | nil => cases member
      | cons first others => rfl
    simp only [owned, nonempty] at routes
    obtain ⟨names, found, _⟩ := bind_eq_ok.1 routes
    exact ⟨names.contains attr.name, bind_eq_ok.2 ⟨names, found, rfl⟩⟩

/-- Where a key has no route, it is decided for no attribute whether the key is meant for it. -/
theorem targets_of_no_route (attr : Attribute)
    (fails : route aliases attributes key = .error fault) :
    targets aliases attributes attr key = .error fault := by
  unfold route at fails
  unfold targets
  cases owned : owner? attributes key with
  | some owner =>
    rw [owned] at fails
    cases fails
  | none =>
    simp only [owned] at fails ⊢
    split at fails
    · cases fails
    · obtain failed | ⟨names, _, never⟩ := bind_eq_error.1 fails
      · exact bind_eq_error.2 (.inl failed)
      · cases never

/-- A key without a route is one of several attributes at least. -/
theorem nonempty_of_no_route (fails : route aliases attributes key = .error fault) :
    attributes ≠ [] := by
  rintro rfl
  cases fails

/-! ### The routes of all keys -/

/-- The routes are those of the overrides, in their order. -/
theorem routed_eq_ok :
    routed aliases attributes overrides = .ok routes ↔
      List.Forall₂ (fun pair entry => routeOf aliases attributes pair = .ok entry) overrides
        routes :=
  mapM_eq_ok

/-- A route that is told is the one of its override. -/
theorem routeOf_eq_ok {pair : Override} {entry : Option String × Override} :
    routeOf aliases attributes pair = .ok entry ↔
      ∃ target, route aliases attributes pair.1 = .ok target ∧
        entry = (target.map Attribute.name, pair) := by
  rw [routeOf, bind_eq_ok]
  exact exists_congr fun target => and_congr_right fun _ =>
    ⟨fun same => (Except.ok.inj same).symm, fun same => congrArg Except.ok same.symm⟩

/-- The overrides with a destination are those that are routed there. -/
theorem sentTo_eq_bound (told : routed aliases attributes overrides = .ok routes)
    (destination : Option String) :
    sentTo aliases attributes attributes destination overrides = bound routes destination := by
  have each := routed_eq_ok.1 told
  clear told
  induction each with
  | nil => rfl
  | @cons pair entry others entries head _ ih =>
    obtain ⟨target, found, rfl⟩ := routeOf_eq_ok.1 head
    have place := destination?_of_route found
    unfold sentTo bound at ih ⊢
    rw [List.filter_cons, List.filter_cons, place]
    cases target.map Attribute.name == destination <;> simp [ih]

/-- The overrides of the routes are the overrides. -/
theorem map_snd_routed (told : routed aliases attributes overrides = .ok routes) :
    routes.map Prod.snd = overrides := by
  have each := routed_eq_ok.1 told
  clear told
  induction each with
  | nil => rfl
  | cons head _ ih =>
    obtain ⟨target, _, rfl⟩ := routeOf_eq_ok.1 head
    rw [List.map_cons, ih]

/-- A route leads to an attribute, or to none. -/
theorem mem_of_routed (told : routed aliases attributes overrides = .ok routes) :
    ∀ entry ∈ routes, ∀ name, entry.1 = some name → name ∈ attributes.map Attribute.name := by
  have each := routed_eq_ok.1 told
  clear told
  induction each with
  | nil =>
    intro entry member
    cases member
  | @cons pair entry others entries head _ ih =>
    intro other member name named
    obtain rfl | inside := List.mem_cons.1 member
    · obtain ⟨target, found, rfl⟩ := routeOf_eq_ok.1 head
      have place := destination?_of_route found
      exact mem_of_destination? (place.trans named)
    · exact ih other inside name named

/-- If the routes are told, every override has one. -/
theorem exists_route_of_mem (told : routed aliases attributes overrides = .ok routes)
    {pair : Override} (member : pair ∈ overrides) :
    ∃ target, route aliases attributes pair.1 = .ok target := by
  have each := routed_eq_ok.1 told
  clear told
  induction each with
  | nil => cases member
  | cons head _ ih =>
    obtain rfl | inside := List.mem_cons.1 member
    · obtain ⟨target, found, _⟩ := routeOf_eq_ok.1 head
      exact ⟨target, found⟩
    · exact ih inside

/-! ### Plans by routes -/

/-- A split succeeds if it is decided for every key. -/
theorem exists_split {test : String → Except Fault Bool} {pending : List Override}
    (decided : ∀ pair ∈ pending, ∃ chosen, test pair.1 = .ok chosen) :
    ∃ parts, split test pending = .ok parts := by
  induction pending with
  | nil => exact ⟨_, rfl⟩
  | cons pair rest ih =>
    obtain ⟨chosen, tested⟩ := decided pair List.mem_cons_self
    obtain ⟨parts, done⟩ := ih fun other member => decided other (List.mem_cons_of_mem _ member)
    rw [split, tested, done]
    cases chosen <;> exact ⟨_, rfl⟩

/-- Where it is decided for every key, a plan has no fault. -/
theorem fault_distribute {pending : List Override}
    (decided : ∀ attr ∈ rest, ∀ pair ∈ pending,
      ∃ chosen, targets aliases attributes attr pair.1 = .ok chosen) :
    (distribute aliases attributes rest pending).fault = none := by
  induction rest generalizing pending with
  | nil => rfl
  | cons attr rest ih =>
    obtain ⟨⟨matched, others⟩, done⟩ := exists_split (decided attr List.mem_cons_self)
    rw [distribute_cons done]
    refine ih fun other member pair inside => ?_
    have kept : pair ∈ pending := by
      rw [(split_eq_ok done).2] at inside
      exact (List.mem_filter.1 inside).1
    exact decided other (List.mem_cons_of_mem _ member) pair kept

/-- The first key without a route makes every split fail. -/
theorem split_of_no_route {attr : Attribute} (member : attr ∈ attributes)
    (fails : routed aliases attributes overrides = .error fault) :
    split (targets aliases attributes attr) overrides = .error fault := by
  induction overrides with
  | nil => cases fails
  | cons pair rest ih =>
    rw [routed, List.mapM_cons] at fails
    rw [split]
    obtain failed | ⟨entry, found, later⟩ := bind_eq_error.1 fails
    · obtain failed | ⟨_, _, never⟩ := bind_eq_error.1 failed
      · rw [targets_of_no_route attr failed]
        rfl
      · cases never
    · obtain ⟨target, known, _⟩ := routeOf_eq_ok.1 found
      obtain ⟨chosen, tested⟩ := targets_of_route known member
      obtain failed | ⟨_, _, never⟩ := bind_eq_error.1 later
      · rw [tested, ih failed]
        rfl
      · cases never

/-- Some key has no route only where there are attributes. -/
theorem exists_attribute_of_no_route (fails : routed aliases attributes overrides = .error fault) :
    attributes ≠ [] := by
  induction overrides with
  | nil => cases fails
  | cons pair rest ih =>
    rw [routed, List.mapM_cons] at fails
    obtain failed | ⟨_, _, later⟩ := bind_eq_error.1 fails
    · obtain failed | ⟨_, _, never⟩ := bind_eq_error.1 failed
      · exact nonempty_of_no_route failed
      · cases never
    · obtain failed | ⟨_, _, never⟩ := bind_eq_error.1 later
      · exact ih failed
      · cases never

/-- The plan for attributes with distinct names is told by the routes. -/
theorem make_eq_byRoute (distinct : (attributes.map Attribute.name).Nodup)
    (overrides : List Override) :
    make aliases attributes overrides = byRoute aliases attributes overrides := by
  unfold byRoute
  cases routes : routed aliases attributes overrides with
  | error fault =>
    obtain ⟨first, others, same⟩ :=
      List.exists_cons_of_ne_nil (exists_attribute_of_no_route routes)
    have member : first ∈ attributes := by simp [same]
    have failed := split_of_no_route member routes
    have begins : make aliases attributes overrides =
        distribute aliases attributes (first :: others) overrides :=
      congrArg (distribute aliases attributes · overrides) same
    rw [begins, distribute, failed]
  | ok entries =>
    have decided : ∀ attr ∈ attributes, ∀ pair ∈ overrides,
        ∃ chosen, targets aliases attributes attr pair.1 = .ok chosen := by
      intro attr member pair inside
      obtain ⟨target, known⟩ := exists_route_of_mem routes inside
      exact targets_of_route known member
    have whole : (make aliases attributes overrides).fault = none := fault_distribute decided
    have actions := actions_distribute distinct whole
    simp only [sentTo_eq_bound routes] at actions
    cases plan : make aliases attributes overrides with
    | mk steps ending =>
      rw [plan] at whole
      rw [show distribute aliases attributes attributes overrides = _ from plan] at actions
      cases whole
      cases actions
      rfl

/-! ### What a plan does with overrides and attributes -/

/-- Items are those of each key in turn, and those of no key, if their keys are among distinct
ones. -/
theorem perm_bound {names : List String} (distinct : names.Nodup)
    (known : ∀ entry ∈ routes, ∀ name, entry.1 = some name → name ∈ names) :
    ((names.flatMap fun name => bound routes (some name)) ++ bound routes none).Perm
      (routes.map Prod.snd) := by
  induction names generalizing routes with
  | nil =>
    have all : routes.filter (fun entry => entry.1 == none) = routes := by
      rw [List.filter_eq_self]
      intro entry member
      cases named : entry.1 with
      | none => rfl
      | some name => cases known entry member name named
    rw [List.flatMap_nil, List.nil_append, bound, all]
  | cons name names ih =>
    obtain ⟨fresh, later⟩ := List.nodup_cons.1 distinct
    -- the entries of the other names are among those that are left
    let left := routes.filter fun entry => !(entry.1 == some name)
    have others : ∀ destination, destination ≠ some name →
        bound routes destination = bound left destination := by
      intro destination apart
      rw [bound, bound, List.filter_filter]
      congr 1
      refine List.filter_congr fun entry _ => ?_
      by_cases same : entry.1 = destination
      · simp [same, apart]
      · simp [same]
    have knownLeft : ∀ entry ∈ left, ∀ other, entry.1 = some other → other ∈ names := by
      intro entry member other named
      obtain ⟨inside, different⟩ := List.mem_filter.1 member
      obtain rfl | here := List.mem_cons.1 (known entry inside other named)
      · simp [named] at different
      · exact here
    have rest : (names.flatMap fun other => bound routes (some other)) =
        names.flatMap fun other => bound left (some other) := by
      refine List.flatMap_congr fun other member => others _ ?_
      rintro ⟨⟩
      exact fresh member
    rw [List.flatMap_cons, rest, others none (by simp), List.append_assoc]
    have inner := (ih later knownLeft).append_left (bound routes (some name))
    refine inner.trans ?_
    rw [bound, ← List.map_append]
    exact (List.filter_append_perm (fun entry => entry.1 == some name) routes).map Prod.snd

/-- What is done in the turn of an attribute sets the overrides that are sent to it. -/
theorem overrides_portion (attr : Attribute) (sent : List Override) :
    (portion attr sent).filterMap Action.override? = sent := by
  cases sent with
  | nil => rfl
  | cons pair rest =>
    have each : Action.override? ∘ (fun pair : Override => .assign pair.1 pair.2 attr.ignored) =
        some := rfl
    rw [portion, List.isEmpty_cons, if_neg Bool.false_ne_true, assignAll, List.filterMap_map, each,
      List.filterMap_some]

/-- What is done in the turn of an attribute lets it give its value if no override is sent to it. -/
theorem evaluated_portion (attr : Attribute) (sent : List Override) :
    (portion attr sent).filterMap Action.evaluated? = if sent.isEmpty then [attr] else [] := by
  cases sent with
  | nil => rfl
  | cons pair rest =>
    have each : Action.evaluated? ∘ (fun pair : Override => .assign pair.1 pair.2 attr.ignored) =
        fun _ => none := rfl
    rw [portion, List.isEmpty_cons, if_neg Bool.false_ne_true, assignAll, List.filterMap_map, each]
    simp

/-- Setting overrides sets these overrides and lets no attribute give its value. -/
theorem assignAll_parts (ignored : Bool) (sent : List Override) :
    (assignAll ignored sent).filterMap Action.override? = sent ∧
      (assignAll ignored sent).filterMap Action.evaluated? = [] := by
  have sets : Action.override? ∘ (fun pair : Override => .assign pair.1 pair.2 ignored) = some := rfl
  have gives : Action.evaluated? ∘ (fun pair : Override => .assign pair.1 pair.2 ignored) =
      fun _ => none := rfl
  rw [assignAll, List.filterMap_map, List.filterMap_map, sets, gives]
  simp

/-- If every key has a route, all overrides are set, each once, and just those attributes give their
values, each once, to which no override is routed. -/
theorem byRoute_parts (distinct : (attributes.map Attribute.name).Nodup)
    (told : routed aliases attributes overrides = .ok routes) :
    let plan := byRoute aliases attributes overrides
    plan.fault = none ∧ (plan.actions.filterMap Action.override?).Perm overrides ∧
      plan.actions.filterMap Action.evaluated? =
        attributes.filter fun attr => (bound routes (some attr.name)).isEmpty := by
  intro plan
  have same : plan =
      ⟨attributes.flatMap (fun attr => portion attr (bound routes (some attr.name))) ++
        assignAll false (bound routes none), none⟩ := by
    simp only [plan, byRoute, told]
  obtain ⟨sets, gives⟩ := assignAll_parts false (bound routes none)
  rw [same]
  refine ⟨rfl, ?_, ?_⟩
  · have parts := perm_bound distinct (mem_of_routed told)
    rw [map_snd_routed told, List.flatMap_map] at parts
    rw [List.filterMap_append, sets, List.filterMap_flatMap]
    simp only [overrides_portion]
    exact parts
  · rw [List.filterMap_append, gives, List.append_nil, List.filterMap_flatMap]
    simp only [evaluated_portion]
    clear distinct told plan same sets gives
    induction attributes with
    | nil => rfl
    | cons attr rest ih =>
      rw [List.flatMap_cons, List.filter_cons, ih]
      cases (bound routes (some attr.name)).isEmpty <;> rfl

end Plan

namespace Build

/-- Overrides are read as long as their canonical keys are distinct, and then those that follow. -/
theorem canonicalFrom_append (factory : String) {pending : List Override}
    {given : Table String Key} {overrides : Dict} (rest : Dict)
    (same : given.map Prod.fst = pending.map Prod.fst)
    (distinct : (pending.map Prod.fst ++ overrides.map fun pair => Name.ofKey pair.1).Nodup) :
    canonicalFrom factory pending given (overrides ++ rest) =
      canonicalFrom factory
        (pending ++ overrides.map fun pair => (Name.ofKey pair.1, pair.2))
        (given ++ overrides.map fun pair => (Name.ofKey pair.1, pair.1)) rest := by
  induction overrides generalizing pending given with
  | nil => simp
  | cons pair others ih =>
    obtain ⟨key, value⟩ := pair
    have absent : given.lookup (Name.ofKey key) = none := by
      rw [List.lookup_eq_none_iff]
      intro entry inside
      rw [bne_iff_ne]
      intro named
      have there : entry.1 ∈ pending.map Prod.fst := same ▸ List.mem_map_of_mem inside
      exact (List.nodup_append.1 distinct).2.2 _ there _ List.mem_cons_self named.symm
    have longer : (given ++ [(Name.ofKey key, key)]).map Prod.fst =
        (pending ++ [(Name.ofKey key, value)]).map Prod.fst := by
      rw [List.map_append, List.map_append, same]
      rfl
    have still : ((pending ++ [(Name.ofKey key, value)]).map Prod.fst ++
        others.map fun pair => Name.ofKey pair.1).Nodup := by
      rw [List.map_append, List.append_assoc]
      exact distinct
    rw [List.cons_append, canonicalFrom]
    simp only [absent]
    rw [ih longer still, List.append_assoc, List.append_assoc]
    rfl

/-- Overrides are accepted if their canonical keys are distinct. -/
theorem canonicalOverrides_of_nodup (factory : String) {overrides : Dict}
    (distinct : (overrides.map fun pair => Name.ofKey pair.1).Nodup) :
    canonicalOverrides factory overrides =
      .ok (overrides.map fun pair => (Name.ofKey pair.1, pair.2)) := by
  have read := @canonicalFrom_append factory [] [] overrides [] rfl distinct
  rw [List.append_nil] at read
  exact read

end Build

/-- When its factory is compiled and its attributes are resolved, a run whose overrides have
distinct keys carries out what the routes of the keys tell. If every key has a route, this sets all
overrides, each once, and lets just those attributes give their values, each once, to which no
override is routed. -/
theorem run_by_route {runner : Runner} {id : FactoryId} {choice : Value} {strategy : Strategy}
    {overrides : Dict} {world : World} {compiled classed ready : Registry} {model : Value}
    {list : AttributeList} (chosen : Strategy.ofProxy choice = .ok strategy)
    (compiles : world.registry.compile id = (.ok (), compiled))
    (made : Registry.model id compiled = (.ok model, classed))
    (resolved : Registry.attributes id classed = (.ok list, ready))
    (distinct : (overrides.map fun pair => Name.ofKey pair.1).Nodup) :
    let given := overrides.map fun pair => (Name.ofKey pair.1, pair.2)
    let plan := Plan.byRoute ready.aliasesFor list.attributes given
    let proxy := Proxy.fresh strategy model list.callbacks
    let finalizer := (ready.factory? id).bind Factory.finalizer
    (runner.next id choice overrides).run world =
        (Build.carryOut runner proxy plan finalizer).run { world with registry := ready } ∧
      ∀ routes, Plan.routed ready.aliasesFor list.attributes given = .ok routes →
        plan.fault = none ∧ (plan.actions.filterMap Action.override?).Perm given ∧
          plan.actions.filterMap Action.evaluated? =
            list.attributes.filter fun attr => (Plan.bound routes (some attr.name)).isEmpty := by
  intro given plan proxy finalizer
  have names := Registry.nodup_resolve (Registry.attributes_eq_ok resolved).2
  have prepares : (Runner.prepare id choice overrides).run { world with registry := compiled } =
      (.ok ⟨proxy, list.attributes, given, ready.aliasesFor, finalizer⟩,
        { world with registry := ready }) := by
    refine run_bind_eq_ok.2 ⟨strategy, _, by rw [chosen]; rfl, ?_⟩
    refine run_bind_eq_ok.2 ⟨model, _, by rw [Build.run_onRegistry, made], ?_⟩
    refine run_bind_eq_ok.2 ⟨list, _, by rw [Build.run_onRegistry, resolved], ?_⟩
    refine run_bind_eq_ok.2 ⟨_, _, rfl, ?_⟩
    refine run_bind_eq_ok.2 ⟨given, _, by rw [Build.canonicalOverrides_of_nodup _ distinct]; rfl, ?_⟩
    rfl
  refine ⟨?_, fun routes told => Plan.byRoute_parts names told⟩
  rw [Runner.next_eq, run_bind, Build.run_onRegistry, compiles]
  simp only
  rw [run_bind, prepares]
  simp only [Prepared.plan]
  rw [Plan.make_eq_byRoute names]

/-- A registry with a book that has an author, an editor, also known as its chief, and pages. A key
that ends in `_id` also feeds the attribute that is named before it. -/
def bookHistory : History :=
  let patterns := (Registry.aliasPattern ⟨"(.+)_id", "\\1"⟩).toOption.toList
  let empty : History :=
    { registry := { settings := ⟨.dict []⟩, patterns := patterns, nextStub := 1001 } }
  let book := (empty.define (.text "book") []).registerModel "Book" "book"
  let author := book.edit 0 (.declare ⟨"author", false, [], .static .null⟩)
  let editor := author.edit 0 (.declare ⟨"editor", false, [.text "chief"], .static .null⟩)
  editor.edit 0 (.declare ⟨"pages", false, [], .static (.int 1)⟩)

/-- The world of the registry with the book. -/
def bookWorld : World :=
  { registry := bookHistory.registry, models := [("Book", { name := "Book", isOpen := true })] }

/-- Overrides for a book: one for no attribute, one by a further name and one by a pattern. -/
def bookOverrides : Dict :=
  [(.text "title", .text "Emma"), (.text "chief", .int 2), (.text "author_id", .int 3)]

/-- Of a book's attributes only the pages give their value; the title is set last. -/
theorem run_by_route_book :
    ∃ plan proxy finalizer ready,
      (Runner.standard.next 0 (.strategy .build) bookOverrides).run bookWorld =
        (Build.carryOut Runner.standard proxy plan finalizer).run ready ∧
      plan.fault = none ∧
      ((plan.actions.filterMap Action.override?).map Prod.fst).Perm
        ["title", "chief", "author_id"] ∧
      (plan.actions.filterMap Action.evaluated?).map Attribute.name = ["pages"] := by
  have chosen : Strategy.ofProxy (.strategy .build) = .ok .build := rfl
  have compiles : (bookWorld.registry.compile 0).1 = .ok () := eq_ok_of_toOption (by decide +kernel)
  have keys : (bookOverrides.map fun pair => Name.ofKey pair.1) =
      ["title", "chief", "author_id"] := by decide +kernel
  let compiled := (bookWorld.registry.compile 0).2
  let classed := (Registry.model 0 compiled).2
  let ready := (Registry.attributes 0 classed).2
  let given := bookOverrides.map fun pair => (Name.ofKey pair.1, pair.2)
  obtain ⟨model, made⟩ : ∃ model, (Registry.model 0 compiled).1.toOption = some model :=
    Option.isSome_iff_exists.1 (by decide +kernel)
  have seen : ((Registry.attributes 0 classed).1.toOption.bind fun list =>
      (Plan.routed ready.aliasesFor list.attributes given).toOption.map fun routes =>
        (list.attributes.filter fun attr =>
          (Plan.bound routes (some attr.name)).isEmpty).map Attribute.name) =
      some ["pages"] := by decide +kernel
  obtain ⟨list, resolved, rest⟩ := Option.bind_eq_some_iff.1 seen
  obtain ⟨routes, told, names⟩ := Option.map_eq_some_iff.1 rest
  have distinct : (bookOverrides.map fun pair => Name.ofKey pair.1).Nodup := by
    rw [keys]
    decide
  obtain ⟨same, each⟩ := @run_by_route Runner.standard 0 (.strategy .build) .build bookOverrides
    bookWorld compiled classed ready model list chosen (Prod.ext compiles rfl)
    (Prod.ext (eq_ok_of_toOption made) rfl) (Prod.ext (eq_ok_of_toOption resolved) rfl) distinct
  obtain ⟨whole, sets, gives⟩ := each routes (eq_ok_of_toOption told)
  refine ⟨_, _, _, _, same, whole, ?_, gives ▸ names⟩
  have order := sets.map Prod.fst
  rw [List.map_map] at order
  exact keys ▸ order

end Blueprint
