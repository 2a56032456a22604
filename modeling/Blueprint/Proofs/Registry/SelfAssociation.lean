import Blueprint.Proofs.Factory.Expand
import Blueprint.Proofs.Registry.Precedence

/-!
# Associations of a factory with itself

No attribute that a factory declares is an association with the factory itself. What it has from its
traits and its parent is not looked at, so that an association with it gets through unless the
factory has an attribute of that name of its own.
-/
namespace Blueprint.Registry

variable {history : History} {registry after : Registry} {id : FactoryId} {factory later : Factory}
  {list : AttributeList}

/-- No attribute that the declarations of a factory have become is an association with itself. -/
def Sober (factory : Factory) : Prop :=
  ∀ list, factory.status = .sealed list → ∀ attr ∈ list.attributes, ¬ factory.BuildsItself attr

/-- A factory with the same names and compiled attributes is sober as well. -/
theorem Sober.congr (sober : Sober factory) (same : factory.SameOptions later)
    (status : ∀ list, later.status = .sealed list → factory.status = .sealed list) :
    Sober later := by
  intro list compiled attr member
  have names : later.names = factory.names := by rw [Factory.names, same.name, same.aliases]; rfl
  unfold Factory.BuildsItself
  rw [names]
  exact sober list (status list compiled) attr member

/-- A factory stays sober when it turns. -/
theorem Sober.turn (sober : Sober factory) (turn : Turn registry id factory later) :
    Sober later := by
  cases turn with
  | edited => exact sober.congr ⟨rfl, rfl, rfl, rfl⟩ fun _ same => same
  | permitted => exact sober.congr ⟨rfl, rfl, rfl, rfl⟩ fun _ same => same
  | inherited => exact sober.congr ⟨rfl, rfl, rfl, rfl⟩ fun _ same => same
  | followed => exact sober.congr ⟨rfl, rfl, rfl, rfl⟩ fun _ same => same
  | classed => exact sober.congr ⟨rfl, rfl, rfl, rfl⟩ fun _ same => same
  | started => exact sober.congr ⟨rfl, rfl, rfl, rfl⟩ fun _ same => by cases same
  | abandoned => exact sober.congr ⟨rfl, rfl, rfl, rfl⟩ fun _ same => by cases same
  | completed compiling linked expanded =>
    intro list compiled attr member
    cases compiled
    exact factory.not_buildsItself_of_expand expanded member

/-- In a registry that is reached every factory is sober. -/
theorem sober_of_reached (reached : history.Reached)
    (found : history.registry.factory? id = some factory) : Sober factory :=
  reached.each (fun _ _ _ factory => Sober factory)
    (fun new _ => by intro list compiled; rw [new.status] at compiled; cases compiled)
    (fun sober => sober) (fun _ sober => sober) (fun turn _ sober => sober.turn turn) found

/-- No own attribute of a factory is an association with the factory itself. Any other such
association is among the attributes of the factory exactly if it has no own attribute of that name,
and the association is what the first of its traits that has the name, or else its parent, gives. -/
theorem buildsItself_mem_attributes_iff (reached : history.Reached)
    (given : Registry.attributes id history.registry = (.ok list, after))
    (found : after.factory? id = some factory) :
    ∃ own traits inherited,
      factory.status = .sealed own ∧
      List.Forall₂ (after.TraitList id) factory.traitRefs traits ∧
      (match factory.parent with
        | none => inherited = {}
        | some parent => Registry.attributes parent after = (.ok inherited, after)) ∧
      (∀ attr ∈ own.attributes, ¬ factory.BuildsItself attr) ∧
      ∀ attr, factory.BuildsItself attr → (attr ∈ list.attributes ↔
        own.find? attr.name = none ∧
          ((traits.findSome? fun trait => trait.find? attr.name).or
            (inherited.find? attr.name)) = some attr) := by
  obtain ⟨compiled, resolved⟩ := attributes_eq_ok given
  have reachedAfter : (history.withRegistry after).Reached := by
    have compiledOnce := reached.tail (.compiled id)
    rwa [compiled] at compiledOnce
  have isCompiled : after.IsCompiled id := by
    have done := (compiles_compile history.registry id reached.bound).2
    rw [compiled] at done
    exact done rfl
  obtain ⟨own, status⟩ := isCompiled factory found
  obtain ⟨layers, inherited, made, above, rfl⟩ := (resolve_eq_ok found).1 resolved
  have linked : after.Linked factory := reachedAfter.linked found
  have sober : ∀ attr ∈ own.attributes, ¬ factory.BuildsItself attr :=
    sober_of_reached reachedAfter found own status
  refine ⟨own, layers.reverse, inherited, status, traitLists_eq_ok made, ?_, sober, ?_⟩
  · cases its : factory.parent with
    | none => simpa [its] using above
    | some parent =>
      obtain ⟨_, _, _, _, _, known, done⟩ := linked.parent its
      simp only [its] at above
      exact attributes_of_resolve known done above
  · intro attr builds
    have distinct : ∀ layer ∈ layers, layer.names.Nodup := fun layer member =>
      nodup_of_traitLists (traitLists_eq_ok made) layer (List.mem_reverse.2 member)
    have itsOwn : factory.compiled = own := by rw [Factory.compiled, status]
    rw [AttributeList.mem_iff_find? (nodup_resolve resolved), AttributeList.find?_inherit, itsOwn,
      find?_layered (linked.distinct status) distinct, Option.or_assoc]
    cases mine : own.find? attr.name with
    | none => simp
    | some other =>
      -- what is found is an own attribute, and none of these is an association with the factory
      have apart : other ≠ attr := by
        rintro rfl
        exact sober other (List.mem_of_find?_eq_some mine) builds
      simp [apart]

/-! ### A user who is their own manager -/

/-- A user with a friend of their own, and with a trait by which the user is the manager. -/
def bossUser : History :=
  let user := History.blank.define (.text "user") [(.text "traits", .list [.text "boss"])]
  let manager : Declaration := ⟨"manager", false, [], .association "user" [] .null⟩
  let boss := user.edit 0 (.defineTrait ⟨"boss", [manager], []⟩)
  boss.edit 0 (.declare ⟨"friend", false, [], .association "guest" [] .null⟩)

/-- The history of the user is one of a registry. -/
theorem reached_bossUser : bossUser.Reached :=
  ((History.reached_blank.define _ _).edit _ _).edit _ _

/-- The attributes of the user, and the user when they have been compiled. -/
theorem attributes_bossUser :
    ∃ list after user, Registry.attributes 0 bossUser.registry = (.ok list, after) ∧
      after.factory? 0 = some user ∧ user.names = ["user"] ∧ user.compiled.names = ["friend"] ∧
      list.attributes.map (fun attr => (attr.name, attr.factory?)) =
        [("manager", some "user"), ("friend", some "guest")] := by
  have seen : (Registry.attributes 0 bossUser.registry).1.toOption.map (fun list =>
      list.attributes.map fun attr => (attr.name, attr.factory?)) =
        some [("manager", some "user"), ("friend", some "guest")] := by decide +kernel
  have known : ((Registry.attributes 0 bossUser.registry).2.factory? 0).map (fun user =>
      (user.names, user.compiled.names)) = some (["user"], ["friend"]) := by decide +kernel
  cases given : Registry.attributes 0 bossUser.registry with
  | mk outcome after =>
    rw [given] at seen known
    obtain ⟨user, found, same⟩ := Option.map_eq_some_iff.1 known
    obtain ⟨names, own⟩ := Prod.mk.inj same
    cases outcome with
    | error fault => cases seen
    | ok list => exact ⟨list, after, user, rfl, found, names, own, Option.some.inj seen⟩

/-- The friend is not the user, and the manager is there because the user declares none. -/
theorem buildsItself_mem_attributes_iff_boss :
    ∃ list after user own, bossUser.Reached ∧
      Registry.attributes 0 bossUser.registry = (.ok list, after) ∧
      after.factory? 0 = some user ∧ user.status = .sealed own ∧ own.names = ["friend"] ∧
      (∀ attr ∈ own.attributes, ¬ user.BuildsItself attr) ∧
      ∀ attr ∈ list.attributes, user.BuildsItself attr → own.find? attr.name = none := by
  obtain ⟨list, after, user, given, found, _, names, _⟩ := attributes_bossUser
  obtain ⟨own, traits, inherited, status, _, _, sober, exactly⟩ :=
    buildsItself_mem_attributes_iff reached_bossUser given found
  refine ⟨list, after, user, own, reached_bossUser, given, found, status, ?_, sober, ?_⟩
  · rwa [Factory.compiled, status] at names
  · intro attr member builds
    exact ((exactly attr builds).1 member).1

/-- By the trait the user is an association of the user. -/
theorem buildsItself_attributes_boss :
    ∃ list after user, bossUser.Reached ∧
      Registry.attributes 0 bossUser.registry = (.ok list, after) ∧
      after.factory? 0 = some user ∧
      ∃ attr ∈ list.attributes, attr.name = "manager" ∧ user.BuildsItself attr := by
  obtain ⟨list, after, user, given, found, names, _, seen⟩ := attributes_bossUser
  have manager : ("manager", some "user") ∈
      list.attributes.map fun attr => (attr.name, attr.factory?) := by
    rw [seen]
    exact List.mem_cons_self
  obtain ⟨attr, member, same⟩ := List.mem_map.1 manager
  obtain ⟨name, target⟩ := Prod.mk.inj same
  refine ⟨list, after, user, reached_bossUser, given, found, attr, member, name, "user", target, ?_⟩
  rw [names]
  exact List.mem_singleton_self _

end Blueprint.Registry
