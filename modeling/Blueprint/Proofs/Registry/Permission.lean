import Blueprint.Proofs.Build.Session
import Blueprint.Proofs.Registry.Kin

/-!
# Who allows overrides

That overrides are allowed is taken over from the parent when a factory inherits, and passed on to
the children when a factory is told to allow them afterwards. Neither way reaches a factory twice,
or one that does not descend from where it starts. So a compiled factory allows overrides exactly if
the configuration does, or if it or a factory above it was told to, at whatever moment.
-/
namespace Blueprint

open Relation

/-- Whether a factory allows overrides when it is made is a matter of the configuration. -/
theorem Factory.overridesAllowed_ofOptions {settings : Settings} {name : Value} {options : Dict}
    {factory : Factory} (made : ofOptions settings name options = .ok factory) :
    settings.allowOverrides = .ok factory.overridesAllowed := by
  obtain ⟨aliases, _, made⟩ := bind_eq_ok.1 made
  obtain ⟨traitRefs, _, made⟩ := bind_eq_ok.1 made
  simp only at made
  split at made
  · obtain ⟨strategy, _, made⟩ := bind_eq_ok.1 made
    obtain ⟨overridable, allowed, made⟩ := bind_eq_ok.1 made
    cases made
    exact allowed
  · obtain ⟨strategy, _, made⟩ := bind_eq_ok.1 made
    obtain ⟨overridable, allowed, made⟩ := bind_eq_ok.1 made
    cases made
    exact allowed

namespace Registry

variable {registry after : Registry} {history last : History} {id other above : FactoryId}
  {factory : Factory}

/-! ### Allowing -/

/-- A factory is there and allows overrides. -/
def Allows (registry : Registry) (id : FactoryId) : Prop :=
  (registry.factory? id).isSome ∧ registry.forbids id = false

theorem allows_iff (found : registry.factory? id = some factory) :
    registry.Allows id ↔ factory.overridesAllowed = true := by
  simp [Allows, forbids_eq found, found]

namespace Allows

/-- A factory still allows overrides when another one is made. -/
theorem add (allows : registry.Allows id) (new : Factory) : (registry.add new).1.Allows id := by
  obtain ⟨factory, found⟩ := Option.isSome_iff_exists.1 allows.1
  rw [allows_iff found] at allows
  exact (allows_iff (factory?_add found)).2 allows

/-- What allows overrides after a factory was made is that one, or did so before. -/
theorem of_add {new : Factory} (allows : (registry.add new).1.Allows id) :
    new.overridesAllowed = true ∨ registry.Allows id := by
  obtain ⟨factory, found⟩ := Option.isSome_iff_exists.1 allows.1
  rw [allows_iff found] at allows
  obtain ⟨_, rfl⟩ | known := factory?_of_add found
  · exact .inl allows
  · exact .inr ((allows_iff known).2 allows)

/-- A factory still allows overrides when others are let. -/
theorem relax (allows : registry.Allows id) (relaxes : Relaxes registry after) :
    after.Allows id := by
  refine ⟨by rw [relaxes.isSome_factory?]; exact allows.1, ?_⟩
  rw [← Bool.not_eq_true]
  intro still
  have before := relaxes.forbids still
  rw [allows.2] at before
  cases before

/-- A factory still allows overrides after a stage. -/
theorem stage (allows : registry.Allows id) (stage : Stage registry after) : after.Allows id := by
  refine ⟨by rw [stage.isSome_factory?]; exact allows.1, ?_⟩
  obtain same | ⟨child, parentId, adopts⟩ := stage.sameKin_or_adopts
  · rw [same.forbids, allows.2]
  · by_cases here : id = child
    · subst here
      rw [adopts.forbids, allows.2, Bool.false_and]
    · rw [adopts.forbids_ne here, allows.2]

/-- A factory still allows overrides where the factories are the same. -/
theorem of_factories (allows : registry.Allows id) (same : after.factories = registry.factories) :
    after.Allows id := by
  have alike : after.factory? id = registry.factory? id := congrArg (·[id]?) same
  exact ⟨by rw [alike]; exact allows.1, by rw [forbids, alike, ← forbids]; exact allows.2⟩

/-- A factory that allows overrides does so whatever is done. -/
theorem operations (reached : history.Reached) (operations : History.Operations history last)
    (allows : history.registry.Allows id) : last.registry.Allows id := by
  induction operations with
  | refl => exact allows
  | tail before operation ih =>
    cases operation.outline (reached.trans before) with
    | made given => exact ih.add _
    | entered factories => exact ih.of_factories factories
    | permitted told => exact ih.relax (relaxes_allowOverrides _ told)
    | staged stages => exact stages.rec ih fun _ stage still => still.stage stage

end Allows

/-! ### Descending -/

/-- A factory that descends from one that allows overrides allows them too. -/
theorem Kin.allows (kin : registry.Kin) (walk : ReflTransGen registry.Inherits id above)
    (allows : registry.Allows above) : registry.Allows id := by
  induction walk using ReflTransGen.head_induction_on with
  | refl => exact allows
  | head inherits _ ih =>
    obtain ⟨factory, found, _⟩ := exists_of_parentOf inherits
    refine ⟨by rw [found]; rfl, ?_⟩
    rw [← Bool.not_eq_true]
    intro still
    have refuses := kin.passed (kin.listed inherits) still
    rw [ih.2] at refuses
    cases refuses

/-- A factory that comes to allow overrides because another one is told to descends from that. -/
theorem Kin.walk_of_allowOverrides (kin : registry.Kin) (before : registry.forbids id = true)
    (now : (registry.allowOverrides other).forbids id = false) :
    ReflTransGen registry.Inherits id other := by
  by_cases here : id = other
  · subst here
    exact .refl
  · obtain ⟨child, listed, walk⟩ := exists_pending _ _ (forbids_permit.2 ⟨here, before⟩) now
    simp only [(relaxes_permit registry other).childrenOf_eq] at walk
    have down : ReflTransGen (Function.swap registry.Inherits) other id :=
      ReflTransGen.mono (fun _ _ member => kin.claimed member) _ _ (.head listed walk)
    exact down.swap

/-! ### Why overrides are allowed -/

/-- There is a reason for a factory to allow overrides: the configuration does, or the factory or
one above it was told to. -/
def Warranted (history : History) (id : FactoryId) : Prop :=
  history.registry.settings.allowOverrides = .ok true ∨
    ∃ above ∈ history.permitted, ReflTransGen history.registry.Inherits id above

/-- A reason stays one where more is told and more is inherited. -/
theorem Warranted.mono (warranted : Warranted history id)
    (settings : last.registry.settings = history.registry.settings)
    (permitted : ∀ above ∈ history.permitted, above ∈ last.permitted)
    (inherits : ∀ one above, history.registry.Inherits one above →
      last.registry.Inherits one above) : Warranted last id := by
  obtain configured | ⟨above, told, walk⟩ := warranted
  · exact .inl (by rw [settings]; exact configured)
  · exact .inr ⟨above, permitted above told, ReflTransGen.mono inherits _ _ walk⟩

/-- Overrides are allowed where the configuration says so, and nowhere without a reason. -/
structure Permission (history : History) : Prop where
  /-- Where the configuration allows overrides all factories do. -/
  configured : history.registry.settings.allowOverrides = .ok true →
    ∀ {id}, (history.registry.factory? id).isSome → history.registry.Allows id
  /-- A factory that allows overrides has a reason. -/
  warranted : ∀ {id}, history.registry.Allows id → Warranted history id

namespace Permission

/-- Overrides are allowed for a reason where they were before, if there is one for what newly allows
them. -/
theorem keep (permission : Permission history)
    (settings : last.registry.settings = history.registry.settings)
    (there : ∀ id, (last.registry.factory? id).isSome = (history.registry.factory? id).isSome)
    (still : ∀ {id}, history.registry.Allows id → last.registry.Allows id)
    (permitted : ∀ above ∈ history.permitted, above ∈ last.permitted)
    (inherits : ∀ one above, history.registry.Inherits one above →
      last.registry.Inherits one above)
    (newly : ∀ {id}, history.registry.forbids id = true → last.registry.Allows id →
      Warranted last id) : Permission last := by
  refine ⟨?_, ?_⟩
  · intro allowed id known
    have asked : history.registry.settings.allowOverrides = .ok true := by
      rw [← settings]
      exact allowed
    exact still (permission.configured asked ((there id).symm.trans known))
  · intro id allows
    cases before : history.registry.forbids id with
    | true => exact newly before allows
    | false =>
      have known : (history.registry.factory? id).isSome := (there id).symm.trans allows.1
      exact (permission.warranted ⟨known, before⟩).mono settings permitted inherits

/-- Where the relatives are the same, and overrides are allowed alike, the reasons are. -/
theorem congr (permission : Permission history) (same : history.registry.SameKin after)
    (settings : after.settings = history.registry.settings)
    (there : ∀ id, (after.factory? id).isSome = (history.registry.factory? id).isSome) :
    Permission (history.withRegistry after) := by
  refine permission.keep settings there ?_ (fun _ told => told)
    (fun one _ inherits => (same.parentOf one).trans inherits) ?_
  · intro id allows
    exact ⟨(there id).trans allows.1, (same.forbids id).trans allows.2⟩
  · intro id before allows
    have allowed := (same.forbids id).symm.trans allows.2
    rw [before] at allowed
    cases allowed

/-- Where the factories are the same, their reasons are. -/
theorem entered (permission : Permission history)
    (factories : after.factories = history.registry.factories)
    (settings : after.settings = history.registry.settings) :
    Permission (history.withRegistry after) :=
  permission.congr (.of_factories factories) settings fun id =>
    congrArg (fun all : List Factory => all[id]?.isSome) factories

/-- A new factory allows overrides if the configuration does. -/
theorem made (permission : Permission history) {name : Value} {options : Dict}
    (given : Factory.ofOptions history.registry.settings name options = .ok factory) :
    Permission
      { history with
        registry := (history.registry.add factory).1, made := history.made ++ [factory] } := by
  have asked := Factory.overridesAllowed_ofOptions given
  refine ⟨?_, ?_⟩
  · intro allowed id there
    rw [show history.registry.settings.allowOverrides = .ok true from allowed] at asked
    obtain ⟨its, found⟩ := Option.isSome_iff_exists.1 there
    obtain ⟨_, rfl⟩ | known := factory?_of_add found
    · exact (allows_iff found).2 (Except.ok.inj asked).symm
    · exact (permission.configured allowed (by rw [known]; rfl)).add factory
  · intro id allows
    obtain new | before := allows.of_add
    · rw [new] at asked
      exact .inl asked
    · refine (permission.warranted before).mono rfl (fun _ told => told) ?_
      intro one above inherits
      exact (parentOf_add (Factory.isNew_ofOptions given) one).trans inherits

/-- A factory that is told to allow overrides is the reason for all that come to allow them. -/
theorem permitted (permission : Permission history) (kin : history.registry.Kin)
    (told : FactoryId) :
    Permission
      { history with
        registry := history.registry.allowOverrides told
        permitted := told :: history.permitted } := by
  have relaxes := relaxes_allowOverrides history.registry told
  have inherits : ∀ one above, history.registry.Inherits one above →
      (history.registry.allowOverrides told).Inherits one above :=
    fun one above its => (relaxes.parentOf_eq one).trans its
  refine permission.keep relaxes.moves.settings_eq relaxes.isSome_factory?
    (fun allows => allows.relax relaxes) (fun _ member => List.mem_cons_of_mem _ member) inherits ?_
  intro id before allows
  have walk := kin.walk_of_allowOverrides before allows.2
  exact .inr ⟨told, List.mem_cons_self, ReflTransGen.mono inherits _ _ walk⟩

/-- A factory that comes to allow overrides when it is adopted has its parent's reason. -/
theorem stage (permission : Permission history) (stage : Stage history.registry after) :
    Permission (history.withRegistry after) := by
  have settings : after.settings = history.registry.settings :=
    Stages.settings_eq (.single stage)
  obtain same | ⟨child, parentId, adopts⟩ := stage.sameKin_or_adopts
  · exact permission.congr same settings stage.isSome_factory?
  · have inherits : ∀ one above, history.registry.Inherits one above →
        after.Inherits one above := by
      intro one above its
      by_cases here : one = child
      · subst here
        rw [adopts.again its]
        exact adopts.parentOf
      · exact (adopts.parentOf_ne here).trans its
    refine permission.keep settings stage.isSome_factory? (fun allows => allows.stage stage)
      (fun _ told => told) inherits ?_
    intro id before allows
    by_cases here : id = child
    · subst here
      have allowed := adopts.forbids.symm.trans allows.2
      rw [before, Bool.true_and] at allowed
      have reason : Warranted (history.withRegistry after) parentId :=
        (permission.warranted ⟨adopts.known, allowed⟩).mono settings (fun _ told => told) inherits
      obtain configured | ⟨top, told, walk⟩ := reason
      · exact .inl configured
      · exact .inr ⟨top, told, .head adopts.parentOf walk⟩
    · have allowed := (adopts.forbids_ne here).symm.trans allows.2
      rw [before] at allowed
      cases allowed

end Permission

/-- In a registry that is reached overrides are allowed where the configuration says so, and nowhere
without a reason. -/
theorem permission_of_reached (reached : history.Reached) : Permission history := by
  obtain ⟨settings, start, created, operations⟩ := reached
  induction operations with
  | refl =>
    have none : start.factories = [] := (History.factories_create created).1
    refine ⟨fun _ id there => ?_, fun {id} allows => ?_⟩
    · simp [factory?, none] at there
    · have there := allows.1
      simp [factory?, none] at there
  | @tail middle _ before operation ih =>
    have reached : middle.Reached := ⟨settings, start, created, before⟩
    cases operation.outline reached with
    | made given => exact ih.made given
    | entered factories settings => exact ih.entered factories settings
    | permitted told => exact ih.permitted (kin_of_reached reached) told
    | staged stages => exact stages.rec ih fun _ stage still => still.stage stage

/-! ### In sessions -/

/-- A factory that is told to allow overrides does so. -/
theorem allows_allowOverrides (there : (registry.factory? id).isSome) :
    (registry.allowOverrides id).Allows id := by
  have relaxes := relaxes_allowOverrides registry id
  refine ⟨by rw [relaxes.isSome_factory?]; exact there, ?_⟩
  rw [← Bool.not_eq_true]
  intro still
  have refuses := (relaxes_spreadOverrides _ _).forbids still
  exact (forbids_permit.1 refuses).1 rfl

/-- A registry starts with its configuration. -/
theorem settings_create {settings : Settings} (created : create settings = .ok registry) :
    registry.settings = settings := by
  obtain ⟨patterns, start, rfl⟩ := History.create_eq_ok created
  rfl

/-- Operations keep the configuration. -/
theorem settings_of_operations (reached : history.Reached)
    (operations : History.Operations history last) :
    last.registry.settings = history.registry.settings := by
  induction operations with
  | refl => rfl
  | tail before operation ih =>
    obtain ⟨factory, _, _, added⟩ | ⟨_, moves⟩ :=
      operation.made_or_moves (reached.trans before).bound
    · rw [added]
      exact ih
    · exact moves.settings_eq.trans ih

end Registry

open Registry

/-- A factory allows overrides once it is told to. -/
theorem Served.allows {history later : History} {exchange : Exchange} {id : FactoryId}
    (served : Served history exchange later) (told : exchange.told? = some id) :
    later.registry.Allows id := by
  cases served with
  | refused request fault => cases request <;> cases told
  | @permitted other factory found =>
    cases told
    exact allows_allowOverrides (by rw [found]; rfl)
  | staged outcome quiet =>
    rw [(Served.none_of_quiet quiet outcome).2] at told
    cases told
  | _ => cases told

/-- What was told to allow overrides in a session allows them in the end. -/
theorem Session.allows {history last : History} {exchanges : List Exchange} {id : FactoryId}
    (session : Session history exchanges last) (reached : history.Reached)
    (told : id ∈ exchanges.filterMap Exchange.told?) : last.registry.Allows id := by
  induction session with
  | idle => cases told
  | @served history middle last exchange rest first onward ih =>
    have middleReached := reached.trans first.operations
    obtain ⟨other, member, this⟩ := List.mem_filterMap.1 told
    obtain rfl | later := List.mem_cons.1 member
    · exact (first.allows this).operations middleReached onward.operations
    · exact ih middleReached (List.mem_filterMap.2 ⟨other, later, this⟩)

/-- After any session, a compiled factory allows overrides exactly if the configuration does, or if
in the session the factory or one above it was told to allow them; and it does so whenever a factory
above it does. -/
theorem World.overridesAllowed_iff {settings : Settings} {start : World}
    (created : Registry.create settings = .ok start.registry) (requests : List Request)
    {id : FactoryId} {factory : Factory} {list : AttributeList}
    (found : (start.after requests).registry.factory? id = some factory)
    (compiled : factory.status = .sealed list) :
    (factory.overridesAllowed = true ↔ settings.allowOverrides = .ok true ∨
      ∃ above ∈ (start.record requests).filterMap Exchange.told?,
        ReflTransGen (start.after requests).registry.Rises id above) ∧
    ∀ {above parent}, ReflTransGen (start.after requests).registry.Rises id above →
      (start.after requests).registry.factory? above = some parent →
        parent.overridesAllowed = true → factory.overridesAllowed = true := by
  have begins : (⟨start.registry, [], []⟩ : History).Reached := .start created
  obtain ⟨last, session, same⟩ := start.exists_session begins rfl requests
  have reached : last.Reached := begins.trans session.operations
  have configured : last.registry.settings = settings :=
    (settings_of_operations begins session.operations).trans (settings_create created)
  rw [same] at found ⊢
  have finished : last.registry.Finished id := ⟨factory, list, found, compiled⟩
  have kin := kin_of_reached reached
  have permission := permission_of_reached reached
  have passed : ∀ {above}, ReflTransGen last.registry.Rises id above →
      last.registry.Allows above → factory.overridesAllowed = true :=
    fun walk allows =>
      (allows_iff found).1 (kin.allows (finished.inherits_of_walk reached walk) allows)
  refine ⟨⟨?_, ?_⟩, ?_⟩
  · intro allowed
    obtain asked | ⟨above, told, walk⟩ := permission.warranted ((allows_iff found).2 allowed)
    · exact .inl (configured ▸ asked)
    · have up := ReflTransGen.mono (fun _ _ => Inherits.rises reached) _ _ walk
      have recorded := (session.mem_permitted.1 told).resolve_right (List.not_mem_nil)
      exact .inr ⟨above, recorded, up⟩
  · rintro (asked | ⟨above, told, walk⟩)
    · have allows := permission.configured (configured.symm ▸ asked) (by rw [found]; rfl)
      exact (allows_iff found).1 allows
    · exact passed walk (session.allows begins told)
  · intro above parent walk there allowed
    exact passed walk ((allows_iff there).2 allowed)

/-- A guest that has inherited from the user already allows overrides once the user is told to. -/
theorem World.overridesAllowed_iff_guest : ∃ (start : World) (requests : List Request)
    (guest : Factory) (list : AttributeList),
      Registry.create ⟨.dict []⟩ = .ok start.registry ∧
        (start.after requests).registry.factory? 1 = some guest ∧ guest.status = .sealed list ∧
          (start.record requests).filterMap Exchange.told? = [0] ∧
          ReflTransGen (start.after requests).registry.Rises 1 0 ∧
            guest.overridesAllowed = true := by
  let start : World := { registry := History.blank.registry }
  let options : Dict := [(.text "parent", .text "user")]
  let requests : List Request :=
    [.define (.text "user") [] [], .define (.text "guest") options [], .compile 1,
      .allowOverrides 0]
  have created : Registry.create ⟨.dict []⟩ = .ok start.registry := rfl
  have told : (start.record requests).filterMap Exchange.told? = [0] := by decide +kernel
  have state : ((start.after requests).registry.factory? 1).map (fun guest =>
      (guest.status.isSealed, guest.parentName?)) = some (true, some "user") := by decide +kernel
  have bound : (start.after requests).registry.names.lookup "user" = some 0 := by decide +kernel
  obtain ⟨guest, found, same⟩ := Option.map_eq_some_iff.1 state
  obtain ⟨done, named⟩ : guest.status.isSealed = true ∧ guest.parentName? = some "user" := by
    simpa using same
  have rises : (start.after requests).registry.Rises 1 0 :=
    ⟨guest, "user", found, trivial, named, findText_eq_ok.2 bound⟩
  obtain ⟨list, status⟩ := exists_of_isSealed done
  have allowed := (World.overridesAllowed_iff created requests found status).1.2
    (.inr ⟨0, by rw [told]; exact List.mem_cons_self, .single rises⟩)
  exact ⟨start, requests, guest, list, created, found, status, told, .single rises, allowed⟩

end Blueprint
