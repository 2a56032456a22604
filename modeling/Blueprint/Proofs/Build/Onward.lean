import Blueprint.Proofs.Build.Job

/-!
# Onward

Instances are numbered as they are made. So all that a run does for instances is for those made in
it, and the world moves onward: nothing is taken from the log, and what is added to it is about
instances made since. Here it is shown of all that is done while a proxy is filled, if it holds of
nested runs.
-/
namespace Blueprint

/-- The number of the instance that an event is about, if it is about one. -/
def Event.serial? : Event → Option Nat
  | .method _ _ serial => some serial
  | .call _ _ serial => some serial
  | .made _ serial _ => some serial
  | _ => none

/-- An event is about the instance of a number. -/
def Event.isAbout (serial : Nat) (event : Event) : Bool := event.serial? == some serial

/-- A world has moved onward: what has happened since is about instances made since. -/
structure World.Onward (world after : World) : Prop where
  /-- No instance is forgotten. -/
  made : world.made ≤ after.made
  /-- What is logged since is about instances made since. -/
  log : ∃ added, after.log = world.log ++ added ∧ ∀ event ∈ added, ∀ serial,
    event.serial? = some serial → world.made < serial ∧ serial ≤ after.made
  /-- The models are the same. -/
  models : after.models = world.models
  /-- The configuration is the same. -/
  settings : after.registry.settings = world.registry.settings

namespace World.Onward

variable {world after : World}

theorem refl (world : World) : world.Onward world := ⟨Nat.le_refl _, ⟨[], by simp⟩, rfl, rfl⟩

theorem trans {last : World} (first : world.Onward after) (second : after.Onward last) :
    world.Onward last := by
  obtain ⟨added, logged, each⟩ := first.log
  obtain ⟨more, further, others⟩ := second.log
  refine ⟨Nat.le_trans first.made second.made, ⟨added ++ more, ?_, ?_⟩,
    second.models.trans first.models, second.settings.trans first.settings⟩
  · rw [further, logged, List.append_assoc]
  · intro event member serial its
    obtain inside | inside := List.mem_append.1 member
    · obtain ⟨low, high⟩ := each event inside serial its
      exact ⟨low, Nat.le_trans high second.made⟩
    · obtain ⟨low, high⟩ := others event inside serial its
      exact ⟨Nat.lt_of_le_of_lt first.made low, high⟩

/-- What is logged without being about an instance moves a world onward. -/
theorem of_logged (world : World) {event : Event} (none_ : event.serial? = none) :
    world.Onward { world with log := world.log ++ [event] } := by
  refine ⟨Nat.le_refl _, ⟨[event], rfl, fun other member serial its => ?_⟩, rfl, rfl⟩
  rw [List.mem_singleton.1 member, none_] at its
  cases its

instance : Std.Refl World.Onward := ⟨refl⟩

instance : IsTrans World World.Onward := ⟨fun _ _ _ => trans⟩

end World.Onward

/-- Where only the registry was worked on, the world moved onward. -/
theorem World.SameRest.onward {world after : World} (same : world.SameRest after)
    (steps : World.Steps world after) : world.Onward after := by
  have settings : after.registry.settings = world.registry.settings := by
    clear same
    induction steps with
    | refl => rfl
    | @tail middle _ _ step ih =>
      cases step with
      | logged | counted | altered | constructed | drawn => exact ih
      | compiled id =>
        rw [(Registry.Reworks.compile middle.registry id).rest]
        exact ih
      | classed id =>
        rw [(Registry.Reworks.model middle.registry id).rest]
        exact ih
  unfold SameRest at same
  rw [same]
  exact ⟨Nat.le_refl _, ⟨[], by simp⟩, rfl, settings⟩

/-- A site has moved onward: its world has, and the instance at hand is still the same one. -/
structure Site.Onward (site after : Site) : Prop where
  /-- The world has moved onward. -/
  world : site.world.Onward after.world
  /-- The instance at hand has the same number and model. -/
  subject : ∀ {subject}, site.subject = some subject → ∃ later, after.subject = some later ∧
    later.serial = subject.serial ∧ later.model = subject.model

instance : Std.Refl Site.Onward := ⟨fun site => ⟨.refl site.world, fun here => ⟨_, here, rfl, rfl⟩⟩⟩

instance : IsTrans Site Site.Onward := ⟨fun _ _ _ first second => by
  refine ⟨first.world.trans second.world, fun here => ?_⟩
  obtain ⟨between, there, serial, model⟩ := first.subject here
  obtain ⟨later, last, serialLater, modelLater⟩ := second.subject there
  exact ⟨later, last, serialLater.trans serial, modelLater.trans model⟩⟩

/-- Where only the world changes, the site moves onward with it. -/
theorem Site.Onward.of_world {site : Site} {after : World} (onward : site.world.Onward after) :
    site.Onward { site with world := after } :=
  ⟨onward, fun here => ⟨_, here, rfl, rfl⟩⟩

/-- All runs of a runner move the world onward. -/
def Runner.Onward (runner : Runner) : Prop :=
  ∀ id choice overrides, Keeps World.Onward (runner id choice overrides)

/-- Runs of the factories of names move the world onward. -/
theorem Runner.Onward.named {runner : Runner} (onward : runner.Onward) (name choice : Value)
    (overrides : Dict) : Keeps World.Onward (runner.named name choice overrides) := by
  intro world
  unfold Runner.named
  rw [run_bind, Build.run_ask]
  cases world.registry.find name with
  | error fault => exact .refl world
  | ok id =>
    cases choice with
    | null =>
      simp only
      rw [run_bind, Build.run_ask]
      cases world.registry.strategyOf id with
      | error fault => exact .refl world
      | ok strategy => exact onward id _ overrides world
    | _ => exact onward id _ overrides world

/-- All that fills a proxy moves the site onward. -/
theorem Runner.Onward.keeping {runner : Runner} (onward : runner.Onward) :
    Keeping runner Site.Onward fun _ => True where
  ticked _ := fun site => .of_world (.of_logged site.world rfl)
  noted _ _ := fun site => .of_world (.of_logged site.world rfl)
  counted _ := fun site => .of_world ⟨Nat.le_refl _, ⟨[], by simp⟩, rfl, rfl⟩
  altered value name part := by
    intro site
    have onward : site.world.Onward ((Build.alter value name part).run site.world).2 := by
      obtain same | ⟨serial, fields, same⟩ := Build.alter_cases value name part site.world
      · rw [same]
        exact .refl site.world
      · rw [same]
        exact ⟨Nat.le_refl _, ⟨[], by simp⟩, rfl, rfl⟩
    exact .of_world onward
  ran id choice overrides := fun site => .of_world (onward id choice overrides site.world)
  ranNamed factory strategy overrides := fun site =>
    .of_world (onward.named factory strategy overrides site.world)
  set _ _ _ _ := fun site => ⟨.refl site.world, fun here => ⟨_, here, rfl, rfl⟩⟩
  fieldSet name value := by
    intro site
    unfold Act.onSubject
    rw [ExceptT.run_mk]
    cases here : site.subject with
    | none => exact refl_of Site.Onward site
    | some subject =>
      refine ⟨.refl site.world, fun there => ?_⟩
      rw [here] at there
      cases there
      exact ⟨_, rfl, rfl, rfl⟩

end Blueprint
