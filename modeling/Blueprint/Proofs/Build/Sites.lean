import Blueprint.Proofs.Build.Lead

/-!
# Sites abreast

The sites of two runs that go abreast: their worlds are related, and their proxies and instances
hold matching values. What is asked of a site and what is set in it keeps sites abreast. A flag
tells whether values may be looked into; once an id is drawn they may only where the ids are the
same.
-/
namespace Blueprint

namespace Lead

variable {lead : Lead} {seen : Bool}

/-! ### Proxies and sites -/

/-- Two proxies of runs that go abreast. -/
structure Proxies (lead : Lead) (seen : Bool) (proxy other : Proxy) : Prop where
  /-- They have the same strategy. -/
  strategy : proxy.strategy = other.strategy
  /-- They have the same model class. -/
  model : proxy.model = other.model
  /-- The values match. -/
  values : Table.Alike (Value.Match lead.Ids seen) proxy.values other.values
  /-- The same values are ignored. -/
  ignored : proxy.ignored = other.ignored
  /-- They have the same callbacks. -/
  callbacks : proxy.callbacks = other.callbacks
  /-- The callbacks are code of the registry. -/
  pieces : ∀ callback ∈ proxy.callbacks, lead.Holds callback.piece?

/-- Two sites of runs that go abreast. -/
structure Sites (lead : Lead) (seen : Bool) (site other : Site) : Prop where
  /-- The worlds are related. -/
  worlds : lead.Worlds site.world other.world
  /-- The proxies match. -/
  proxies : lead.Proxies seen site.proxy other.proxy
  /-- The instances match, or there is none yet. -/
  subjects : Option.Rel (Instance.Match lead.Ids seen) site.subject other.subject

namespace Proxies

variable {proxy other : Proxy} {value twin : Value} {name : String}

/-- Proxies match still when matching values are set. -/
theorem set (proxies : lead.Proxies seen proxy other) (name : String)
    (same : Value.Match lead.Ids seen value twin) (ignored : Bool) :
    lead.Proxies seen (proxy.set name value ignored) (other.set name twin ignored) :=
  ⟨proxies.strategy, proxies.model, proxies.values.put name same,
    by simp only [Proxy.set, proxies.ignored], proxies.callbacks, proxies.pieces⟩

/-- The values under a name match. -/
theorem get (proxies : lead.Proxies seen proxy other) (name : String) :
    Tally (Value.Match lead.Ids seen) (proxy.get name) (other.get name) := by
  unfold Proxy.get
  obtain ⟨here, there⟩ | ⟨value, twin, here, there, same⟩ :=
    cases_of_rel (proxies.values.lookup name)
  · rw [here, there]
    exact .error _
  · rw [here, there]
    exact .ok same

/-- There is a value under a name in both proxies or in none. -/
theorem has (proxies : lead.Proxies seen proxy other) (name : String) :
    other.has name = proxy.has name :=
  (proxies.values.has name).symm

/-- The values that reach the instance match. -/
theorem persistedValues (proxies : lead.Proxies seen proxy other) :
    Table.Alike (Value.Match lead.Ids seen) proxy.persistedValues other.persistedValues := by
  rw [Proxy.persistedValues, Proxy.persistedValues, ← proxies.ignored]
  exact proxies.values.filter fun name => !proxy.ignored.contains name

/-- Proxies whose values match where they are looked at match in any case. -/
theorem of_seen (proxies : lead.Proxies true proxy other) : lead.Proxies seen proxy other :=
  { proxies with values := proxies.values.imp fun _ _ same => ⟨same.1, same.2.of_seen⟩ }

end Proxies

namespace Sites

variable {site other : Site}

/-- Sites stay related when their proxies change in a matching way. -/
theorem withProxy (sites : lead.Sites seen site other) {proxy twin : Proxy}
    (proxies : lead.Proxies seen proxy twin) :
    lead.Sites seen { site with proxy := proxy } { other with proxy := twin } :=
  ⟨sites.worlds, proxies, sites.subjects⟩

/-- Sites stay related when their worlds do. -/
theorem withWorld (sites : lead.Sites seen site other) {world twin : World}
    (worlds : lead.Worlds world twin) :
    lead.Sites seen { site with world := world } { other with world := twin } :=
  ⟨worlds, sites.proxies, sites.subjects⟩

/-- Sites whose values match where they are looked at match in any case. -/
theorem of_seen (sites : lead.Sites true site other) : lead.Sites seen site other := by
  obtain ⟨world, proxy, subject⟩ := site
  obtain ⟨twin, twinProxy, twinSubject⟩ := other
  obtain ⟨worlds, proxies, subjects⟩ := sites
  refine ⟨worlds, proxies.of_seen, ?_⟩
  cases subjects with
  | none => exact .none
  | some same =>
    exact .some ⟨same.model, same.persisted,
      same.fields.imp fun _ _ pair => ⟨pair.1, pair.2.of_seen⟩⟩

end Sites

end Lead

/-! ### Operations on sites abreast -/

namespace Act

variable {lead : Lead} {seen : Bool} {α β : Type} {related : α → β → Prop}
  {states : Site → Site → Prop}

/-- What fails with the same fault goes abreast. -/
theorem abreast_fail (fault : Fault) : Abreast states related (fail fault) (fail fault) :=
  fun _ _ same => ⟨.error fault, same⟩

/-- What is asked of related sites goes abreast if the answers agree. -/
theorem abreast_ask {view : Site → Except Fault α} {look : Site → Except Fault β}
    (agree : ∀ {site other}, states site other → Tally related (view site) (look other)) :
    Abreast states related (ask view) (ask look) :=
  fun _ _ same => ⟨agree same, same⟩

/-- What is asked of related sites goes abreast if it is the same. -/
theorem abreast_ask_eq {view : Site → α}
    (same : ∀ {site other}, states site other → view other = view site) :
    Abreast states Eq (ask fun site => .ok (view site)) (ask fun site => .ok (view site)) :=
  abreast_ask fun sites => by rw [same sites]; exact .ok rfl

/-- Builds that go abreast do so at a site. -/
theorem abreast_ofBuild {one : Build α} {other : Build β}
    (abreast : Abreast lead.Worlds related one other) :
    Abreast (lead.Sites seen) related (ofBuild one) (ofBuild other) := by
  intro site twin sites
  obtain ⟨agree, worlds⟩ := abreast sites.worlds
  exact ⟨agree, sites.withWorld worlds⟩

/-- Logging events that are alike goes abreast. -/
theorem abreast_emit {event twin : Event} (alike : event.Alike lead.Ids twin) :
    Abreast (lead.Sites seen) Eq (emit event) (emit twin) :=
  abreast_ofBuild (Build.abreast_emit alike)

/-- Setting matching values goes abreast. -/
theorem abreast_set {value twin : Value} (same : Value.Match lead.Ids seen value twin)
    (name : String) (ignored : Bool) :
    Abreast (lead.Sites seen) Eq (onProxy fun proxy => proxy.set name value ignored)
      (onProxy fun proxy => proxy.set name twin ignored) :=
  fun _ _ sites => ⟨.ok rfl, sites.withProxy (sites.proxies.set name same ignored)⟩

/-- Changing instances in a matching way goes abreast. -/
theorem abreast_onSubject {change alter : Instance → Instance}
    (keeps : ∀ {subject other : Instance}, subject.Match lead.Ids seen other →
      (change subject).Match lead.Ids seen (alter other)) :
    Abreast (lead.Sites seen) Eq (onSubject change) (onSubject alter) := by
  rintro ⟨world, proxy, subject⟩ ⟨twin, other, subject'⟩ ⟨worlds, proxies, subjects⟩
  cases subjects with
  | none => exact ⟨.error _, worlds, proxies, .none⟩
  | some same => exact ⟨.ok rfl, worlds, proxies, .some (keeps same)⟩

/-- Where the ids are the same, fields of values that match are read abreast. -/
theorem abreast_part (level : lead.late = true) {value twin : Value}
    (same : Value.Match lead.Ids seen value twin) (name : String) :
    Abreast (lead.Sites seen) (Value.Match lead.Ids seen)
      (ask fun site => site.world.part value name) (ask fun site => site.world.part twin name) := by
  have equal : ∀ {id other}, lead.Ids id other → id = other := by
    intro id other shifted
    rw [shifted.2, of_decide_eq_true level, Int.add_zero]
  refine abreast_ask fun {site other} sites => ?_
  have unaltered := sites.worlds.unaltered
  have unalteredOther := sites.worlds.unalteredOther
  cases same.alike with
  | same value =>
    have alike : other.world.part value name = site.world.part value name := by
      cases value with
      | object =>
        rw [World.part, World.part, World.fieldsOf, World.fieldsOf, unaltered, unalteredOther]
      | _ => rfl
    rw [alike]
    exact .refl (.refl _ _) _
  | object model serial number persisted keys values =>
    have fields := Table.Alike.of_values keys values
    simp only [World.part, World.fieldsOf, unaltered, unalteredOther, List.lookup_nil,
      Option.getD_none]
    obtain ⟨here, there⟩ | ⟨part, other, here, there, alike⟩ := cases_of_rel (fields.lookup name)
    · rw [here, there]
      exact .error _
    · rw [here, there]
      exact .ok (.of_alike equal alike)
  | drawn | dict => exact .error _

/-- What is asked of instances goes abreast if the answers are related. -/
theorem abreast_askSubject {view : Instance → α} {look : Instance → β}
    (agree : ∀ {subject other : Instance}, subject.Match lead.Ids seen other →
      related (view subject) (look other)) :
    Abreast (lead.Sites seen) related (askSubject view) (askSubject look) := by
  refine abreast_ask fun sites => ?_
  obtain ⟨here, there⟩ | ⟨subject, twin, here, there, same⟩ := cases_of_rel sites.subjects
  · rw [here, there]
    exact .error _
  · rw [here, there]
    exact .ok (agree same)

end Act

end Blueprint
