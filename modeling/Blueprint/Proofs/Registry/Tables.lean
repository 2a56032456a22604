import Blueprint.Proofs.Build.Session
import Blueprint.Proofs.Dedup
import Blueprint.Proofs.Registry.Names
import Blueprint.Proofs.Registry.Overrides

/-!
# The tables of a registry

What is registered is kept in three tables, which are written by registrations only. A registration
that fails writes nothing, and one that succeeds binds new keys only, so that a binding is never
changed. The registered factories are the values of one of the tables, in the order in which they
were registered, although a factory with several names is entered several times.
-/
namespace Blueprint

/-! ### Values in the order of entry -/

namespace Table

variable {κ : Type u} {α : Type v} [BEq κ] {entries : Table κ α} {key : κ} {value item : α}

/-- A value under a new key comes last. -/
theorem values_put_of_absent (absent : entries.lookup key = none) :
    (put entries key value).values = entries.values ++ [value] := by
  induction entries with
  | nil => rfl
  | cons entry rest ih =>
    rw [List.lookup_cons] at absent
    cases taken : key == entry.1 with
    | true =>
      rw [taken] at absent
      cases absent
    | false =>
      rw [taken] at absent
      simp only [put, taken, Bool.false_eq_true, if_false, values, List.map_cons, List.cons_append]
      exact congrArg (entry.2 :: ·) (ih absent)

/-- A value after one was entered is that one, or was there. -/
theorem mem_values_put (member : item ∈ (put entries key value).values) :
    item = value ∨ item ∈ entries.values := by
  induction entries with
  | nil => exact .inl (List.mem_singleton.1 member)
  | cons entry rest ih =>
    cases taken : key == entry.1 with
    | true =>
      simp only [put, taken, if_true, values, List.map_cons] at member
      obtain new | old := List.mem_cons.1 member
      · exact .inl new
      · exact .inr (List.mem_cons_of_mem _ old)
    | false =>
      simp only [put, taken, Bool.false_eq_true, if_false, values, List.map_cons] at member
      obtain first | later := List.mem_cons.1 member
      · exact .inr (by rw [first]; exact List.mem_cons_self)
      · exact (ih later).imp_right (List.mem_cons_of_mem _)

/-- A value after pairs were entered is from one of them, or was there. -/
theorem mem_values_putAll {pairs : List (κ × α)} (member : item ∈ (putAll entries pairs).values) :
    (∃ pair ∈ pairs, pair.2 = item) ∨ item ∈ entries.values := by
  induction pairs generalizing entries with
  | nil => exact .inr member
  | cons pair rest ih =>
    rw [putAll, List.foldl_cons] at member
    obtain ⟨other, inside, same⟩ | before := ih member
    · exact .inl ⟨other, List.mem_cons_of_mem _ inside, same⟩
    · obtain rfl | old := mem_values_put before
      · exact .inl ⟨pair, List.mem_cons_self, rfl⟩
      · exact .inr old

variable [EquivBEq κ]

/-- A key that is new or bound to a value is so after another one was bound to it. -/
theorem lookup_put_or {first : κ}
    (held : entries.lookup key = none ∨ entries.lookup key = some value) :
    (put entries first value).lookup key = none ∨
      (put entries first value).lookup key = some value := by
  rw [lookup_put]
  split
  · exact .inr rfl
  · exact held

variable [BEq α] [LawfulBEq α] {keys : List κ}

/-- A value that is there is no further one under other keys, if these are new or its own. -/
theorem eraseDups_values_putAll_of_mem (member : value ∈ entries.values)
    (held : ∀ key ∈ keys, entries.lookup key = none ∨ entries.lookup key = some value) :
    (putAll entries (keys.map fun key => (key, value))).values.eraseDups =
      entries.values.eraseDups := by
  induction keys generalizing entries with
  | nil => rfl
  | cons first rest ih =>
    rw [List.map_cons, putAll, List.foldl_cons]
    have still : ∀ key ∈ rest, (put entries first value).lookup key = none ∨
        (put entries first value).lookup key = some value :=
      fun key inside => lookup_put_or (held key (List.mem_cons_of_mem _ inside))
    obtain absent | own := held first List.mem_cons_self
    · have values : (put entries first value).values = entries.values ++ [value] :=
        values_put_of_absent absent
      refine (ih (by rw [values]; exact List.mem_append_left _ member) still).trans ?_
      rw [values, eraseDups_append_cons_of_mem member, List.append_nil]
    · have values := congrArg Table.values (put_of_lookup own)
      refine (ih (by rw [values]; exact member) still).trans ?_
      rw [values]

/-- A value that is entered under new keys is one more, however many keys there are. -/
theorem eraseDups_values_putAll {first : κ} (new : value ∉ entries.values)
    (absent : ∀ key ∈ first :: keys, entries.lookup key = none) :
    (putAll entries ((first :: keys).map fun key => (key, value))).values.eraseDups =
      entries.values.eraseDups ++ [value] := by
  rw [List.map_cons, putAll, List.foldl_cons]
  have values : (put entries first value).values = entries.values ++ [value] :=
    values_put_of_absent (absent first List.mem_cons_self)
  have still : ∀ key ∈ keys, (put entries first value).lookup key = none ∨
      (put entries first value).lookup key = some value :=
    fun key inside => lookup_put_or (.inl (absent key (List.mem_cons_of_mem _ inside)))
  have member : value ∈ (put entries first value).values := by
    rw [values]
    exact List.mem_append_right _ (List.mem_singleton_self value)
  refine (eraseDups_values_putAll_of_mem member still).trans ?_
  rw [values, eraseDups_concat_of_not_mem new]

end Table

namespace Registry

variable {registry after : Registry} {history later last : History} {id : FactoryId}
  {factory : Factory} {exchange : Exchange}

/-! ### What registrations come to -/

/-- A factory is registered under its names, none of which was taken. -/
theorem register_eq_ok (found : registry.factory? id = some factory)
    (done : registry.register id = .ok after) :
    (∀ name ∈ factory.names, registry.names.lookup name = none) ∧
      after =
        { registry with
          names := registry.names.putAll (factory.names.map fun name => (name, id)) } := by
  unfold register at done
  simp only [found] at done
  obtain ⟨_, bound⟩ := whileOpen_eq_ok.1 done
  cases taken : factory.names.find? registry.names.has with
  | some name =>
    simp only [taken] at bound
    cases bound
  | none =>
    simp only [taken] at bound
    cases bound
    refine ⟨fun name member => ?_, rfl⟩
    exact Option.not_isSome_iff_eq_none.1 (List.find?_eq_none.1 taken name member)

/-- A trait is registered under its name, which was not taken. -/
theorem registerTrait_eq_ok {trait : Trait} (done : registry.registerTrait trait = .ok after) :
    after = { registry with traits := registry.traits.put trait.name trait } := by
  obtain ⟨_, entered⟩ := whileOpen_eq_ok.1 done
  split at entered
  · cases entered
  · cases entered
    rfl

/-- A model class is registered under a key that is bound to no other one. -/
theorem registerModel_eq_ok {model identifier : String}
    (done : registry.registerModel model identifier = .ok after) :
    after = registry ∨ ∃ key, (∀ other, registry.models.lookup key ≠ some (.model other)) ∧
      after = { registry with models := registry.models.put key (.model model) } := by
  unfold registerModel at done
  extract_lets name key at done
  obtain ⟨_, entered⟩ := whileOpen_eq_ok.1 done
  split at entered
  · split at entered
    · cases entered
      exact .inl rfl
    · cases entered
  · rename_i none
    cases entered
    exact .inr ⟨key, fun other held => none other held, rfl⟩

/-- Model classes are all that is registered as one. -/
def OnlyModels (registry : Registry) : Prop :=
  ∀ key value, registry.models.lookup key = some value → ∃ name, value = .model name

/-- A registry starts without model classes. -/
theorem onlyModels_create {settings : Settings} {registry : Registry}
    (created : Registry.create settings = .ok registry) : registry.OnlyModels := by
  intro key value found
  obtain ⟨patterns, start, rfl⟩ := History.create_eq_ok created
  cases found

/-- In a move nothing but a model class is registered as one. -/
theorem Move.onlyModels (move : Move registry after) (only : registry.OnlyModels) :
    after.OnlyModels := by
  intro key value found
  cases move with
  | model own name =>
    rw [show (registry.models.put own (.model name)).lookup key = _ from
      Table.lookup_put _ _ _ _] at found
    split at found
    · exact ⟨name, (Option.some.inj found).symm⟩
    · exact only key value found
  | turned => exact only key value found
  | bound => exact only key value found
  | trait => exact only key value found
  | closed => exact only key value found
  | drawn => exact only key value found

/-- A model class that is found for an identifier is found for it after every move. -/
theorem Move.modelFor_eq_ok {identifier value : Value} (move : Move registry after)
    (only : registry.OnlyModels) (found : registry.modelFor identifier = .ok value) :
    after.modelFor identifier = .ok value := by
  have kept : ∀ key held, registry.models.lookup key = some held →
      after.models.lookup key = some held := by
    intro key held bound
    cases move with
    | model own name _ free =>
      show (registry.models.put own (.model name)).lookup key = some held
      obtain ⟨other, rfl⟩ := only key held bound
      rw [Table.lookup_put, if_neg, bound]
      intro same
      rw [beq_iff_eq.1 same] at bound
      exact free other bound
    | turned => exact bound
    | bound => exact bound
    | trait => exact bound
    | closed => exact bound
    | drawn => exact bound
  unfold modelFor at found ⊢
  split
  · exact found
  · exact found
  · simp only at found ⊢
    cases bound : registry.models.lookup (Name.ofValue identifier) with
    | none =>
      rw [bound] at found
      cases found
    | some held =>
      rw [bound] at found
      rw [kept _ _ bound]
      exact found

/-- Every registered model class is one. -/
theorem exists_model_of_lookup (reached : history.Reached) {key : String} {value : Value}
    (found : history.registry.models.lookup key = some value) : ∃ name, value = .model name := by
  have only : history.registry.OnlyModels :=
    (reached.induct (fun _ registry => registry.OnlyModels) onlyModels_create
      (fun _ _ only => only) fun move _ only => move.onlyModels only).2
  exact only key value found

/-- What is among the registered numbers is bound under a name. -/
theorem exists_lookup_of_mem (reached : history.Reached) (member : id ∈ history.registry.registered) :
    ∃ name, history.registry.names.lookup name = some id := by
  have inTable : id ∈ history.registry.names.values := List.mem_eraseDups.1 member
  refine (reached.induct (fun _ registry => ∀ id ∈ registry.names.values,
    ∃ name, registry.names.lookup name = some id) ?_ ?_ ?_).2 id inTable
  · intro settings registry created id never
    rw [(History.factories_create created).2] at never
    cases never
  · exact fun _ _ held => held
  · intro _ registry after move _ held id member
    have kept : ∀ {id}, id ∈ registry.names.values → ∃ name, after.names.lookup name = some id := by
      intro id there
      obtain ⟨name, bound⟩ := held id there
      exact ⟨name, move.lookup bound⟩
    cases move with
    | bound =>
      obtain ⟨pair, inside, rfl⟩ | before := Table.mem_values_putAll member
      · obtain ⟨name, own, rfl⟩ := List.mem_map.1 inside
        exact ⟨name, Table.lookup_putAll_const (.inl own)⟩
      · exact kept before
    | turned => exact kept member
    | trait => exact kept member
    | model => exact kept member
    | closed => exact kept member
    | drawn => exact kept member

/-- A factory that is registered comes last among the registered ones. -/
theorem registered_register (reached : history.Reached)
    (found : history.registry.factory? id = some factory)
    (done : history.registry.register id = .ok after) :
    after.registered = history.registry.registered ++ [id] := by
  obtain ⟨free, rfl⟩ := register_eq_ok found done
  have new : id ∉ history.registry.names.values := by
    intro there
    -- the factory would be bound under all of its names already
    obtain ⟨name, bound⟩ := exists_lookup_of_mem reached (List.mem_eraseDups.2 there)
    obtain ⟨its, known, named⟩ := reached.bound name id bound
    rw [found] at known
    cases known
    rw [free name named] at bound
    cases bound
  exact Table.eraseDups_values_putAll new free

/-! ### Bindings -/

/-- What is bound in the tables of a registry is bound to the same in another one. -/
structure Retains (registry after : Registry) : Prop where
  /-- Names stay bound to factories. -/
  names : ∀ {name id}, registry.names.lookup name = some id → after.names.lookup name = some id
  /-- Names stay bound to traits. -/
  traits : ∀ {name trait}, registry.traits.lookup name = some trait →
    after.traits.lookup name = some trait
  /-- Identifiers stay bound to model classes. -/
  models : ∀ {key value}, registry.models.lookup key = some value →
    after.models.lookup key = some value

theorem Retains.refl (registry : Registry) : registry.Retains registry :=
  ⟨fun found => found, fun found => found, fun found => found⟩

theorem Retains.trans {last : Registry} (first : registry.Retains after)
    (second : after.Retains last) : registry.Retains last :=
  ⟨second.names ∘ first.names, second.traits ∘ first.traits, second.models ∘ first.models⟩

/-- The same tables retain what is bound. -/
theorem SameRegistered.retains (same : registry.SameRegistered after) : registry.Retains after := by
  refine ⟨?_, ?_, ?_⟩
  · intro name id found
    rwa [same.names]
  · intro name trait found
    rwa [same.traits]
  · intro key value found
    rwa [same.models]

/-- Registering a model class leaves the tables, but for a key that was bound to nothing. -/
theorem retains_registerModel (reached : history.Reached) {model identifier : String}
    (done : history.registry.registerModel model identifier = .ok after) :
    history.registry.Retains after := by
  obtain rfl | ⟨key, free, rfl⟩ := registerModel_eq_ok done
  · exact .refl _
  · refine ⟨fun found => found, fun found => found, ?_⟩
    intro other value found
    show (history.registry.models.put key (.model model)).lookup other = _
    rw [Table.lookup_put, if_neg, found]
    intro same
    obtain ⟨name, rfl⟩ := exists_model_of_lookup reached found
    rw [beq_iff_eq.1 same] at found
    exact free name found

end Registry

open Registry

namespace Served

variable {history later : History} {exchange : Exchange}

/-- A request that is served leaves what is bound. -/
theorem retains (served : Served history exchange later) (reached : history.Reached) :
    history.registry.Retains later.registry := by
  have longer := served.operations.extends reached.bound
  refine ⟨longer.names, longer.traits, ?_⟩
  cases served with
  | refused => exact fun found => found
  | defined checked described done =>
    intro key value found
    obtain ⟨_, rfl⟩ := register_eq_ok List.getElem?_concat_length done
    exact found
  | made => exact fun found => found
  | registered found done =>
    intro key value bound
    obtain ⟨_, rfl⟩ := register_eq_ok found done
    exact bound
  | traitRegistered done =>
    intro key value found
    rw [registerTrait_eq_ok done]
    exact found
  | modelRegistered done => exact (retains_registerModel reached done).models
  | @permitted id _ _ =>
    intro key value found
    show (history.registry.allowOverrides id).models.lookup key = some value
    rw [(relaxes_allowOverrides history.registry id).rest]
    exact found
  | staged _ _ _ stages => exact stages.sameRegistered.retains.models

/-- A request that fails leaves the tables as they were. -/
theorem sameRegistered_of_error {request : Request} {fault : Fault}
    (served : Served history ⟨request, .error fault⟩ later) :
    history.registry.SameRegistered later.registry := by
  cases served with
  | refused => exact .refl _
  | staged _ _ _ stages => exact stages.sameRegistered

/-- A quiet request leaves the tables, whatever comes of it. -/
theorem sameRegistered_of_quiet {request : Request} {outcome : Except Fault Reply}
    (served : Served history ⟨request, outcome⟩ later) (quiet : request.isQuiet = true) :
    history.registry.SameRegistered later.registry := by
  cases served with
  | refused => exact .refl _
  | staged _ _ _ stages => exact stages.sameRegistered
  | _ => cases quiet

/-- What a request registers comes last among the registered factories. -/
theorem registered_eq (served : Served history exchange later) (reached : history.Reached) :
    later.registry.registered = history.registry.registered ++ exchange.enrolled?.toList := by
  have same : ∀ {after : Registry}, after.names = history.registry.names →
      after.registered = history.registry.registered ++ [] := by
    intro after names
    rw [Registry.registered, names, ← Registry.registered, List.append_nil]
  cases served with
  | refused request fault => cases request <;> exact same rfl
  | defined checked described done =>
    have grown := reached.tail (.made checked described)
    have last := registered_register grown List.getElem?_concat_length done
    exact last
  | made => exact same rfl
  | registered found done => exact registered_register reached found done
  | traitRegistered done => exact same (by rw [registerTrait_eq_ok done]; rfl)
  | modelRegistered done =>
    obtain rfl | ⟨key, _, rfl⟩ := registerModel_eq_ok done
    · exact same rfl
    · exact same rfl
  | @permitted id _ _ => exact same (by rw [(relaxes_allowOverrides history.registry id).rest])
  | staged outcome quiet _ stages =>
    rw [(none_of_quiet quiet outcome).1]
    exact same stages.sameRegistered.names

end Served

/-! ### Tables in sessions -/

/-- What a session registers comes last among the registered factories, in order. -/
theorem Session.registered_eq {history last : History} {exchanges : List Exchange}
    (session : Session history exchanges last) (reached : history.Reached) :
    last.registry.registered =
      history.registry.registered ++ exchanges.filterMap Exchange.enrolled? := by
  induction session with
  | idle => exact (List.append_nil _).symm
  | @served history middle last exchange rest first _ ih =>
    rw [ih (reached.trans first.operations), first.registered_eq reached, List.append_assoc,
      List.filterMap_cons]
    cases exchange.enrolled? <;> rfl

/-- A session leaves what is bound. -/
theorem Session.retains {history last : History} {exchanges : List Exchange}
    (session : Session history exchanges last) (reached : history.Reached) :
    history.registry.Retains last.registry := by
  induction session with
  | idle => exact .refl _
  | served first _ ih =>
    exact (first.retains reached).trans (ih (reached.trans first.operations))

/-- What is certain of the tables of a world, given what has been asked of it. -/
structure World.TablesKept (world : World) (record : List Exchange) : Prop where
  /-- A registered factory is bound under each of its names. -/
  whole : ∀ {id factory}, id ∈ world.registry.registered →
    world.registry.factory? id = some factory → ∀ name ∈ factory.names,
      world.registry.names.lookup name = some id
  /-- A name is bound to a factory that has it only. -/
  bound : ∀ {name id}, world.registry.names.lookup name = some id →
    ∃ factory, world.registry.factory? id = some factory ∧ name ∈ factory.names
  /-- Whatever is asked next, what is bound stays bound to the same. -/
  retained : ∀ requests, world.registry.Retains (world.after requests).registry
  /-- A request that fails leaves the tables as they are. -/
  failed : ∀ {request : Request} {fault : Fault} {after : World},
    request.serve.run world = (.error fault, after) →
      world.registry.SameRegistered after.registry
  /-- Once the registry is sealed, the tables stay as they are whatever is asked next. -/
  closed : ∀ {reply : Reply} {after : World},
    Request.close.serve.run world = (.ok reply, after) →
      ∀ requests, world.registry.SameRegistered (after.after requests).registry
  /-- The registered factories are those that were registered, in order. -/
  order : world.registry.registered = record.filterMap Exchange.enrolled?
  /-- Each of them is there once. -/
  once : world.registry.registered.Nodup

/-- When sealing succeeds the registry is sealed. -/
theorem Request.isSealed_of_close {world after : World} {reply : Reply}
    (done : close.serve.run world = (.ok reply, after)) : after.registry.isSealed = true := by
  have served : close.serve.run world =
      ((Registry.close world.registry).1.map fun _ => Reply.done,
        { world with registry := (Registry.close world.registry).2 }) := Build.run_replying _ _ _
  rw [served] at done
  cases outcome : Registry.close world.registry with
  | mk result registry =>
    rw [outcome] at done
    cases result with
    | error fault => cases done
    | ok value =>
      cases done
      exact Registry.isSealed_of_close outcome

/-- After any session, whatever in it succeeded or failed, the tables of the registry hold what was
registered. -/
theorem World.tablesKept_after {settings : Settings} {start : World}
    (created : Registry.create settings = .ok start.registry) (requests : List Request) :
    (start.after requests).TablesKept (start.record requests) := by
  have begins : (⟨start.registry, [], []⟩ : History).Reached := .start created
  obtain ⟨last, session, same⟩ := start.exists_session begins rfl requests
  have reached : last.Reached := begins.trans session.operations
  refine ⟨?_, ?_, ?_, ?_, ?_, ?_, ?_⟩
  · intro id factory member found name own
    rw [same] at member found ⊢
    obtain ⟨other, bound⟩ := exists_lookup_of_mem reached member
    exact reached.whole bound found name own
  · intro name id found
    rw [same] at found ⊢
    exact reached.bound name id found
  · intro more
    obtain ⟨later, onward, still⟩ := World.exists_session reached same more
    rw [same, still]
    exact onward.retains reached
  · intro request fault after failed
    obtain ⟨later, served, still⟩ := request.comes_serve reached same
    rw [failed] at served still
    rw [same, show after.registry = later.registry from still]
    exact served.sameRegistered_of_error
  · intro reply after done more
    obtain ⟨middle, served, between⟩ := Request.close.comes_serve reached same
    rw [done] at served between
    have isSealed : middle.registry.isSealed = true := by
      rw [← show after.registry = middle.registry from between]
      exact Request.isSealed_of_close done
    have middleReached := reached.trans served.operations
    have sealing := served.sameRegistered_of_quiet rfl
    obtain ⟨later, onward, still⟩ := World.exists_session middleReached between more
    rw [same, still]
    exact sealing.trans (sameRegistered_of_sealed middleReached isSealed onward.operations)
  · rw [same, session.registered_eq begins]
    have empty : start.registry.names = [] := (History.factories_create created).2
    show start.registry.registered ++ _ = _
    rw [registered, empty]
    rfl
  · exact nodup_eraseDups _

/-- A user with one more name, written twice, and a guest that is registered after another factory
was refused because it has the name too. -/
theorem World.tablesKept_after_guest : ∃ (start : World) (requests : List Request),
    Registry.create ⟨.dict []⟩ = .ok start.registry ∧
      (start.record requests).map (fun exchange => exchange.outcome.toBool) =
        [true, true, false, true] ∧
      (start.after requests).registry.registered = [0, 1] ∧
        (start.after requests).TablesKept (start.record requests) := by
  let start : World := { registry := History.blank.registry }
  let person : Dict := [(.text "aliases", .list [.text "person", .text "person"])]
  let requests : List Request :=
    [.define (.text "user") person [], .make (.text "guest") [], .define (.text "person") [] [],
      .register 1]
  have created : Registry.create ⟨.dict []⟩ = .ok start.registry := rfl
  have outcomes : (start.record requests).map (fun exchange => exchange.outcome.toBool) =
      [true, true, false, true] := by decide +kernel
  have enrolled : (start.record requests).filterMap Exchange.enrolled? = [0, 1] := by
    decide +kernel
  have kept := World.tablesKept_after created requests
  exact ⟨start, requests, created, outcomes, kept.order.trans enrolled, kept⟩

end Blueprint
