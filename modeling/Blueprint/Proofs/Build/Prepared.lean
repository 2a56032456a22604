import Blueprint.Proofs.Build.Fill

/-!
# Prepared runs

Before a run fills its proxy it has resolved the attributes, whose names are distinct, and brought
the overrides under canonical keys, which are distinct too. From there the plan is a portion for
each attribute, and last what is sent to none.
-/
namespace Blueprint

/-! ### Overrides -/

namespace Build

/-- Overrides read one by one come under their canonical keys, all of them distinct. -/
theorem canonicalFrom_eq_ok {factory : String} {pending read : List Override}
    {given : Table String Key} {overrides : Dict} (same : given.map Prod.fst = pending.map Prod.fst)
    (distinct : (pending.map Prod.fst).Nodup)
    (done : canonicalFrom factory pending given overrides = .ok read) :
    read = pending ++ overrides.map (fun pair => (Name.ofKey pair.1, pair.2)) ∧
      (read.map Prod.fst).Nodup := by
  induction overrides generalizing pending given with
  | nil =>
    cases done
    exact ⟨by simp, distinct⟩
  | cons pair rest ih =>
    obtain ⟨key, value⟩ := pair
    rw [canonicalFrom] at done
    cases taken : given.lookup (Name.ofKey key) with
    | some first =>
      simp only [taken] at done
      cases done
    | none =>
      simp only [taken] at done
      have fresh : Name.ofKey key ∉ pending.map Prod.fst := by
        rw [← same]
        intro member
        obtain ⟨entry, inside, named⟩ := List.mem_map.1 member
        have absent := List.lookup_eq_none_iff.1 taken entry inside
        simp [named] at absent
      have longer : (given ++ [(Name.ofKey key, key)]).map Prod.fst =
          (pending ++ [(Name.ofKey key, value)]).map Prod.fst := by
        rw [List.map_append, List.map_append, same]
        rfl
      have still : ((pending ++ [(Name.ofKey key, value)]).map Prod.fst).Nodup := by
        rw [List.map_append, List.nodup_append]
        refine ⟨distinct, List.nodup_singleton _, ?_⟩
        rintro name member _ last rfl
        obtain rfl := List.mem_singleton.1 last
        exact fresh member
      obtain ⟨all, apart⟩ := ih longer still done
      refine ⟨?_, apart⟩
      rw [all, List.append_assoc]
      rfl

/-- Overrides that are accepted come under their canonical keys, all of them distinct. -/
theorem canonicalOverrides_eq_ok {factory : String} {overrides : Dict} {pending : List Override}
    (done : canonicalOverrides factory overrides = .ok pending) :
    pending = overrides.map (fun pair => (Name.ofKey pair.1, pair.2)) ∧
      (pending.map Prod.fst).Nodup := by
  have none_ : (([] : List Override).map Prod.fst).Nodup := List.nodup_nil
  have same : ([] : Table String Key).map Prod.fst = ([] : List Override).map Prod.fst := rfl
  obtain ⟨all, distinct⟩ := canonicalFrom_eq_ok same none_ done
  exact ⟨all, distinct⟩

end Build

/-! ### What is prepared -/

/-- A run is prepared for a choice of strategy and overrides. -/
structure Prepared.For (run : Prepared) (choice : Value) (overrides : Dict) : Prop where
  /-- The attributes have distinct names. -/
  distinct : (run.attributes.map Attribute.name).Nodup
  /-- The overrides are those given, under canonical keys. -/
  overrides : run.overrides = overrides.map fun pair => (Name.ofKey pair.1, pair.2)
  /-- The keys are distinct. -/
  keys : (run.overrides.map Prod.fst).Nodup
  /-- The strategy is the one chosen. -/
  strategy : Strategy.ofProxy choice = .ok run.proxy.strategy

/-- What is prepared is prepared for what is asked. -/
theorem Runner.prepare_eq_ok {id : FactoryId} {choice : Value} {overrides : Dict} {run : Prepared}
    {world ready : World} (done : (prepare id choice overrides).run world = (.ok run, ready)) :
    run.For choice overrides := by
  obtain ⟨strategy, first, chosen, done⟩ := run_bind_eq_ok.1 done
  obtain ⟨model, second, _, done⟩ := run_bind_eq_ok.1 done
  obtain ⟨list, third, given, done⟩ := run_bind_eq_ok.1 done
  obtain ⟨name, fourth, _, done⟩ := run_bind_eq_ok.1 done
  obtain ⟨pending, fifth, accepted, done⟩ := run_bind_eq_ok.1 done
  obtain ⟨aliases, sixth, _, done⟩ := run_bind_eq_ok.1 done
  obtain ⟨finalizer, seventh, _, done⟩ := run_bind_eq_ok.1 done
  cases done
  obtain ⟨isChosen, _⟩ := Prod.mk.inj chosen
  obtain ⟨isAccepted, _⟩ := Prod.mk.inj accepted
  obtain ⟨isGiven, _⟩ := Prod.mk.inj given
  have resolved := (Registry.attributes_eq_ok (Prod.ext isGiven rfl)).2
  obtain ⟨all, keys⟩ := Build.canonicalOverrides_eq_ok isAccepted
  exact ⟨Registry.nodup_resolve resolved, all, keys, isChosen⟩

/-! ### What the plan does -/

namespace Prepared

/-- The attribute to which a key is sent, if it is sent to one. -/
def target? (run : Prepared) (key : String) : Option Attribute :=
  run.attributes.find? fun attr =>
    Plan.passes (Plan.targets run.aliases run.attributes attr) key

/-- The overrides that are sent to an attribute. -/
def sent (run : Prepared) (attr : Attribute) : List Override :=
  Plan.sentTo run.aliases run.attributes run.attributes (some attr.name) run.overrides

/-- The overrides that are sent to no attribute. -/
def unsent (run : Prepared) : List Override :=
  Plan.sentTo run.aliases run.attributes run.attributes none run.overrides

/-- An attribute gives its value in place of an override: the key is its name, but no override is
sent to it, and it is not passed over. -/
def displacing? (run : Prepared) (key : String) : Option Attribute :=
  run.attributes.find? fun attr =>
    attr.name == key && (run.sent attr).isEmpty && !attr.isSkipped run.proxy.strategy

variable {run : Prepared} {choice : Value} {overrides : Dict} {attr : Attribute} {key : String}
  {value : Value} {ignored : Bool}

/-- Attributes of one name are the same. -/
theorem For.eq_of_name (prepared : run.For choice overrides) {other : Attribute}
    (member : attr ∈ run.attributes) (there : other ∈ run.attributes)
    (same : attr.name = other.name) : attr = other :=
  List.inj_on_of_nodup_map prepared.distinct member there same

/-- An override is sent to an attribute of the run just if the attribute is its target. -/
theorem For.mem_sent (prepared : run.For choice overrides) (member : attr ∈ run.attributes) :
    (key, value) ∈ run.sent attr ↔ (key, value) ∈ run.overrides ∧ run.target? key = some attr := by
  rw [sent, Plan.sentTo, List.mem_filter, beq_iff_eq]
  refine and_congr_right fun _ => ?_
  show (run.target? key).map Attribute.name = some attr.name ↔ _
  constructor
  · intro named
    obtain ⟨target, found, same⟩ := Option.map_eq_some_iff.1 named
    rw [found, prepared.eq_of_name (List.mem_of_find?_eq_some found) member same]
  · intro found
    rw [found]
    rfl

/-- An override is sent to no attribute just if its key has no target. -/
theorem mem_unsent {pair : Override} :
    pair ∈ run.unsent ↔ pair ∈ run.overrides ∧ run.target? pair.1 = none := by
  rw [unsent, Plan.sentTo, List.mem_filter, beq_iff_eq]
  exact and_congr_right fun _ => Option.map_eq_none_iff

/-- The name of an attribute is sent to the first attribute that answers to it. -/
theorem For.target?_name (prepared : run.For choice overrides) {front rest : List Attribute}
    (split : run.attributes = front ++ attr :: rest) :
    ∃ owner, owner ∈ front ++ [attr] ∧ owner.answersTo attr.name ∧
      run.target? attr.name = some owner := by
  have answers : attr.answersTo attr.name := by simp [Attribute.answersTo]
  obtain ⟨owner, owned, place⟩ : ∃ owner, Plan.owner? run.attributes attr.name = some owner ∧
      owner ∈ front ++ [attr] := by
    rw [Plan.owner?, split, List.find?_append]
    cases found : front.find? fun other => other.answersTo attr.name with
    | some owner =>
      have inside : owner ∈ front := List.mem_of_find?_eq_some found
      exact ⟨owner, rfl, List.mem_append_left _ inside⟩
    | none =>
      refine ⟨attr, ?_, by simp⟩
      rw [Option.none_or, List.find?_cons, answers]
  have sentThere : (run.target? attr.name).map Attribute.name = some owner.name :=
    Plan.destination?_of_owner? owned
  obtain ⟨target, found, same⟩ := Option.map_eq_some_iff.1 sentThere
  have member : owner ∈ run.attributes := List.mem_of_find?_eq_some owned
  rw [prepared.eq_of_name (List.mem_of_find?_eq_some found) member same] at found
  exact ⟨owner, place, by simpa using List.find?_some owned, found⟩

/-- What displaces an override is an attribute that is named by the key, where an earlier attribute
has the key as a further name. -/
theorem For.target?_of_displacing (prepared : run.For choice overrides)
    (given : (key, value) ∈ run.overrides) (displacing : run.displacing? key = some attr) :
    attr ∈ run.attributes ∧ attr.name = key ∧ run.sent attr = [] ∧
      attr.isSkipped run.proxy.strategy = false ∧
      ∃ owner ∈ run.attributes, run.target? key = some owner ∧ owner.name ≠ key ∧
        key ∈ owner.aliases := by
  have member : attr ∈ run.attributes := List.mem_of_find?_eq_some displacing
  have meets := List.find?_some displacing
  simp only [Bool.and_eq_true, beq_iff_eq, List.isEmpty_iff, Bool.not_eq_true'] at meets
  obtain ⟨⟨rfl, unsent⟩, present⟩ := meets
  obtain ⟨front, rest, split⟩ := List.append_of_mem member
  obtain ⟨owner, _, answers, found⟩ := prepared.target?_name split
  have there : owner ∈ run.attributes := List.mem_of_find?_eq_some found
  have different : owner.name ≠ attr.name := by
    intro same
    obtain rfl := prepared.eq_of_name there member same
    have inside := (prepared.mem_sent member).2 ⟨given, found⟩
    rw [unsent] at inside
    cases inside
  have further : attr.name ∈ owner.aliases := by
    simpa [Attribute.answersTo, different.symm] using answers
  exact ⟨member, rfl, unsent, present, owner, there, found, different, further⟩

/-- What the plan does when it has no fault: what is due for each attribute, and last what is sent
to none. -/
theorem For.actions_plan (prepared : run.For choice overrides) (whole : run.plan.fault = none) :
    run.plan.actions =
      run.attributes.flatMap (fun attr => Plan.portion attr (run.sent attr)) ++
        Plan.assignAll false run.unsent :=
  Plan.actions_distribute prepared.distinct whole

/-- What is due for an attribute is to set the overrides that are sent to it, or that it gives its
value. -/
theorem mem_portion {action : Action} :
    action ∈ Plan.portion attr (run.sent attr) ↔
      (action = .evaluate attr ∧ run.sent attr = []) ∨
        ∃ pair ∈ run.sent attr, action = .assign pair.1 pair.2 attr.ignored := by
  rw [Plan.portion]
  cases given : run.sent attr with
  | nil => simp
  | cons pair rest =>
    rw [List.isEmpty_cons, if_neg Bool.false_ne_true, Plan.assignAll, List.mem_map]
    simp [eq_comm]

/-- The plan sets the overrides, with or without being ignored as their targets are. -/
theorem For.assign_mem_actions (prepared : run.For choice overrides)
    (whole : run.plan.fault = none) :
    .assign key value ignored ∈ run.plan.actions ↔
      (key, value) ∈ run.overrides ∧
        ignored = ((run.target? key).map Attribute.ignored).getD false := by
  rw [prepared.actions_plan whole, List.mem_append, List.mem_flatMap]
  constructor
  · rintro (⟨attr, member, due⟩ | last)
    · obtain ⟨same, _⟩ | ⟨pair, sentThere, same⟩ := mem_portion.1 due
      · cases same
      · cases same
        obtain ⟨given, found⟩ := (prepared.mem_sent member).1 sentThere
        exact ⟨given, by rw [found]; rfl⟩
    · obtain ⟨pair, nowhere, same⟩ := List.mem_map.1 last
      cases same
      obtain ⟨given, absent⟩ := mem_unsent.1 nowhere
      exact ⟨given, by rw [absent]; rfl⟩
  · rintro ⟨given, rfl⟩
    cases found : run.target? key with
    | some attr =>
      have member : attr ∈ run.attributes := List.mem_of_find?_eq_some found
      have there : (key, value) ∈ run.sent attr := (prepared.mem_sent member).2 ⟨given, found⟩
      exact .inl ⟨attr, member, mem_portion.2 (.inr ⟨_, there, rfl⟩)⟩
    | none =>
      have nowhere : (key, value) ∈ run.unsent := mem_unsent.2 ⟨given, found⟩
      exact .inr (List.mem_map_of_mem nowhere)

/-- The plan lets just those attributes give their values to which no override is sent. -/
theorem For.evaluate_mem_actions (prepared : run.For choice overrides)
    (whole : run.plan.fault = none) :
    .evaluate attr ∈ run.plan.actions ↔ attr ∈ run.attributes ∧ run.sent attr = [] := by
  rw [prepared.actions_plan whole, List.mem_append, List.mem_flatMap]
  constructor
  · rintro (⟨other, member, due⟩ | last)
    · obtain ⟨same, unsent⟩ | ⟨pair, _, same⟩ := mem_portion.1 due
      · cases same
        exact ⟨member, unsent⟩
      · cases same
    · obtain ⟨pair, _, same⟩ := List.mem_map.1 last
      cases same
  · rintro ⟨member, unsent⟩
    exact .inl ⟨attr, member, mem_portion.2 (.inl ⟨rfl, unsent⟩)⟩

/-- After an attribute has given its value, no later step of the plan sets its name, unless a block
does. -/
theorem For.split_actions (prepared : run.For choice overrides) (whole : run.plan.fault = none)
    (member : attr ∈ run.attributes) (unsent : run.sent attr = [])
    (reads : ∀ other ∈ run.attributes, other.name ≠ attr.name → run.sent other = [] →
      other.blockSets attr.name = false) :
    ∃ before after, run.plan.actions = before ++ .evaluate attr :: after ∧
      ∀ action ∈ after, Plan.sets attr.name action = false := by
  obtain ⟨front, rest, split⟩ := List.append_of_mem member
  obtain ⟨owner, place, _, found⟩ := prepared.target?_name split
  -- the attributes that come later are other ones, and the name is not sent to them
  have apart : ∀ other ∈ rest, ∀ earlier ∈ front ++ [attr], earlier.name ≠ other.name := by
    intro other later earlier inside
    have distinct := prepared.distinct
    rw [split, List.append_cons, List.map_append, List.nodup_append] at distinct
    exact distinct.2.2 _ (List.mem_map_of_mem inside) _ (List.mem_map_of_mem later)
  have own : Plan.portion attr (run.sent attr) = [.evaluate attr] := by rw [unsent]; rfl
  have parts := prepared.actions_plan whole
  rw [split, List.flatMap_append, List.flatMap_cons, own, List.append_assoc, List.append_assoc,
    List.singleton_append] at parts
  refine ⟨_, _, parts, fun action inside => ?_⟩
  obtain due | last := List.mem_append.1 inside
  · obtain ⟨other, later, due⟩ := List.mem_flatMap.1 due
    have there : other ∈ run.attributes := by simp [split, later]
    have different : attr.name ≠ other.name := apart other later attr (by simp)
    obtain ⟨rfl, alone⟩ | ⟨pair, sentThere, rfl⟩ := mem_portion.1 due
    · simp [Plan.sets, different.symm, reads other there different.symm alone]
    · obtain ⟨_, target⟩ := (prepared.mem_sent there).1 sentThere
      rw [Plan.sets, beq_eq_false_iff_ne]
      intro same
      rw [same, found] at target
      exact apart other later owner place (congrArg Attribute.name (Option.some.inj target))
  · obtain ⟨pair, nowhere, rfl⟩ := List.mem_map.1 last
    have absent := (mem_unsent.1 nowhere).2
    rw [Plan.sets, beq_eq_false_iff_ne]
    intro same
    rw [same, found] at absent
    cases absent

end Prepared

end Blueprint
