import Blueprint.Proofs.Registry.Precedence

/-!
# Extensions of registries

A registry is never rewritten. Names and traits that are bound stay bound to what they are bound
to, and a compiled factory keeps its options, its traits, its parent and what it is compiled to. So
what is found for a compiled factory is found again later: its traits, since all its ancestors are
compiled too, and with them its attributes.
-/
namespace Blueprint

/-- What a later form of a compiled factory has in common with it. -/
structure Factory.Keeps (factory later : Factory) : Prop where
  /-- They have the same options. -/
  options : factory.SameOptions later
  /-- They are compiled to the same. -/
  status : later.status = factory.status
  /-- The same traits are defined in them. -/
  traits : later.traits = factory.traits
  /-- They have inherited from the same factory. -/
  parent : later.parent = factory.parent

/-- A later form of a compiled factory has the same trait of a name. -/
theorem Factory.Keeps.trait? {factory later : Factory} (kept : factory.Keeps later)
    (name : String) : later.trait? name = factory.trait? name := by
  rw [Factory.trait?, Factory.trait?, kept.traits]

namespace Registry

/-- A later registry has what is bound and compiled in an earlier one. -/
structure Extends (registry after : Registry) : Prop where
  /-- There are no fewer factories. -/
  length : registry.factories.length ≤ after.factories.length
  /-- A name stays bound to its factory. -/
  names : ∀ {name id}, registry.names.lookup name = some id → after.names.lookup name = some id
  /-- A trait stays registered under its name. -/
  traits : ∀ {name trait}, registry.traits.lookup name = some trait →
    after.traits.lookup name = some trait
  /-- A sealed registry stays sealed. -/
  isSealed : registry.isSealed = true → after.isSealed = true
  /-- A compiled factory is kept. -/
  compiled : ∀ {id factory list}, registry.factory? id = some factory →
    factory.status = .sealed list →
    ∃ later, after.factory? id = some later ∧ factory.Keeps later

variable {registry after last : Registry} {id : FactoryId} {factory later : Factory}
  {own list : AttributeList}

/-! ### What extends a registry -/

theorem Extends.refl (registry : Registry) : registry.Extends registry :=
  ⟨Nat.le_refl _, fun found => found, fun found => found, fun isSealed => isSealed,
    fun known _ => ⟨_, known, .refl _, rfl, rfl, rfl⟩⟩

theorem Extends.trans (first : registry.Extends after) (second : after.Extends last) :
    registry.Extends last := by
  refine ⟨Nat.le_trans first.length second.length, second.names ∘ first.names,
    second.traits ∘ first.traits, second.isSealed ∘ first.isSealed, ?_⟩
  intro id factory list known compiled
  obtain ⟨later, there, kept⟩ := first.compiled known compiled
  obtain ⟨other, still, keptOn⟩ := second.compiled there (kept.status.trans compiled)
  exact ⟨other, still, kept.options.trans keptOn.options, keptOn.status.trans kept.status,
    keptOn.traits.trans kept.traits, keptOn.parent.trans kept.parent⟩

/-- A compiled factory is kept when it turns. -/
theorem Turn.keeps (turn : Turn registry id factory later) (compiled : factory.status = .sealed own) :
    factory.Keeps later := by
  refine ⟨turn.sameOptions, (turn.status_of_sealed compiled).trans compiled.symm, ?_, ?_⟩
  · cases turn with
    | edited unsealed => rw [compiled] at unsealed; cases unsealed
    | _ => rfl
  · cases turn with
    | inherited compiling => rw [compiled] at compiling; cases compiling
    | _ => rfl

/-- A trait stays registered in a move. -/
theorem Move.lookup_traits (move : Move registry after) {name : String} {trait : Trait}
    (found : registry.traits.lookup name = some trait) : after.traits.lookup name = some trait := by
  cases move with
  | trait other _ free =>
    show (registry.traits.put other.name other).lookup name = some trait
    rw [Table.lookup_put, if_neg, found]
    intro same
    rw [beq_iff_eq] at same
    simp [Table.has, ← same, found] at free
  | turned => exact found
  | bound => exact found
  | model => exact found
  | closed => exact found
  | drawn => exact found

/-- A sealed registry stays sealed in a move. -/
theorem Move.isSealed (move : Move registry after) (isSealed : registry.isSealed = true) :
    after.isSealed = true := by
  cases move with
  | closed => rfl
  | turned => exact isSealed
  | bound => exact isSealed
  | trait => exact isSealed
  | model => exact isSealed
  | drawn => exact isSealed

/-- A move extends the registry. -/
theorem Move.extends (move : Move registry after) : registry.Extends after := by
  refine ⟨Nat.le_of_eq move.length_factories.symm, move.lookup, move.lookup_traits, move.isSealed,
    ?_⟩
  intro id factory list known compiled
  obtain ⟨later, there, rfl | turn⟩ := move.factory? known
  · exact ⟨later, there, .refl _, rfl, rfl, rfl⟩
  · exact ⟨later, there, turn.keeps compiled⟩

/-- Moves extend the registry. -/
theorem Moves.extends (moves : Moves registry after) : registry.Extends after := by
  induction moves with
  | refl => exact .refl registry
  | tail _ move ih => exact ih.trans move.extends

/-- Making a factory extends the registry. -/
theorem extends_add (registry : Registry) (factory : Factory) :
    registry.Extends (registry.add factory).1 := by
  refine ⟨by simp [add], fun found => found, fun found => found, fun isSealed => isSealed, ?_⟩
  intro id factory list known compiled
  exact ⟨factory, factory?_add known, .refl _, rfl, rfl, rfl⟩

/-! ### What is found in an extension -/

/-- Seeking further gives the same trait, if one is found. -/
theorem seekTrait_of_le {name : String} {seen : List String} {trait : Trait} {fuel more : Nat}
    (enough : fuel ≤ more) (found : registry.seekTrait name fuel seen id = .ok trait) :
    registry.seekTrait name more seen id = .ok trait := by
  induction fuel generalizing more seen id with
  | zero => cases found
  | succ fuel ih =>
    obtain ⟨rest, rfl⟩ := Nat.exists_eq_add_of_le' enough
    have left : fuel ≤ rest + fuel := Nat.le_add_left _ _
    rw [show rest + (fuel + 1) = rest + fuel + 1 from rfl]
    rw [seekTrait] at found ⊢
    cases known : registry.factory? id with
    | none => simpa only [known] using found
    | some factory =>
      simp only [known] at found ⊢
      cases here : factory.trait? name with
      | some own => simpa only [here] using found
      | none =>
        simp only [here] at found ⊢
        cases named : factory.parentName? with
        | none => simpa only [named] using found
        | some ref =>
          simp only [named] at found ⊢
          split at found
          · cases found
          · rename_i fresh
            rw [if_neg fresh]
            obtain ⟨parent, registered, above⟩ := bind_eq_ok.1 found
            exact bind_eq_ok.2 ⟨parent, registered, ih left above⟩

/-- Resolving further up gives the same attributes, if they are resolved. -/
theorem resolve_of_le {fuel more : Nat} (enough : fuel ≤ more)
    (resolved : registry.resolve fuel id = .ok list) : registry.resolve more id = .ok list := by
  induction enough with
  | refl => exact resolved
  | step _ ih => exact resolve_succ ih

/-- A trait that is registered is found in an extension. -/
theorem Extends.trait (longer : registry.Extends after) {name : Value} {trait : Trait}
    (found : registry.trait name = .ok trait) : after.trait name = .ok trait := by
  unfold Registry.trait at found ⊢
  cases held : registry.traits.lookup (Name.ofValue name) with
  | none =>
    simp only [held] at found
    cases found
  | some own =>
    simp only [held] at found
    simpa only [longer.traits held] using found

/-- A factory that is registered is found in an extension. -/
theorem Extends.findText (longer : registry.Extends after) {name : String}
    (found : registry.findText name = .ok id) : after.findText name = .ok id :=
  findText_eq_ok.2 (longer.names (findText_eq_ok.1 found))

section

variable (longer : registry.Extends after)
  (linked : ∀ {id factory}, registry.factory? id = some factory → registry.Linked factory)
  (known : registry.factory? id = some factory) (compiled : factory.status = .sealed own)
include longer linked known compiled

/-- What is found for a compiled factory when a trait is sought is found in an extension. -/
theorem Extends.seekTrait {name : String} {fuel : Nat} {seen : List String} {trait : Trait}
    (found : registry.seekTrait name fuel seen id = .ok trait) :
    after.seekTrait name fuel seen id = .ok trait := by
  induction fuel generalizing seen id factory own with
  | zero => cases found
  | succ fuel ih =>
    obtain ⟨later, there, kept⟩ := longer.compiled known compiled
    have sameParent := kept.options.parentName?
    rw [Registry.seekTrait] at found ⊢
    simp only [known] at found
    simp only [there, kept.trait?, sameParent, kept.options.name]
    cases here : factory.trait? name with
    | some own => simpa only [here] using found
    | none =>
      simp only [here] at found
      cases named : factory.parentName? with
      | none =>
        simp only [named] at found
        exact longer.trait found
      | some ref =>
        simp only [named] at found
        simp only
        split at found
        · cases found
        · rename_i fresh
          rw [if_neg fresh]
          obtain ⟨parentId, registered, above⟩ := bind_eq_ok.1 found
          -- the parent is the one from which the factory has inherited, which is compiled
          obtain ⟨other, parent, list, _, bound, there, done⟩ :=
            (linked known).exists_parent compiled named
          rw [registered] at bound
          cases bound
          exact bind_eq_ok.2 ⟨parentId, longer.findText registered, ih there done above⟩

/-- What a name means as a trait for a compiled factory, it means in an extension. -/
theorem Extends.traitOf {name : Value} {trait : Trait}
    (found : registry.traitOf id name = .ok trait) : after.traitOf id name = .ok trait := by
  have enough : 2 * registry.factories.length + 2 ≤ 2 * after.factories.length + 2 :=
    Nat.add_le_add_right (Nat.mul_le_mul_left 2 longer.length) 2
  exact seekTrait_of_le enough (longer.seekTrait linked known compiled found)

/-- The attributes of the traits of a compiled factory are the same in an extension. -/
theorem Extends.traitLists {later : Factory} (kept : factory.Keeps later)
    {layers : List AttributeList} (found : registry.traitLists id factory = .ok layers) :
    after.traitLists id later = .ok layers := by
  obtain ⟨traits, sought, expanded⟩ := bind_eq_ok.1 found
  refine bind_eq_ok.2 ⟨traits, ?_, expanded⟩
  rw [kept.options.traitRefs]
  exact mapM_eq_ok.2 ((mapM_eq_ok.1 sought).imp fun ref trait means =>
    longer.traitOf linked known compiled means)

/-- The attributes to which a compiled factory resolves are the same in an extension. -/
theorem Extends.resolve {fuel : Nat} (resolved : registry.resolve fuel id = .ok list) :
    after.resolve fuel id = .ok list := by
  induction fuel generalizing id factory own list with
  | zero => cases resolved
  | succ fuel ih =>
    obtain ⟨later, there, kept⟩ := longer.compiled known compiled
    obtain ⟨layers, inherited, made, above, rfl⟩ := (resolve_eq_ok known).1 resolved
    have sameOwn : later.compiled = factory.compiled := by
      rw [Factory.compiled, Factory.compiled, kept.status]
    have sameLayers := longer.traitLists linked known compiled kept made
    refine (resolve_eq_ok there).2 ⟨layers, inherited, sameLayers, ?_, by rw [sameOwn]⟩
    rw [kept.parent]
    cases its : factory.parent with
    | none => simpa only [its] using above
    | some parentId =>
      simp only [its] at above ⊢
      obtain ⟨_, parent, list, _, _, there, done⟩ := (linked known).parent its
      exact ih there done above

end

end Registry

/-- Operations extend the registry. -/
theorem History.Operations.extends {history after : History}
    (operations : Operations history after) (bound : history.registry.Bound) :
    history.registry.Extends after.registry := by
  have both : history.registry.Extends after.registry ∧ after.registry.Bound := by
    induction operations with
    | refl => exact ⟨.refl _, bound⟩
    | tail _ operation ih =>
      obtain ⟨longer, still⟩ := ih
      obtain ⟨factory, _, _, added⟩ | ⟨_, moves⟩ := operation.made_or_moves still
      · rw [added]
        exact ⟨longer.trans (Registry.extends_add _ factory), Registry.bound_add still⟩
      · exact ⟨longer.trans (Registry.Moves.extends moves), moves.keeps_bound still⟩
  exact both.1

end Blueprint
