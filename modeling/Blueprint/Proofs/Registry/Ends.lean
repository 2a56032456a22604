import Blueprint.Proofs.Registry.Ascent
import Blueprint.Proofs.Registry.Rooted

/-!
# Looking up comes to an end

A factory is compiled, its traits are sought and its attributes resolved along its parents, with a
bound on how far. The bound on compiling is never met. The others are never met from a compiled
factory on: the way up from it is shorter than there are factories.
-/
namespace Blueprint

open Relation

/-! ### Outcomes -/

/-- An outcome is not that something was given up because it was nested too deeply. -/
def Ends {α : Type} (outcome : Except Fault α) : Prop := outcome ≠ .error .tooDeep

namespace Ends

variable {α β : Type}

/-- What succeeds has come to an end. -/
theorem ok (value : α) : Ends (.ok value : Except Fault α) := by simp [Ends]

/-- What fails for another reason has come to an end. -/
theorem error {fault : Fault} (other : fault ≠ .tooDeep) : Ends (.error fault : Except Fault α) :=
  fun same => other (Except.error.inj same)

/-- The fault of what has come to an end is another one. -/
theorem ne {outcome : Except Fault α} {fault : Fault} (ends : Ends outcome)
    (failed : outcome = .error fault) : fault ≠ .tooDeep := by
  rintro rfl
  exact ends failed

/-- Two operations in turn come to an end if each of them does. -/
theorem bind {first : Except Fault α} {second : α → Except Fault β} (before : Ends first)
    (after : ∀ value, first = .ok value → Ends (second value)) : Ends (first >>= second) := by
  intro deep
  obtain same | ⟨value, done, same⟩ := bind_eq_error.1 deep
  · exact before same
  · exact after value done same

/-- Doing an operation for all items comes to an end if it does for each of them. -/
theorem mapM {step : α → Except Fault β} {items : List α}
    (each : ∀ item ∈ items, Ends (step item)) : Ends (items.mapM step) := by
  intro deep
  obtain ⟨item, member, same⟩ := exists_of_mapM_eq_error deep
  exact each item member same

end Ends

/-- A refusal is another fault. -/
theorem Fault.ne_tooDeep_of_isRefusal {fault : Fault} (refusal : fault.isRefusal) :
    fault ≠ .tooDeep := by
  rintro rfl
  cases refusal

namespace Registry

variable {registry : Registry} {history : History} {id above : FactoryId} {factory : Factory}
  {k fuel : Nat}

/-! ### Names -/

/-- A name is found or not. -/
theorem ends_findText (registry : Registry) (ref : String) : Ends (registry.findText ref) := by
  cases found : registry.findText ref with
  | ok id => exact .ok id
  | error fault =>
    obtain ⟨_, rfl⟩ := findText_eq_error.1 found
    exact .error (by simp)

/-- A trait is registered or not. -/
theorem ends_trait (registry : Registry) (name : Value) : Ends (registry.trait name) := by
  unfold trait
  simp only
  split
  · exact .ok _
  · exact .error (by simp)

/-- The chain of parents is told, or a parent is not registered. -/
theorem ends_parentChain (registry : Registry) (factory : Factory) :
    Ends (registry.parentChain factory) := by
  have each : ∀ fuel chain ref, Ends (registry.chainFrom fuel chain ref) := by
    intro fuel
    induction fuel with
    | zero => exact fun chain _ => .ok chain
    | succ fuel ih =>
      intro chain ref
      cases ref with
      | none => exact .ok chain
      | some ref =>
        rw [chainFrom]
        split
        · exact .ok chain
        · split
          · exact .ok _
          · exact (ends_findText registry ref).bind fun _ _ => ih _ _
  exact each _ _ _

/-- What is wrong with a cycle of parents on which a factory is met again is told. -/
theorem cycleFault_ne_tooDeep (registry : Registry) (factory : Factory) :
    registry.cycleFault factory ≠ .tooDeep := by
  unfold cycleFault
  split
  · simp
  · rename_i fault failed
    exact (ends_parentChain registry factory).ne failed

/-- What is wrong with a cycle of parents on which a trait is sought is told. -/
theorem traitCycleFault_ne_tooDeep (registry : Registry) (factory : Factory) (name : String) :
    registry.traitCycleFault factory name ≠ .tooDeep := by
  unfold traitCycleFault
  split
  · simp
  · rename_i fault failed
    exact (ends_parentChain registry factory).ne failed

/-! ### Compiling -/

/-- Going up to where compiling can begin comes to an end. -/
theorem Ascent.ne_tooDeep {outcome : Option Fault} (ascent : Ascent registry id outcome) :
    outcome ≠ some .tooDeep := by
  induction ascent with
  | absent | compiled | orphan => simp
  | met => exact fun same => cycleFault_ne_tooDeep _ _ (Option.some.inj same)
  | dangling _ _ _ missing =>
    exact fun same => (ends_findText _ _).ne missing (Option.some.inj same)
  | above _ _ _ _ _ ih => exact ih

/-- Compiling a factory comes to an end. -/
theorem ends_compile (registry : Registry) (id : FactoryId) : Ends (registry.compile id).1 := by
  obtain ⟨outcome, ascent⟩ := Ascent.total registry id
  cases outcome with
  | some fault =>
    rw [ascent.compile_eq rfl]
    exact .error fun same => ascent.ne_tooDeep (congrArg some same)
  | none =>
    intro deep
    exact Fault.ne_tooDeep_of_isRefusal (ascent.isRefusal rfl deep) rfl

/-! ### Along the way up -/

/-- The way up from a factory ends after a number of steps. -/
inductive Tops (registry : Registry) : FactoryId → Nat → Prop where
  /-- There is no step to take. -/
  | top {id : FactoryId} (final : ∀ above, ¬ registry.Rises id above) : Tops registry id 0
  /-- The way goes on. -/
  | step {id above : FactoryId} {k : Nat} (rises : registry.Rises id above)
      (onward : Tops registry above k) : Tops registry id (k + 1)

/-- From a compiled factory the way up ends after no more steps than there are factories. -/
theorem Finished.exists_tops (reached : history.Reached)
    (finished : history.registry.Finished id) :
    ∃ k ≤ history.registry.factories.length, history.registry.Tops id k := by
  obtain ⟨top, ends⟩ := finished.endsAt reached fun _ => True
  obtain ⟨visit, k, rfl, rfl, steps, apart, short⟩ :=
    Walk.exists_short_path (Leads.rightUnique _ _) (fun _ _ => Leads.inside) ends
  refine ⟨k, short, ?_⟩
  clear finished apart short
  induction k generalizing visit with
  | zero => exact .top ends.2
  | succ k ih =>
    let later (i : Nat) : FactoryId := visit (i + 1)
    have onward : ∀ i < k, history.registry.Rises (later i) (later (i + 1)) :=
      fun i less => steps (i + 1) (Nat.succ_lt_succ less)
    have rest : ReflTransGen history.registry.Rises (later 0) (later k) :=
      Walk.walk_visit onward (Nat.zero_le k)
    exact .step (steps 0 (Nat.succ_pos k)) (ih later ⟨rest, ends.2⟩ onward)

/-- A factory leads to one on whose way up there is one step less. -/
theorem Tops.of_rises (tops : registry.Tops id k) (rises : registry.Rises id above) :
    ∃ l, k = l + 1 ∧ registry.Tops above l := by
  cases tops with
  | top final => exact absurd rises (final above)
  | step first onward =>
    obtain rfl := Leads.rightUnique _ _ rises first
    exact ⟨_, rfl, onward⟩

/-- The search for a trait comes to an end where the way up does. -/
theorem ends_seekTrait (tops : registry.Tops id k) (enough : k < fuel) (name : String)
    (seen : List String) : Ends (registry.seekTrait name fuel seen id) := by
  induction fuel generalizing id k seen with
  | zero => cases enough
  | succ fuel ih =>
    rw [seekTrait]
    split
    · exact ends_trait registry _
    · rename_i factory found
      split
      · exact .ok _
      · split
        · exact ends_trait registry _
        · rename_i ref named
          simp only
          split
          · exact .error (traitCycleFault_ne_tooDeep registry factory name)
          · refine (ends_findText registry ref).bind fun parent registered => ?_
            obtain ⟨l, rfl, onward⟩ :=
              tops.of_rises ⟨factory, ref, found, trivial, named, registered⟩
            exact ih onward (Nat.lt_of_succ_lt_succ enough) _

/-- The search for a trait of a compiled factory comes to an end. -/
theorem Finished.ends_traitOf (reached : history.Reached)
    (finished : history.registry.Finished id) (name : Value) :
    Ends (history.registry.traitOf id name) := by
  obtain ⟨k, short, tops⟩ := finished.exists_tops reached
  exact ends_seekTrait tops (by omega) _ _

/-- Resolving a compiled factory comes to an end where the way up does. -/
theorem Finished.ends_resolve (reached : history.Reached)
    (finished : history.registry.Finished id) (tops : history.registry.Tops id k)
    (enough : k < fuel) : Ends (history.registry.resolve fuel id) := by
  induction fuel generalizing id k with
  | zero => cases enough
  | succ fuel ih =>
    have ⟨factory, list, found, compiled⟩ := finished
    rw [resolve]
    simp only [found]
    have traits : Ends (history.registry.traitLists id factory) := by
      refine (Ends.mapM fun ref _ => finished.ends_traitOf reached _).bind fun traits _ =>
        Ends.mapM fun trait _ refused => ?_
      exact Fault.ne_tooDeep_of_isRefusal (Trait.isRefusal_of_attributes refused) rfl
    refine traits.bind fun layers _ => ?_
    cases its : factory.parent with
    | none => exact .ok _
    | some parent =>
      have rises := rises_of_parent reached found its
      obtain ⟨l, rfl, onward⟩ := tops.of_rises rises
      have done := (parent_of_leads reached found compiled rises).2
      exact (ih done onward (Nat.lt_of_succ_lt_succ enough)).bind fun _ _ => .ok _

/-- Giving the attributes of a factory comes to an end. -/
theorem ends_attributes (reached : history.Reached) (id : FactoryId) :
    Ends (Registry.attributes id history.registry).1 := by
  have reachedAfter := reached.tail (.compiled id)
  have compiling := ends_compile history.registry id
  obtain ⟨_, done⟩ := compiles_compile history.registry id reached.bound
  unfold Registry.attributes
  cases outcome : history.registry.compile id with
  | mk result after =>
    rw [outcome] at reachedAfter compiling done
    cases result with
    | error fault => exact .error (compiling.ne rfl)
    | ok _ =>
      simp only
      cases found : after.factory? id with
      | none =>
        rw [resolve]
        simp only [found]
        exact .ok _
      | some factory =>
        obtain ⟨list, compiled⟩ := done rfl factory found
        have finished : after.Finished id := ⟨factory, list, found, compiled⟩
        obtain ⟨k, short, tops⟩ := Finished.exists_tops reachedAfter finished
        exact Finished.ends_resolve reachedAfter finished tops (Nat.lt_succ_of_le short)

/-- Looking up the model class of a factory comes to an end. -/
theorem ends_model (registry : Registry) (id : FactoryId) :
    Ends (Registry.model id registry).1 := by
  unfold Registry.model
  split
  · exact .error (by simp)
  · rename_i factory found
    split
    · exact .ok _
    · have ends : Ends (registry.modelFor factory.classIdentifier) := by
        unfold modelFor
        split
        · exact .ok _
        · exact .ok _
        · simp only
          split
          · exact .ok _
          · exact .error (by simp)
      split
      · exact .ok _
      · rename_i fault failed
        exact .error (ends.ne failed)

end Registry

end Blueprint
