import Blueprint.Factory.Basic
import Blueprint.Proofs.Outcome

/-!
# Laws of expanding declarations

Declarations are refused for three reasons only: a block is missing, a name is taken, or an
association is with the factory itself. What they become otherwise holds admitted attributes only.
-/
namespace Blueprint

/-- A declaration cannot become an attribute. -/
def Fault.isRefusal : Fault → Bool
  | blockNotCallable _ => true
  | definedAlready _ => true
  | selfAssociation _ _ => true
  | _ => false

namespace AttributeList

variable {accept : Attribute → Except Fault Unit} {declarations : List Declaration}
  {list expanded : AttributeList} {fault : Fault}

/-- Placing an attribute adds no other one. -/
theorem eq_or_mem_of_mem_place {attr placed : Attribute} {attributes : List Attribute}
    (member : attr ∈ place placed attributes) : attr = placed ∨ attr ∈ attributes := by
  induction attributes with
  | nil => exact .inl (List.mem_singleton.1 member)
  | cons first rest ih =>
    rw [place] at member
    split at member
    · exact (List.mem_cons.1 member).imp_right (List.mem_cons_of_mem _)
    · obtain rfl | inside := List.mem_cons.1 member
      · exact .inr List.mem_cons_self
      · exact (ih inside).imp_right (List.mem_cons_of_mem _)

/-- Declarations are refused because a block is missing or a name is taken, if no attribute fails to
be admitted for another reason. -/
theorem isRefusal_of_expand
    (admission : ∀ {attr fault}, accept attr = .error fault → fault.isRefusal)
    (failed : list.expand accept declarations = .error fault) : fault.isRefusal := by
  induction declarations generalizing list with
  | nil => cases failed
  | cons declaration rest ih =>
    rw [expand, List.foldlM_cons] at failed
    obtain refused | ⟨next, _, later⟩ := bind_eq_error.1 failed
    · obtain unmade | ⟨attr, _, refused⟩ := bind_eq_error.1 refused
      · obtain sourceless | ⟨source, _, never⟩ := bind_eq_error.1 unmade
        · unfold Declaration.source at sourceless
          split at sourceless <;> cases sourceless
          rfl
        · cases never
      · obtain unfit | ⟨_, _, taken⟩ := bind_eq_error.1 refused
        · exact admission unfit
        · unfold define at taken
          split at taken <;> cases taken
          rfl
    · exact ih later

/-- The attributes that declarations become are admitted. -/
theorem accepted_of_expand (made : list.expand accept declarations = .ok expanded)
    {attr : Attribute} (member : attr ∈ expanded.attributes) :
    attr ∈ list.attributes ∨ accept attr = .ok () := by
  induction declarations generalizing list with
  | nil =>
    cases made
    exact .inl member
  | cons declaration rest ih =>
    rw [expand, List.foldlM_cons] at made
    obtain ⟨next, step, others⟩ := bind_eq_ok.1 made
    obtain ⟨new, _, admitted⟩ := bind_eq_ok.1 step
    obtain ⟨_, accepted, defined⟩ := bind_eq_ok.1 admitted
    obtain inside | accepted := ih others
    · unfold define at defined
      split at defined <;> cases defined
      obtain rfl | old := eq_or_mem_of_mem_place inside
      · exact .inr accepted
      · exact .inl old
    · exact .inr accepted

end AttributeList

/-- The declarations of a trait are refused for one of the reasons. -/
theorem Trait.isRefusal_of_attributes {trait : Trait} {fault : Fault}
    (refused : trait.attributes = .error fault) : fault.isRefusal := by
  obtain refused | ⟨_, _, never⟩ := bind_eq_error.1 refused
  · refine AttributeList.isRefusal_of_expand ?_ refused
    intro attr fault unfit
    cases unfit
  · cases never

namespace Factory

variable {factory : Factory} {list : AttributeList} {fault : Fault}

/-- The declarations of a factory are refused for one of the three reasons. -/
theorem isRefusal_of_expand (refused : factory.expand = .error fault) : fault.isRefusal := by
  obtain refused | ⟨_, _, never⟩ := bind_eq_error.1 refused
  · refine AttributeList.isRefusal_of_expand ?_ refused
    intro attr fault unfit
    unfold accept at unfit
    split at unfit
    · split at unfit <;> cases unfit
      rfl
    · cases unfit
  · cases never

/-- An attribute is an association with the factory itself. -/
def BuildsItself (factory : Factory) (attr : Attribute) : Prop :=
  ∃ target, attr.factory? = some target ∧ target ∈ factory.names

/-- An attribute is admitted unless it is an association with the factory itself. -/
theorem accept_eq_ok {attr : Attribute} :
    factory.accept attr = .ok () ↔ ¬ factory.BuildsItself attr := by
  unfold accept BuildsItself
  cases attr.factory? with
  | none => simp
  | some target => by_cases own : target ∈ factory.names <;> simp [own]

/-- No attribute that the declarations of a factory become is an association with itself. -/
theorem not_buildsItself_of_expand (made : factory.expand = .ok list) {attr : Attribute}
    (member : attr ∈ list.attributes) : ¬ factory.BuildsItself attr := by
  obtain ⟨inner, expanded, same⟩ := bind_eq_ok.1 made
  cases same
  obtain never | accepted := AttributeList.accepted_of_expand expanded member
  · cases never
  · exact accept_eq_ok.1 accepted

end Factory

end Blueprint
