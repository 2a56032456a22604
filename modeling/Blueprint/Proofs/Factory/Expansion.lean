import Blueprint.Factory.Basic
import Blueprint.Proofs.Attribute.Order
import Blueprint.Proofs.Outcome

/-!
# What declarations become

Declarations are gone through in order, and the first one that is refused decides how expanding them
fails. A declaration is refused if it lacks its block, else if it is an association with the factory
that declares it, else if its name was declared before and may not be declared again. If none is
refused, each declared name stands where it comes first, with the attribute of its last declaration.
-/
namespace Blueprint

namespace Declaration

/-- The factory with which a declaration is an association. -/
def target? (declaration : Declaration) : Option String :=
  match declaration.content with
  | .association factory _ _ => some factory
  | .implicit => some declaration.name
  | _ => none

/-- Why a declaration is refused where some names are declared before it. The owner declares it and
has names of its own, and names may be declared again if this is allowed. -/
inductive Refused (owner : String) (own : List String) (allowed : Bool) (earlier : List String)
    (declaration : Declaration) : Fault → Prop where
  /-- Its block is missing. -/
  | blockless (missing : declaration.content = .dynamic none) :
      Refused owner own allowed earlier declaration (.blockNotCallable declaration.name)
  /-- It is an association with its owner. -/
  | reflexive {target : String} (builds : declaration.target? = some target)
      (itself : target ∈ own) :
      Refused owner own allowed earlier declaration (.selfAssociation owner declaration.name)
  /-- Its name was declared before. -/
  | repeated (whole : declaration.content ≠ .dynamic none)
      (others : ∀ target, declaration.target? = some target → target ∉ own)
      (known : declaration.name ∈ earlier) (final : allowed = false) :
      Refused owner own allowed earlier declaration (.definedAlready declaration.name)

variable {owner : String} {own earlier : List String} {allowed : Bool} {declaration : Declaration}
  {attr : Attribute} {fault : Fault}

/-- It does not matter how often names are declared before. -/
theorem refused_congr {others : List String} (same : ∀ name, name ∈ earlier ↔ name ∈ others) :
    declaration.Refused owner own allowed earlier fault ↔
      declaration.Refused owner own allowed others fault := by
  have half : ∀ {earlier others : List String}, (∀ name, name ∈ earlier → name ∈ others) →
      declaration.Refused owner own allowed earlier fault →
      declaration.Refused owner own allowed others fault := by
    intro earlier others each refused
    cases refused with
    | blockless missing => exact .blockless missing
    | reflexive builds itself => exact .reflexive builds itself
    | repeated whole apart known final => exact .repeated whole apart (each _ known) final
  exact ⟨half fun name => (same name).1, half fun name => (same name).2⟩

/-- A declaration becomes no attribute just if its block is missing. -/
theorem attribute?_eq_error :
    declaration.attribute? = .error fault ↔
      declaration.content = .dynamic none ∧ fault = .blockNotCallable declaration.name := by
  unfold attribute?
  rw [bind_eq_error]
  unfold source
  cases declaration.content with
  | dynamic block => cases block <;> simp [eq_comm]
  | _ => simp

/-- The attribute of a declaration has its name and its target, and no block is missing. -/
theorem of_attribute? (made : declaration.attribute? = .ok attr) :
    attr.name = declaration.name ∧ attr.factory? = declaration.target? ∧
      declaration.content ≠ .dynamic none := by
  obtain ⟨source, its, same⟩ := bind_eq_ok.1 made
  cases same
  unfold Declaration.source at its
  unfold Attribute.factory? target?
  cases content : declaration.content with
  | dynamic block =>
    rw [content] at its
    cases block with
    | none => cases its
    | some block =>
      cases its
      simp
  | _ =>
    rw [content] at its
    cases its
    simp

end Declaration

namespace AttributeList

/-- An attribute passes unless it is an association with the owner. -/
def inspect (owner : String) (own : List String) (attr : Attribute) : Except Fault Unit :=
  match attr.factory? with
  | some target => if own.contains target then .error (.selfAssociation owner attr.name) else .ok ()
  | none => .ok ()

/-- One declaration is expanded. -/
def enter (accept : Attribute → Except Fault Unit) (list : AttributeList)
    (declaration : Declaration) : Except Fault AttributeList := do
  let attr ← declaration.attribute?
  accept attr
  list.define attr

/-- Declarations are expanded one by one. -/
theorem expand_eq_foldlM (accept : Attribute → Except Fault Unit) (list : AttributeList)
    (declarations : List Declaration) :
    list.expand accept declarations = declarations.foldlM (enter accept) list := rfl

variable {owner : String} {own : List String} {allowed : Bool} {list next : AttributeList}
  {declaration : Declaration} {declarations before after : List Declaration} {attr : Attribute}
  {fault : Fault}

/-- An attribute does not pass just if it is an association with the owner. -/
theorem inspect_eq_error : inspect owner own attr = .error fault ↔
    (∃ target, attr.factory? = some target ∧ target ∈ own) ∧
      fault = .selfAssociation owner attr.name := by
  unfold inspect
  cases attr.factory? with
  | none => simp
  | some target => by_cases itself : target ∈ own <;> simp [itself, eq_comm]

/-- A declaration that cannot be expanded is refused. -/
theorem refused_of_enter (failed : enter (inspect owner own) list declaration = .error fault) :
    declaration.Refused owner own list.overridable list.names fault := by
  unfold enter at failed
  rw [bind_eq_error, Declaration.attribute?_eq_error] at failed
  obtain ⟨missing, rfl⟩ | ⟨attr, made, failed⟩ := failed
  · exact .blockless missing
  · obtain ⟨name, target, whole⟩ := Declaration.of_attribute? made
    obtain unfit | ⟨_, fit, taken⟩ := bind_eq_error.1 failed
    · obtain ⟨⟨own_, builds, itself⟩, rfl⟩ := inspect_eq_error.1 unfit
      rw [name]
      exact .reflexive (target ▸ builds) itself
    · obtain ⟨⟨known, final⟩, rfl⟩ := define_eq_error.1 taken
      rw [name] at known ⊢
      refine .repeated whole (fun other builds itself => ?_) known final
      have unfit : inspect owner own attr = .error (.selfAssociation owner attr.name) :=
        inspect_eq_error.2 ⟨⟨other, target.trans builds, itself⟩, rfl⟩
      rw [fit] at unfit
      cases unfit

/-- A declaration that is refused cannot be expanded. -/
theorem enter_of_refused
    (refused : declaration.Refused owner own list.overridable list.names fault) :
    enter (inspect owner own) list declaration = .error fault := by
  unfold enter
  rw [bind_eq_error, Declaration.attribute?_eq_error]
  cases made : declaration.attribute? with
  | error other =>
    obtain ⟨missing, rfl⟩ := Declaration.attribute?_eq_error.1 made
    cases refused with
    | blockless => exact .inl ⟨missing, rfl⟩
    | reflexive builds =>
      rw [Declaration.target?, missing] at builds
      cases builds
    | repeated whole => exact absurd missing whole
  | ok attr =>
    obtain ⟨name, target, whole⟩ := Declaration.of_attribute? made
    refine .inr ⟨attr, rfl, bind_eq_error.2 ?_⟩
    cases refused with
    | blockless missing => exact absurd missing whole
    | reflexive builds itself =>
      exact .inl (inspect_eq_error.2 ⟨⟨_, target.trans builds, itself⟩, by rw [name]⟩)
    | repeated _ others known final =>
      cases fit : inspect owner own attr with
      | error fault =>
        obtain ⟨⟨other, builds, itself⟩, _⟩ := inspect_eq_error.1 fit
        exact absurd itself (others other (target.symm.trans builds))
      | ok done =>
        exact .inr ⟨done, rfl, define_eq_error.2 ⟨⟨name ▸ known, final⟩, by rw [name]⟩⟩

/-- A declaration cannot be expanded just if it is refused. -/
theorem enter_eq_error : enter (inspect owner own) list declaration = .error fault ↔
    declaration.Refused owner own list.overridable list.names fault :=
  ⟨refused_of_enter, enter_of_refused⟩

/-- An expanded declaration has its attribute placed. -/
theorem exists_of_enter {accept : Attribute → Except Fault Unit}
    (entered : enter accept list declaration = .ok next) :
    ∃ attr, declaration.attribute? = .ok attr ∧
      next = { list with attributes := place attr list.attributes } := by
  obtain ⟨attr, made, admitted⟩ := bind_eq_ok.1 entered
  obtain ⟨_, _, defined⟩ := bind_eq_ok.1 admitted
  unfold define at defined
  split at defined
  · cases defined
  · cases defined
    exact ⟨attr, made, rfl⟩

/-- Expanded declarations have their attributes placed in turn. -/
theorem exists_of_expand {accept : Attribute → Except Fault Unit}
    (expanded : list.expand accept declarations = .ok next) :
    ∃ attributes, List.Forall₂ (fun declaration attr => declaration.attribute? = .ok attr)
        declarations attributes ∧
      next = { list with
        attributes := attributes.foldl (fun placed attr => place attr placed) list.attributes } := by
  induction declarations generalizing list with
  | nil =>
    cases expanded
    exact ⟨[], .nil, rfl⟩
  | cons declaration rest ih =>
    rw [expand_eq_foldlM, List.foldlM_cons] at expanded
    obtain ⟨middle, entered, others⟩ := bind_eq_ok.1 expanded
    obtain ⟨attr, made, rfl⟩ := exists_of_enter entered
    obtain ⟨attributes, each, rfl⟩ := ih others
    exact ⟨attr :: attributes, .cons made each, rfl⟩

/-! ### What is found afterwards -/

/-- A list is what declarations become: each declared name stands where it comes first, with the
attribute of its last declaration. -/
structure Expands (declarations : List Declaration) (list : AttributeList) : Prop where
  /-- The names are the declared ones, in the order in which they come first. -/
  names : list.names = (declarations.map Declaration.name).eraseDups
  /-- Under a name stands what its last declaration becomes. -/
  last : ∀ before declaration after, declarations = before ++ declaration :: after →
    declaration.name ∉ after.map Declaration.name →
    ∃ attr, declaration.attribute? = .ok attr ∧ list.find? declaration.name = some attr

/-- What is found under a name stays when attributes of other names are placed. -/
theorem find?_foldl_place_of_not_mem {others attributes : List Attribute} {name : String}
    (absent : name ∉ others.map Attribute.name) :
    (others.foldl (fun placed attr => place attr placed) attributes).find?
        (fun attr => attr.name == name) =
      attributes.find? fun attr => attr.name == name := by
  induction others generalizing attributes with
  | nil => rfl
  | cons first rest ih =>
    obtain ⟨apart, later⟩ := not_or.1 (mt List.mem_cons.2 absent)
    have other : (first.name == name) = false := beq_eq_false_iff_ne.2 (Ne.symm apart)
    rw [List.foldl_cons, ih later, find?_place, other, if_neg Bool.false_ne_true]

/-- The attributes of declarations have their names. -/
theorem map_name_of_forall₂ {attributes : List Attribute}
    (each : List.Forall₂ (fun declaration attr => declaration.attribute? = .ok attr)
      declarations attributes) :
    attributes.map Attribute.name = declarations.map Declaration.name := by
  induction each with
  | nil => rfl
  | cons made _ ih => rw [List.map_cons, List.map_cons, ih, (Declaration.of_attribute? made).1]

/-- What declarations become of an empty list. -/
theorem expands_of_expand {accept : Attribute → Except Fault Unit}
    (expanded : expand accept { overridable := allowed } declarations = .ok list) :
    list.Expands declarations ∧ list.overridable = allowed := by
  refine ⟨⟨?_, fun before declaration after whole last => ?_⟩, ?_⟩
  · obtain ⟨attributes, each, rfl⟩ := exists_of_expand expanded
    have none_ : (([] : List Attribute).map Attribute.name).Nodup := List.nodup_nil
    have placed := map_name_foldl_place attributes none_
    rw [List.map_nil, List.nil_append, map_name_of_forall₂ each] at placed
    exact placed
  · rw [expand_eq_foldlM, whole, List.foldlM_append] at expanded
    obtain ⟨middle, _, later⟩ := bind_eq_ok.1 expanded
    rw [List.foldlM_cons] at later
    obtain ⟨next, entered, others⟩ := bind_eq_ok.1 later
    obtain ⟨attr, made, rfl⟩ := exists_of_enter entered
    obtain ⟨attributes, each, rfl⟩ := exists_of_expand others
    have name := (Declaration.of_attribute? made).1
    have absent : declaration.name ∉ attributes.map Attribute.name := by
      rw [map_name_of_forall₂ each]
      exact last
    refine ⟨attr, made, ?_⟩
    rw [find?, find?_foldl_place_of_not_mem absent, find?_place, name, beq_self_eq_true, if_pos rfl]
  · obtain ⟨attributes, _, rfl⟩ := exists_of_expand expanded
    rfl

/-! ### The first refusal -/

/-- None of some declarations is refused, given those before it. -/
def Unrefused (owner : String) (own : List String) (allowed : Bool)
    (declarations : List Declaration) : Prop :=
  ∀ before declaration after, declarations = before ++ declaration :: after →
    ∀ fault, ¬ declaration.Refused owner own allowed (before.map Declaration.name) fault

/-- The first of some declarations that is refused is refused with a fault. -/
def FirstRefused (owner : String) (own : List String) (allowed : Bool)
    (declarations : List Declaration) (fault : Fault) : Prop :=
  ∃ before declaration after, declarations = before ++ declaration :: after ∧
    Unrefused owner own allowed before ∧
    declaration.Refused owner own allowed (before.map Declaration.name) fault

/-- After declarations have been expanded, the next one is refused by their names. -/
theorem enter_eq_error_of_expand
    (expanded : expand (inspect owner own) { overridable := allowed } declarations = .ok list) :
    enter (inspect owner own) list declaration = .error fault ↔
      declaration.Refused owner own allowed (declarations.map Declaration.name) fault := by
  obtain ⟨expands, overridable⟩ := expands_of_expand expanded
  rw [enter_eq_error, overridable, expands.names]
  exact Declaration.refused_congr fun name => List.mem_eraseDups

/-- Declarations are expanded just if none is refused. -/
theorem exists_expand_iff :
    (∃ list, expand (inspect owner own) { overridable := allowed } declarations = .ok list) ↔
      Unrefused owner own allowed declarations := by
  constructor
  · rintro ⟨list, expanded⟩ before declaration after rfl fault refused
    rw [expand_eq_foldlM, List.foldlM_append] at expanded
    obtain ⟨middle, first, later⟩ := bind_eq_ok.1 expanded
    rw [List.foldlM_cons] at later
    obtain ⟨next, entered, _⟩ := bind_eq_ok.1 later
    rw [(enter_eq_error_of_expand first).2 refused] at entered
    cases entered
  · intro unrefused
    cases expanded : expand (inspect owner own) { overridable := allowed } declarations with
    | ok list => exact ⟨list, rfl⟩
    | error fault =>
      obtain ⟨before, declaration, after, middle, whole, first, failed⟩ :=
        foldlM_eq_error.1 expanded
      exact absurd ((enter_eq_error_of_expand first).1 failed)
        (unrefused before declaration after whole fault)

/-- Expanding declarations fails as the first of them does that is refused. -/
theorem expand_eq_error_iff :
    expand (inspect owner own) { overridable := allowed } declarations = .error fault ↔
      FirstRefused owner own allowed declarations fault := by
  rw [expand_eq_foldlM, foldlM_eq_error]
  constructor
  · rintro ⟨before, declaration, after, middle, whole, first, failed⟩
    exact ⟨before, declaration, after, whole, exists_expand_iff.1 ⟨middle, first⟩,
      (enter_eq_error_of_expand first).1 failed⟩
  · rintro ⟨before, declaration, after, whole, unrefused, refused⟩
    obtain ⟨middle, first⟩ := exists_expand_iff.2 unrefused
    exact ⟨before, declaration, after, middle, whole, first,
      (enter_eq_error_of_expand first).2 refused⟩

end AttributeList

/-! ### Factories and traits -/

open AttributeList

variable {list : AttributeList} {fault : Fault}

/-- A factory's declarations are refused in the order in which they stand. -/
theorem Factory.expand_eq_error {factory : Factory} : factory.expand = .error fault ↔
    FirstRefused factory.name factory.names factory.overridesAllowed
      factory.definition.declarations fault := by
  rw [← expand_eq_error_iff, Factory.expand, bind_eq_error]
  exact or_iff_left fun ⟨_, _, never⟩ => by cases never

/-- What the declarations of a factory become. -/
theorem Factory.expands_of_expand {factory : Factory} (made : factory.expand = .ok list) :
    list.Expands factory.definition.declarations ∧
      list.callbacks = factory.definition.callbacks ∧
      list.overridable = factory.overridesAllowed := by
  obtain ⟨inner, expanded, same⟩ := bind_eq_ok.1 made
  cases same
  obtain ⟨expands, overridable⟩ := AttributeList.expands_of_expand expanded
  exact ⟨⟨expands.names, expands.last⟩, rfl, overridable⟩

/-- The declarations of a trait are refused in the order in which they stand, and never for an
association. -/
theorem Trait.attributes_eq_error {trait : Trait} : trait.attributes = .error fault ↔
    FirstRefused trait.name [] false trait.declarations fault := by
  have admitted : (fun _ => .ok ()) = inspect trait.name [] := by
    funext attr
    unfold inspect
    cases attr.factory? <;> rfl
  rw [← expand_eq_error_iff, ← admitted, Trait.attributes, bind_eq_error]
  exact or_iff_left fun ⟨_, _, never⟩ => by cases never

/-- What the declarations of a trait become. -/
theorem Trait.expands_of_attributes {trait : Trait} (made : trait.attributes = .ok list) :
    list.Expands trait.declarations ∧ list.callbacks = trait.callbacks ∧
      list.overridable = false := by
  obtain ⟨inner, expanded, same⟩ := bind_eq_ok.1 made
  cases same
  obtain ⟨expands, overridable⟩ := AttributeList.expands_of_expand expanded
  exact ⟨⟨expands.names, expands.last⟩, rfl, overridable⟩

end Blueprint
