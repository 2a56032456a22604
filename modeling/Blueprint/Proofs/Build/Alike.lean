import Blueprint.Proofs.Build.Keep
import Mathlib.Data.List.Forall2
import Mathlib.Data.Option.Basic

/-!
# Operations abreast

Two operations go abreast if, started from states that are related, they come to outcomes that agree
and end in states that are related again. Values agree if they are the same but for the numbers of
instances and for drawn ids, which are related in a given way. A value in which such an id stands
still looks the same as long as the id is not at its top.
-/
namespace Blueprint

/-! ### Outcomes -/

section

variable {ε σ τ α β γ δ : Type} {related : α → β → Prop} {states : σ → τ → Prop}

/-- Two outcomes tally: they are related values, or the same fault. -/
inductive Tally (related : α → β → Prop) : Except ε α → Except ε β → Prop where
  /-- They are related values. -/
  | ok {value : α} {other : β} (alike : related value other) : Tally related (.ok value) (.ok other)
  /-- They are the same fault. -/
  | error (fault : ε) : Tally related (.error fault) (.error fault)

namespace Tally

/-- Outcomes that agree in one way agree in every weaker way. -/
theorem imp {looser : α → β → Prop} (weaker : ∀ {value other}, related value other →
    looser value other) {outcome : Except ε α} {result : Except ε β}
    (agree : Tally related outcome result) : Tally looser outcome result := by
  cases agree with
  | ok alike => exact .ok (weaker alike)
  | error fault => exact .error fault

/-- The same outcome agrees with itself if its values do. -/
theorem refl {related : α → α → Prop} (alike : ∀ value, related value value)
    (outcome : Except ε α) : Tally related outcome outcome := by
  cases outcome with
  | ok value => exact .ok (alike value)
  | error fault => exact .error fault

end Tally

/-- It is missing in both places, or there in both and related. -/
theorem cases_of_rel {one : Option α} {other : Option β} (rel : Option.Rel related one other) :
    (one = none ∧ other = none) ∨
      ∃ value twin, one = some value ∧ other = some twin ∧ related value twin := by
  cases rel with
  | none => exact .inl ⟨rfl, rfl⟩
  | some same => exact .inr ⟨_, _, rfl, rfl, same⟩

/-- What is there in both places is related, and so is what stands in for it if it is missing. -/
theorem rel_getD {one : Option α} {other : Option β} (rel : Option.Rel related one other)
    {value : α} {twin : β} (alike : related value twin) :
    related (one.getD value) (other.getD twin) := by
  cases rel with
  | none => exact alike
  | some same => exact same

/-- It is there in both places or in none. -/
theorem isSome_of_rel {one : Option α} {other : Option β} (rel : Option.Rel related one other) :
    one.isSome = other.isSome := by
  cases rel <;> rfl

/-- Two operations go abreast: from related states they come to outcomes that agree, in related
states. -/
def Abreast (states : σ → τ → Prop) (related : α → β → Prop) (one : ExceptT ε (StateM σ) α)
    (other : ExceptT ε (StateM τ) β) : Prop :=
  ∀ ⦃first second⦄, states first second →
    Tally related (one.run first).1 (other.run second).1 ∧
      states (one.run first).2 (other.run second).2

namespace Abreast

/-- Values that are related go abreast. -/
theorem pure {value : α} {other : β} (alike : related value other) :
    Abreast states related (Pure.pure value : ExceptT ε (StateM σ) α)
      (Pure.pure other : ExceptT ε (StateM τ) β) :=
  fun _ _ same => ⟨.ok alike, same⟩

/-- Operations in turn go abreast if the first ones do, and the second ones do for related
values. -/
theorem bind {results : γ → δ → Prop} {one : ExceptT ε (StateM σ) α}
    {other : ExceptT ε (StateM τ) β} {next : α → ExceptT ε (StateM σ) γ}
    {onward : β → ExceptT ε (StateM τ) δ} (before : Abreast states related one other)
    (after : ∀ {value twin}, related value twin →
      Abreast states results (next value) (onward twin)) :
    Abreast states results (one >>= next) (other >>= onward) := by
  intro first second same
  rw [run_bind, run_bind]
  obtain ⟨agree, still⟩ := before same
  cases here : one.run first with
  | mk outcome middle =>
    cases there : other.run second with
    | mk result between =>
      rw [here, there] at agree still
      cases agree with
      | ok alike => exact after alike still
      | error fault => exact ⟨.error fault, still⟩

/-- Operations that go abreast in one way do so in every weaker way. -/
theorem imp {looser : α → β → Prop} {one : ExceptT ε (StateM σ) α}
    {other : ExceptT ε (StateM τ) β}
    (weaker : ∀ {value twin}, related value twin → looser value twin)
    (abreast : Abreast states related one other) : Abreast states looser one other :=
  fun _ _ same => ⟨(abreast same).1.imp weaker, (abreast same).2⟩

end Abreast

end

/-! ### Tables -/

namespace Table

variable {κ α β : Type} {related : α → β → Prop} {entries : Table κ α} {others : Table κ β}

/-- Two tables have the same keys, with related values. -/
def Alike (related : α → β → Prop) : Table κ α → Table κ β → Prop :=
  List.Forall₂ fun entry other => entry.1 = other.1 ∧ related entry.2 other.2

/-- The keys are the same, in the same order. -/
theorem Alike.keys (alike : Alike related entries others) : entries.keys = others.keys := by
  induction alike with
  | nil => rfl
  | cons first _ ih => exact congr (congrArg List.cons first.1) ih

/-- The values are related one by one. -/
theorem Alike.values (alike : Alike related entries others) :
    List.Forall₂ related entries.values others.values := by
  induction alike with
  | nil => exact .nil
  | cons first _ ih => exact .cons first.2 ih

/-- Tables with the same keys are alike if their values are related one by one. -/
theorem Alike.of_values (keys : entries.keys = others.keys)
    (values : List.Forall₂ related entries.values others.values) :
    Alike related entries others := by
  induction entries generalizing others with
  | nil =>
    cases others with
    | nil => exact .nil
    | cons => cases values
  | cons entry rest ih =>
    cases others with
    | nil => cases values
    | cons other later =>
      obtain ⟨same, keys⟩ := List.cons_eq_cons.1 keys
      cases values with
      | cons first values => exact .cons ⟨same, first⟩ (ih keys values)

/-- A table is like itself if its values are. -/
theorem Alike.refl {related : α → α → Prop} (each : ∀ value, related value value)
    (entries : Table κ α) : Alike related entries entries :=
  List.forall₂_same.2 fun entry _ => ⟨rfl, each entry.2⟩

/-- What is kept by its key is kept in both tables. -/
theorem Alike.filter (alike : Alike related entries others) (test : κ → Bool) :
    Alike related (entries.filter fun entry => test entry.1)
      (others.filter fun entry => test entry.1) := by
  induction alike with
  | nil => exact .nil
  | @cons entry other _ _ first _ ih =>
    rw [List.filter_cons, List.filter_cons, first.1]
    split
    · exact .cons first ih
    · exact ih

section

variable [BEq κ] {value : α} {other : β}

/-- Entering related values under a key keeps tables alike. -/
theorem Alike.put (alike : Alike related entries others) (key : κ)
    (same : related value other) : Alike related (entries.put key value) (others.put key other) := by
  induction alike with
  | nil => exact .cons ⟨rfl, same⟩ .nil
  | @cons entry twin rest later first tail ih =>
    obtain ⟨name, held⟩ := entry
    obtain ⟨name', held'⟩ := twin
    obtain ⟨rfl, pair⟩ : name = name' ∧ related held held' := first
    rw [Table.put, Table.put]
    split
    · exact .cons ⟨rfl, same⟩ tail
    · exact .cons ⟨rfl, pair⟩ ih

/-- What is found under a key is related. -/
theorem Alike.lookup (alike : Alike related entries others) (key : κ) :
    Option.Rel related (entries.lookup key) (others.lookup key) := by
  induction alike with
  | nil => exact .none
  | @cons entry twin rest later first _ ih =>
    obtain ⟨name, held⟩ := entry
    obtain ⟨name', held'⟩ := twin
    obtain ⟨rfl, pair⟩ : name = name' ∧ related held held' := first
    rw [List.lookup_cons, List.lookup_cons]
    cases key == name with
    | true => exact .some pair
    | false => exact ih

/-- A key is in both tables or in none. -/
theorem Alike.has (alike : Alike related entries others) (key : κ) :
    Table.has entries key = Table.has others key :=
  isSome_of_rel (alike.lookup key)

end

end Table

/-! ### Values -/

namespace Value

variable {ids : Int → Int → Prop} {seen : Bool} {value other : Value}

/-- Two values are the same but for the numbers of instances, and for drawn ids that are related. -/
inductive Alike (ids : Int → Int → Prop) : Value → Value → Prop where
  /-- They are the same. -/
  | same (value : Value) : Alike ids value value
  /-- They are drawn ids. -/
  | drawn {id other : Int} (related : ids id other) : Alike ids (.int id) (.int other)
  /-- They are maps with the same keys. -/
  | dict {entries others : List (Key × Value)}
      (keys : entries.map Prod.fst = others.map Prod.fst)
      (values : List.Forall₂ (Alike ids) (entries.map Prod.snd) (others.map Prod.snd)) :
      Alike ids (.dict entries) (.dict others)
  /-- They are instances of one model with the same fields. -/
  | object {fields others : List (String × Value)} (model : String) (serial number : Nat)
      (persisted : Bool) (keys : fields.map Prod.fst = others.map Prod.fst)
      (values : List.Forall₂ (Alike ids) (fields.map Prod.snd) (others.map Prod.snd)) :
      Alike ids (.object model serial persisted fields) (.object model number persisted others)

/-- Values that are alike for some ids are alike for all that are related in a weaker way. -/
theorem Alike.imp {weaker : Int → Int → Prop} (each : ∀ {id other}, ids id other → weaker id other)
    (alike : Alike ids value other) : Alike weaker value other := by
  -- the induction is on the values and on the lists of values in them
  refine @Alike.rec ids (fun value other _ => Alike weaker value other)
    (fun values others _ => List.Forall₂ (Alike weaker) values others) ?_ ?_ ?_ ?_ ?_ ?_ _ _ alike
  · exact fun value => .same value
  · exact fun related => .drawn (each related)
  · exact fun keys _ values => .dict keys values
  · exact fun model serial number persisted keys _ values =>
      .object model serial number persisted keys values
  · exact .nil
  · exact fun _ _ first rest => .cons first rest

/-- Values that are alike where only equal ids are related look the same. -/
theorem Alike.look (equal : ∀ {id other}, ids id other → id = other)
    (alike : Alike ids value other) :
    Expr.textOf value = Expr.textOf other ∧ value.truthy = other.truthy := by
  cases alike with
  | same => exact ⟨rfl, rfl⟩
  | drawn related => rw [equal related]; exact ⟨rfl, rfl⟩
  | @dict entries others keys =>
    refine ⟨rfl, ?_⟩
    cases entries <;> cases others
    · rfl
    · cases keys
    · cases keys
    · rfl
  | object => exact ⟨rfl, rfl⟩

/-- Two values are alike, and where they may be looked at they look the same. -/
structure Match (ids : Int → Int → Prop) (seen : Bool) (value other : Value) : Prop where
  /-- They are alike. -/
  alike : Alike ids value other
  /-- They have the same text. -/
  text : seen = true → Expr.textOf value = Expr.textOf other
  /-- They count as true in the same way. -/
  truthy : seen = true → value.truthy = other.truthy

namespace Match

/-- A value matches itself. -/
theorem refl (ids : Int → Int → Prop) (seen : Bool) (value : Value) : Match ids seen value value :=
  ⟨.same value, fun _ => rfl, fun _ => rfl⟩

/-- Values that are alike where only equal ids are related match. -/
theorem of_alike (equal : ∀ {id other}, ids id other → id = other) (alike : Alike ids value other) :
    Match ids seen value other :=
  ⟨alike, fun _ => (alike.look equal).1, fun _ => (alike.look equal).2⟩

/-- Values that match where they are looked at match in any case. -/
theorem of_seen (matched : Match ids true value other) : Match ids seen value other :=
  ⟨matched.alike, fun _ => matched.text rfl, fun _ => matched.truthy rfl⟩

/-- Tables of values that match make maps that match. -/
theorem ofFields {fields others : Table String Value}
    (matched : Table.Alike (Match ids seen) fields others) :
    Match ids true (.ofFields fields) (.ofFields others) := by
  let entry : String × Value → Key × Value := fun field => (.text field.1, field.2)
  have keys : ∀ table : Table String Value,
      (table.map entry).map Prod.fst = table.keys.map Key.text :=
    fun table => by rw [Table.keys, List.map_map, List.map_map]; rfl
  have values : ∀ table : Table String Value, (table.map entry).map Prod.snd = table.values :=
    fun table => by rw [Table.values, List.map_map]; rfl
  refine ⟨.dict ?_ ?_, fun _ => rfl, fun _ => ?_⟩
  · rw [keys, keys, matched.keys]
  · rw [values, values]
    exact matched.values.imp fun _ _ matched => matched.alike
  · cases matched <;> rfl

end Match

/-- Related ids match, if they are the same where they are looked at. -/
theorem Match.drawn {id twin : Int} (related : ids id twin) (same : seen = true → id = twin) :
    Match ids seen (.int id) (.int twin) := by
  refine ⟨.drawn related, fun visible => ?_, fun visible => ?_⟩
  · rw [same visible]
  · rw [same visible]

end Value

/-! ### Instances -/

/-- Two instances are the same but for their numbers, and their fields match. -/
structure Instance.Match (ids : Int → Int → Prop) (seen : Bool) (instance_ other : Instance) :
    Prop where
  /-- They have the same model. -/
  model : instance_.model = other.model
  /-- Both are saved, or none is. -/
  persisted : instance_.persisted = other.persisted
  /-- Their fields match. -/
  fields : Table.Alike (Value.Match ids seen) instance_.fields other.fields

/-- Instances that match make values that match, however they are looked at. -/
theorem Instance.Match.value {ids : Int → Int → Prop} {seen : Bool} {instance_ other : Instance}
    (matched : instance_.Match ids seen other) :
    Value.Match ids true instance_.value other.value := by
  refine ⟨?_, fun _ => rfl, fun _ => rfl⟩
  rw [Instance.value, Instance.value, matched.model, matched.persisted]
  exact .object _ _ _ _ matched.fields.keys
    (matched.fields.values.imp fun _ _ matched => matched.alike)

/-- A model makes matching instances of matching arguments, whatever their numbers, or refuses
both. -/
theorem Model.agree_construct {ids : Int → Int → Prop} {seen : Bool} (model : Model)
    (serial number : Nat) {arguments others : Table String Value}
    (matched : Table.Alike (Value.Match ids seen) arguments others) :
    Tally (Instance.Match ids seen) (model.construct serial arguments)
      (model.construct number others) := by
  have strange : model.strangeArgument? others = model.strangeArgument? arguments := by
    rw [strangeArgument?, strangeArgument?, matched.keys]
  rw [construct, construct, strange]
  cases model.strangeArgument? arguments with
  | some name => exact .error _
  | none =>
    refine .ok ⟨rfl, rfl, List.rel_append ?_ (matched.filter fun name => !model.fields.has name)⟩
    refine List.forall₂_map_left_iff.2 (List.forall₂_map_right_iff.2 ?_)
    exact List.forall₂_same.2 fun field _ =>
      ⟨rfl, rel_getD (matched.lookup field.1) (.refl _ _ _)⟩

/-! ### Events -/

/-- Two events are the same but for the numbers of instances, and for drawn ids that are related. -/
inductive Event.Alike (ids : Int → Int → Prop) : Event → Event → Prop where
  /-- The same warning is given. -/
  | warning (text : String) : Alike ids (.warning text) (.warning text)
  /-- The same method is called. -/
  | method (name model : String) (serial number : Nat) :
      Alike ids (.method name model serial) (.method name model number)
  /-- The same handler is called. -/
  | call (label : String) (arguments serial number : Nat) :
      Alike ids (.call label arguments serial) (.call label arguments number)
  /-- The same mark is reached. -/
  | tick (label : String) : Alike ids (.tick label) (.tick label)
  /-- Values that are alike are marked. -/
  | note (label : String) {value other : Value} (alike : value.Alike ids other) :
      Alike ids (.note label value) (.note label other)
  /-- Instances of one model are made from arguments that are alike. -/
  | made (model : String) (serial number : Nat) {arguments others : Table String Value}
      (alike : Table.Alike (Value.Alike ids) arguments others) :
      Alike ids (.made model serial arguments) (.made model number others)
  /-- Ids that are related are drawn. -/
  | drawn {id other : Int} (related : ids id other) : Alike ids (.drawn id) (.drawn other)

/-- Events that are alike for some ids are alike for all that are related in a weaker way. -/
theorem Event.Alike.imp {ids weaker : Int → Int → Prop}
    (each : ∀ {id other}, ids id other → weaker id other) {event other : Event}
    (alike : event.Alike ids other) : event.Alike weaker other := by
  cases alike with
  | warning text => exact .warning text
  | method name model serial number => exact .method name model serial number
  | call label arguments serial number => exact .call label arguments serial number
  | tick label => exact .tick label
  | note label alike => exact .note label (alike.imp each)
  | made model serial number alike =>
    exact .made model serial number (List.Forall₂.imp (fun _ _ pair => ⟨pair.1, pair.2.imp each⟩) alike)
  | drawn related => exact .drawn (each related)

end Blueprint
