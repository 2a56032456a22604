import Blueprint.Proofs.Build.Filled

/-!
# Ignored attributes

The instance of a run is made from the values that its proxy holds without ignoring them. What is
set for an attribute that is ignored can be read, and does not reach the instance, be it given as an
override or by the attribute itself; but what an association gives is never ignored.
-/
namespace Blueprint

/-! ### From the proxy to the instance -/

/-- Where an instance is made from the values of a proxy: a stubbed one is given an id first. -/
def Site.ready (site : Site) : Site :=
  match site.proxy.strategy with
  | .stub => (Proxy.drawId.run site).2
  | _ => site

/-- What is done with an instance after it is made. -/
def Proxy.present (runner : Runner) (finalizer : Option Handler) : Strategy → Act Value
  | .create => do
    runCallbacks runner .afterBuild
    finalize runner finalizer
    runCallbacks runner .afterCreate
    Act.askSubject Instance.value
  | .stub => do
    runCallbacks runner .afterStub
    Act.askSubject Instance.value
  | _ => do
    runCallbacks runner .afterBuild
    Act.askSubject Instance.value

/-- Drawing an id never fails. -/
theorem Proxy.run_drawId (site : Site) : drawId.run site = (.ok (), (drawId.run site).2) := by
  rw [drawId, Act.run_ask_bind]
  cases site.proxy.has "id" with
  | true => rfl
  | false => rfl

/-- Unless only values are wanted, the result is made by making the instance where all is ready. -/
theorem Proxy.run_result {runner : Runner} {finalizer : Option Handler} {site : Site}
    (makes : site.proxy.strategy ≠ .attributesFor) :
    (result runner finalizer).run site = (do
      instantiate
      present runner finalizer site.proxy.strategy).run site.ready := by
  rw [result, Act.run_ask_bind, Site.ready]
  cases chosen : site.proxy.strategy with
  | attributesFor => exact absurd chosen makes
  | build => rfl
  | create => rfl
  | stub =>
    simp only
    rw [run_bind, run_drawId]
    rfl

/-- The arguments from which the instance of a run is made. -/
def Filled.arguments (filled : Filled) : Table String Value :=
  filled.site.ready.proxy.persistedValues

/-- Drawing an id leaves what is held. -/
theorem Proxy.Holds.drawId {site : Site} {key : String} {value : Value} {ignored : Bool}
    (holds : site.proxy.Holds key value ignored) :
    (Proxy.drawId.run site).2.proxy.Holds key value ignored := by
  rw [Proxy.drawId, Act.run_ask_bind]
  cases present : site.proxy.has "id" with
  | true => exact holds
  | false =>
    have apart : "id" ≠ key := by
      rintro rfl
      rw [has, Table.has, holds.value] at present
      cases present
    have agree : Agree key site.proxy
        (site.proxy.set "id" (.int site.world.registry.drawStub.1) false) := .set apart
    exact agree.holds holds

/-- What is held when the proxy is filled is held where the instance is made. -/
theorem Proxy.Holds.ready {site : Site} {key : String} {value : Value} {ignored : Bool}
    (holds : site.proxy.Holds key value ignored) : site.ready.proxy.Holds key value ignored := by
  unfold Site.ready
  cases site.proxy.strategy with
  | stub => exact holds.drawId
  | build => exact holds
  | create => exact holds
  | attributesFor => exact holds

/-! ### Attributes that are ignored -/

/-- The keys that are set for an attribute: those of the overrides that are sent to it, or its name
if there are none. -/
def Prepared.keysOf (run : Prepared) (attr : Attribute) : List String :=
  if (run.sent attr).isEmpty then [attr.name] else (run.sent attr).map Prod.fst

/-- Where no further name of an attribute is the name of another one, nothing is displaced. -/
theorem Prepared.For.displacing?_eq_none {run : Prepared} {choice : Value} {overrides : Dict}
    (prepared : run.For choice overrides)
    (apart : ∀ one ∈ run.attributes, ∀ other ∈ run.attributes, one.name ≠ other.name →
      other.name ∉ one.aliases)
    {key : String} {value : Value} (given : (key, value) ∈ run.overrides) :
    run.displacing? key = none := by
  cases displacing : run.displacing? key with
  | none => rfl
  | some attr =>
    obtain ⟨member, rfl, _, _, owner, there, _, different, further⟩ :=
      prepared.target?_of_displacing given displacing
    exact absurd further (apart owner there attr member different)

/-- Every key that is set for an ignored attribute can be read where the instance is made, with the
value given for it or else the one that the attribute gave. It is not among the arguments just if
the attribute is not an association or an override is sent to it. Further names of attributes are
taken not to be names of others, and blocks of other attributes not to set the key. -/
theorem ignored_absent_iff {runner : Runner} {id : FactoryId} {choice : Value}
    {overrides : Dict} {filled : Filled} {world after : World}
    (fills : (runner.fill id choice overrides).run world = (.ok filled, after))
    (makes : filled.run.proxy.strategy ≠ .attributesFor)
    (apart : ∀ one ∈ filled.run.attributes, ∀ other ∈ filled.run.attributes,
      one.name ≠ other.name → other.name ∉ one.aliases)
    {attr : Attribute} (member : attr ∈ filled.run.attributes) (ignored : attr.ignored = true)
    {key : String} (own : key ∈ filled.run.keysOf attr)
    (reads : ∀ other ∈ filled.run.attributes, other.name ≠ attr.name →
      filled.run.sent other = [] → other.blockSets key = false) :
    (∃ value, filled.site.ready.proxy.get key = .ok value ∧
      ((key, value) ∈ filled.run.sent attr ∨
        filled.run.sent attr = [] ∧ filled.Gives runner attr value)) ∧
    (key ∉ filled.arguments.keys ↔
      attr.isAssociation = false ∨ filled.run.sent attr ≠ []) := by
  obtain ⟨whole, _⟩ := Runner.fill_eq_ok fills
  have prepared := whole.prepared
  by_cases unsent : filled.run.sent attr = []
  · -- the attribute gives its value
    obtain rfl : key = attr.name := by simpa [Prepared.keysOf, unsent] using own
    have present : attr.isSkipped filled.run.proxy.strategy = false := by
      simp [Attribute.isSkipped, makes]
    obtain ⟨value, gives, held⟩ := whole.holds_attribute member unsent present reads
    refine ⟨⟨value, held.ready.get, .inr ⟨unsent, gives⟩⟩, ?_⟩
    rw [Filled.arguments, held.ready.mem_keys_persistedValues, ignored]
    simp [unsent]
  · -- the key is that of an override
    obtain ⟨pair, sentThere, rfl⟩ : ∃ pair ∈ filled.run.sent attr, pair.1 = key := by
      simpa [Prepared.keysOf, unsent] using own
    obtain ⟨given, found⟩ := (prepared.mem_sent member).1 sentThere
    have kept := prepared.displacing?_eq_none apart given
    have held := whole.holds_override given kept fun other there alone => by
      refine reads other there (fun same => ?_) alone
      rw [prepared.eq_of_name there member same] at alone
      exact unsent alone
    refine ⟨⟨pair.2, held.ready.get, .inl sentThere⟩, ?_⟩
    rw [Filled.arguments, held.ready.mem_keys_persistedValues, found, Option.map_some,
      Option.getD_some, ignored]
    simp [unsent]

/-- A registry with a thing that has an ignored secret, and an ignored owner that is built. -/
def ownedHistory : History :=
  let empty : History := { registry := { settings := ⟨.dict []⟩, nextStub := 1001 } }
  let user := (empty.define (.text "user") []).registerModel "User" "user"
  let thing := (user.define (.text "thing") []).registerModel "Thing" "thing"
  let secret := thing.edit 1 (.declare ⟨"secret", true, [], .static (.text "hidden")⟩)
  secret.edit 1 (.declare ⟨"owner", true, [], .association "user" [] (.strategy .build)⟩)

/-- The world of the registry with the thing that has an owner. -/
def ownedWorld : World :=
  { registry := ownedHistory.registry
    models := [("User", { name := "User" }), ("Thing", { name := "Thing", isOpen := true })] }

/-- Fills the proxy of a thing that has an owner, to be built. -/
def fillOwned : Except Fault Filled × World :=
  (Runner.standard.fill 1 (.strategy .build) []).run ownedWorld

/-- The secret of a thing is not among the arguments, and can be read. -/
theorem ignored_absent_secret :
    ∃ filled after attr, fillOwned = (.ok filled, after) ∧
      filled.run.proxy.strategy ≠ .attributesFor ∧
      (∀ one ∈ filled.run.attributes, ∀ other ∈ filled.run.attributes,
        one.name ≠ other.name → other.name ∉ one.aliases) ∧
      attr ∈ filled.run.attributes ∧ attr.ignored = true ∧
      "secret" ∈ filled.run.keysOf attr ∧
      (∃ value, filled.site.ready.proxy.get "secret" = .ok value) ∧
      "secret" ∉ filled.arguments.keys := by
  have seen : fillOwned.1.toOption.map (fun filled => decide (
      filled.run.proxy.strategy ≠ .attributesFor ∧
      (∀ one ∈ filled.run.attributes, ∀ other ∈ filled.run.attributes,
        one.name ≠ other.name → other.name ∉ one.aliases) ∧
      (∃ attr ∈ filled.run.attributes, attr.ignored = true ∧ attr.isAssociation = false ∧
        "secret" ∈ filled.run.keysOf attr) ∧
      ∀ other ∈ filled.run.attributes, other.blockSets "secret" = false)) = some true := by
    decide +kernel
  cases fills : fillOwned with
  | mk outcome after =>
    rw [fills] at seen
    cases outcome with
    | error fault => cases seen
    | ok filled =>
      obtain ⟨makes, apart, ⟨attr, member, ignored, plain, own⟩, reads⟩ :=
        of_decide_eq_true (Option.some.inj seen)
      obtain ⟨⟨value, read, _⟩, absent⟩ := ignored_absent_iff fills makes apart member ignored own
        fun other there _ _ => reads other there
      exact ⟨filled, after, attr, rfl, makes, apart, member, ignored, own, ⟨value, read⟩,
        absent.2 (.inl plain)⟩

/-- The owner of a thing is among the arguments, although it is ignored. -/
theorem ignored_reaches_owner :
    ∃ filled after attr, fillOwned = (.ok filled, after) ∧
      filled.run.proxy.strategy = .build ∧
      (∀ one ∈ filled.run.attributes, ∀ other ∈ filled.run.attributes,
        one.name ≠ other.name → other.name ∉ one.aliases) ∧
      attr ∈ filled.run.attributes ∧ attr.ignored = true ∧ attr.name = "owner" ∧
      filled.run.overrides = [] ∧ "owner" ∈ filled.arguments.keys := by
  have seen : fillOwned.1.toOption.map (fun filled => decide (
      filled.run.proxy.strategy = .build ∧
      (∀ one ∈ filled.run.attributes, ∀ other ∈ filled.run.attributes,
        one.name ≠ other.name → other.name ∉ one.aliases) ∧
      (∃ attr ∈ filled.run.attributes, attr.ignored = true ∧ attr.name = "owner") ∧
      filled.run.overrides.length = 0 ∧ "owner" ∈ filled.arguments.keys)) = some true := by
    decide +kernel
  cases fills : fillOwned with
  | mk outcome after =>
    rw [fills] at seen
    cases outcome with
    | error fault => cases seen
    | ok filled =>
      obtain ⟨strategy, apart, ⟨attr, member, ignored, named⟩, unset, reaches⟩ :=
        of_decide_eq_true (Option.some.inj seen)
      exact ⟨filled, after, attr, rfl, strategy, apart, member, ignored, named,
        List.eq_nil_of_length_eq_zero unset, reaches⟩

end Blueprint
