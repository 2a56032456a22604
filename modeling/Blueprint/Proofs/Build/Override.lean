import Blueprint.Proofs.Build.Filled

/-!
# Overrides and the values of attributes

A run sends each override to one attribute, and sets it when the turn of that attribute comes. The
attribute whose name is the key may be another one, which comes later and has no override sent to
it: then its own value replaces the override. In all other cases the override is kept.
-/
namespace Blueprint

/-- When the proxy of a run is filled, an override that no attribute displaces is read as it was
given, and one that an attribute displaces is read as what that attribute gave. An attribute
displaces an override only if the key, which is its name, is a further name of the attribute to
which the override was sent. Blocks that are computed are taken not to set the key. -/
theorem override_kept_unless_displaced {runner : Runner} {id : FactoryId} {choice : Value}
    {overrides : Dict} {filled : Filled} {world after : World}
    (fills : (runner.fill id choice overrides).run world = (.ok filled, after))
    {key : Key} {value : Value} (given : (key, value) ∈ overrides)
    (reads : ∀ attr ∈ filled.run.attributes, filled.run.sent attr = [] →
      attr.blockSets (Name.ofKey key) = false) :
    (filled.run.displacing? (Name.ofKey key) = none →
      filled.site.proxy.get (Name.ofKey key) = .ok value) ∧
    ∀ attr, filled.run.displacing? (Name.ofKey key) = some attr →
      (∃ owner, filled.run.target? (Name.ofKey key) = some owner ∧ owner.name ≠ attr.name ∧
        attr.name ∈ owner.aliases) ∧
      ∃ other, filled.Gives runner attr other ∧
        filled.site.proxy.get (Name.ofKey key) = .ok other := by
  obtain ⟨whole, _⟩ := Runner.fill_eq_ok fills
  have there : (Name.ofKey key, value) ∈ filled.run.overrides := by
    rw [whole.prepared.overrides]
    exact List.mem_map_of_mem given
  constructor
  · intro kept
    exact (whole.holds_override there kept reads).get
  · intro attr displacing
    obtain ⟨member, named, unsent, present, owner, _, found, apart, further⟩ :=
      whole.prepared.target?_of_displacing there displacing
    rw [← named] at reads found apart further ⊢
    obtain ⟨other, gives, held⟩ := whole.holds_attribute member unsent present
      fun another inside _ => reads another inside
    exact ⟨⟨owner, found, apart, further⟩, other, gives, held.get⟩

/-- A registry with a thing that has a contact, also known as its mail, and then a mail. -/
def mailHistory : History :=
  let empty : History := { registry := { settings := ⟨.dict []⟩, nextStub := 1001 } }
  let thing := (empty.define (.text "thing") []).registerModel "Thing" "thing"
  let contact := thing.edit 0 (.declare ⟨"contact", false, [.text "mail"], .static .null⟩)
  contact.edit 0 (.declare ⟨"mail", false, [], .static (.text "default")⟩)

/-- The world of the registry with the thing. -/
def mailWorld : World :=
  { registry := mailHistory.registry, models := [("Thing", { name := "Thing", isOpen := true })] }

/-- Fills the proxy of a thing with one value given, to be built. -/
def fillMail (name : String) : Except Fault Filled × World :=
  (Runner.standard.fill 0 (.strategy .build) [(.text name, .text "given")]).run mailWorld

/-- The text that is read, if it is one. -/
def readText? : Except Fault Value → Option String
  | .ok (.text text) => some text
  | _ => none

/-- What is read as a text is that text. -/
theorem eq_text_of_readText? {read : Except Fault Value} {text : String}
    (same : readText? read = some text) : read = .ok (.text text) := by
  cases read with
  | error fault => cases same
  | ok value => cases value <;> cases same; rfl

/-- A contact that is given is kept. -/
theorem override_kept_contact :
    ∃ filled after, fillMail "contact" = (.ok filled, after) ∧
      (∀ attr ∈ filled.run.attributes, attr.blockSets "contact" = false) ∧
      filled.run.displacing? "contact" = none ∧
      filled.site.proxy.get "contact" = .ok (.text "given") := by
  have seen : (fillMail "contact").1.toOption.map (fun filled =>
      (filled.run.attributes.all fun attr => !attr.blockSets "contact",
        (filled.run.displacing? "contact").isNone)) = some (true, true) := by decide +kernel
  have canonical : Name.ofKey (.text "contact") = "contact" := by decide +kernel
  cases fills : fillMail "contact" with
  | mk outcome after =>
    rw [fills] at seen
    cases outcome with
    | error fault => cases seen
    | ok filled =>
      obtain ⟨blocks, none_⟩ := Prod.mk.inj (Option.some.inj seen)
      have reads : ∀ attr ∈ filled.run.attributes, attr.blockSets "contact" = false := by
        simpa using blocks
      have kept : filled.run.displacing? "contact" = none := by simpa using none_
      rw [← canonical] at reads kept
      have both := override_kept_unless_displaced fills List.mem_cons_self
        fun attr member _ => reads attr member
      rw [canonical] at reads kept both
      exact ⟨filled, after, rfl, reads, kept, both.1 kept⟩

/-- A mail that is given is not kept: it is sent to the contact, and then the mail gives its own
value. -/
theorem override_displaced_mail :
    ∃ filled after, fillMail "mail" = (.ok filled, after) ∧
      (∀ attr ∈ filled.run.attributes, attr.blockSets "mail" = false) ∧
      filled.run.overrides.map Prod.fst = ["mail"] ∧
      filled.site.proxy.get "mail" = .ok (.text "default") := by
  have seen : (fillMail "mail").1.toOption.map (fun filled =>
      (filled.run.attributes.all fun attr => !attr.blockSets "mail",
        filled.run.overrides.map Prod.fst, readText? (filled.site.proxy.get "mail"))) =
      some (true, ["mail"], some "default") := by decide +kernel
  cases fills : fillMail "mail" with
  | mk outcome after =>
    rw [fills] at seen
    cases outcome with
    | error fault => cases seen
    | ok filled =>
      obtain ⟨blocks, rest⟩ := Prod.mk.inj (Option.some.inj seen)
      obtain ⟨keys, read⟩ := Prod.mk.inj rest
      exact ⟨filled, after, rfl, by simpa using blocks, keys, eq_text_of_readText? read⟩

end Blueprint
