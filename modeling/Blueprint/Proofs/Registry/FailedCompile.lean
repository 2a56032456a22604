import Blueprint.Proofs.Registry.Calm

/-!
# What a failed compilation leaves behind

A compilation that fails leaves every factory that is not compiled as it was, but for one at most:
that whose declarations are refused has inherited already and stays linked to its parent.
-/
namespace Blueprint.Registry

variable {history : History} {id : FactoryId} {fault : Fault}

/-- After a compilation has failed every factory is compiled or not, and one that is not is as it
was before, or it is the one that was stopped with the fault. No factory has a new child that is not
compiled, but for the stopped one, which is a child of its parent. -/
theorem failed_compile_leaves (reached : history.Reached)
    (failed : (history.registry.compile id).1 = .error fault) :
    let after := (history.registry.compile id).2
    ∃ stopped : Option FactoryId,
      (∀ other later, after.factory? other = some later → later.status.isSealed = false →
        later.status = .unsealed ∧ (history.registry.factory? other = some later ∨
          stopped = some other ∧ Stopped history.registry after other fault)) ∧
      (∀ other factory later child, history.registry.factory? other = some factory →
        after.factory? other = some later → child ∈ later.children →
          child ∈ factory.children ∨ after.Finished child ∨
            stopped = some child ∧ (after.factory? child).bind Factory.parent = some other) := by
  intro after
  obtain ⟨stopped, compilation, fails⟩ :=
    compilation_compile history.registry id reached.bound reached.calm.childless
  have calm := reached.calm.compile reached.bound id
  have moves := (compiles_compile history.registry id reached.bound).1.moves
  refine ⟨stopped.map Prod.fst, ?_, ?_⟩
  · intro other later found uncompiled
    have unsealed : later.status = .unsealed := by
      cases status : later.status with
      | unsealed => rfl
      | compiling => exact absurd status (calm.settled found)
      | «sealed» list => simp [status, Status.isSealed] at uncompiled
    refine ⟨unsealed, ?_⟩
    obtain ⟨factory, known⟩ := moves.factory?_before found
    obtain ⟨now, there, fate | ⟨cause, halted⟩⟩ := compilation.each known
    · rw [found] at there
      cases there
      cases fate with
      | kept => exact .inl known
      | compiled _ compiled => simp [compiled, Status.isSealed] at uncompiled
      | followed compiled => simp [compiled, Status.isSealed] at uncompiled
    · obtain rfl : fault = cause :=
        Except.error.inj (failed.symm.trans (fails other cause halted))
      exact .inr ⟨by rw [halted]; rfl, compilation.stops halted⟩
  · intro other factory later child known found member
    obtain old | done | ⟨cause, halted, linked⟩ := compilation.children known found member
    · exact .inl old
    · exact .inr (.inl done)
    · exact .inr (.inr ⟨by rw [halted]; rfl, linked⟩)

/-! ### A name declared twice -/

/-- A user, and a guest of whom the user is the parent and who declares a name twice. -/
def guestTwice : History :=
  let user := History.blank.define (.text "user") []
  let guest := user.define (.text "guest") [(.text "parent", .text "user")]
  let once := guest.edit 1 (.declare ⟨"x", false, [], .static (.int 1)⟩)
  once.edit 1 (.declare ⟨"x", false, [], .static (.int 2)⟩)

/-- The history of the guest is one of a registry. -/
theorem reached_guestTwice : guestTwice.Reached :=
  (((History.reached_blank.define _ _).define _ _).edit _ _).edit _ _

/-- The name that is defined already, if that is the fault. -/
def takenName? : Except Fault Unit → Option String
  | .error (.definedAlready name) => some name
  | _ => none

/-- The guest cannot be compiled. -/
theorem compile_guestTwice :
    (guestTwice.registry.compile 1).1 = .error (.definedAlready "x") := by
  have taken : takenName? (guestTwice.registry.compile 1).1 = some "x" := by decide +kernel
  unfold takenName? at taken
  split at taken
  · cases taken
    assumption
  · cases taken

/-- The user and the guest after the compilation. -/
theorem factory?_guestTwice :
    (∃ before, guestTwice.registry.factory? 1 = some before ∧ before.parent = none ∧
      before.classIdentifier.plain = "guest") ∧
    (∃ guest, (guestTwice.registry.compile 1).2.factory? 1 = some guest ∧
      guest.status.isSealed = false ∧ guest.parent = some 0 ∧
        guest.classIdentifier.plain = "user") ∧
    ∃ user, (guestTwice.registry.compile 1).2.factory? 0 = some user ∧
      user.status.isSealed = true ∧ 1 ∈ user.children := by
  refine ⟨?_, ?_, ?_⟩
  · have seen : (guestTwice.registry.factory? 1).map (fun factory =>
        (factory.parent, factory.classIdentifier.plain)) = some (none, "guest") := by
      decide +kernel
    obtain ⟨before, found, same⟩ := Option.map_eq_some_iff.1 seen
    exact ⟨before, found, Prod.mk.inj same⟩
  · have seen : ((guestTwice.registry.compile 1).2.factory? 1).map (fun factory =>
        (factory.status.isSealed, factory.parent, factory.classIdentifier.plain)) =
          some (false, some 0, "user") := by decide +kernel
    obtain ⟨guest, found, same⟩ := Option.map_eq_some_iff.1 seen
    obtain ⟨status, rest⟩ := Prod.mk.inj same
    exact ⟨guest, found, status, Prod.mk.inj rest⟩
  · have seen : ((guestTwice.registry.compile 1).2.factory? 0).map (fun factory =>
        (factory.status.isSealed, factory.children)) = some (true, [1]) := by decide +kernel
    obtain ⟨user, found, same⟩ := Option.map_eq_some_iff.1 seen
    obtain ⟨status, children⟩ := Prod.mk.inj same
    exact ⟨user, found, status, by rw [children]; exact List.mem_singleton_self 1⟩

/-- The guest is the factory that was stopped. -/
theorem failed_compile_leaves_guest :
    guestTwice.Reached ∧ (guestTwice.registry.compile 1).1 = .error (.definedAlready "x") ∧
      Stopped guestTwice.registry (guestTwice.registry.compile 1).2 1 (.definedAlready "x") := by
  obtain ⟨⟨before, known, orphan, _⟩, ⟨guest, found, uncompiled, linked, _⟩, _⟩ :=
    factory?_guestTwice
  obtain ⟨stopped, each, _⟩ := failed_compile_leaves reached_guestTwice compile_guestTwice
  obtain ⟨_, same | ⟨_, halts⟩⟩ := each 1 guest found uncompiled
  · rw [known] at same
    cases same
    rw [orphan] at linked
    cases linked
  · exact ⟨reached_guestTwice, compile_guestTwice, halts⟩

/-- The guest is linked to the user, and has the user's class, although it is not compiled. -/
theorem failed_compile_links_guest :
    guestTwice.Reached ∧ (guestTwice.registry.compile 1).1 = .error (.definedAlready "x") ∧
      ∃ before guest user, guestTwice.registry.factory? 1 = some before ∧
        (guestTwice.registry.compile 1).2.factory? 1 = some guest ∧
        (guestTwice.registry.compile 1).2.factory? 0 = some user ∧
        guest.status.isSealed = false ∧
        before.parent = none ∧ guest.parent = some 0 ∧
        before.classIdentifier.plain = "guest" ∧ guest.classIdentifier.plain = "user" ∧
        user.status.isSealed = true ∧ 1 ∈ user.children := by
  obtain ⟨⟨before, known, orphan, own⟩, ⟨guest, found, uncompiled, linked, inherits⟩,
    user, there, compiled, follows⟩ := factory?_guestTwice
  exact ⟨reached_guestTwice, compile_guestTwice, before, guest, user, known, found, there,
    uncompiled, orphan, linked, own, inherits, compiled, follows⟩

end Blueprint.Registry
