import Blueprint.Build.Proxy
import Blueprint.Proofs.Table
import Mathlib.Data.List.Basic

/-!
# Laws of proxies

Setting a value changes what a proxy holds under its own name only. What reaches the instance is
what is held without being ignored.
-/
namespace Blueprint.Proxy

variable {proxy : Proxy} {key name : String} {value : Value} {ignored : Bool}

/-- A value is read just if it is held. -/
theorem get_eq_ok : proxy.get key = .ok value ↔ proxy.values.lookup key = some value := by
  unfold get
  cases proxy.values.lookup key <;> simp

/-- Setting a value changes what is held under its own name only. -/
theorem lookup_set : (proxy.set name value ignored).values.lookup key =
    if key == name then some value else proxy.values.lookup key :=
  Table.lookup_put proxy.values name key value

/-- Setting a value decides whether that name is ignored, and leaves the others. -/
theorem contains_ignored_set : (proxy.set name value ignored).ignored.contains key =
    if key == name then ignored else proxy.ignored.contains key := by
  rw [Bool.eq_iff_iff, List.contains_iff_mem]
  by_cases same : key = name
  · subst same
    cases ignored with
    | false => simp [set]
    | true =>
      by_cases known : key ∈ proxy.ignored
      · simp [set, known]
      · simp [set, known]
  · have apart : (key == name) = false := by simpa using same
    cases ignored with
    | false => simp [set, apart, same]
    | true =>
      by_cases known : name ∈ proxy.ignored
      · simp [set, known, apart]
      · simp [set, known, apart, same]

/-- A name reaches the instance just if a value is held under it that is not ignored. -/
theorem mem_keys_persistedValues : key ∈ proxy.persistedValues.keys ↔
    (proxy.values.lookup key).isSome ∧ proxy.ignored.contains key = false := by
  rw [List.lookup_isSome_iff, Table.keys, persistedValues, List.mem_map]
  constructor
  · rintro ⟨entry, member, rfl⟩
    obtain ⟨inside, kept⟩ := List.mem_filter.1 member
    exact ⟨⟨entry, inside, beq_self_eq_true _⟩, by simpa using kept⟩
  · rintro ⟨⟨entry, inside, same⟩, kept⟩
    obtain rfl : key = entry.1 := by simpa using same
    exact ⟨entry, List.mem_filter.2 ⟨inside, by simpa using kept⟩, rfl⟩

/-! ### Agreement at a name -/

/-- Two proxies of one strategy hold the same under a name. -/
structure Agree (key : String) (proxy other : Proxy) : Prop where
  /-- They have one strategy. -/
  strategy : other.strategy = proxy.strategy
  /-- They hold the same value, if they hold any. -/
  value : other.values.lookup key = proxy.values.lookup key
  /-- It is ignored in both or in neither. -/
  ignored : other.ignored.contains key = proxy.ignored.contains key

instance : Std.Refl (Agree key) := ⟨fun _ => ⟨rfl, rfl, rfl⟩⟩

instance : IsTrans Proxy (Agree key) := ⟨fun _ _ _ first second =>
  ⟨second.strategy.trans first.strategy, second.value.trans first.value,
    second.ignored.trans first.ignored⟩⟩

/-- Setting a value leaves what is held under every other name. -/
theorem Agree.set (apart : name ≠ key) : Agree key proxy (proxy.set name value ignored) := by
  have other : (key == name) = false := by simpa using Ne.symm apart
  refine ⟨rfl, ?_, ?_⟩
  · rw [lookup_set, other, if_neg Bool.false_ne_true]
  · rw [contains_ignored_set, other, if_neg Bool.false_ne_true]

/-- A proxy holds a value under a name, ignored or not. -/
structure Holds (proxy : Proxy) (key : String) (value : Value) (ignored : Bool) : Prop where
  /-- The value is there. -/
  value : proxy.values.lookup key = some value
  /-- It is ignored or not. -/
  ignored : proxy.ignored.contains key = ignored

/-- What is set is held. -/
theorem holds_set : (proxy.set name value ignored).Holds name value ignored := by
  refine ⟨?_, ?_⟩
  · rw [lookup_set, if_pos (beq_self_eq_true name)]
  · rw [contains_ignored_set, if_pos (beq_self_eq_true name)]

/-- Where proxies agree they hold the same. -/
theorem Agree.holds {other : Proxy} (agree : Agree key proxy other)
    (holds : proxy.Holds key value ignored) : other.Holds key value ignored :=
  ⟨agree.value.trans holds.value, agree.ignored.trans holds.ignored⟩

/-- What is held is read. -/
theorem Holds.get (holds : proxy.Holds key value ignored) : proxy.get key = .ok value :=
  get_eq_ok.2 holds.value

/-- What is held reaches the instance just if it is not ignored. -/
theorem Holds.mem_keys_persistedValues (holds : proxy.Holds key value ignored) :
    key ∈ proxy.persistedValues.keys ↔ ignored = false := by
  rw [Proxy.mem_keys_persistedValues, holds.value, holds.ignored]
  simp

end Blueprint.Proxy
