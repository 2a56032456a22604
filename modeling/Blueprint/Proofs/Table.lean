import Blueprint.Table
import Mathlib.Data.List.Basic

/-!
# Laws of tables

A table is read through `lookup`. Entering a value changes what is found under its own key only,
and entering several pairs leaves what is found under all other keys.
-/
namespace Blueprint.Table

variable {κ : Type u} {α : Type v} [BEq κ]

/-- What is found under a key is entered under one that is the same. -/
theorem exists_mem_of_lookup {entries : Table κ α} {key : κ} {value : α}
    (found : entries.lookup key = some value) :
    ∃ other, (key == other) = true ∧ (other, value) ∈ entries := by
  induction entries with
  | nil => cases found
  | cons entry rest ih =>
    rw [List.lookup_cons] at found
    cases same : key == entry.1 with
    | true =>
      rw [same] at found
      cases found
      exact ⟨entry.1, same, List.mem_cons_self⟩
    | false =>
      rw [same] at found
      obtain ⟨other, alike, inside⟩ := ih found
      exact ⟨other, alike, List.mem_cons_of_mem entry inside⟩

/-- Entering again what is found under a key leaves the table. -/
theorem put_of_lookup {entries : Table κ α} {key : κ} {value : α}
    (held : entries.lookup key = some value) : put entries key value = entries := by
  induction entries with
  | nil => cases held
  | cons entry rest ih =>
    rw [List.lookup_cons] at held
    cases same : key == entry.1 with
    | true =>
      rw [same] at held
      rw [put, if_pos same, ← Option.some.inj held]
    | false =>
      rw [same] at held
      rw [put, if_neg (by simp [same]), ih held]

/-- A key that is found stays where it is, and a new one comes last. -/
theorem keys_put (entries : Table κ α) (key : κ) (value : α) :
    (put entries key value).keys =
      if entries.has key then entries.keys else entries.keys ++ [key] := by
  induction entries with
  | nil => rfl
  | cons entry rest ih =>
    unfold has at ih ⊢
    rw [List.lookup_cons, put]
    cases same : key == entry.1 with
    | true => rfl
    | false =>
      have rest_ : keys (put rest key value) = _ := ih
      simp only [keys, Bool.false_eq_true, if_false, List.map_cons] at rest_ ⊢
      rw [rest_]
      split <;> rfl

section Equiv

variable [EquivBEq κ]

/-- Entering a value changes what is found under its own key only. -/
theorem lookup_put (entries : Table κ α) (key other : κ) (value : α) :
    (put entries key value).lookup other =
      if other == key then some value else entries.lookup other := by
  induction entries with
  | nil => cases same : other == key <;> simp [put, List.lookup_cons, same]
  | cons entry rest ih =>
    obtain ⟨first, held⟩ := entry
    by_cases taken : key == first
    · have alike : (other == first) = (other == key) := (BEq.congr_right taken).symm
      cases same : other == key <;> simp [put, taken, List.lookup_cons, alike, same]
    · by_cases here : other == first
      · have apart : (other == key) = false := by
          rw [Bool.eq_false_iff]
          intro same
          exact taken (BEq.trans (BEq.symm same) here)
        simp [put, taken, List.lookup_cons, here, apart]
      · simp [put, taken, List.lookup_cons, here, ih]

/-- Entering pairs under other keys leaves what is found under a key. -/
theorem lookup_putAll_of_absent (entries : Table κ α) (pairs : List (κ × α)) {key : κ}
    (absent : ∀ pair ∈ pairs, (key == pair.1) = false) :
    (putAll entries pairs).lookup key = entries.lookup key := by
  induction pairs generalizing entries with
  | nil => rfl
  | cons pair rest ih =>
    have later : ∀ pair ∈ rest, (key == pair.1) = false :=
      fun pair member => absent pair (List.mem_cons_of_mem _ member)
    rw [putAll, List.foldl_cons]
    refine (ih _ later).trans ?_
    rw [lookup_put, absent pair List.mem_cons_self]
    rfl

/-- What is found after pairs were entered is from one of them, or was there. -/
theorem lookup_putAll {entries : Table κ α} {pairs : List (κ × α)} {key : κ} {value : α}
    (found : (putAll entries pairs).lookup key = some value) :
    (∃ pair ∈ pairs, key == pair.1 ∧ pair.2 = value) ∨ entries.lookup key = some value := by
  induction pairs generalizing entries with
  | nil => exact .inr found
  | cons pair rest ih =>
    rw [putAll, List.foldl_cons] at found
    obtain ⟨later, member, same, held⟩ | found := ih found
    · exact .inl ⟨later, List.mem_cons_of_mem _ member, same, held⟩
    · rw [lookup_put] at found
      cases same : key == pair.1 with
      | true => exact .inl ⟨pair, List.mem_cons_self, same, by simpa [same] using found⟩
      | false => exact .inr (by simpa [same] using found)

/-- After one value is entered under several keys it is found under each of them, and under every
other key under which it was found before. -/
theorem lookup_putAll_const {entries : Table κ α} {keys : List κ} {key : κ} {value : α}
    (held : key ∈ keys ∨ entries.lookup key = some value) :
    (putAll entries (keys.map fun key => (key, value))).lookup key = some value := by
  induction keys generalizing entries with
  | nil => simpa [putAll] using held
  | cons first rest ih =>
    rw [List.map_cons, putAll, List.foldl_cons]
    refine ih ?_
    rw [lookup_put]
    obtain member | before := held
    · obtain rfl | later := List.mem_cons.1 member
      · simp
      · exact .inl later
    · right
      split
      · rfl
      · exact before

end Equiv

/-! ### Keys -/

section Keys

variable [EquivBEq κ]

/-- The same is found under keys that are the same. -/
theorem lookup_congr (entries : Table κ α) {key other : κ} (same : (key == other) = true) :
    entries.lookup key = entries.lookup other := by
  induction entries with
  | nil => rfl
  | cons entry rest ih =>
    rw [List.lookup_cons, List.lookup_cons, BEq.congr_left same, ih]

/-- A key is found after one was entered if it is that one, or was found before. -/
theorem has_put (entries : Table κ α) (key other : κ) (value : α) :
    (put entries key value).has other = (other == key || entries.has other) := by
  unfold has
  rw [lookup_put]
  cases other == key <;> rfl

/-- Each key of the table is entered once. -/
def Distinct (entries : Table κ α) : Prop :=
  entries.keys.Pairwise fun first second => (first == second) = false

/-- Without its first entry a table does not hold the key of that entry. -/
theorem Distinct.lookup_tail {entry : κ × α} {rest : Table κ α} (distinct : Distinct (entry :: rest))
    {key : κ} (same : (key == entry.1) = true) : rest.lookup key = none := by
  have apart : ∀ other ∈ rest.keys, (entry.1 == other) = false := (List.pairwise_cons.1 distinct).1
  rw [lookup_congr rest same]
  by_contra found
  obtain ⟨value, held⟩ := Option.ne_none_iff_exists'.1 found
  obtain ⟨other, alike, inside⟩ := exists_mem_of_lookup held
  have never := apart other (List.mem_map_of_mem inside)
  rw [alike] at never
  cases never

/-- What is entered in a table with distinct keys is found. -/
theorem Distinct.lookup_of_mem {entries : Table κ α} (distinct : Distinct entries) {entry : κ × α}
    (member : entry ∈ entries) : entries.lookup entry.1 = some entry.2 := by
  induction entries with
  | nil => cases member
  | cons first rest ih =>
    have later : Distinct rest := (List.pairwise_cons.1 distinct).2
    obtain rfl | inside := List.mem_cons.1 member
    · rw [List.lookup_cons, BEq.rfl]
    · have found := ih later inside
      rw [List.lookup_cons]
      cases same : entry.1 == first.1 with
      | false => exact found
      | true =>
        rw [distinct.lookup_tail same] at found
        cases found

/-- What is found in a table with distinct keys is what is entered. -/
theorem Distinct.lookup_eq_some_iff {entries : Table κ α} (distinct : Distinct entries) {key : κ}
    {value : α} : entries.lookup key = some value ↔
      ∃ other, (key == other) = true ∧ (other, value) ∈ entries := by
  constructor
  · exact exists_mem_of_lookup
  · rintro ⟨other, same, member⟩
    rw [lookup_congr entries same]
    exact distinct.lookup_of_mem member

/-- Keys that are distinct are so in any order. -/
theorem Distinct.of_perm {entries other : Table κ α} (distinct : Distinct entries)
    (same : other.Perm entries) : Distinct other := by
  have keys_ : (keys other).Perm (keys entries) := same.map Prod.fst
  refine (keys_.pairwise_iff ?_).2 distinct
  intro first second apart
  rwa [BEq.comm]

/-- The order of a table with distinct keys does not matter to what is found in it. -/
theorem Distinct.lookup_of_perm {entries other : Table κ α} (distinct : Distinct entries)
    (same : other.Perm entries) (key : κ) : other.lookup key = entries.lookup key := by
  refine Option.ext fun value => ?_
  rw [(distinct.of_perm same).lookup_eq_some_iff, distinct.lookup_eq_some_iff]
  simp only [same.mem_iff]

end Keys

/-! ### What is kept of a table -/

section Lawful

variable [LawfulBEq κ]

/-- Under a key that is kept the same is found in what is kept. -/
theorem lookup_filter (test : κ → Bool) {key : κ} (kept : test key = true)
    (entries : Table κ α) :
    (entries.filter fun entry => test entry.1).lookup key = entries.lookup key := by
  induction entries with
  | nil => rfl
  | cons entry rest ih =>
    obtain ⟨first, held⟩ := entry
    by_cases same : key = first
    · subst same
      simp [kept]
    · have apart : (key == first) = false := by simpa using same
      rw [List.lookup_cons, apart, List.filter_cons]
      split
      · rw [List.lookup_cons, apart]
        exact ih
      · exact ih

/-- Entering a value under a key that is kept is seen in what is kept. -/
theorem filter_put (test : κ → Bool) {key : κ} (kept : test key = true)
    (entries : Table κ α) (value : α) :
    (put entries key value).filter (fun entry => test entry.1) =
      put (entries.filter fun entry => test entry.1) key value := by
  induction entries with
  | nil => simp [put, kept]
  | cons entry rest ih =>
    obtain ⟨first, held⟩ := entry
    by_cases same : key = first
    · subst same
      simp [put, kept]
    · by_cases inside : test first = true
      · simp [put, same, inside, ih]
      · simp [put, same, inside, ih]

/-- Entering a value under a key that is not kept is not seen in what is kept. -/
theorem filter_put_of_not (test : κ → Bool) {key : κ} (dropped : test key = false)
    (entries : Table κ α) (value : α) :
    (put entries key value).filter (fun entry => test entry.1) =
      entries.filter fun entry => test entry.1 := by
  induction entries with
  | nil => simp [put, dropped]
  | cons entry rest ih =>
    obtain ⟨first, held⟩ := entry
    by_cases same : key = first
    · subst same
      simp [put, dropped]
    · simp [put, same, List.filter_cons, ih]

end Lawful

end Blueprint.Table
