import Blueprint.Config.Bundle
import Blueprint.Proofs.Outcome
import Blueprint.Proofs.Table

/-!
# Violations that can be told

A violation shows the value that breaks a rule, or the keys that are not allowed. What may stand in
the way of telling it is an integer of the value that is too long to be written, or that its lists
and maps are nested more deeply than there is room for.
-/
namespace Blueprint

namespace Value

/-- An obstacle is met in a value of a depth: it holds an integer that is too long, or is deeper
than there is room for. -/
def Obstacle.IsMet (room depth : Nat) (writable : Bool) : Obstacle → Prop
  | tooLong => writable = false
  | tooDeep => room < depth

/-- An obstacle that is met in a part is met in what is deeper and can be written only with the
part. -/
theorem Obstacle.IsMet.mono {obstacle : Obstacle} {room depth deeper : Nat} {part whole : Bool}
    (met : obstacle.IsMet room depth part) (below : depth ≤ deeper)
    (parts : whole = true → part = true) : obstacle.IsMet room deeper whole := by
  cases obstacle with
  | tooLong =>
    have unwritable : part = false := met
    show whole = false
    rw [Bool.eq_false_iff]
    intro writable
    rw [parts writable] at unwritable
    cases unwritable
  | tooDeep => exact Nat.lt_of_lt_of_le met below

/-- An obstacle that is met inside is met one level further out with room for one level more. -/
theorem Obstacle.IsMet.succ {obstacle : Obstacle} {room depth : Nat} {writable : Bool}
    (met : obstacle.IsMet room depth writable) : obstacle.IsMet (room + 1) (depth + 1) writable := by
  cases obstacle with
  | tooLong => exact met
  | tooDeep => exact Nat.succ_lt_succ met

/-- Every value has a depth. -/
theorem depth_pos (value : Value) : 0 < value.depth := by
  cases value <;> simp [depth]

variable {room : Nat} {obstacle : Obstacle}

/-- What stands in the way of showing a key is met in it. -/
theorem isMet_of_keyObstacle? {key : Key} (stands : keyObstacle? room key = some obstacle) :
    obstacle.IsMet room 1 (isKeyWritable key) := by
  unfold keyObstacle? at stands
  split at stands
  · cases stands
    exact Nat.one_pos
  · split at stands
    · cases stands
    · rename_i unwritable
      cases stands
      exact (Bool.not_eq_true _).mp unwritable

mutual

/-- What stands in the way of showing a value is met in it. -/
theorem isMet_of_obstacle? (room : Nat) (value : Value)
    (stands : value.obstacle? room = some obstacle) :
    obstacle.IsMet room value.depth value.isWritable := by
  cases room with
  | zero =>
    unfold obstacle? at stands
    cases stands
    exact value.depth_pos
  | succ room =>
    cases value with
    | int n =>
      unfold obstacle? at stands
      dsimp only at stands
      split at stands
      · cases stands
      · rename_i long
        cases stands
        exact (Bool.not_eq_true _).mp long
    | list items => exact (isMet_of_itemsObstacle? room items (by simpa [obstacle?] using stands)).succ
    | dict entries =>
      exact (isMet_of_entriesObstacle? room entries (by simpa [obstacle?] using stands)).succ
    | _ => simp [obstacle?] at stands
termination_by structural value

/-- What stands in the way of showing items is met in them. -/
theorem isMet_of_itemsObstacle? (room : Nat) (items : List Value)
    (stands : itemsObstacle? room items = some obstacle) :
    obstacle.IsMet room (itemsDepth items) (areWritable items) := by
  cases items with
  | nil => cases stands
  | cons item rest =>
    rw [itemsObstacle?, Option.or_eq_some_iff] at stands
    obtain own | ⟨_, others⟩ := stands
    · refine (isMet_of_obstacle? room item own).mono (Nat.le_max_left _ _) fun writable => ?_
      exact (Bool.and_eq_true_iff.1 writable).1
    · refine (isMet_of_itemsObstacle? room rest others).mono (Nat.le_max_right _ _) fun writable => ?_
      exact (Bool.and_eq_true_iff.1 writable).2
termination_by structural items

/-- What stands in the way of showing entries is met in them. -/
theorem isMet_of_entriesObstacle? (room : Nat) (entries : List (Key × Value))
    (stands : entriesObstacle? room entries = some obstacle) :
    obstacle.IsMet room (entriesDepth entries) (areEntriesWritable entries) := by
  cases entries with
  | nil => cases stands
  | cons entry rest =>
    obtain ⟨key, value⟩ := entry
    have parts : areEntriesWritable ((key, value) :: rest) = true →
        (isKeyWritable key = true ∧ value.isWritable = true) ∧ areEntriesWritable rest = true := by
      intro writable
      rwa [areEntriesWritable, Bool.and_eq_true, Bool.and_eq_true] at writable
    rw [entriesObstacle?, Option.or_eq_some_iff, Option.or_eq_some_iff] at stands
    rw [entriesDepth]
    obtain first | ⟨_, own | ⟨_, others⟩⟩ := stands
    · exact (isMet_of_keyObstacle? first).mono (by omega) fun writable => (parts writable).1.1
    · exact (isMet_of_obstacle? room value own).mono (by omega) fun writable => (parts writable).1.2
    · exact (isMet_of_entriesObstacle? room rest others).mono (by omega)
        fun writable => (parts writable).2
termination_by structural entries

end

/-- A value is not shown because of an obstacle that is met in it. -/
theorem isMet_of_shown? {value : Value} (failed : value.shown? room = .error obstacle) :
    obstacle.IsMet room value.depth value.isWritable := by
  unfold shown? at failed
  split at failed
  · cases failed
  · rename_i stands
    cases failed
    exact isMet_of_obstacle? room value stands

/-- A key is not shown because of an obstacle that is met in it. -/
theorem isMet_of_shownKey? {key : Key} (failed : shownKey? room key = .error obstacle) :
    obstacle.IsMet room 1 (isKeyWritable key) := by
  unfold shownKey? at failed
  split at failed
  · cases failed
  · rename_i stands
    cases failed
    exact isMet_of_keyObstacle? stands

/-- The keys and the values of a map that can be written can be written. -/
theorem isKeyWritable_of_mem {entries : List (Key × Value)}
    (writable : areEntriesWritable entries = true) {entry : Key × Value}
    (member : entry ∈ entries) : isKeyWritable entry.1 = true ∧ entry.2.isWritable = true := by
  induction entries with
  | nil => cases member
  | cons first rest ih =>
    rw [areEntriesWritable, Bool.and_eq_true, Bool.and_eq_true] at writable
    obtain ⟨own, others⟩ := writable
    obtain rfl | inside := List.mem_cons.1 member
    · exact own
    · exact ih others inside

/-- The values of a map are no deeper than its entries. -/
theorem depth_le_of_mem_entries {entries : List (Key × Value)} {entry : Key × Value}
    (member : entry ∈ entries) : entry.2.depth ≤ entriesDepth entries := by
  induction entries with
  | nil => cases member
  | cons first rest ih =>
    obtain ⟨key, value⟩ := first
    rw [entriesDepth]
    obtain rfl | inside := List.mem_cons.1 member
    · show value.depth ≤ _
      omega
    · have below := ih inside
      omega

/-- The items of a list that can be written can be written. -/
theorem isWritable_of_mem {items : List Value} (writable : areWritable items = true)
    {item : Value} (member : item ∈ items) : item.isWritable = true := by
  induction items with
  | nil => cases member
  | cons first rest ih =>
    rw [areWritable, Bool.and_eq_true] at writable
    obtain ⟨own, others⟩ := writable
    obtain rfl | inside := List.mem_cons.1 member
    · exact own
    · exact ih others inside

/-- The items of a list are no deeper than all of them. -/
theorem depth_le_of_mem_items {items : List Value} {item : Value} (member : item ∈ items) :
    item.depth ≤ itemsDepth items := by
  induction items with
  | nil => cases member
  | cons first rest ih =>
    rw [itemsDepth]
    obtain rfl | inside := List.mem_cons.1 member
    · exact Nat.le_max_left _ _
    · exact Nat.le_trans (ih inside) (Nat.le_max_right _ _)

end Value

namespace Config

open Value

/-- What stands in the way of telling a violation is met in a value. A list of texts, as those among
which a value has to be, has depth two. -/
def Violation.IsToldBut (value : Value) (violation : Violation) : Prop :=
  ∀ room obstacle, violation.message room = .error obstacle →
    obstacle.IsMet room (max 2 value.depth) value.isWritable

/-- What stands in the way of a violation that shows the value is met in it. -/
theorem isToldBut_showing (value : Value) (what : String) :
    (showing value what).IsToldBut value := by
  intro room obstacle failed
  exact (isMet_of_shown? (map_eq_error.1 failed)).mono (Nat.le_max_right _ _) id

/-- Texts can be written. -/
theorem areWritable_map_text (texts : List String) : areWritable (texts.map .text) = true := by
  induction texts with
  | nil => rfl
  | cons first rest ih => exact ih

/-- Texts have no parts. -/
theorem itemsDepth_map_text_le (texts : List String) : itemsDepth (texts.map .text) ≤ 1 := by
  induction texts with
  | nil => exact Nat.zero_le 1
  | cons first rest ih => exact Nat.max_le.2 ⟨Nat.le_refl 1, ih⟩

/-- What stands in the way of telling that a value is none of the choices is met in it. -/
theorem isToldBut_notAmong (choices : List String) (value : Value) :
    (notAmong choices value).IsToldBut value := by
  intro room obstacle failed
  obtain own | ⟨shown, _, later⟩ := bind_eq_error.1 failed
  · exact (isMet_of_shown? own).mono (Nat.le_max_right _ _) id
  · obtain others | ⟨_, _, never⟩ := bind_eq_error.1 later
    · refine (isMet_of_shown? others).mono ?_ fun _ => areWritable_map_text choices
      exact Nat.le_trans (Nat.succ_le_succ (itemsDepth_map_text_le choices)) (Nat.le_max_left _ _)
    · cases never

/-- What stands in the way of telling keys that are not allowed is met in their map. -/
theorem isToldBut_extraMessage (rules : Schema) (entries : Dict) :
    (Violation.here (extraMessage (extraKeys rules entries))).IsToldBut (.dict entries) := by
  intro room obstacle failed
  obtain unshown | ⟨_, _, never⟩ := bind_eq_error.1 failed
  · obtain ⟨key, member, fails⟩ := exists_of_mapM_eq_error unshown
    have listed := (List.mem_filter.1 (List.mem_mergeSort.1 member)).1
    obtain ⟨entry, there, rfl⟩ := List.mem_map.1 listed
    refine (isMet_of_shownKey? fails).mono (by omega) fun writable => ?_
    exact (isKeyWritable_of_mem writable there).1
  · cases never

/-- What stands in the way of violations of a part is met in the whole. -/
theorem isToldBut_within (whole : Value) {part : Value} {found : List Violation}
    (told : ∀ violation ∈ found, violation.IsToldBut part) (below : part.depth ≤ whole.depth)
    (writable : whole.isWritable = true → part.isWritable = true) (step : Step) :
    ∀ violation ∈ found.map (Violation.within step), violation.IsToldBut whole := by
  intro violation member room obstacle failed
  obtain ⟨inner, inside, rfl⟩ := List.mem_map.1 member
  exact (told inner inside room obstacle failed).mono (by omega) writable

mutual

/-- What stands in the way of telling the violations of a rule by a value is met in the value. -/
theorem Rule.isToldBut (rules : Schema) (rule : Rule) (value : Value) :
    ∀ violation ∈ rule.check rules value, violation.IsToldBut value := by
  intro violation member
  cases rule with
  | type name =>
    unfold Rule.check at member
    split at member
    · cases member
    · obtain rfl := List.mem_singleton.1 member
      exact isToldBut_showing value _
  | closed =>
    unfold Rule.check at member
    split at member
    · rename_i entries
      split at member
      · cases member
      · obtain rfl := List.mem_singleton.1 member
        exact isToldBut_extraMessage rules entries
    · cases member
  | required names =>
    unfold Rule.check at member
    split at member
    · rename_i entries
      obtain ⟨name, _, found⟩ := List.mem_filterMap.1 member
      split at found
      · cases found
      · cases found
        intro room obstacle failed
        exact (isMet_of_shownKey? (map_eq_error.1 failed)).mono (by omega) fun _ => rfl
    · cases member
  | properties members =>
    unfold Rule.check at member
    split at member
    · rename_i entries
      exact isToldBut_members members entries violation member
    · cases member
  | items inner =>
    unfold Rule.check at member
    split at member
    · rename_i items
      obtain ⟨⟨item, n⟩, inside, found⟩ := List.mem_flatMap.1 member
      have there := List.fst_mem_of_mem_zipIdx inside
      exact isToldBut_within (.list items) (isToldBut_rules inner inner item)
        (Nat.le_succ_of_le (depth_le_of_mem_items there))
        (fun writable => isWritable_of_mem writable there) _ violation found
    · cases member
  | enum choices =>
    unfold Rule.check at member
    split at member
    · split at member
      · cases member
      · obtain rfl := List.mem_singleton.1 member
        exact isToldBut_notAmong choices value
    · obtain rfl := List.mem_singleton.1 member
      exact isToldBut_notAmong choices value
  | nonEmpty =>
    unfold Rule.check at member
    split at member
    · obtain rfl := List.mem_singleton.1 member
      exact isToldBut_showing value _
    · cases member
  | minimum bound =>
    unfold Rule.check at member
    split at member
    · obtain rfl := List.mem_singleton.1 member
      exact isToldBut_showing value _
    · cases member
termination_by structural rule

/-- What stands in the way of telling the violations of rules by a value is met in the value. -/
theorem isToldBut_rules (rules todo : Schema) (value : Value) :
    ∀ violation ∈ checkRules rules todo value, violation.IsToldBut value := by
  cases todo with
  | nil =>
    intro violation never
    cases never
  | cons rule rest =>
    intro violation member
    rw [checkRules] at member
    obtain first | later := List.mem_append.1 member
    · exact Rule.isToldBut rules rule value violation first
    · exact isToldBut_rules rules rest value violation later
termination_by structural todo

/-- What stands in the way of telling the violations by the members of a map is met in the map. -/
theorem isToldBut_members (members : List (String × List Rule)) (entries : Dict) :
    ∀ violation ∈ checkMembers members entries, violation.IsToldBut (.dict entries) := by
  cases members with
  | nil =>
    intro violation never
    cases never
  | cons pair rest =>
    obtain ⟨name, inner⟩ := pair
    intro violation member
    rw [checkMembers] at member
    obtain first | later := List.mem_append.1 member
    · cases found : entries.lookup (Key.text name) with
      | none =>
        rw [found] at first
        cases first
      | some value =>
        rw [found] at first
        obtain ⟨key, _, inside⟩ := Table.exists_mem_of_lookup found
        exact isToldBut_within (.dict entries) (isToldBut_rules inner inner value)
          (Nat.le_succ_of_le (depth_le_of_mem_entries inside))
          (fun writable => (isKeyWritable_of_mem writable inside).2) _ violation first
    · exact isToldBut_members rest entries violation later
termination_by structural members

end

end Config

end Blueprint
