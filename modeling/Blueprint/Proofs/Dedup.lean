import Mathlib.Data.List.Induction
import Mathlib.Data.List.Nodup

/-!
# Items without repetition

`List.eraseDups` keeps the first occurrence of each item. So it can be read from the left: the next
item is a further one or it is there already.
-/
namespace Blueprint

variable {α : Type u} [BEq α] [LawfulBEq α] {items more : List α} {item : α}

/-- An item that is there already is no further one. -/
theorem eraseDups_append_cons_of_mem (member : item ∈ items) :
    (items ++ item :: more).eraseDups = (items ++ more).eraseDups := by
  have same : (item :: more).removeAll items = more.removeAll items := by
    simp [List.removeAll, member]
  rw [List.eraseDups_append, List.eraseDups_append, same]

/-- An item that is not there yet is the last one. -/
theorem eraseDups_concat_of_not_mem (absent : item ∉ items) :
    (items ++ [item]).eraseDups = items.eraseDups ++ [item] := by
  have same : [item].removeAll items = [item] := by simp [List.removeAll, absent]
  rw [List.eraseDups_append, same, List.eraseDups_cons]
  simp

/-- Each item is left once. -/
theorem nodup_eraseDups (items : List α) : items.eraseDups.Nodup := by
  induction items using List.reverseRecOn with
  | nil => exact List.nodup_nil
  | append_singleton items item ih =>
    by_cases member : item ∈ items
    · rw [eraseDups_append_cons_of_mem member, List.append_nil]
      exact ih
    · rw [eraseDups_concat_of_not_mem member]
      refine List.nodup_append.2 ⟨ih, List.nodup_singleton item, ?_⟩
      rintro other there _ last rfl
      rw [List.mem_singleton.1 last] at there
      exact member (List.mem_eraseDups.1 there)

/-- Distinct items are all left. -/
theorem eraseDups_eq_self (distinct : items.Nodup) : items.eraseDups = items := by
  induction items using List.reverseRecOn with
  | nil => rfl
  | append_singleton items item ih =>
    obtain ⟨before, _, apart⟩ := List.nodup_append.1 distinct
    have absent : item ∉ items :=
      fun there => apart item there item (List.mem_singleton_self item) rfl
    rw [eraseDups_concat_of_not_mem absent, ih before]

/-- Of distinct items and further distinct ones the further ones are left that are not there yet. -/
theorem eraseDups_append_of_nodup [DecidableEq α] (distinct : items.Nodup) (further : more.Nodup) :
    (items ++ more).eraseDups = items ++ more.filter (fun item => item ∉ items) := by
  have fresh : more.removeAll items = more.filter (fun item => item ∉ items) := by
    refine List.filter_congr fun item _ => ?_
    rw [List.elem_eq_contains, List.contains_eq_mem]
    simp
  rw [List.eraseDups_append, eraseDups_eq_self distinct, fresh, eraseDups_eq_self (further.filter _)]

/-- Repetitions among the first items can be left out first. -/
theorem eraseDups_eraseDups_append (items more : List α) :
    (items.eraseDups ++ more).eraseDups = (items ++ more).eraseDups := by
  have same : more.removeAll items.eraseDups = more.removeAll items := by
    refine List.filter_congr fun item _ => ?_
    rw [Bool.eq_iff_iff]
    simp [List.mem_eraseDups]
  rw [List.eraseDups_append, List.eraseDups_append, same, eraseDups_eq_self (nodup_eraseDups items)]

end Blueprint
