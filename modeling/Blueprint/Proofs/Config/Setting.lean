import Blueprint.Proofs.Config.Assignment
import Blueprint.Proofs.Config.Failure
import Blueprint.Proofs.Config.Placement
import Blueprint.Proofs.Value.Location

/-!
# What setting a value changes

A value that is set at a path stands there afterwards, and all other locations are left, with the
keys of each map in order and a new one last. A value that cannot be set changes nothing that was
there; on the way of the path empty maps and lists may have been made. Both hold as long as the path
leads through no container that stands at several places.
-/
namespace Blueprint.Config

open Value (Branch Location)

/-! ### Values that are set -/

/-- The location to which keys lead. -/
abbrev wayOf (names : List String) : Location := names.map fun name => .key (.text name)

/-- The branch to which the last segment of a path leads in a container with some items. -/
def leafOf (last : Segment) (items : List Value) : Branch :=
  match last with
  | .key name => .key (.text name)
  | .index n => .item n
  | .append => .item items.length

/-- What stands in a container after a value was set by the last segment of a path, where some items
were before. -/
def Fills (last : Segment) (value : Value) (items : List Value) (after : Option Value) : Prop :=
  match last with
  | .key name => (after.bind fun container => container.part (.key (.text name))) = some value
  | .index n => ∃ more, after = some (.list more) ∧ more.length = max items.length (n + 1) ∧
      more[n]? = some value ∧ (∀ i < items.length, i ≠ n → more[i]? = items[i]?) ∧
      ∀ i < n, items.length ≤ i → more[i]? = some .null
  | .append => after = some (.list (items ++ [value]))

/-- A branch is an item that was missing before the index of a value. -/
def IsGap (last : Segment) (items : List Value) (branch : Branch) : Prop :=
  ∃ n i, last = .index n ∧ branch = .item i ∧ items.length ≤ i ∧ i < n

/-- A value is set where keys and a last segment lead, and nothing else is changed. -/
structure Placed (names : List String) (last : Segment) (value root after : Value) : Prop where
  /-- The value stands where it was set. -/
  filled : Fills last value (Value.itemsOf (root.locate (wayOf names))) (after.locate (wayOf names))
  /-- A location that is not on the path, under it or above it is left, gaps in a list aside. -/
  frame : ∀ other,
    ¬ wayOf names ++ [leafOf last (Value.itemsOf (root.locate (wayOf names)))] <+: other →
    ¬ other <+: wayOf names ++ [leafOf last (Value.itemsOf (root.locate (wayOf names)))] →
    after.locate other = root.locate other ∨
      ∃ branch, IsGap last (Value.itemsOf (root.locate (wayOf names))) branch ∧
        other = wayOf names ++ [branch]
  /-- Each map on the path has its keys in order, and a new one last. -/
  order : ∀ front name back,
    segmentsOf names ++ [last] = segmentsOf front ++ .key name :: back →
    Value.keysOf (after.locate (wayOf front)) =
      if (root.locate (wayOf front ++ [.key (.text name)])).isSome
      then Value.keysOf (root.locate (wayOf front))
      else Value.keysOf (root.locate (wayOf front)) ++ [.text name]

/-- What stands in a list where a value was set. -/
theorem getElem?_setItem (items : List Value) (n : Nat) (value : Value) (i : Nat) :
    (setItem items n value)[i]? =
      if i = n then some value else if i < items.length then items[i]?
      else if i < n then some .null else none := by
  unfold setItem
  rw [List.getElem?_set]
  split
  · rename_i same
    subst same
    have inside : n < (items ++ List.replicate (n + 1 - items.length) Value.null).length := by
      rw [List.length_append, List.length_replicate]
      omega
    rw [if_pos inside, if_pos rfl]
  · rename_i apart
    rw [if_neg (Ne.symm apart)]
    split
    · rename_i inside
      exact List.getElem?_append_left inside
    · rename_i outside
      rw [List.getElem?_append_right (by omega), List.getElem?_replicate]
      by_cases early : i < n
      · rw [if_pos early, if_pos (by omega)]
      · rw [if_neg early, if_neg (by omega)]

/-- A list with a value set has the length that it needs. -/
theorem length_setItem (items : List Value) (n : Nat) (value : Value) :
    (setItem items n value).length = max items.length (n + 1) := by
  unfold setItem
  simp only [List.length_set, List.length_append, List.length_replicate]
  omega

/-- Another item of a list where a value was set is left, or it is a gap before the value. -/
theorem locate_setItem (items : List Value) (value : Value) {n i : Nat} (apart : i ≠ n)
    (rest : Location) :
    (Value.list (setItem items n value)).locate (.item i :: rest) =
        (Value.list items).locate (.item i :: rest) ∨
      (rest = [] ∧ items.length ≤ i ∧ i < n) := by
  rw [Value.locate_cons, Value.locate_cons]
  show ((setItem items n value)[i]?.bind _) = (items[i]?.bind _) ∨ _
  rw [getElem?_setItem, if_neg apart]
  by_cases inside : i < items.length
  · rw [if_pos inside]
    exact .inl rfl
  · rw [if_neg inside, List.getElem?_eq_none (Nat.not_lt.1 inside)]
    by_cases early : i < n
    · rw [if_pos early]
      cases rest with
      | nil => exact .inr ⟨rfl, Nat.not_lt.1 inside, early⟩
      | cons next rest => cases next <;> exact .inl rfl
    · rw [if_neg early]
      exact .inl rfl

/-- The items of a list to which a value was appended are left. -/
theorem locate_append_singleton (items : List Value) (value : Value) {i : Nat}
    (apart : i ≠ items.length) (rest : Location) :
    (Value.list (items ++ [value])).locate (.item i :: rest) =
      (Value.list items).locate (.item i :: rest) := by
  have same : (items ++ [value])[i]? = items[i]? := by
    by_cases inside : i < items.length
    · exact List.getElem?_append_left inside
    · rw [List.getElem?_eq_none (Nat.not_lt.1 inside), List.getElem?_eq_none]
      rw [List.length_append, List.length_singleton]
      omega
  exact congrArg (fun found => found.bind fun inner => inner.locate rest) same

/-- The last segment is a key of the path only if no keys come before it. -/
theorem eq_nil_of_singleton {last : Segment} {front : List String} {name : String} {back : Path}
    (whole : [last] = segmentsOf front ++ .key name :: back) : front = [] ∧ last = .key name := by
  cases front with
  | nil => exact ⟨rfl, (List.cons.inj whole).1⟩
  | cons first front =>
    have short := congrArg List.length whole
    simp at short

/-- A value that is set under a key. -/
theorem placed_put (entries : Dict) (name : String) (value : Value) :
    Placed [] (.key name) value (.dict entries) (.dict (entries.put (.text name) value)) where
  filled := Table.lookup_put_self entries (Key.text name) value
  frame other below above := by
    cases other with
    | nil => exact absurd List.nil_prefix above
    | cons branch rest =>
      refine .inl (Value.locate_put_of_ne ?_ rest)
      rintro rfl
      exact below (List.cons_prefix_cons.2 ⟨rfl, List.nil_prefix⟩)
  order front name' back whole := by
    obtain ⟨rfl, same⟩ := eq_nil_of_singleton whole
    cases same
    exact Value.isSome_locate_text.symm ▸ Value.keysOf_put

/-- A value that is set at an index. -/
theorem placed_setItem (items : List Value) (n : Nat) (value : Value) :
    Placed [] (.index n) value (.list items) (.list (setItem items n value)) where
  filled := by
    refine ⟨_, rfl, length_setItem items n value, ?_, fun i inside apart => ?_,
      fun i early outside => ?_⟩
    · rw [getElem?_setItem, if_pos rfl]
    · have inside_ : i < items.length := inside
      rw [getElem?_setItem, if_neg apart, if_pos inside_]
      rfl
    · have outside_ : ¬ i < items.length := Nat.not_lt.2 outside
      rw [getElem?_setItem, if_neg (Nat.ne_of_lt early), if_neg outside_, if_pos early]
  frame other below above := by
    cases other with
    | nil => exact absurd List.nil_prefix above
    | cons branch rest =>
      cases branch with
      | key key => exact .inl rfl
      | item i =>
        have apart : i ≠ n := by
          rintro rfl
          exact below (List.cons_prefix_cons.2 ⟨rfl, List.nil_prefix⟩)
        rcases locate_setItem items value apart rest with same | ⟨rfl, outside, early⟩
        · exact .inl same
        · exact .inr ⟨.item i, ⟨n, i, rfl, rfl, outside, early⟩, rfl⟩
  order front name back whole := by
    cases (eq_nil_of_singleton whole).2

/-- A value that is appended. -/
theorem placed_append (items : List Value) (value : Value) :
    Placed [] .append value (.list items) (.list (items ++ [value])) where
  filled := rfl
  frame other below above := by
    cases other with
    | nil => exact absurd List.nil_prefix above
    | cons branch rest =>
      cases branch with
      | key key => exact .inl rfl
      | item i =>
        have apart : i ≠ items.length := by
          rintro rfl
          exact below (List.cons_prefix_cons.2 ⟨rfl, List.nil_prefix⟩)
        exact .inl (locate_append_singleton items value apart rest)
  order front name back whole := by
    cases (eq_nil_of_singleton whole).2

/-- A value that is set by a segment alone. -/
theorem placed_setLast {last : Segment} {value root after : Value}
    (done : setLast last value root = .ok after) : Placed [] last value root after := by
  cases last with
  | key name =>
    cases root with
    | dict entries =>
      obtain rfl := Except.ok.inj done
      exact placed_put entries name value
    | _ => cases done
  | index n =>
    cases root with
    | list items =>
      obtain rfl := Except.ok.inj done
      exact placed_setItem items n value
    | _ => cases done
  | append =>
    cases root with
    | list items =>
      obtain rfl := Except.ok.inj done
      exact placed_append items value
    | _ => cases done

/-- What a segment leads into is empty. -/
theorem Segment.container_empty (segment : Segment) :
    segment.container = .dict [] ∨ segment.container = .list [] := by
  cases segment with
  | key => exact .inl rfl
  | index | append => exact .inr rfl

section Held

variable {found : Option Value} {empty : Value} (none_ : empty = .dict [] ∨ empty = .list [])

include none_

/-- An empty container in place of nothing holds nothing more. -/
theorem locate_getD {location : Location} (some_ : location ≠ []) :
    (found.getD empty).locate location = found.bind fun inner => inner.locate location := by
  cases found with
  | none =>
    obtain ⟨branch, rest, rfl⟩ := List.exists_cons_of_ne_nil some_
    exact Value.locate_cons_of_empty none_ branch rest
  | some inner => rfl

/-- It has no items. -/
theorem itemsOf_locate_getD (location : Location) :
    Value.itemsOf ((found.getD empty).locate location) =
      Value.itemsOf (found.bind fun inner => inner.locate location) := by
  cases location with
  | nil =>
    cases found with
    | none => obtain rfl | rfl := none_ <;> rfl
    | some inner => rfl
  | cons branch rest => rw [locate_getD none_ (List.cons_ne_nil branch rest)]

/-- It has no keys. -/
theorem keysOf_locate_getD (location : Location) :
    Value.keysOf ((found.getD empty).locate location) =
      Value.keysOf (found.bind fun inner => inner.locate location) := by
  cases location with
  | nil =>
    cases found with
    | none => obtain rfl | rfl := none_ <;> rfl
    | some inner => rfl
  | cons branch rest => rw [locate_getD none_ (List.cons_ne_nil branch rest)]

end Held

/-- What is placed in the value under a key, or in an empty container made for it, is placed in the
map. -/
theorem Placed.cons {names : List String} {last : Segment} {value made below : Value}
    {entries : Dict} {name : String} (empty : made = .dict [] ∨ made = .list [])
    (inner : Placed names last value ((entries.lookup (Key.text name)).getD made) below) :
    Placed (name :: names) last value (.dict entries)
      (.dict (entries.put (.text name) below)) := by
  have leads : ∀ location, (Value.dict entries).locate (.key (.text name) :: location) =
      (entries.lookup (Key.text name)).bind fun held => held.locate location := fun _ => rfl
  have items : Value.itemsOf ((Value.dict entries).locate (wayOf (name :: names))) =
      Value.itemsOf (((entries.lookup (Key.text name)).getD made).locate (wayOf names)) := by
    rw [itemsOf_locate_getD empty, ← leads]
    rfl
  refine ⟨?_, fun other under above => ?_, fun front key back split => ?_⟩
  · rw [items]
    exact (Value.locate_put_self (wayOf names)).symm ▸ inner.filled
  · rw [items] at under above ⊢
    cases other with
    | nil => exact absurd List.nil_prefix above
    | cons branch other =>
      by_cases same : branch = .key (.text name)
      · subst same
        rcases inner.frame other
          (fun prefix_ => under (List.cons_prefix_cons.2 ⟨rfl, prefix_⟩))
          (fun prefix_ => above (List.cons_prefix_cons.2 ⟨rfl, prefix_⟩)) with
          kept | ⟨gap, its, rfl⟩
        · refine .inl ?_
          rw [Value.locate_put_self, kept, leads]
          cases other with
          | nil => exact absurd (List.cons_prefix_cons.2 ⟨rfl, List.nil_prefix⟩) above
          | cons next other => exact locate_getD empty (List.cons_ne_nil next other)
        · exact .inr ⟨gap, its, rfl⟩
      · exact .inl (Value.locate_put_of_ne same other)
  · cases front with
    | nil =>
      obtain ⟨same, -⟩ := List.cons.inj split
      cases same
      exact Value.isSome_locate_text.symm ▸ Value.keysOf_put
    | cons first front =>
      obtain ⟨same, later⟩ := List.cons.inj split
      cases same
      have inside := inner.order front key back later
      rw [keysOf_locate_getD empty, locate_getD empty (by simp), ← leads, ← leads,
        ← Value.locate_put_self] at inside
      exact inside

/-- A value that is set at a path stands there, and nothing else is changed. -/
theorem placed_setPath {names : List String} {last : Segment} {value root after : Value}
    (done : setPath (segmentsOf names ++ [last]) value root = (after, none)) :
    Placed names last value root after := by
  induction names generalizing root after with
  | nil => exact placed_setLast (setPath_singleton.1 done)
  | cons name names ih =>
    obtain ⟨next, rest, way⟩ : ∃ next rest, segmentsOf names ++ [last] = next :: rest :=
      List.exists_cons_of_ne_nil (by simp)
    have whole : segmentsOf (name :: names) ++ [last] = .key name :: next :: rest :=
      congrArg (List.cons (Segment.key name)) way
    rw [whole] at done
    obtain ⟨entries, inner, rfl, below, rfl⟩ := setPath_key_cons done
    rw [← way] at below
    exact .cons next.container_empty (ih below)

/-! ### Values that cannot be set -/

/-- The location to which the keys at the front of a path lead. -/
def frontOf : Path → Location
  | .key name :: rest => .key (.text name) :: frontOf rest
  | _ => []

/-- A container that is made on the way of a path is empty, or holds only the next one. -/
inductive Made : Path → Value → Prop where
  /-- The last one that is made. -/
  | last {path : Path} {made : Value} (empty : made = .dict [] ∨ made = .list []) : Made path made
  /-- One in which the next one is made. -/
  | next {name : String} {rest : Path} {inner : Value} (made : Made rest inner) :
      Made (.key name :: rest) (.dict [(.text name, inner)])

variable {path : Path} {value root after : Value} {fault : Fault}

/-- The last step of a path does not fail in a container that was made for it. -/
theorem setLast_container (segment : Segment) (value : Value) :
    ∃ after, setLast segment value segment.container = .ok after := by
  cases segment <;> exact ⟨_, rfl⟩

/-- A value that cannot be set in a container that was made leaves nothing but containers. -/
theorem made_setPath {segment : Segment} {rest : Path}
    (failed : setPath (segment :: rest) value segment.container = (after, some fault)) :
    Made (segment :: rest) after := by
  induction rest generalizing segment after with
  | nil =>
    obtain ⟨filled, done⟩ := setLast_container segment value
    rw [setPath, done] at failed
    cases failed
  | cons next rest ih =>
    cases segment with
    | key name =>
      simp only [Segment.container, setPath] at failed
      obtain ⟨rfl, fails⟩ := Prod.mk.inj failed
      exact .next (ih (Prod.ext rfl fails))
    | index | append =>
      cases failed
      exact .last (.inr rfl)

/-- A value is empty but for what stands further along a path. -/
def IsBare (way other : Location) (value : Value) : Prop :=
  value = .list [] ∨ ∃ entries, value = .dict entries ∧
    ∀ key ∈ Table.keys entries, other ++ [.key key] <+: way

/-- What is bare is so from further up. -/
theorem IsBare.cons {way other : Location} (bare : IsBare way other value) (branch : Branch) :
    IsBare (branch :: way) (branch :: other) value :=
  bare.imp_right fun ⟨entries, same, each⟩ =>
    ⟨entries, same, fun key member => List.cons_prefix_cons.2 ⟨rfl, each key member⟩⟩

/-- All that stands in a container that was made stands along the path, and is bare. -/
theorem Made.isBare {made found : Value} {other : Location} (isMade : Made path made)
    (held : made.locate other = some found) :
    other <+: frontOf path ∧ IsBare (frontOf path) other found := by
  induction isMade generalizing other with
  | last empty =>
    cases other with
    | nil =>
      cases held
      refine ⟨List.nil_prefix, ?_⟩
      obtain rfl | rfl := empty
      · exact .inr ⟨[], rfl, nofun⟩
      · exact .inl rfl
    | cons branch other =>
      rw [Value.locate_cons_of_empty empty] at held
      cases held
  | next made ih =>
    rename_i name rest inner
    cases other with
    | nil =>
      cases held
      refine ⟨List.nil_prefix, .inr ⟨_, rfl, fun key member => ?_⟩⟩
      obtain rfl := List.mem_singleton.1 member
      exact List.cons_prefix_cons.2 ⟨rfl, List.nil_prefix⟩
    | cons branch other =>
      have same : Value.dict [(.text name, inner)] = .dict (Table.put [] (Key.text name) inner) := rfl
      by_cases onWay : branch = .key (.text name)
      · subst onWay
        rw [same, Value.locate_put_self] at held
        obtain ⟨prefix_, bare⟩ := ih held
        exact ⟨List.cons_prefix_cons.2 ⟨rfl, prefix_⟩, bare.cons _⟩
      · rw [same, Value.locate_put_of_ne onWay, Value.locate_cons_of_empty (.inl rfl)] at held
        cases held

/-- All that was there, if anything was, is left, and empty containers were made along a path at
most. -/
structure Grown (path : Path) (before : Option Value) (after : Value) : Prop where
  /-- What does not stand on the way is the same. -/
  apart : ∀ other, ¬ other <+: frontOf path →
    after.locate other = before.bind fun root => root.locate other
  /-- What stands on the way is the same, or a map with its keys in order and perhaps one more. -/
  kept : ∀ other held, (before.bind fun root => root.locate other) = some held →
    after.locate other = some held ∨
      ∃ entries more, held = .dict entries ∧ after.locate other = some (.dict more) ∧
        (Table.keys more = Table.keys entries ∨ ∃ key,
          Table.keys more = Table.keys entries ++ [key] ∧ other ++ [.key key] <+: frontOf path)
  /-- What is new is empty but for what is new in it. -/
  made : ∀ other held, (before.bind fun root => root.locate other) = none →
    after.locate other = some held → IsBare (frontOf path) other held

namespace Grown

/-- Where nothing changes, nothing is made. -/
theorem refl (path : Path) (root : Value) : Grown path (some root) root :=
  ⟨fun _ _ => rfl, fun _ _ here => .inl here,
    fun _ _ none_ some_ => absurd (none_.symm.trans some_) nofun⟩

/-- Where nothing was, there are only containers that were made. -/
theorem of_made {made : Value} (isMade : Made path made) : Grown path none made := by
  refine ⟨fun other away => ?_, fun _ _ => nofun, fun other held _ there => (isMade.isBare there).2⟩
  by_contra some_
  obtain ⟨held, there⟩ := Option.ne_none_iff_exists'.1 some_
  exact away (isMade.isBare there).1

/-- What is made under a key of a map is made in the map. -/
theorem put {name : String} {rest : Path} {entries : Dict} {inner : Value}
    (grown : Grown rest (entries.lookup (Key.text name)) inner) :
    Grown (.key name :: rest) (some (.dict entries))
      (.dict (Table.put entries (Key.text name) inner)) := by
  refine ⟨fun other away => ?_, fun other held here => ?_, fun other held none_ some_ => ?_⟩
  · cases other with
    | nil => exact absurd List.nil_prefix away
    | cons branch other =>
      by_cases onWay : branch = .key (.text name)
      · subst onWay
        rw [Value.locate_put_self]
        exact grown.apart other fun prefix_ => away (List.cons_prefix_cons.2 ⟨rfl, prefix_⟩)
      · exact Value.locate_put_of_ne onWay other
  · cases other with
    | nil =>
      cases here
      refine .inr ⟨entries, _, rfl, rfl, ?_⟩
      rw [Table.keys_put]
      split
      · exact .inl rfl
      · exact .inr ⟨_, rfl, List.cons_prefix_cons.2 ⟨rfl, List.nil_prefix⟩⟩
    | cons branch other =>
      by_cases onWay : branch = .key (.text name)
      · subst onWay
        rw [Value.locate_put_self]
        refine (grown.kept other held here).imp_right ?_
        rintro ⟨old, more, same, now, keys⟩
        refine ⟨old, more, same, now, keys.imp_right ?_⟩
        rintro ⟨key, longer, prefix_⟩
        exact ⟨key, longer, List.cons_prefix_cons.2 ⟨rfl, prefix_⟩⟩
      · rw [Value.locate_put_of_ne onWay]
        exact .inl here
  · cases other with
    | nil => cases none_
    | cons branch other =>
      by_cases onWay : branch = .key (.text name)
      · subst onWay
        rw [Value.locate_put_self] at some_
        exact (grown.made other held none_ some_).cons _
      · rw [Value.locate_put_of_ne onWay] at some_
        exact absurd (none_.symm.trans some_) nofun

end Grown

/-- A value that cannot be set leaves all that was there, and containers that were made on its way
at most. -/
theorem grown_setPath (failed : setPath path value root = (after, some fault)) :
    Grown path (some root) after := by
  induction path generalizing root after with
  | nil => cases failed
  | cons segment rest ih =>
    cases rest with
    | nil =>
      rw [setPath] at failed
      cases last : setLast segment value root with
      | ok filled =>
        rw [last] at failed
        cases failed
      | error other =>
        rw [last] at failed
        cases failed
        exact .refl _ _
    | cons next rest =>
      cases segment with
      | key name =>
        cases root with
        | dict entries =>
          simp only [setPath] at failed
          obtain ⟨rfl, fails⟩ := Prod.mk.inj failed
          refine .put ?_
          cases found : entries.lookup (Key.text name) with
          | some held =>
            rw [found] at fails
            exact ih (Prod.ext rfl fails)
          | none =>
            rw [found] at fails
            exact .of_made (made_setPath (Prod.ext rfl fails))
        | _ =>
          cases failed
          exact .refl _ _
      | index | append =>
        cases failed
        exact .refl _ _

/-! ### Both outcomes -/

/-- An index or the end of a list is only the last step of a path at which a value is set. -/
theorem exists_names_of_setPath (some_ : path ≠ [])
    (done : setPath path value root = (after, none)) :
    ∃ names last, path = segmentsOf names ++ [last] := by
  induction path generalizing root after with
  | nil => exact absurd rfl some_
  | cons segment rest ih =>
    cases rest with
    | nil => exact ⟨[], segment, rfl⟩
    | cons next rest =>
      cases segment with
      | key name =>
        obtain ⟨entries, inner, _, below, _⟩ := setPath_key_cons done
        obtain ⟨names, last, way⟩ := ih (List.cons_ne_nil _ _) below
        exact ⟨name :: names, last, congrArg (List.cons (Segment.key name)) way⟩
      | index | append => cases done

/-- A value is set at a path, if the path leads through no container that stands at several places,
as it is set in the value of the root. If that succeeds, the value stands at the path, and all else
is as it was. If it fails, this is a configuration error, and all that was there is left, with empty
containers made on the way of the path at most. -/
theorem assign_places (some_ : path ≠ []) {root : Shared} (clear : root.IsClear path)
    (value : Value) :
    (∀ after, setPath path value root.value = (after, none) →
      (root.assign path value).map Shared.value = .ok after ∧
        ∃ names last, path = segmentsOf names ++ [last] ∧
          Placed names last value root.value after) ∧
      ∀ after fault, setPath path value root.value = (after, some fault) →
        root.assign path value = .error fault ∧ fault.IsConfig ∧
          Grown path (some root.value) after := by
  have same := Shared.value_setPath path (Shared.ofValue value) root
  rw [Shared.value_ofValue] at same
  rw [Shared.assign_of_isClear clear]
  refine ⟨fun after done => ⟨?_, ?_⟩, fun after fault failed => ⟨?_, ?_, grown_setPath failed⟩⟩
  · cases made : Shared.setPath path (Shared.ofValue value) root with
    | ok shared =>
      rw [made, done] at same
      exact congrArg Except.ok (Prod.mk.inj same).1.symm
    | error fault =>
      rw [made, done] at same
      cases same
  · obtain ⟨names, last, rfl⟩ := exists_names_of_setPath some_ done
    exact ⟨names, last, rfl, placed_setPath done⟩
  · cases made : Shared.setPath path (Shared.ofValue value) root with
    | ok shared =>
      rw [made, failed] at same
      cases same
    | error other =>
      rw [made, failed] at same
      cases same
      rfl
  · exact isConfig_of_setPath (by rw [failed])

/-- A map with a list that stands at one place, and with a map that stands at two. -/
def linkedRoot : Shared :=
  let linked := Shared.map (some 0) [(.text "k", .ofValue (.int 1))]
  .map none [(.text "a", .ofValue (.list [.int 7])), (.text "x", linked), (.text "y", linked)]

/-- A value set beyond the end of the list stands at its index, after a gap. -/
theorem assign_places_beyond :
    [Segment.key "a", .index 2] ≠ [] ∧ linkedRoot.IsClear [.key "a", .index 2] ∧
      ∃ after, (linkedRoot.assign [.key "a", .index 2] (.int 5)).map Shared.value = .ok after ∧
        after.locate [.key (.text "a"), .item 2] = some (.int 5) ∧
        after.locate [.key (.text "a"), .item 1] = some .null ∧
        after.locate [.key (.text "a"), .item 0] = some (.int 7) ∧
        after.locate [.key (.text "y"), .key (.text "k")] = some (.int 1) := by
  have some_ : [Segment.key "a", .index 2] ≠ [] := List.cons_ne_nil _ _
  have clear : linkedRoot.IsClear [.key "a", .index 2] := by decide
  obtain ⟨done, _⟩ := (assign_places some_ clear (.int 5)).1 _ rfl
  exact ⟨some_, clear, _, done, rfl, rfl, rfl, rfl⟩

/-- A value set in a map that stands at two places is seen at the other one, though that is neither
on the path nor under it nor above it. -/
theorem assign_through_link : ∃ after, linkedRoot.assign [.key "x", .key "k"] (.int 2) = .ok after ∧
    ¬ wayOf ["x", "k"] <+: wayOf ["y", "k"] ∧ ¬ wayOf ["y", "k"] <+: wayOf ["x", "k"] ∧
      linkedRoot.value.locate (wayOf ["y", "k"]) = some (.int 1) ∧
      after.value.locate (wayOf ["y", "k"]) = some (.int 2) := by
  refine ⟨_, rfl, ?_, ?_, rfl, rfl⟩
  · intro prefix_
    simpa using (List.cons_prefix_cons.1 prefix_).1
  · intro prefix_
    simpa using (List.cons_prefix_cons.1 prefix_).1

end Blueprint.Config
