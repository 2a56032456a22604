import Blueprint.Config.Placement
import Blueprint.Proofs.Value.Path

/-!
# Laws of setting a value

A value that is set at a path of keys is found there, and what stands at a path that neither leads
to the place of the value nor through it is left as it was.
-/
namespace Blueprint.Config

/-- A path of keys through a value. -/
abbrev keysOf (names : List String) : List Key := names.map .text

/-- The same path as segments. -/
abbrev segmentsOf (names : List String) : Path := names.map .key

/-- Texts are one key just if they are equal. -/
theorem text_beq_text (first second : String) :
    (Key.text first == Key.text second) = (first == second) := by
  rw [Bool.eq_iff_iff, Key.beq_iff, beq_iff_eq]
  simp [Key.identity]

/-- A path with a key before its last step leads through a map. -/
theorem setPath_key_cons {name : String} {next : Segment} {rest : Path} {value root after : Value}
    (done : setPath (.key name :: next :: rest) value root = (after, none)) :
    ∃ entries inner, root = .dict entries ∧
      setPath (next :: rest) value ((entries.lookup (Key.text name)).getD next.container) =
        (inner, none) ∧ after = .dict (Table.put entries (Key.text name) inner) := by
  cases root with
  | dict entries =>
    simp only [setPath] at done
    obtain ⟨rfl, fine⟩ := Prod.mk.inj done
    exact ⟨entries, _, rfl, Prod.ext rfl fine, rfl⟩
  | _ => cases done

/-- The last step of a path changes a map or a list. -/
theorem setPath_singleton {segment : Segment} {value root after : Value} :
    setPath [segment] value root = (after, none) ↔ setLast segment value root = .ok after := by
  rw [setPath]
  cases setLast segment value root <;> simp

/-- A value that is set at a path of keys is found there. -/
theorem at?_setPath {names : List String} (some_ : names ≠ []) {value root after : Value}
    (done : setPath (segmentsOf names) value root = (after, none)) :
    after.at? (keysOf names) = some value := by
  induction names generalizing root after with
  | nil => exact absurd rfl some_
  | cons name names ih =>
    cases names with
    | nil =>
      have last : setLast (.key name) value root = .ok after := setPath_singleton.1 done
      cases root with
      | dict entries =>
        obtain rfl := Except.ok.inj last
        simp [Table.lookup_put_self]
      | _ => cases last
    | cons second names =>
      obtain ⟨entries, inner, _, below, rfl⟩ := setPath_key_cons done
      have found := ih (List.cons_ne_nil _ _) below
      rw [keysOf, List.map_cons, Value.at?_dict_cons, Table.lookup_put_self]
      exact found

/-- One of two paths leads on from where the other one ends. -/
def Related (path other : Path) : Prop := path <+: other ∨ other <+: path

instance (path other : Path) : Decidable (Related path other) := by
  unfold Related
  infer_instance

/-- Paths that start with different keys are not related, and those that start with the same one are
if the rests are. -/
theorem related_cons {segment : Segment} {path other : Path} :
    Related (segment :: path) (segment :: other) ↔ Related path other := by
  unfold Related
  rw [List.prefix_cons_inj, List.prefix_cons_inj]

/-- What stands at a path of keys is left, if the path is not related to that of the value. -/
theorem at?_setPath_of_not_related {path : Path} {names : List String} {value root after : Value}
    (done : setPath path value root = (after, none))
    (apart : ¬ Related path (segmentsOf names)) :
    after.at? (keysOf names) = root.at? (keysOf names) := by
  induction path generalizing names root after with
  | nil => exact absurd (.inl List.nil_prefix) apart
  | cons segment rest ih =>
    cases names with
    | nil => exact absurd (.inr List.nil_prefix) apart
    | cons name names =>
      have other : ∀ {entries inner key}, key ≠ name →
          (Value.dict (Table.put entries (Key.text key) inner)).at? (keysOf (name :: names)) =
            (Value.dict entries).at? (keysOf (name :: names)) := by
        intro entries inner key differs
        have different : (Key.text name == Key.text key) = false := by
          rw [text_beq_text]
          simpa using differs.symm
        simp only [keysOf, List.map_cons, Value.at?_dict_cons, Table.lookup_put, different,
          Bool.false_eq_true, if_false]
      cases rest with
      | nil =>
        have last := setPath_singleton.1 done
        cases segment with
        | key key =>
          have differs : key ≠ name := by
            rintro rfl
            exact apart (.inl (List.cons_prefix_cons.2 ⟨rfl, List.nil_prefix⟩))
          cases root with
          | dict entries =>
            obtain rfl := Except.ok.inj last
            exact other differs
          | _ => cases last
        | index | append =>
          cases root with
          | list items =>
            obtain rfl := Except.ok.inj last
            rfl
          | _ => cases last
      | cons next rest =>
        cases segment with
        | key key =>
          obtain ⟨entries, inner, rfl, below, rfl⟩ := setPath_key_cons done
          by_cases same : key = name
          · subst same
            have further : ¬ Related (next :: rest) (segmentsOf names) :=
              fun related => apart (related_cons.2 related)
            have left := ih below further
            simp only [keysOf, List.map_cons, Value.at?_dict_cons, Table.lookup_put_self,
              Option.bind_some]
            rw [left]
            cases entries.lookup (Key.text key) with
            | some held => rfl
            | none =>
              -- What was made for the value held nothing before.
              cases names with
              | nil => exact absurd (.inr List.nil_prefix) further
              | cons second names => cases next <;> rfl
          · exact other same
        | index | append => cases done

end Blueprint.Config
