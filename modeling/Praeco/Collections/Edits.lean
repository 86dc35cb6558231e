import Mathlib

/-! Lists of fields with repeated keys, under edits that remove a key or give it a single value. What an edited
list holds under a key is decided by the last edit of that key. -/

namespace Praeco.Collections.Edits

variable {κ V : Type} [DecidableEq κ]

def values (fields : List (κ × V)) (key : κ) : List V := (fields.filter (fun field => field.1 = key)).map Prod.snd

inductive Edit (κ V : Type) where
  | remove (key : κ)
  | insert (key : κ) (value : V)
  deriving DecidableEq, Repr

namespace Edit

def key : Edit κ V → κ
  | .remove key => key
  | .insert key _ => key

def left : Edit κ V → List V
  | .remove _ => []
  | .insert _ value => [value]

def apply (fields : List (κ × V)) : Edit κ V → List (κ × V)
  | .remove key => fields.filter (fun field => field.1 ≠ key)
  | .insert key value => fields.filter (fun field => field.1 ≠ key) ++ [(key, value)]

end Edit

def applyAll (fields : List (κ × V)) (edits : List (Edit κ V)) : List (κ × V) := edits.foldl Edit.apply fields

def lastEdit (edits : List (Edit κ V)) (key : κ) : Option (Edit κ V) :=
  edits.reverse.find? (fun edit => edit.key = key)

/-- The edits of a sequence of phases, each of which reads the fields as the earlier ones have left them. -/
def performed : List (List (κ × V) → List (Edit κ V)) → List (κ × V) → List (Edit κ V)
  | [], _ => []
  | phase :: phases, fields => phase fields ++ performed phases (applyAll fields (phase fields))

section

variable (fields : List (κ × V)) (edits : List (Edit κ V)) (key : κ)

theorem mem_values (value : V) : value ∈ values fields key ↔ (key, value) ∈ fields := by
  simp [values]

theorem values_filter_ne (other : κ) :
    values (fields.filter (fun field => field.1 ≠ other)) key = if other = key then [] else values fields key := by
  unfold values
  rw [List.filter_filter]
  split_ifs with same
  · subst same
    simp
  · congr 1
    apply List.filter_congr
    intro field _
    by_cases here : field.1 = key
    · simp [here, Ne.symm same]
    · simp [here]

theorem values_apply (edit : Edit κ V) :
    values (edit.apply fields) key = if edit.key = key then edit.left else values fields key := by
  cases edit with
  | remove other => exact values_filter_ne fields key other
  | insert other value =>
    by_cases same : other = key
    · subst same
      simp [Edit.apply, Edit.key, Edit.left, values]
    · have kept := values_filter_ne fields key other
      rw [if_neg same] at kept
      simpa [Edit.apply, Edit.key, values, same] using kept

theorem lastEdit_append (later : List (Edit κ V)) :
    lastEdit (edits ++ later) key = (lastEdit later key).or (lastEdit edits key) := by
  unfold lastEdit
  rw [List.reverse_append, List.find?_append]

theorem lastEdit_eq_none_iff : lastEdit edits key = none ↔ ∀ edit ∈ edits, edit.key ≠ key := by
  simp [lastEdit]

theorem lastEdit_mem {edit : Edit κ V} (last : lastEdit edits key = some edit) : edit ∈ edits ∧ edit.key = key := by
  refine ⟨List.mem_reverse.mp (List.mem_of_find?_eq_some last), ?_⟩
  simpa using List.find?_some last

theorem values_applyAll :
    values (applyAll fields edits) key = ((lastEdit edits key).map Edit.left).getD (values fields key) := by
  induction edits using List.reverseRecOn with
  | nil => rfl
  | append_singleton edits edit ih =>
    have single : lastEdit [edit] key = if edit.key = key then some edit else none := by
      by_cases same : edit.key = key
      · simp [lastEdit, same]
      · simp [lastEdit, same]
    rw [applyAll, List.foldl_append, lastEdit_append, single]
    change values (edit.apply (applyAll fields edits)) key = _
    rw [values_apply, ih]
    split_ifs with same
    · rfl
    · rfl

theorem values_of_unedited (unedited : ∀ edit ∈ edits, edit.key ≠ key) :
    values (applyAll fields edits) key = values fields key := by
  rw [values_applyAll, (lastEdit_eq_none_iff edits key).mpr unedited]
  rfl

theorem mem_applyAll_of_unedited {value : V} (member : (key, value) ∈ fields)
    (unedited : ∀ edit ∈ edits, edit.key ≠ key) : (key, value) ∈ applyAll fields edits := by
  rw [← mem_values, values_applyAll, (lastEdit_eq_none_iff edits key).mpr unedited]
  exact (mem_values fields key value).mpr member

theorem values_of_edited (edited : ∃ edit ∈ edits, edit.key = key) :
    ∃ edit ∈ edits, edit.key = key ∧ values (applyAll fields edits) key = edit.left := by
  cases last : lastEdit edits key with
  | none =>
    obtain ⟨edit, member, same⟩ := edited
    exact absurd same ((lastEdit_eq_none_iff _ _).mp last edit member)
  | some edit =>
    obtain ⟨member, same⟩ := lastEdit_mem _ _ last
    refine ⟨edit, member, same, ?_⟩
    rw [values_applyAll, last]
    rfl

end

theorem applyAll_append (fields : List (κ × V)) (first second : List (Edit κ V)) :
    applyAll fields (first ++ second) = applyAll (applyAll fields first) second := List.foldl_append

theorem applyAll_performed (phase : List (κ × V) → List (Edit κ V)) (phases : List (List (κ × V) → List (Edit κ V)))
    (fields : List (κ × V)) : applyAll fields (performed (phase :: phases) fields) =
      applyAll (applyAll fields (phase fields)) (performed phases (applyAll fields (phase fields))) :=
  applyAll_append fields _ _

/-- No field under a marked key has come through the edits, and each one that is there was set by them. -/
structure Stripped (marked : κ → Prop) (fields : List (κ × V)) (edits : List (Edit κ V)) (result : List (κ × V)) :
    Prop where
  gone : ∀ key value, (key, value) ∈ fields → marked key → ∃ edit ∈ edits, edit.key = key
  authoritative : ∀ key value, (key, value) ∈ result → marked key → lastEdit edits key = some (.insert key value)

theorem stripped_iff (marked : κ → Prop) (fields : List (κ × V)) (edits : List (Edit κ V)) :
    Stripped marked fields edits (applyAll fields edits) ↔
      ∀ key value, (key, value) ∈ fields → marked key → ∃ edit ∈ edits, edit.key = key := by
  refine ⟨Stripped.gone, ?_⟩
  intro gone
  refine ⟨gone, ?_⟩
  intro key value member mark
  rw [← mem_values, values_applyAll] at member
  cases last : lastEdit edits key with
  | none =>
    rw [last] at member
    obtain ⟨edit, present, same⟩ := gone key value ((mem_values _ _ _).mp member) mark
    exact absurd same ((lastEdit_eq_none_iff _ _).mp last edit present)
  | some edit =>
    rw [last] at member
    have same := (lastEdit_mem _ _ last).2
    cases edit with
    | remove removed => cases member
    | insert inserted kept =>
      rw [show value = kept from List.mem_singleton.mp member, show inserted = key from same]

section

variable (hidden : List κ)

def visible (fields : List (κ × V)) : List (κ × V) := fields.filter (fun field => field.1 ∉ hidden)

theorem values_visible (fields : List (κ × V)) {key : κ} (shown : key ∉ hidden) :
    values (visible hidden fields) key = values fields key := by
  unfold values visible
  rw [List.filter_filter]
  congr 1
  apply List.filter_congr
  intro field member
  by_cases same : field.1 = key
  · simp [same, shown]
  · simp [same]

theorem visible_apply (fields : List (κ × V)) (edit : Edit κ V) :
    visible hidden (edit.apply fields) = visible hidden (edit.apply (visible hidden fields)) := by
  have filtered (key : κ) : visible hidden (fields.filter (fun field => field.1 ≠ key)) =
      visible hidden ((visible hidden fields).filter (fun field => field.1 ≠ key)) := by
    unfold visible
    rw [List.filter_filter, List.filter_filter, List.filter_filter]
    apply List.filter_congr
    intro field member
    rw [Bool.and_comm, Bool.and_assoc, Bool.and_self]
  cases edit with
  | remove key => exact filtered key
  | insert key value =>
    have split := congrArg (· ++ visible hidden [(key, value)]) (filtered key)
    simpa only [visible, Edit.apply, List.filter_append] using split

theorem visible_applyAll {first second : List (κ × V)} (same : visible hidden first = visible hidden second)
    (edits : List (Edit κ V)) : visible hidden (applyAll first edits) = visible hidden (applyAll second edits) := by
  induction edits generalizing first second with
  | nil => exact same
  | cons edit edits ih =>
    apply ih
    rw [visible_apply, same, ← visible_apply]

theorem applyAll_removes (fields : List (κ × V)) : applyAll fields (hidden.map .remove) = visible hidden fields := by
  induction hidden generalizing fields with
  | nil => simp [applyAll, visible]
  | cons key hidden ih =>
    change applyAll (Edit.apply fields (.remove key)) (hidden.map .remove) = _
    rw [ih]
    unfold visible Edit.apply
    rw [List.filter_filter]
    apply List.filter_congr
    intro field member
    simp [Bool.and_comm]

end

end Praeco.Collections.Edits
