import Mathlib

/-! Finite maps in an iteration order: keeping the entries that pass a test, and counts with a default. -/

namespace Praeco.Collections.Map

variable {κ V : Type} [DecidableEq κ]

/-- The order in which a hash map is gone through, which may be any. -/
structure Iteration (α : Type) where
  arrange : List α → List α
  perm : ∀ entries, (arrange entries).Perm entries

def Iteration.asListed (α : Type) : Iteration α := ⟨id, fun _ => .refl _⟩

def retain (keep : κ → V → Bool) (map : AList (fun _ : κ => V)) : AList (fun _ : κ => V) where
  entries := map.entries.filter (fun entry => keep entry.1 entry.2)
  nodupKeys := map.nodupKeys.sublist List.filter_sublist

theorem lookup_retain (keep : κ → V → Bool) (map : AList (fun _ : κ => V)) (key : κ) :
    (retain keep map).lookup key = (map.lookup key).filter (keep key) := by
  ext value
  rw [← Option.mem_def, AList.mem_lookup_iff, Option.filter_eq_some_iff, ← Option.mem_def,
    AList.mem_lookup_iff]
  exact List.mem_filter

omit [DecidableEq κ] in
theorem length_retain_le (keep : κ → V → Bool) (map : AList (fun _ : κ => V)) :
    (retain keep map).entries.length ≤ map.entries.length := List.length_filter_le _ _

variable (map : AList (fun _ : κ => V))

omit [DecidableEq κ] in
theorem length_keys : map.keys.length = map.entries.length := List.length_map _

theorem mem_keys_of_lookup {map : AList (fun _ : κ => V)} {key : κ} {value : V} (found : map.lookup key = some value) :
    key ∈ map.keys := by
  apply AList.mem_keys.mp
  rw [← AList.lookup_isSome, found]
  rfl

/-- What is left of a map after some of its entries, none of them fresh, were dropped. -/
structure Thinned (fresh : V → Prop) (before after : AList (fun _ : κ => V)) : Prop where
  shorter : after.entries.length ≤ before.entries.length
  only : ∀ key value, after.lookup key = some value → before.lookup key = some value
  kept : ∀ key value, before.lookup key = some value → fresh value → after.lookup key = some value

namespace Thinned

variable {fresh : V → Prop} {first second third : AList (fun _ : κ => V)}

theorem refl (map : AList (fun _ : κ => V)) : Thinned fresh map map :=
  ⟨le_rfl, fun _ _ found => found, fun _ _ found _ => found⟩

theorem trans (one : Thinned fresh first second) (two : Thinned fresh second third) : Thinned fresh first third := by
  refine ⟨two.shorter.trans one.shorter, fun key value found => one.only key value (two.only key value found), ?_⟩
  intro key value found keep
  exact two.kept key value (one.kept key value found keep) keep

theorem absent (thinned : Thinned fresh first second) {key : κ} (missing : first.lookup key = none) :
    second.lookup key = none := by
  by_contra present
  obtain ⟨value, found⟩ := Option.ne_none_iff_exists'.mp present
  rw [thinned.only key value found] at missing
  cases missing

theorem length_lt (thinned : Thinned fresh first second) {key : κ} {value : V}
    (found : first.lookup key = some value) (gone : second.lookup key = none) :
    second.entries.length < first.entries.length := by
  have member : key ∈ first.keys := mem_keys_of_lookup found
  have within : second.keys ⊆ first.keys.erase key := by
    intro other left
    obtain ⟨kept, present⟩ := Option.isSome_iff_exists.mp (AList.lookup_isSome.mpr (AList.mem_keys.mpr left))
    have apart : other ≠ key := by
      rintro rfl
      rw [gone] at present
      cases present
    exact (List.mem_erase_of_ne apart).mpr (mem_keys_of_lookup (thinned.only other kept present))
  have fewer := (second.keys_nodup.subperm within).length_le
  have positive := List.length_pos_of_mem member
  rw [List.length_erase_of_mem member, length_keys, length_keys] at fewer
  rw [length_keys] at positive
  omega

end Thinned

theorem thinned_retain (keep : κ → V → Bool) (fresh : V → Prop) (map : AList (fun _ : κ => V))
    (keeps : ∀ key value, fresh value → keep key value) : Thinned fresh map (retain keep map) := by
  constructor
  · exact length_retain_le keep map
  · intro key value found
    rw [lookup_retain, Option.filter_eq_some_iff] at found
    exact found.1
  · intro key value found current
    rw [lookup_retain, Option.filter_eq_some_iff]
    exact ⟨found, keeps key value current⟩

theorem lookup_singleton (key : κ) (value : V) :
    (AList.singleton key value : AList (fun _ : κ => V)).lookup key = some value := by
  rw [← AList.insert_empty, AList.lookup_insert]

omit [DecidableEq κ] in
theorem retain_singleton (keep : κ → V → Bool) (key : κ) (value : V) (dropped : keep key value = false) :
    retain keep (AList.singleton key value) = ∅ := by
  apply AList.ext
  simp [retain, dropped]

variable (key : κ) (value : V)

theorem length_insert_present (found : V) (present : map.lookup key = some found) :
    (map.insert key value).entries.length = map.entries.length := by
  have member : key ∈ map.keys := mem_keys_of_lookup present
  have positive := List.length_pos_of_mem member
  rw [← length_keys, ← length_keys, AList.keys_insert, List.length_cons, List.length_erase_of_mem member]
  omega

theorem length_insert_absent (absent : map.lookup key = none) :
    (map.insert key value).entries.length = map.entries.length + 1 := by
  have missing : key ∉ map := AList.lookup_eq_none.mp absent
  rw [AList.entries_insert_of_notMem missing, List.length_cons]

theorem length_insert_le : (map.insert key value).entries.length ≤ map.entries.length + 1 := by
  cases present : map.lookup key with
  | none => exact (length_insert_absent map key value present).le
  | some found => exact (length_insert_present map key value found present).le.trans (Nat.le_succ _)

theorem length_erase_le :
    (map.erase key).entries.length ≤ map.entries.length := (List.kerase_sublist key map.entries).length_le

theorem getD_lookup_insert (default : V) (other : κ) :
    ((map.insert key value).lookup other).getD default = if other = key then value else (map.lookup other).getD default := by
  by_cases same : other = key
  · subst same
    simp
  · simp [same, AList.lookup_insert_ne same]

theorem getD_lookup_erase (default : V) (other : κ) :
    ((map.erase key).lookup other).getD default = if other = key then default else (map.lookup other).getD default := by
  by_cases same : other = key
  · subst same
    simp
  · simp [same, AList.lookup_erase_ne same]

end Praeco.Collections.Map
