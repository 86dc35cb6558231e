import Mathlib

/-! First positions in a list, and what a check of first positions says about the order of all occurrences. -/

namespace Praeco.Collections.Positions

variable {α : Type}

theorem findIdx?_split (test : α → Bool) (items : List α) (index : Nat) (found : items.findIdx? test = some index) :
    ∃ front x back, items = front ++ x :: back ∧ front.length = index ∧ test x = true ∧
      ∀ y ∈ front, test y = false := by
  obtain ⟨bound, passes, earlier⟩ := List.findIdx?_eq_some_iff_getElem.mp found
  refine ⟨items.take index, items[index], items.drop (index + 1), ?_, List.length_take_of_le bound.le, passes, ?_⟩
  · rw [List.getElem_cons_drop, List.take_append_drop]
  · intro y member
    obtain ⟨position, inside, rfl⟩ := List.mem_take_iff_getElem.mp member
    exact Bool.eq_false_of_not_eq_true (earlier position (by omega))

theorem insertIdx_length (front back : List α) (x : α) :
    (front ++ back).insertIdx front.length x = front ++ x :: back := by
  induction front with
  | nil => rfl
  | cons y front ih => exact congrArg (y :: ·) ih

theorem forall₂_forall_iff {β : Type} {related : α → β → Prop} {items : List α} {others : List β} {P : α → Prop}
    {Q : β → Prop} (pairs : List.Forall₂ related items others)
    (agree : ∀ item other, related item other → (P item ↔ Q other)) :
    (∀ item ∈ items, P item) ↔ ∀ other ∈ others, Q other := by
  induction pairs with
  | nil => simp
  | cons head _ ih => rw [List.forall_mem_cons, List.forall_mem_cons, agree _ _ head, ih]

variable [DecidableEq α]

/-- If the first `a` is not in front of the first `b`, an `a` in front of some `b` stands between two of them. -/
theorem pair_sublist_iff (a b : α) (items : List α) (distinct : a ≠ b)
    (first : ∀ i j, items.findIdx? (· = a) = some i → items.findIdx? (· = b) = some j → ¬i < j) :
    [a, b].Sublist items ↔ [b, a, b].Sublist items := by
  constructor
  · intro pair
    have present : b ∈ items := pair.subset (by simp)
    obtain ⟨j, position⟩ : ∃ j, items.findIdx? (· = b) = some j := by
      apply Option.isSome_iff_exists.mp
      simpa [List.findIdx?_isSome] using present
    obtain ⟨front, x, back, rfl, size, same, before⟩ := findIdx?_split _ _ _ position
    obtain rfl : x = b := by simpa using same
    have absent : a ∉ front := by
      intro member
      obtain ⟨i, early⟩ : ∃ i, (front ++ x :: back).findIdx? (· = a) = some i := by
        apply Option.isSome_iff_exists.mp
        simp [List.findIdx?_isSome, member]
      have late := first i j early position
      have prior : ∃ i', front.findIdx? (· = a) = some i' := by
        apply Option.isSome_iff_exists.mp
        simp [List.findIdx?_isSome, member]
      obtain ⟨i', inside⟩ := prior
      rw [List.findIdx?_append, inside] at early
      obtain rfl : i' = i := by simpa using early
      have bound := (List.findIdx?_eq_some_iff_findIdx_eq.mp inside).1
      omega
    have behind : [a, x].Sublist back := by
      obtain ⟨left, right, same, leftSub, rightSub⟩ := List.sublist_append_iff.mp pair
      cases left with
      | cons y left =>
        obtain ⟨rfl, -⟩ := List.cons.inj same
        exact absurd (leftSub.subset List.mem_cons_self) absent
      | nil =>
        rw [List.nil_append] at same
        rw [← same] at rightSub
        cases rightSub with
        | cons _ later => exact later
        | cons_cons => exact absurd rfl distinct
    exact (behind.cons_cons x).trans (List.sublist_append_right _ _)
  · intro triple
    exact ((List.Sublist.refl [a, b]).cons b).trans triple

theorem pair_sublist_insert (a b x : α) (front back : List α) (first : a ≠ x) (second : b ≠ x) :
    [a, b].Sublist (front ++ x :: back) ↔ [a, b].Sublist (front ++ back) := by
  constructor
  · intro pair
    have same : [a, b].filter (· ≠ x) = [a, b] := List.filter_eq_self.mpr (by simp [first, second])
    have rest : (front ++ x :: back).filter (· ≠ x) = (front ++ back).filter (· ≠ x) := by simp
    have kept := pair.filter (· ≠ x)
    rw [same, rest] at kept
    exact kept.trans List.filter_sublist
  · intro pair
    exact pair.trans ((List.Sublist.refl front).append (List.sublist_cons_self x back))

end Praeco.Collections.Positions
