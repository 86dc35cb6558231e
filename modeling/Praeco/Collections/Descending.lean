import Mathlib

/-! Lists sorted by descending weight. The first element that passes a test is then a heaviest one
among all that pass it. -/

namespace Praeco.Collections.Descending

variable {α : Type} (weight : α → Nat)

def sortDescending (items : List α) : List α := items.insertionSort (fun a b => weight b ≤ weight a)

theorem mem_sortDescending (items : List α) (x : α) : x ∈ sortDescending weight items ↔ x ∈ items :=
  List.mem_insertionSort _

theorem pairwise_sortDescending (items : List α) :
    (sortDescending weight items).Pairwise (fun a b => weight b ≤ weight a) := by
  have total : Std.Total (fun a b => weight b ≤ weight a) := ⟨fun a b => Nat.le_total (weight b) (weight a)⟩
  have trans : IsTrans α (fun a b => weight b ≤ weight a) := ⟨fun _ _ _ first second => second.trans first⟩
  exact List.pairwise_insertionSort _ items

theorem find_heaviest (items : List α) (test : α → Bool) (x : α)
    (sorted : items.Pairwise (fun a b => weight b ≤ weight a)) (found : items.find? test = some x) :
    ∀ y ∈ items, test y = true → weight y ≤ weight x := by
  induction items with
  | nil => cases found
  | cons z items ih =>
    obtain ⟨front, rest⟩ := List.pairwise_cons.mp sorted
    intro y member passes
    by_cases first : test z = true
    · rw [List.find?_cons_of_pos first] at found
      obtain rfl : z = x := Option.some.inj found
      rcases List.mem_cons.mp member with same | later
      · rw [same]
      · exact front y later
    · rw [List.find?_cons_of_neg first] at found
      rcases List.mem_cons.mp member with same | later
      · exact absurd (same ▸ passes) first
      · exact ih rest found y later passes

end Praeco.Collections.Descending
