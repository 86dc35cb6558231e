import Mathlib

/-! Indices and slices that may be out of range, with the fault that they end in. -/

namespace Praeco.Collections.Access

variable {ε α : Type} (fault : ε)

def item (items : List α) (index : Nat) : Except ε α :=
  match items[index]? with
  | some found => .ok found
  | none => .error fault

def slice (items : List α) (start stop : Nat) : Except ε (List α) :=
  if start ≤ stop ∧ stop ≤ items.length then .ok ((items.take stop).drop start) else .error fault

theorem item_drop (items : List α) (start index : Nat) :
    item fault items (start + index) = item fault (items.drop start) index := by
  rw [item, item, List.getElem?_drop]

theorem slice_ok {items : List α} {start count : Nat} (inside : start + count ≤ items.length) :
    slice fault items start (start + count) = .ok ((items.drop start).take count) := by
  rw [slice, if_pos ⟨Nat.le_add_right _ _, inside⟩, List.drop_take, Nat.add_sub_cancel_left]

end Praeco.Collections.Access
