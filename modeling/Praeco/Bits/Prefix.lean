import Mathlib

/-! Masks of leading bits. Two words agree under such a mask exactly when they agree on the bits it covers. -/

namespace Praeco.Bits.Prefix

variable {w : Nat}

def leading (w n : Nat) : BitVec w := BitVec.allOnes w <<< (w - n)

theorem getMsbD_leading (n i : Nat) (within : n ≤ w) : (leading w n).getMsbD i = decide (i < n) := by
  rw [leading, BitVec.getMsbD_shiftLeft]
  by_cases covered : i < n
  · have inside : i + (w - n) < w := by omega
    simp [BitVec.getMsbD_allOnes, covered, inside]
  · have outside : ¬i + (w - n) < w := by omega
    simp [BitVec.getMsbD_allOnes, covered, outside]

theorem and_leading_eq_iff (x y : BitVec w) (n : Nat) (within : n ≤ w) :
    x &&& leading w n = y &&& leading w n ↔ ∀ i < n, x.getMsbD i = y.getMsbD i := by
  constructor
  · intro same i covered
    have bits := congrArg (BitVec.getMsbD · i) same
    simpa only [BitVec.getMsbD_and, getMsbD_leading n i within, covered, decide_true, Bool.and_true] using bits
  · intro agree
    apply BitVec.eq_of_getMsbD_eq
    intro i _
    rw [BitVec.getMsbD_and, BitVec.getMsbD_and, getMsbD_leading n i within]
    by_cases covered : i < n
    · rw [agree i covered]
    · simp [covered]

theorem leading_zero : leading w 0 = 0#w := by
  rw [leading, Nat.sub_zero]
  simp

theorem getMsbD_front {n m : Nat} (front : BitVec n) (back : BitVec m) {i : Nat} (inside : i < n) :
    (front ++ back).getMsbD i = front.getMsbD i := by
  rw [BitVec.getMsbD_append, if_neg (not_le.mpr inside)]

theorem getMsbD_back {n m : Nat} (front : BitVec n) (back : BitVec m) {i j : Nat} (place : i = n + j) :
    (front ++ back).getMsbD i = back.getMsbD j := by
  rw [BitVec.getMsbD_append, if_pos (by omega), place, Nat.add_sub_cancel_left]

end Praeco.Bits.Prefix
