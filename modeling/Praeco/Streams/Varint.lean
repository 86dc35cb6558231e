import Mathlib

/-! Numbers in base 128, the least significant seven bits first. Every byte but the last has its high bit set. -/

namespace Praeco.Streams.Varint

def encode (n : Nat) : List UInt8 :=
  if n < 128 then [UInt8.ofNat n] else UInt8.ofNat (128 + n % 128) :: encode (n / 128)

theorem encode_last (n : Nat) (small : n < 128) : encode n = [UInt8.ofNat n] := by
  rw [encode, if_pos small]

theorem encode_more (n : Nat) (large : 128 ≤ n) : encode n = UInt8.ofNat (128 + n % 128) :: encode (n / 128) := by
  rw [encode, if_neg (Nat.not_lt.mpr large)]

theorem encode_ne_nil (n : Nat) : encode n ≠ [] := by
  rw [encode]
  split_ifs
  · exact List.cons_ne_nil _ _
  · exact List.cons_ne_nil _ _

theorem toNat_low_bits (b : UInt8) : (b &&& 0x7F).toNat = b.toNat % 128 := by
  rw [UInt8.toNat_and]
  exact Nat.and_two_pow_sub_one_eq_mod b.toNat 7

theorem high_bit_clear_iff (b : UInt8) : b &&& 0x80 = 0 ↔ b.toNat < 128 := by
  have bound := b.toNat_lt
  have bit : b.toNat &&& 128 = (b.toNat.testBit 7).toNat * 2 ^ 7 := Nat.and_two_pow b.toNat 7
  rw [← UInt8.toNat_inj, UInt8.toNat_and]
  change b.toNat &&& 128 = 0 ↔ _
  rw [bit, Nat.testBit_eq_decide_div_mod_eq]
  by_cases high : b.toNat / 2 ^ 7 % 2 = 1
  · simp only [high, decide_true, Bool.toNat_true]
    omega
  · simp only [high, decide_false, Bool.toNat_false]
    omega

theorem or_shifted (low digit shift : Nat) (below : low < 2 ^ shift) :
    low ||| digit <<< shift = low + digit * 2 ^ shift := by
  rw [Nat.or_comm, ← Nat.shiftLeft_add_eq_or_of_lt below, Nat.shiftLeft_eq, Nat.add_comm]

end Praeco.Streams.Varint
