import Mathlib

/-! Numbers in network byte order, over any number of bytes. -/

namespace Praeco.Streams.BigEndian

def encode : Nat → Nat → List UInt8
  | 0, _ => []
  | width + 1, n => UInt8.ofNat (n / 256 ^ width) :: encode width n

def decode (bytes : List UInt8) : Nat := bytes.foldl (fun n b => n * 256 + b.toNat) 0

example : encode 2 0x1234 = [0x12, 0x34] ∧ decode [0x12, 0x34] = 0x1234 := by decide

@[simp] theorem length_encode (width n : Nat) : (encode width n).length = width := by
  induction width with
  | zero => rfl
  | succ width ih => rw [encode, List.length_cons, ih]

@[simp] theorem decode_nil : decode [] = 0 := rfl

private theorem foldl_decode (bytes : List UInt8) (start : Nat) :
    bytes.foldl (fun n b => n * 256 + b.toNat) start = start * 256 ^ bytes.length + decode bytes := by
  induction bytes generalizing start with
  | nil => simp
  | cons b bytes ih =>
    rw [decode, List.foldl_cons, List.foldl_cons, ih, ih (0 * 256 + b.toNat), List.length_cons]
    ring

theorem decode_cons (b : UInt8) (bytes : List UInt8) :
    decode (b :: bytes) = b.toNat * 256 ^ bytes.length + decode bytes := by
  rw [decode, List.foldl_cons, foldl_decode]
  ring

theorem decode_encode (width n : Nat) : decode (encode width n) = n % 256 ^ width := by
  induction width with
  | zero => simp [encode, Nat.mod_one]
  | succ width ih =>
    have digits : n % 256 ^ (width + 1) = n % 256 ^ width + 256 ^ width * (n / 256 ^ width % 256) := Nat.mod_pow_succ
    rw [encode, decode_cons, ih, length_encode, UInt8.toNat_ofNat', digits, Nat.mul_comm, Nat.add_comm]

theorem decode_encode_of_lt (width n : Nat) (bound : n < 256 ^ width) : decode (encode width n) = n := by
  rw [decode_encode, Nat.mod_eq_of_lt bound]

end Praeco.Streams.BigEndian
