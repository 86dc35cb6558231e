import Praeco.Strings.Utf8

/-! Percent-encoding over byte lists. `Escaped keep` says of a text that each of its percent signs
starts an escape written in upper case for a byte that `keep` allows, so what such a text decodes
to can be read off its characters. -/

namespace Praeco.Strings.Percent
open Utf8

def digitValue (c : Char) : Option Nat :=
  if '0' ≤ c ∧ c ≤ '9' then some (c.toNat - 48)
  else if 'a' ≤ c ∧ c ≤ 'f' then some (c.toNat - 87)
  else if 'A' ≤ c ∧ c ≤ 'F' then some (c.toNat - 55)
  else none

def upperDigit (n : Nat) : Char := Char.ofNat (if n < 10 then n + 48 else n + 55)

def lowerDigit (n : Nat) : Char := Char.ofNat (if n < 10 then n + 48 else n + 87)

def unreserved (n : Nat) : Bool :=
  (97 ≤ n ∧ n ≤ 122) || (65 ≤ n ∧ n ≤ 90) || (48 ≤ n ∧ n ≤ 57) || n = 45 || n = 46 || n = 95 || n = 126

def percentDecode : Bytes → Bytes
  | b :: high :: low :: rest =>
      if b = 0x25 then
        match digitValue (byteChar high), digitValue (byteChar low) with
        | some hi, some lo => UInt8.ofNat (16 * hi + lo) :: percentDecode rest
        | _, _ => b :: percentDecode (high :: low :: rest)
      else b :: percentDecode (high :: low :: rest)
  | b :: rest => b :: percentDecode rest
  | [] => []

theorem digitValue_byteChar (b : UInt8) : digitValue (byteChar b) =
    if 48 ≤ b.toNat ∧ b.toNat ≤ 57 then some (b.toNat - 48)
    else if 97 ≤ b.toNat ∧ b.toNat ≤ 102 then some (b.toNat - 87)
    else if 65 ≤ b.toNat ∧ b.toNat ≤ 70 then some (b.toNat - 55) else none := by
  have code : (byteChar b).val.toNat = b.toNat := byteChar_toNat b
  simp only [digitValue, Char.le_def, UInt32.le_iff_toNat_le, code, byteChar_toNat]
  rfl

private abbrev digits : List Char :=
  ['0', '1', '2', '3', '4', '5', '6', '7', '8', '9', 'a', 'b', 'c', 'd', 'e', 'f', 'A', 'B', 'C', 'D', 'E', 'F']

private theorem digit_chars (c : Char) (n : Nat) (value : digitValue c = some n) : c ∈ digits := by
  have codes : ∀ k, c.toNat = k → c = Char.ofNat k := by
    intro k same
    rw [← same, Char.ofNat_toNat]
  unfold digitValue at value
  split_ifs at value with digit lower upper
  · have low : 48 ≤ c.toNat := digit.1
    have high : c.toNat ≤ 57 := digit.2
    generalize size : c.toNat = k at low high
    rw [codes k size]
    interval_cases k <;> decide
  · have low : 97 ≤ c.toNat := lower.1
    have high : c.toNat ≤ 102 := lower.2
    generalize size : c.toNat = k at low high
    rw [codes k size]
    interval_cases k <;> decide
  · have low : 65 ≤ c.toNat := upper.1
    have high : c.toNat ≤ 70 := upper.2
    generalize size : c.toNat = k at low high
    rw [codes k size]
    interval_cases k <;> decide

private theorem digit_table (c : Char) (member : c ∈ digits) : ∀ n ∈ digitValue c,
    n < 16 ∧ c.toLower = lowerDigit n ∧ c.toUpper = upperDigit n ∧ c ≠ '%' ∧ c ≠ '/' ∧ c.toNat < 128 := by
  fin_cases member <;> decide

theorem digit_lt (c : Char) (n : Nat) (value : digitValue c = some n) : n < 16 :=
  (digit_table c (digit_chars c n value) n value).1

theorem digit_toLower (c : Char) (n : Nat) (value : digitValue c = some n) : c.toLower = lowerDigit n :=
  (digit_table c (digit_chars c n value) n value).2.1

theorem digit_toUpper (c : Char) (n : Nat) (value : digitValue c = some n) : c.toUpper = upperDigit n :=
  (digit_table c (digit_chars c n value) n value).2.2.1

theorem digit_ne_percent (c : Char) (n : Nat) (value : digitValue c = some n) : c ≠ '%' :=
  (digit_table c (digit_chars c n value) n value).2.2.2.1

theorem digit_ne_slash (c : Char) (n : Nat) (value : digitValue c = some n) : c ≠ '/' :=
  (digit_table c (digit_chars c n value) n value).2.2.2.2.1

theorem digit_ascii (c : Char) (n : Nat) (value : digitValue c = some n) : c.toNat < 128 :=
  (digit_table c (digit_chars c n value) n value).2.2.2.2.2

theorem digitValue_upperDigit (n : Nat) (bound : n < 16) : digitValue (upperDigit n) = some n := by
  interval_cases n <;> decide

theorem toLower_upperDigit (n : Nat) (bound : n < 16) : (upperDigit n).toLower = lowerDigit n := by
  interval_cases n <;> decide

/-- Every percent sign starts an upper-case escape of a byte allowed by `keep`. -/
inductive Escaped (keep : Nat → Prop) : Text → Prop where
  | nil : Escaped keep []
  | plain {c : Char} {text : Text} (literal : c ≠ '%') (rest : Escaped keep text) : Escaped keep (c :: text)
  | escape {hi lo : Nat} {text : Text} (hiBound : hi < 16) (loBound : lo < 16) (kept : keep (16 * hi + lo))
      (rest : Escaped keep text) : Escaped keep ('%' :: upperDigit hi :: upperDigit lo :: text)

theorem Escaped.append {keep : Nat → Prop} {left right : Text} (first : Escaped keep left)
    (second : Escaped keep right) : Escaped keep (left ++ right) := by
  induction first with
  | nil => exact second
  | plain literal _ ih => exact .plain literal ih
  | escape hiBound loBound kept _ ih => exact .escape hiBound loBound kept ih

theorem Escaped.at_percent {keep : Nat → Prop} {text : Text} (escaped : Escaped keep text)
    (before after : Text) (found : text = before ++ '%' :: after) :
    ∃ hi lo rest, hi < 16 ∧ lo < 16 ∧ keep (16 * hi + lo) ∧ after = upperDigit hi :: upperDigit lo :: rest := by
  induction escaped generalizing before with
  | nil => simp at found
  | plain literal _ ih =>
    cases before with
    | nil => exact absurd (List.cons.inj found).1 literal
    | cons x before => exact ih before (List.cons.inj found).2
  | @escape hi lo text hiBound loBound kept _ ih =>
    have hiDigit := digit_ne_percent _ hi (digitValue_upperDigit hi hiBound)
    have loDigit := digit_ne_percent _ lo (digitValue_upperDigit lo loBound)
    match before with
    | [] => exact ⟨hi, lo, text, hiBound, loBound, kept, (List.cons.inj found).2.symm⟩
    | [_] => exact absurd (List.cons.inj (List.cons.inj found).2).1 hiDigit
    | [_, _] => exact absurd (List.cons.inj (List.cons.inj (List.cons.inj found).2).2).1 loDigit
    | _ :: _ :: _ :: before =>
      exact ih before (List.cons.inj (List.cons.inj (List.cons.inj found).2).2).2

theorem percentDecode_cons (b : UInt8) (rest : Bytes) (literal : b ≠ 0x25) :
    percentDecode (b :: rest) = b :: percentDecode rest := by
  match rest with
  | [] => rfl
  | [_] => rfl
  | _ :: _ :: _ => rw [percentDecode, if_neg literal]

theorem percentDecode_append (front rest : Bytes) (literal : ∀ b ∈ front, b ≠ 0x25) :
    percentDecode (front ++ rest) = front ++ percentDecode rest := by
  induction front with
  | nil => rfl
  | cons b front ih =>
    rw [List.cons_append, percentDecode_cons b _ (literal b List.mem_cons_self),
      ih (fun x member => literal x (List.mem_cons_of_mem b member)), List.cons_append]

theorem percentDecode_escape (high low : UInt8) (hi lo : Nat) (rest : Bytes)
    (highValue : digitValue (byteChar high) = some hi) (lowValue : digitValue (byteChar low) = some lo) :
    percentDecode (0x25 :: high :: low :: rest) = UInt8.ofNat (16 * hi + lo) :: percentDecode rest := by
  simp only [percentDecode, if_true, highValue, lowValue]

theorem encode_ne_percent (c : Char) (literal : c ≠ '%') : ∀ b ∈ String.utf8EncodeChar c, b ≠ 0x25 := by
  intro b member same
  by_cases low : c.toNat < 128
  · rw [encode_ascii c low, List.mem_singleton] at member
    apply literal
    rw [← byteChar_ofNat c low, ← member, same]
    decide
  · have high := encode_high c (by omega) b member
    rw [same] at high
    exact absurd high (by decide)

theorem percentDecode_utf8_plain (c : Char) (text : Text) (literal : c ≠ '%') :
    percentDecode (utf8 (c :: text)) = String.utf8EncodeChar c ++ percentDecode (utf8 text) := by
  rw [utf8_cons, percentDecode_append _ _ (encode_ne_percent c literal)]

theorem percentDecode_utf8_escape (hi lo : Nat) (text : Text) (hiBound : hi < 16) (loBound : lo < 16) :
    percentDecode (utf8 ('%' :: upperDigit hi :: upperDigit lo :: text)) =
      UInt8.ofNat (16 * hi + lo) :: percentDecode (utf8 text) := by
  have hiValue := digitValue_upperDigit hi hiBound
  have loValue := digitValue_upperDigit lo loBound
  have hiLow := digit_ascii _ hi hiValue
  have loLow := digit_ascii _ lo loValue
  rw [utf8_cons, utf8_cons, utf8_cons, encode_ascii '%' (by decide), encode_ascii _ hiLow, encode_ascii _ loLow]
  apply percentDecode_escape
  · rw [byteChar_ofNat _ hiLow, hiValue]
  · rw [byteChar_ofNat _ loLow, loValue]

theorem Escaped.decode_unreserved {keep : Nat → Prop} {text : Text} (escaped : Escaped keep text)
    (reserved : ∀ n, keep n → unreserved n = false)
    (all : ∀ b ∈ percentDecode (utf8 text), unreserved b.toNat = true) : text = latin1 (percentDecode (utf8 text)) := by
  induction escaped with
  | nil => rfl
  | @plain c text literal _ ih =>
    rw [percentDecode_utf8_plain c text literal] at all ⊢
    have small : c.toNat < 128 := by
      by_contra high
      obtain ⟨b, rest, encoded⟩ := List.exists_cons_of_ne_nil (String.utf8EncodeChar_ne_nil (c := c))
      have large := encode_high c (by omega) b (by rw [encoded]; exact List.mem_cons_self)
      have claimed := all b (by rw [encoded]; exact List.mem_append_left _ List.mem_cons_self)
      simp only [unreserved, Bool.or_eq_true, Bool.decide_and, Bool.and_eq_true, decide_eq_true_eq] at claimed
      omega
    have tail := ih (fun b member => all b (List.mem_append_right _ member))
    rw [latin1_append, encode_ascii c small, latin1_cons, byteChar_ofNat c small, ← tail]
    rfl
  | @escape hi lo text hiBound loBound kept _ _ =>
    rw [percentDecode_utf8_escape hi lo text hiBound loBound] at all
    have claimed := all _ List.mem_cons_self
    rw [UInt8.toNat_ofNat', Nat.mod_eq_of_lt (by omega), reserved _ kept] at claimed
    exact absurd claimed (by decide)

end Praeco.Strings.Percent
