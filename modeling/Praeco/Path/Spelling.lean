import Praeco.Path.CanonicalForm

/-! Occurrences in the output of the segment loop, traced to the spellings they come from. A percent
sign starts a token both in the raw bytes and in the output, so the loop can be cut at it. -/

namespace Praeco.Path.Spelling
open Praeco.Strings Utf8 Percent Split Praeco.Path.Sanitizer Praeco.Path.CanonicalForm

/-- The texts that the segment loop turns into the single character `x`. -/
inductive Spells (x : Char) : Text → Prop where
  | literal : Spells x [x]
  | escape {high low : Char} {hi lo : Nat} (highValue : digitValue high = some hi)
      (lowValue : digitValue low = some lo) (value : Char.ofNat (16 * hi + lo) = x) : Spells x ['%', high, low]

theorem Normalizes.append {front back : Bytes} {left right : Text} (first : Normalizes front left)
    (second : Normalizes back right) : Normalizes (front ++ back) (left ++ right) := by
  induction first with
  | nil => exact second
  | plain literal _ ih => exact .plain literal ih
  | escape highValue lowValue _ ih =>
    rw [List.append_assoc]
    exact .escape highValue lowValue ih

private theorem renderEscape_percent (hi lo : Nat) (before after : Text) (hiBound : hi < 16) (loBound : lo < 16)
    (found : renderEscape hi lo = before ++ '%' :: after) : before = [] := by
  have hiDigit := digit_ne_percent _ hi (digitValue_upperDigit hi hiBound)
  have loDigit := digit_ne_percent _ lo (digitValue_upperDigit lo loBound)
  unfold renderEscape at found
  split_ifs at found with free
  · match before with
    | [] => rfl
    | _ :: _ => simp at found
  · match before with
    | [] => rfl
    | [_] => exact absurd (List.cons.inj (List.cons.inj found).2).1 hiDigit
    | [_, _] => exact absurd (List.cons.inj (List.cons.inj (List.cons.inj found).2).2).1 loDigit
    | _ :: _ :: _ :: before => simp at found

variable {bytes rest : Bytes} {text : Text}

theorem Normalizes.cut_output (normal : Normalizes bytes text) (before after : Text)
    (found : text = before ++ '%' :: after) :
    ∃ front back, bytes = front ++ back ∧ Normalizes front before ∧ Normalizes back ('%' :: after) := by
  induction normal generalizing before with
  | nil => simp at found
  | @plain b rest text literal tail ih =>
    have run := Normalizes.plain literal tail
    cases before with
    | nil =>
      rw [found] at run
      exact ⟨[], b :: rest, rfl, .nil, run⟩
    | cons c before =>
      obtain ⟨same, later⟩ := List.cons.inj found
      obtain ⟨front, back, cut, left, right⟩ := ih before later
      exact ⟨b :: front, back, congrArg (b :: ·) cut, same ▸ .plain literal left, right⟩
  | @escape high low hi lo rest text highValue lowValue tail ih =>
    have run := Normalizes.escape highValue lowValue tail
    have whole : Normalizes [0x25, high, low] (renderEscape hi lo) := by
      simpa only [List.append_nil] using Normalizes.escape highValue lowValue .nil
    rcases List.append_eq_append_iff.mp found with ⟨inner, rfl, later⟩ | ⟨inner, rendered, later⟩
    · obtain ⟨front, back, cut, left, right⟩ := ih inner later
      exact ⟨0x25 :: high :: low :: front, back, by rw [cut]; rfl, Normalizes.append whole left, right⟩
    · cases inner with
      | nil =>
        rw [List.append_nil] at rendered
        exact ⟨[0x25, high, low], rest, rfl, rendered ▸ whole, later ▸ tail⟩
      | cons c inner =>
        obtain ⟨rfl, after⟩ := List.cons.inj later
        have start := renderEscape_percent hi lo before inner (digit_lt _ _ highValue) (digit_lt _ _ lowValue) rendered
        rw [found, start] at run
        exact ⟨[], 0x25 :: high :: low :: rest, rfl, start ▸ .nil, run⟩

theorem Normalizes.cut_input (normal : Normalizes bytes text) (front back : Bytes)
    (found : bytes = front ++ 0x25 :: back) :
    ∃ left right, text = left ++ right ∧ Normalizes front left ∧ Normalizes (0x25 :: back) right := by
  induction normal generalizing front with
  | nil => simp at found
  | @plain b rest text literal _ ih =>
    cases front with
    | nil => exact absurd (List.cons.inj found).1 literal
    | cons c front =>
      obtain ⟨rfl, later⟩ := List.cons.inj found
      obtain ⟨left, right, cut, first, second⟩ := ih front later
      exact ⟨byteChar b :: left, right, congrArg (byteChar b :: ·) cut, .plain literal first, second⟩
  | @escape high low hi lo rest text highValue lowValue tail ih =>
    have hiByte : high ≠ 0x25 := fun same => digit_ne_percent _ hi highValue (same ▸ by decide)
    have loByte : low ≠ 0x25 := fun same => digit_ne_percent _ lo lowValue (same ▸ by decide)
    have run := Normalizes.escape highValue lowValue tail
    match front with
    | [] =>
      rw [found] at run
      exact ⟨[], _, rfl, .nil, run⟩
    | [_] => exact absurd (List.cons.inj (List.cons.inj found).2).1 hiByte
    | [_, _] => exact absurd (List.cons.inj (List.cons.inj (List.cons.inj found).2).2).1 loByte
    | x :: y :: z :: front =>
      simp only [List.cons_append, List.cons.injEq] at found
      obtain ⟨rfl, rfl, rfl, later⟩ := found
      obtain ⟨left, right, cut, first, second⟩ := ih front later
      exact ⟨renderEscape hi lo ++ left, right, by rw [cut, List.append_assoc],
        .escape highValue lowValue first, second⟩

private theorem byte_of_decimal (b : UInt8) (n : Nat) (small : n < 10)
    (value : digitValue (byteChar b) = some n) : b.toNat = n + 48 := by
  rw [digitValue_byteChar] at value
  split_ifs at value with digit lower upper
  all_goals
    have difference := Option.some.inj value
    omega

theorem Normalizes.percent_inv (normal : Normalizes bytes ('%' :: '2' :: '5' :: text)) :
    ∃ rest, bytes = 0x25 :: 0x32 :: 0x35 :: rest ∧ Normalizes rest text := by
  generalize same : '%' :: '2' :: '5' :: text = whole at normal
  cases normal with
  | nil => cases same
  | @plain b rest tail literal _ =>
    have head : byteChar 0x25 = byteChar b := (List.cons.inj same).1
    exact absurd (byteChar_injective head).symm literal
  | @escape high low hi lo rest tail highValue lowValue tailNormal =>
    have hiBound := digit_lt _ _ highValue
    have loBound := digit_lt _ _ lowValue
    unfold renderEscape at same
    split_ifs at same with decoded
    · exact absurd (List.cons.inj same).1.symm (unreserved_char _ decoded).2.2.1
    · simp only [List.cons_append, List.nil_append, List.cons.injEq, true_and] at same
      obtain ⟨hiSame, loSame, rfl⟩ := same
      have hiValue := digitValue_upperDigit hi hiBound
      have loValue := digitValue_upperDigit lo loBound
      rw [← hiSame] at hiValue
      rw [← loSame] at loValue
      obtain rfl : 2 = hi := Option.some.inj hiValue
      obtain rfl : 5 = lo := Option.some.inj loValue
      have highByte : high = 0x32 := UInt8.toNat_inj.mp (byte_of_decimal high 2 (by decide) highValue)
      have lowByte : low = 0x35 := UInt8.toNat_inj.mp (byte_of_decimal low 5 (by decide) lowValue)
      exact ⟨rest, by rw [highByte, lowByte], tailNormal⟩

theorem Normalizes.spelled {c : Char} (normal : Normalizes bytes (c :: text)) (free : unreserved c.toNat = true) :
    ∃ word rest, bytes = word ++ rest ∧ (∀ b ∈ word, b.toNat < 128) ∧ Spells c (latin1 word) ∧
      Normalizes rest text := by
  generalize same : c :: text = whole at normal
  cases normal with
  | nil => cases same
  | @plain b rest tail literal tailNormal =>
    obtain ⟨rfl, rfl⟩ := List.cons.inj same
    have low := (unreserved_char _ free).1
    rw [byteChar_toNat] at low
    exact ⟨[b], rest, rfl, by simpa using low, .literal, tailNormal⟩
  | @escape high low hi lo rest tail highValue lowValue tailNormal =>
    unfold renderEscape at same
    split_ifs at same with decoded
    · obtain ⟨value, rfl⟩ := List.cons.inj same
      refine ⟨[0x25, high, low], rest, rfl, ?_, .escape highValue lowValue value.symm, tailNormal⟩
      simp only [List.forall_mem_cons, ← byteChar_toNat]
      exact ⟨by decide, digit_ascii _ _ highValue, digit_ascii _ _ lowValue, by simp⟩
    · obtain ⟨rfl, -⟩ := List.cons.inj same
      exact absurd free (by decide)

theorem Normalizes.plain_inv {b : UInt8} (normal : Normalizes (b :: rest) text) (literal : b ≠ 0x25) :
    ∃ tail, text = byteChar b :: tail ∧ Normalizes rest tail := by
  generalize same : b :: rest = bytes at normal
  cases normal with
  | nil => cases same
  | plain _ tail =>
    obtain ⟨rfl, rfl⟩ := List.cons.inj same
    exact ⟨_, rfl, tail⟩
  | escape => exact absurd (List.cons.inj same).1 literal

theorem Normalizes.escape_inv {high low : UInt8} {hi lo : Nat} (normal : Normalizes (0x25 :: high :: low :: rest) text)
    (highValue : digitValue (byteChar high) = some hi) (lowValue : digitValue (byteChar low) = some lo) :
    ∃ tail, text = renderEscape hi lo ++ tail ∧ Normalizes rest tail := by
  cases normal with
  | plain literal _ => exact absurd rfl literal
  | @escape _ _ hi' lo' _ tail highValue' lowValue' tailNormal =>
    obtain rfl : hi = hi' := Option.some.inj (highValue.symm.trans highValue')
    obtain rfl : lo = lo' := Option.some.inj (lowValue.symm.trans lowValue')
    exact ⟨tail, rfl, tailNormal⟩

theorem Normalizes.spelled_inv {word : Text} {c : Char} (normal : Normalizes (utf8 word ++ rest) text)
    (spells : Spells c word) (free : unreserved c.toNat = true) : ∃ tail, text = c :: tail ∧ Normalizes rest tail := by
  obtain ⟨bound, -, percent, -⟩ := unreserved_char _ free
  rw [Char.ofNat_toNat] at percent
  cases spells with
  | literal =>
    have code := byteChar_ofNat c bound
    rw [utf8_cons, encode_ascii c bound] at normal
    have literal : UInt8.ofNat c.toNat ≠ 0x25 := by
      intro same
      rw [same] at code
      exact percent code.symm
    have inverse := Normalizes.plain_inv normal literal
    rwa [code] at inverse
  | @escape high low hi lo highValue lowValue value =>
    have highLow := digit_ascii _ _ highValue
    have lowLow := digit_ascii _ _ lowValue
    have small : 16 * hi + lo < 256 := by
      have := digit_lt _ _ highValue
      have := digit_lt _ _ lowValue
      omega
    rw [← value, ofNat_toNat _ small] at free
    rw [utf8_cons, utf8_cons, utf8_cons, encode_ascii '%' (by decide), encode_ascii _ highLow,
      encode_ascii _ lowLow] at normal
    rw [← byteChar_ofNat _ highLow] at highValue
    rw [← byteChar_ofNat _ lowLow] at lowValue
    have inverse := Normalizes.escape_inv normal highValue lowValue
    rwa [renderEscape, if_pos free, value] at inverse

def HidesDoubleEncoding (text : Text) : Prop :=
  ∃ x y first second, ['%', '2', '5', x.toLower, y.toLower] ∈ doubleEncodings ∧ Spells x first ∧ Spells y second ∧
    '%' :: '2' :: '5' :: (first ++ second) <:+: text

def DoubleEncoded (text : Text) : Prop :=
  ∃ x y, ['%', '2', '5', x.toLower, y.toLower] ∈ doubleEncodings ∧ ['%', '2', '5', x, y] <:+: text

theorem double_unreserved (x y : Char) (listed : ['%', '2', '5', x.toLower, y.toLower] ∈ doubleEncodings) :
    unreserved x.toNat = true ∧ unreserved y.toNat = true := by
  have codes : (x.toLower.toNat = 50 ∨ x.toLower.toNat = 48 ∨ x.toLower.toNat = 53) ∧
      (y.toLower.toNat = 101 ∨ y.toLower.toNat = 102 ∨ y.toLower.toNat = 48 ∨ y.toLower.toNat = 99) := by
    simp only [doubleEncodings, List.mem_cons, List.cons.injEq, true_and, and_true, List.not_mem_nil,
      or_false] at listed
    rcases listed with ⟨left, right⟩ | ⟨left, right⟩ | ⟨left, right⟩ | ⟨left, right⟩ <;> rw [left, right] <;> decide
  rw [toLower_toNat, toLower_toNat] at codes
  simp only [unreserved, Bool.or_eq_true, Bool.decide_and, Bool.and_eq_true, decide_eq_true_eq]
  split_ifs at codes <;> omega

/-- Within one segment, the output holds a double encoding exactly when the raw text hides one. -/
theorem Normalizes.double_iff {raw : Text} (normal : Normalizes (utf8 raw) text) :
    DoubleEncoded text ↔ HidesDoubleEncoding raw := by
  constructor
  · intro found
    obtain ⟨x, y, listed, before, after, rfl⟩ := found
    have free := double_unreserved x y listed
    obtain ⟨front, back, cut, -, run⟩ := Normalizes.cut_output normal before ('2' :: '5' :: x :: y :: after) (by simp)
    obtain ⟨_, rfl, firstRun⟩ := Normalizes.percent_inv run
    obtain ⟨first, _, rfl, firstLow, firstSpells, secondRun⟩ := Normalizes.spelled firstRun free.1
    obtain ⟨second, rest, rfl, secondLow, secondSpells, -⟩ := Normalizes.spelled secondRun free.2
    refine ⟨x, y, latin1 first, latin1 second, listed, firstSpells, secondSpells, ?_⟩
    have low : ∀ b ∈ 0x25 :: 0x32 :: 0x35 :: (first ++ second), b.toNat < 128 := by
      simp only [List.forall_mem_cons, List.forall_mem_append]
      exact ⟨by decide, by decide, by decide, firstLow, secondLow⟩
    have within : 0x25 :: 0x32 :: 0x35 :: (first ++ second) <:+: utf8 raw :=
      ⟨front, rest, by rw [cut]; simp⟩
    have spelled := infix_of_utf8 _ raw low within
    rw [latin1_cons, latin1_cons, latin1_cons, latin1_append] at spelled
    exact spelled
  · intro found
    obtain ⟨x, y, first, second, listed, firstSpells, secondSpells, before, after, rfl⟩ := found
    have free := double_unreserved x y listed
    have cut : utf8 (before ++ '%' :: '2' :: '5' :: (first ++ second) ++ after) =
        utf8 before ++ 0x25 :: 0x32 :: 0x35 :: (utf8 first ++ (utf8 second ++ utf8 after)) := by
      simp only [utf8_append, utf8_cons, List.append_assoc]
      rfl
    obtain ⟨left, right, rfl, -, run⟩ := Normalizes.cut_input normal _ _ cut
    have two : digitValue (byteChar 0x32) = some 2 := by decide
    have five : digitValue (byteChar 0x35) = some 5 := by decide
    have kept : renderEscape 2 5 = ['%', '2', '5'] := by decide
    obtain ⟨_, rfl, firstRun⟩ := Normalizes.escape_inv run two five
    obtain ⟨_, rfl, secondRun⟩ := Normalizes.spelled_inv firstRun firstSpells free.1
    obtain ⟨tail, rfl, -⟩ := Normalizes.spelled_inv secondRun secondSpells free.2
    exact ⟨x, y, listed, left, tail, by rw [kept, List.append_assoc]; rfl⟩

end Praeco.Path.Spelling
