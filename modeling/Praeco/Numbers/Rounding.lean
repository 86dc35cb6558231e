import Mathlib

/-! Rounding of exact numbers: to the nearest integer, and to the nearest number with a given count of binary digits.
Ties go to the even neighbour; exponents are not bounded. -/

namespace Praeco.Numbers.Rounding

def roundEven (x : ℚ) : ℤ :=
  if Int.fract x < 1 / 2 then ⌊x⌋
  else if 1 / 2 < Int.fract x then ⌊x⌋ + 1
  else if Even ⌊x⌋ then ⌊x⌋
  else ⌊x⌋ + 1

/-- The distance of the numbers around `x` that have so many binary digits after the first. -/
def ulp (digits : Nat) (x : ℚ) : ℚ := 2 ^ (Int.log 2 x - digits)

def toBinary (digits : Nat) (x : ℚ) : ℚ := roundEven (x / ulp digits x) * ulp digits x

variable {x : ℚ} {n : ℤ} {digits : Nat}

theorem floor_le_roundEven : ⌊x⌋ ≤ roundEven x := by
  unfold roundEven
  split_ifs <;> omega

theorem roundEven_le_ceil : roundEven x ≤ ⌈x⌉ := by
  have floor : ⌊x⌋ ≤ ⌈x⌉ := Int.floor_le_ceil x
  by_cases low : Int.fract x < 1 / 2
  · rw [roundEven, if_pos low]
    exact floor
  · have above : ⌊x⌋ + 1 ≤ ⌈x⌉ := by
      have strict : (⌊x⌋ : ℚ) < x := by
        have parts := Int.floor_add_fract x
        linarith
      exact Int.add_one_le_iff.mpr (Int.lt_ceil.mpr strict)
    rw [roundEven, if_neg low]
    split_ifs
    · exact above
    · exact floor
    · exact above

theorem le_roundEven (below : (n : ℚ) ≤ x) : n ≤ roundEven x := (Int.le_floor.mpr below).trans floor_le_roundEven

theorem roundEven_le (above : x ≤ n) : roundEven x ≤ n := roundEven_le_ceil.trans (Int.ceil_le.mpr above)

theorem ulp_pos : 0 < ulp digits x := zpow_pos two_pos _

theorem le_toBinary (below : n * ulp digits x ≤ x) : n * ulp digits x ≤ toBinary digits x := by
  have scaled : (n : ℚ) ≤ x / ulp digits x := (le_div_iff₀ ulp_pos).mpr below
  have rounded : (n : ℚ) ≤ roundEven (x / ulp digits x) := by exact_mod_cast le_roundEven scaled
  exact mul_le_mul_of_nonneg_right rounded ulp_pos.le

theorem toBinary_le (above : x ≤ n * ulp digits x) : toBinary digits x ≤ n * ulp digits x := by
  have scaled : x / ulp digits x ≤ (n : ℚ) := (div_le_iff₀ ulp_pos).mpr above
  have rounded : (roundEven (x / ulp digits x) : ℚ) ≤ n := by exact_mod_cast roundEven_le scaled
  exact mul_le_mul_of_nonneg_right rounded ulp_pos.le

theorem two_zpow_eq (digits extra : Nat) (x : ℚ) :
    (2 : ℚ) ^ (Int.log 2 x + extra) = (2 ^ (digits + extra) : ℤ) * ulp digits x := by
  have exponent : Int.log 2 x + extra = ((digits + extra : Nat) : ℤ) + (Int.log 2 x - digits) := by
    push_cast
    ring
  rw [exponent, zpow_add₀ two_ne_zero, zpow_natCast, ulp]
  push_cast
  rfl

theorem two_zpow_le_toBinary (positive : 0 < x) : (2 : ℚ) ^ Int.log 2 x ≤ toBinary digits x := by
  have binade : (2 : ℚ) ^ Int.log 2 x = (2 ^ digits : ℤ) * ulp digits x := by simpa using two_zpow_eq digits 0 x
  have below : (2 : ℚ) ^ Int.log 2 x ≤ x := Int.zpow_log_le_self (by norm_num) positive
  rw [binade] at below ⊢
  exact le_toBinary below

theorem toBinary_pos (positive : 0 < x) : 0 < toBinary digits x :=
  (zpow_pos two_pos _).trans_le (two_zpow_le_toBinary positive)

theorem one_le_toBinary (large : 1 ≤ x) : 1 ≤ toBinary digits x := by
  have positive : 0 < x := zero_lt_one.trans_le large
  have exponent : 0 ≤ Int.log 2 x := by
    rw [← Int.zpow_le_iff_le_log (by norm_num) positive]
    simpa using large
  exact (one_le_zpow₀ one_le_two exponent).trans (two_zpow_le_toBinary positive)

theorem toBinary_le_one (positive : 0 < x) (small : x ≤ 1) : toBinary digits x ≤ 1 := by
  rcases small.lt_or_eq with less | rfl
  · have next := two_zpow_eq digits 1 x
    have above : x < (2 : ℚ) ^ (Int.log 2 x + 1) := Int.lt_zpow_succ_log_self (by norm_num) x
    have exponent : Int.log 2 x + 1 ≤ 0 := by
      have negative : Int.log 2 x < 0 := by
        rw [← Int.lt_zpow_iff_log_lt (by norm_num) positive]
        simpa using less
      omega
    calc toBinary digits x ≤ (2 ^ (digits + 1) : ℤ) * ulp digits x := toBinary_le (next ▸ above.le)
      _ = 2 ^ (Int.log 2 x + 1) := next.symm
      _ ≤ 1 := zpow_le_one_of_nonpos₀ one_le_two exponent
  · have whole : ((2 ^ digits : ℤ) : ℚ) * ulp digits 1 = 1 := by simpa using (two_zpow_eq digits 0 1).symm
    exact (toBinary_le whole.ge).trans whole.le

end Praeco.Numbers.Rounding
