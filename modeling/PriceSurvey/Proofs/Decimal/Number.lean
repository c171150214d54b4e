import Mathlib.Algebra.Order.Field.Rat
import Mathlib.Algebra.Order.Field.Power
import Mathlib.Data.Rat.Cast.Order
import Mathlib.Tactic.FieldSimp
import Mathlib.Tactic.Positivity
import Mathlib.Tactic.Ring
import PriceSurvey.Decimal.Arithmetic

/-!
# Decimals as rational numbers

The order of decimals is that of the numbers they stand for, and products are exact: the scale of
a decimal says how it is written and nothing about its size.

Results:
* `le_iff_toRat_le`, `lt_iff_toRat_lt`, `isPositive_iff`: comparisons are those of the numbers.
* `toRat_mul`: a product stands for the product of the numbers.
-/
namespace PriceSurvey.Decimal

/-- The number that a decimal stands for. -/
def toRat (d : Decimal) : ℚ := d.digits * 10 ^ (-d.scale)

theorem ten_zpow_pos (n : ℤ) : (0 : ℚ) < 10 ^ n := zpow_pos (by norm_num) n

theorem ten_zpow_add (m n : ℤ) : (10 : ℚ) ^ (m + n) = 10 ^ m * 10 ^ n :=
  zpow_add₀ (by norm_num) m n

theorem mul_ten_zpow_neg (x : ℚ) (n : ℤ) : x * 10 ^ n * 10 ^ (-n) = x := by
  rw [mul_assoc, ← ten_zpow_add, add_neg_cancel, zpow_zero, mul_one]

theorem mul_ten_neg_zpow (x : ℚ) (n : ℤ) : x * 10 ^ (-n) * 10 ^ n = x := by
  rw [mul_assoc, ← ten_zpow_add, neg_add_cancel, zpow_zero, mul_one]

/-- A power of ten to a difference that is not negative. -/
theorem ten_pow_toNat {n : ℤ} (h : 0 ≤ n) : (10 : ℚ) ^ n.toNat = 10 ^ n := by
  rw [← zpow_natCast, Int.toNat_of_nonneg h]

theorem toRat_mul_zpow (d : Decimal) (n : ℤ) :
    d.toRat * 10 ^ n = d.digits * 10 ^ (n - d.scale) := by
  rw [toRat, mul_assoc, ← ten_zpow_add, neg_add_eq_sub]

/-! ## Order -/

/-- The digits at the finer of two scales count the number in units of that scale. -/
theorem digitsAt_eq (d : Decimal) (scale : ℤ) :
    (d.digitsAt scale : ℚ) = d.toRat * 10 ^ max d.scale scale := by
  have hmax : ((scale - d.scale).toNat : ℤ) = max d.scale scale - d.scale := by omega
  rw [toRat_mul_zpow, digitsAt, ← hmax, zpow_natCast]
  push_cast
  rfl

theorem le_iff_toRat_le {a b : Decimal} : a ≤ b ↔ a.toRat ≤ b.toRat := by
  change a.digitsAt b.scale ≤ b.digitsAt a.scale ↔ _
  rw [← Int.cast_le (R := ℚ), digitsAt_eq, digitsAt_eq, max_comm b.scale]
  exact mul_le_mul_iff_of_pos_right (ten_zpow_pos _)

theorem lt_iff_toRat_lt {a b : Decimal} : a < b ↔ a.toRat < b.toRat := by
  rw [lt_iff_not_le, le_iff_toRat_le, not_le]

theorem isPositive_iff {d : Decimal} : d.IsPositive ↔ 0 < d.toRat := by
  rw [toRat, mul_pos_iff_of_pos_right (ten_zpow_pos _), Int.cast_pos]
  rfl

/-! ## Products -/

theorem IsOne.toRat_eq {d : Decimal} (h : d.IsOne) : d.toRat = 1 := by
  rw [toRat, h.2]
  push_cast
  rw [ten_pow_toNat h.1, ← one_mul (10 ^ d.scale), mul_ten_zpow_neg]

theorem toRat_stripZeros (n : ℕ) (scale : ℤ) :
    ((stripZeros n scale).1 : ℚ) * 10 ^ (-(stripZeros n scale).2) = n * 10 ^ (-scale) := by
  fun_induction stripZeros n scale with
  | case1 n scale h ih =>
    have hn : (n : ℚ) = (n / 10 : ℕ) * 10 := by
      exact_mod_cast (Nat.div_mul_cancel (Nat.dvd_of_mod_eq_zero h.2)).symm
    rw [ih, hn, neg_sub, sub_eq_add_neg, ten_zpow_add, zpow_one, mul_assoc]
  | case2 n scale h => rfl

theorem withSign_of_nonneg {sign : ℤ} (h : 0 ≤ sign) (n : ℕ) : withSign sign n = n :=
  if_neg h.not_gt

theorem withSign_natAbs (n : ℤ) : withSign n n.natAbs = n := by
  unfold withSign
  split <;> omega

theorem cast_withSign (sign : ℤ) (n : ℕ) :
    ((withSign sign n : ℤ) : ℚ) = if sign < 0 then -(n : ℚ) else n := by
  unfold withSign
  split <;> simp

/-- The zeros that the shortest form drops do not count. -/
theorem toRat_shortest (d : Decimal) : d.shortest.toRat = d.toRat := by
  unfold shortest
  split
  case isTrue h => simp [toRat, h]
  case isFalse h =>
    have hstrip := toRat_stripZeros d.digits.natAbs d.scale
    have hsign : (d.digits : ℚ) = (withSign d.digits d.digits.natAbs : ℤ) := by
      rw [withSign_natAbs]
    rw [toRat, toRat, hsign, cast_withSign, cast_withSign]
    split
    · rw [neg_mul, neg_mul, hstrip]
    · exact hstrip

theorem toRat_mul (a b : Decimal) : (a * b).toRat = a.toRat * b.toRat := by
  change (Decimal.mul a b).toRat = _
  unfold Decimal.mul
  split_ifs with ha hb
  · rw [toRat_shortest, ha.toRat_eq, one_mul]
  · rw [toRat_shortest, hb.toRat_eq, mul_one]
  · simp only [toRat]
    rw [neg_add, ten_zpow_add]
    push_cast
    ring

end PriceSurvey.Decimal
