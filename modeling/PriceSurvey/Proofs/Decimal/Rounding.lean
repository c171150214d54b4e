import Mathlib.Data.Rat.Floor
import Mathlib.Tactic.Linarith
import PriceSurvey.Proofs.Decimal.Number

/-!
# Rounding to decimal places

A number with at most `places` decimals is a multiple of 10^(-places). Rounding goes to the nearest
multiple, a half up. It keeps the order and leaves the multiples where they are, so it moves no
number across one of them, however often it is done.

Results:
* `HasPlaces.roundHalfUp_le`, `HasPlaces.le_roundHalfUp`: a number of that many decimals bounds
  what is rounded as it bounds the number itself.
* `lt_roundHalfUp_iff`: when what is rounded is above a bound, whatever decimals that has.
* `abs_roundHalfUp_sub_le`: the error is half a unit of the last place at most.
* `toRat_round`: a decimal that is not negative is rounded so.
-/
namespace PriceSurvey

open Decimal (ten_zpow_pos ten_zpow_add mul_ten_zpow_neg mul_ten_neg_zpow)

/-- The number has at most `places` decimals. -/
def HasPlaces (places : ℤ) (x : ℚ) : Prop := ∃ k : ℤ, x * 10 ^ places = k

/-- The nearest number of `places` decimals, the greater of two that are as near. -/
def roundHalfUp (places : ℤ) (x : ℚ) : ℚ := ⌊x * 10 ^ places + 1 / 2⌋ * 10 ^ (-places)

/-! ## Numbers of so many decimals -/

theorem HasPlaces.mono {m n : ℤ} {x : ℚ} (h : HasPlaces m x) (hmn : m ≤ n) : HasPlaces n x := by
  obtain ⟨k, hk⟩ := h
  refine ⟨k * 10 ^ (n - m).toNat, ?_⟩
  rw [show n = m + (n - m) by omega, ten_zpow_add, ← mul_assoc, hk]
  push_cast
  rw [Decimal.ten_pow_toNat (by omega), add_sub_cancel_left]

/-- One more unit of the last place. -/
theorem HasPlaces.add_unit {n : ℤ} {x : ℚ} (h : HasPlaces n x) : HasPlaces n (x + 10 ^ (-n)) := by
  obtain ⟨k, hk⟩ := h
  refine ⟨k + 1, ?_⟩
  rw [add_mul, hk, ← one_mul (10 ^ (-n)), mul_ten_neg_zpow]
  push_cast
  rfl

theorem Decimal.hasPlaces_toRat (d : Decimal) : HasPlaces d.scale d.toRat :=
  ⟨d.digits, by rw [toRat_mul_zpow, sub_self, zpow_zero, mul_one]⟩

/-! ## Rounding -/

theorem roundHalfUp_mono (n : ℤ) : Monotone (roundHalfUp n) := by
  intro x y h
  have hunits : x * 10 ^ n + 1 / 2 ≤ y * 10 ^ n + 1 / 2 :=
    add_le_add_left (mul_le_mul_of_nonneg_right h (ten_zpow_pos n).le) _
  exact mul_le_mul_of_nonneg_right (Int.cast_le.2 (Int.floor_le_floor hunits)) (ten_zpow_pos _).le

theorem HasPlaces.roundHalfUp_eq {n : ℤ} {x : ℚ} (h : HasPlaces n x) : roundHalfUp n x = x := by
  obtain ⟨k, hk⟩ := h
  have hfloor : ⌊(k : ℚ) + 1 / 2⌋ = k := by
    rw [Int.floor_eq_iff]
    constructor <;> linarith
  rw [roundHalfUp, hk, hfloor, ← hk, mul_ten_zpow_neg]

theorem HasPlaces.roundHalfUp_le {n : ℤ} {t x : ℚ} (h : HasPlaces n t) (hx : x ≤ t) :
    roundHalfUp n x ≤ t :=
  h.roundHalfUp_eq ▸ roundHalfUp_mono n hx

theorem HasPlaces.le_roundHalfUp {n : ℤ} {t x : ℚ} (h : HasPlaces n t) (hx : t ≤ x) :
    t ≤ roundHalfUp n x :=
  h.roundHalfUp_eq ▸ roundHalfUp_mono n hx

/-- What is rounded gets above a bound exactly if it comes within half a unit of the first multiple
above that. -/
theorem lt_roundHalfUp_iff {n : ℤ} {t x : ℚ} :
    t < roundHalfUp n x ↔ (⌊t * 10 ^ n⌋ : ℚ) + 1 / 2 ≤ x * 10 ^ n := by
  have hunits : t < roundHalfUp n x ↔ t * 10 ^ n < (⌊x * 10 ^ n + 1 / 2⌋ : ℚ) := by
    rw [roundHalfUp, zpow_neg, ← div_eq_mul_inv, lt_div_iff₀ (ten_zpow_pos n)]
  rw [hunits, ← Int.floor_lt, Int.lt_iff_add_one_le, Int.le_floor]
  push_cast
  constructor <;> intro h <;> linarith

/-- Above a number of that many decimals this is half a unit above the number. -/
theorem HasPlaces.lt_roundHalfUp_iff {n : ℤ} {t x : ℚ} (h : HasPlaces n t) :
    t < roundHalfUp n x ↔ t + 10 ^ (-n) / 2 ≤ x := by
  obtain ⟨k, hk⟩ := h
  have hhalf : (10 : ℚ) ^ (-n) / 2 * 10 ^ n = 1 / 2 := by
    rw [div_mul_eq_mul_div, ← zpow_add₀ (by norm_num), neg_add_cancel, zpow_zero]
  rw [PriceSurvey.lt_roundHalfUp_iff, hk, Int.floor_intCast, ← hk, ← hhalf, ← add_mul]
  exact mul_le_mul_iff_of_pos_right (ten_zpow_pos n)

theorem abs_roundHalfUp_sub_le (n : ℤ) (x : ℚ) : |roundHalfUp n x - x| ≤ 10 ^ (-n) / 2 := by
  have hlower := Int.floor_le (x * 10 ^ n + 1 / 2)
  have hupper := Int.lt_floor_add_one (x * 10 ^ n + 1 / 2)
  have hunits : |(⌊x * 10 ^ n + 1 / 2⌋ : ℚ) - x * 10 ^ n| ≤ 1 / 2 :=
    abs_le.2 ⟨by linarith, by linarith⟩
  calc |roundHalfUp n x - x|
      = |((⌊x * 10 ^ n + 1 / 2⌋ : ℚ) - x * 10 ^ n) * 10 ^ (-n)| := by
        rw [sub_mul, mul_ten_zpow_neg, roundHalfUp]
    _ = |(⌊x * 10 ^ n + 1 / 2⌋ : ℚ) - x * 10 ^ n| * 10 ^ (-n) := by
        rw [abs_mul, abs_of_pos (ten_zpow_pos _)]
    _ ≤ 1 / 2 * 10 ^ (-n) := mul_le_mul_of_nonneg_right hunits (ten_zpow_pos _).le
    _ = 10 ^ (-n) / 2 := by ring

/-! ## Rounding a decimal -/

/-- A quotient as the whole quotient and the remainder. -/
theorem cast_div_eq_add (n : ℕ) {den : ℕ} (h : 0 < den) :
    (n : ℚ) / den = (n / den : ℕ) + (n % den : ℕ) / (den : ℚ) := by
  have hsplit : (n : ℚ) = (n / den : ℕ) * den + (n % den : ℕ) := by
    exact_mod_cast (Nat.div_add_mod' n den).symm
  rw [div_eq_iff (by positivity), add_mul, div_mul_cancel₀ _ (by positivity), ← hsplit]

/-- A quotient is rounded by its remainder. -/
theorem floor_quotient_add_half {den q r : ℕ} (hr : r < den) :
    ⌊(q : ℚ) + r / den + 1 / 2⌋ = if den ≤ 2 * r then (q : ℤ) + 1 else q := by
  have hden : (0 : ℚ) < den := by exact_mod_cast hr.pos
  have hr0 : (0 : ℚ) ≤ r / den := by positivity
  have hr1 : (r : ℚ) / den < 1 := by
    rw [div_lt_one hden]
    exact_mod_cast hr
  have hhalf : (1 / 2 : ℚ) ≤ r / den ↔ den ≤ 2 * r := by
    rw [div_le_div_iff₀ two_pos hden, one_mul, mul_comm (r : ℚ)]
    exact_mod_cast Iff.rfl
  rw [Int.floor_eq_iff]
  split
  case isTrue h =>
    have := hhalf.2 h
    push_cast
    constructor <;> linarith
  case isFalse h =>
    have := not_le.1 (mt hhalf.1 h)
    push_cast
    constructor <;> linarith

theorem Decimal.toRat_round {d : Decimal} (hd : 0 ≤ d.digits) (places : ℕ) :
    (d.round places).toRat = roundHalfUp places d.toRat := by
  obtain ⟨digits, scale⟩ := d
  obtain ⟨n, rfl⟩ := Int.eq_ofNat_of_zero_le hd
  unfold round
  split
  case isTrue h => exact ((hasPlaces_toRat _).mono h).roundHalfUp_eq.symm
  case isFalse h =>
    dsimp only at h ⊢
    rw [Int.natAbs_natCast, withSign_of_nonneg hd]
    generalize hunit : 10 ^ (scale - places).toNat = unit
    have hpos : 0 < unit := hunit ▸ by positivity
    have hcast : (unit : ℚ) = 10 ^ (scale - places) := by
      rw [← ten_pow_toNat (by omega), ← hunit]
      push_cast
      rfl
    -- The number in units of the last place that is kept.
    have hunits : toRat ⟨n, scale⟩ * 10 ^ (places : ℤ) = n / (unit : ℚ) := by
      rw [toRat_mul_zpow, ← neg_sub, zpow_neg, ← hcast, ← div_eq_mul_inv]
      rfl
    rw [roundHalfUp, hunits, cast_div_eq_add n hpos,
      floor_quotient_add_half (Nat.mod_lt n hpos), toRat]
    congr 2
    split <;> rfl

end PriceSurvey
