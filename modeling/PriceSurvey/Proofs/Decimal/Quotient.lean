import Mathlib.Data.Nat.Cast.Order.Field
import PriceSurvey.Proofs.Decimal.Rounding

/-!
# Quotients of decimals

A quotient of positive decimals is exact, or it is the exact quotient rounded half up behind at
least a hundred of its digits. Unless it is huge, that place lies far behind the places it is
rounded to next, and the two roundings together cross no number of that many decimals.

Results:
* `longDivide_eq`: long division is exact, or it rounds at the last of its places.
* `div_approximates`: the quotient of positive decimals.
* `Approximates.round_le`, `Approximates.le_round`: what is rounded again lies on the same side of
  a number of the places that are kept as the exact quotient.
* `Approximates.abs_round_sub_lt`: it is less than a unit of the last of them away.
-/
namespace PriceSurvey.Decimal

/-- The decimal is the number `x`, or it is `x` rounded half up at the scale of the decimal, where
`x` has at least `digits` digits. -/
def Approximates (d : Decimal) (digits : ℕ) (x : ℚ) : Prop :=
  d.toRat = x ∨ d.toRat = roundHalfUp d.scale x ∧ 10 ^ (digits - 1) ≤ x * 10 ^ d.scale

/-! ## Long division -/

theorem toRat_raise (num den : ℕ) (scale : ℤ) :
    ((raise num den scale).1 : ℚ) * 10 ^ (-(raise num den scale).2) = num * 10 ^ (-scale) := by
  fun_induction raise num den scale with
  | case1 num scale h ih =>
    rw [ih, neg_add, ten_zpow_add, zpow_neg_one]
    push_cast
    field_simp
  | case2 num scale h => rfl

theorem le_raise {num : ℕ} (hnum : 0 < num) (den : ℕ) (scale : ℤ) :
    den ≤ (raise num den scale).1 := by
  fun_induction raise num den scale with
  | case1 num scale h ih => exact ih (by omega)
  | case2 num scale h => omega

/-- Each step puts a digit behind the quotient and keeps the number that quotient and remainder
stand for, until nothing remains or the places are used up. -/
theorem longDivide_eq {den q r : ℕ} {scale : ℤ} {x : ℚ} (places : ℕ) (hr : r < den)
    (hx : x * 10 ^ scale = q + r / den) :
    ∃ n σ, longDivide den places q r scale = (n, σ) ∧
      (toRat ⟨n, σ⟩ = x ∨ σ = scale + places ∧ toRat ⟨n, σ⟩ = roundHalfUp σ x) := by
  induction places generalizing q r scale with
  | zero =>
    refine ⟨_, _, rfl, .inr ⟨by simp, ?_⟩⟩
    have hup : (r ≠ 0 ∧ den ≤ 2 * r) ↔ den ≤ 2 * r := by omega
    rw [roundHalfUp, hx, floor_quotient_add_half hr, toRat]
    simp only [hup]
    congr 2
    split <;> rfl
  | succ places ih =>
    rw [longDivide]
    split
    case isTrue h0 =>
      refine ⟨_, _, rfl, .inl ?_⟩
      rw [h0, Nat.cast_zero, zero_div, add_zero] at hx
      rw [toRat, Int.cast_natCast, ← hx, mul_ten_zpow_neg]
    case isFalse h0 =>
      have hx' : x * 10 ^ (scale + 1) =
          (q * 10 + r * 10 / den : ℕ) + (r * 10 % den : ℕ) / (den : ℚ) := by
        have hstep := cast_div_eq_add (r * 10) hr.pos
        rw [ten_zpow_add, zpow_one, ← mul_assoc, hx, Nat.cast_add, add_assoc, ← hstep]
        push_cast
        ring
      obtain ⟨n, σ, hn, hcases⟩ := ih (Nat.mod_lt _ hr.pos) hx'
      have hplaces : scale + 1 + places = scale + (places + 1 : ℕ) := by
        push_cast
        ring
      exact ⟨n, σ, hn, hplaces ▸ hcases⟩

/-! ## Digits of a quotient -/

theorem ten_pow_length_toDigits_le {n : ℕ} (h : 0 < n) :
    10 ^ ((Nat.toDigits 10 n).length - 1) ≤ n := by
  by_contra hlt
  have hpos := Nat.length_toDigits_pos (b := 10) (n := n)
  rcases Nat.eq_zero_or_pos ((Nat.toDigits 10 n).length - 1) with h0 | h1
  · rw [h0, pow_zero] at hlt
    omega
  · have := (Nat.length_toDigits_le_iff (by norm_num) h1).2 (not_le.1 hlt)
    omega

theorem divideMagnitudes_approximates {num den : ℕ} (hnum : 0 < num) (hden : 0 < den)
    (scale : ℤ) : ∃ n σ, divideMagnitudes num den scale = (n, σ) ∧
      Approximates ⟨n, σ⟩ quotientDigits (num / den * 10 ^ (-scale)) := by
  have hvalue := toRat_raise num den scale
  have hge := le_raise hnum den scale
  unfold divideMagnitudes
  generalize raise num den scale = raised at hvalue hge
  obtain ⟨m, s⟩ := raised
  dsimp only at hvalue hge ⊢
  generalize hx : (num : ℚ) / den * 10 ^ (-scale) = x
  have hxm : x * 10 ^ s = m / (den : ℚ) := by
    rw [← hx, div_mul_eq_mul_div, ← hvalue, div_mul_eq_mul_div, mul_ten_neg_zpow]
  obtain ⟨n, σ, hn, hcases⟩ := longDivide_eq (quotientDigits - (Nat.toDigits 10 (m / den)).length)
    (Nat.mod_lt m hden) (hxm.trans (cast_div_eq_add m hden))
  refine ⟨n, σ, hn, hcases.imp_right fun ⟨hσ, h⟩ => ⟨h, ?_⟩⟩
  have hlength := Nat.length_toDigits_pos (b := 10) (n := m / den)
  have hdigits := ten_pow_length_toDigits_le (Nat.div_pos hge hden)
  generalize (Nat.toDigits 10 (m / den)).length = length at hσ hlength hdigits
  calc (10 : ℚ) ^ (quotientDigits - 1)
      ≤ 10 ^ (length - 1 + (quotientDigits - length)) :=
        pow_le_pow_right₀ (by norm_num) (by omega)
    _ = 10 ^ (length - 1) * 10 ^ (quotientDigits - length) := pow_add _ _ _
    _ ≤ (m / den : ℕ) * 10 ^ (quotientDigits - length) := by
        gcongr
        exact_mod_cast hdigits
    _ ≤ m / den * 10 ^ (quotientDigits - length) := by
        gcongr
        exact Nat.cast_div_le
    _ = x * 10 ^ σ := by
        rw [hσ, ten_zpow_add, ← mul_assoc, hxm, zpow_natCast]

theorem toRat_div_toRat (a b : Decimal) :
    a.toRat / b.toRat = (a.digits : ℚ) / b.digits * 10 ^ (-(a.scale - b.scale)) := by
  rw [toRat, toRat, neg_sub, sub_eq_add_neg, ten_zpow_add, zpow_neg 10 b.scale]
  field_simp

theorem IsPositive.cast_natAbs {d : Decimal} (h : d.IsPositive) :
    (d.digits.natAbs : ℚ) = d.digits := by
  rw [Nat.cast_natAbs, abs_of_pos h]

theorem div_approximates {a b : Decimal} (ha : a.IsPositive) (hb : b.IsPositive) :
    (a / b).Approximates quotientDigits (a.toRat / b.toRat) := by
  have hzeros : a.digits ≠ 0 ∧ b.digits ≠ 0 := ⟨ha.ne', hb.ne'⟩
  change (Decimal.div a b).Approximates _ _
  unfold Decimal.div
  rw [if_neg hzeros.2]
  split_ifs with hone hsame
  · have hb1 : b.toRat = 1 := (hone.resolve_left hzeros.1).toRat_eq
    exact .inl (by rw [hb1, div_one])
  · refine .inl ?_
    rw [toRat_div_toRat, hsame, div_self (by exact_mod_cast hzeros.2), toRat, Int.cast_one]
  · obtain ⟨n, σ, hn, happrox⟩ := divideMagnitudes_approximates (Int.natAbs_pos.2 hzeros.1)
      (Int.natAbs_pos.2 hzeros.2) (a.scale - b.scale)
    rw [hn, toRat_div_toRat, ← ha.cast_natAbs, ← hb.cast_natAbs]
    dsimp only
    rw [withSign_of_nonneg (mul_pos ha hb).le]
    exact happrox

/-! ## A second rounding -/

theorem Approximates.digits_nonneg {d : Decimal} {digits : ℕ} {x : ℚ}
    (h : d.Approximates digits x) (hx : 0 ≤ x) : 0 ≤ d.digits := by
  have hnonneg : 0 ≤ d.toRat := by
    rcases h with h | ⟨h, -⟩
    · rwa [h]
    · exact h ▸ HasPlaces.le_roundHalfUp ⟨0, by simp⟩ hx
  exact_mod_cast nonneg_of_mul_nonneg_left hnonneg (ten_zpow_pos _)

section

variable {d : Decimal} {digits places size : ℕ} {x t : ℚ}
variable (h : d.Approximates digits x) (hx : x < 10 ^ size) (hroom : size + places < digits)

include h hx hroom

/-- What is not exact is rounded behind the places that the digits leave to a number of its
size. -/
theorem Approximates.exact_or_finer :
    d.toRat = x ∨ (places : ℤ) < d.scale ∧ d.toRat = roundHalfUp d.scale x := by
  refine h.imp_right fun ⟨hround, hlarge⟩ => ⟨?_, hround⟩
  have hlt : (10 : ℚ) ^ ((digits - 1 : ℕ) : ℤ) < 10 ^ ((size : ℤ) + d.scale) := by
    rw [zpow_natCast, ten_zpow_add, zpow_natCast]
    exact hlarge.trans_lt (mul_lt_mul_of_pos_right hx (ten_zpow_pos _))
  have := (zpow_lt_zpow_iff_right₀ (by norm_num : (1 : ℚ) < 10)).1 hlt
  omega

variable (hx0 : 0 ≤ x)

include hx0

theorem Approximates.round_le (ht : HasPlaces places t) (hxt : x ≤ t) :
    (d.round places).toRat ≤ t := by
  rw [toRat_round (h.digits_nonneg hx0)]
  apply ht.roundHalfUp_le
  rcases h.exact_or_finer hx hroom with hd | ⟨hfiner, hd⟩ <;> rw [hd]
  · exact hxt
  · exact (ht.mono hfiner.le).roundHalfUp_le hxt

theorem Approximates.le_round (ht : HasPlaces places t) (hxt : t ≤ x) :
    t ≤ (d.round places).toRat := by
  rw [toRat_round (h.digits_nonneg hx0)]
  apply ht.le_roundHalfUp
  rcases h.exact_or_finer hx hroom with hd | ⟨hfiner, hd⟩ <;> rw [hd]
  · exact hxt
  · exact (ht.mono hfiner.le).le_roundHalfUp hxt

theorem Approximates.abs_round_sub_lt :
    |(d.round places).toRat - x| < 10 ^ (-(places : ℤ)) := by
  have hfirst : |d.toRat - x| < 10 ^ (-(places : ℤ)) / 2 := by
    rcases h.exact_or_finer hx hroom with hd | ⟨hfiner, hd⟩ <;> rw [hd]
    · rw [sub_self, abs_zero]
      exact half_pos (ten_zpow_pos _)
    · refine (abs_roundHalfUp_sub_le _ _).trans_lt (div_lt_div_of_pos_right ?_ two_pos)
      exact zpow_lt_zpow_right₀ (by norm_num) (neg_lt_neg hfiner)
  rw [toRat_round (h.digits_nonneg hx0)]
  calc |roundHalfUp places d.toRat - x|
      ≤ |roundHalfUp places d.toRat - d.toRat| + |d.toRat - x| := abs_sub_le _ _ _
    _ < 10 ^ (-(places : ℤ)) / 2 + 10 ^ (-(places : ℤ)) / 2 :=
        add_lt_add_of_le_of_lt (abs_roundHalfUp_sub_le _ _) hfirst
    _ = 10 ^ (-(places : ℤ)) := add_halves _

end

end PriceSurvey.Decimal
