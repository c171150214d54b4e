import Mathlib.Algebra.Order.Archimedean.Basic
import PriceSurvey.Decimal.Stored
import PriceSurvey.Decimal.Written
import PriceSurvey.Proofs.Decimal.Quotient

/-!
# What does not depend on the scale

A decimal that is stored comes back as the same number with another scale. What is computed from it
goes by the number: rounding does, and so does a quotient, as long as the dividend has no more
digits than a quotient is carried to. Then a quotient is the exact one rounded half up at its
hundredth digit, and where that stands is a matter of its size.

Results:
* `toRat_round_congr`, `toRat_stored`: rounded and stored decimals as numbers.
* `IsLastPlace.unique`, `exists_isLastPlace`: a number has one last place for so many digits.
* `toRat_div`, `toRat_div_congr`: quotients as numbers.
* `natAbs_lt_of_plainDigits_le`, `natAbs_digits_mul_lt`: digits that are written, and digits of
  products.
-/
namespace PriceSurvey.Decimal

variable {a b b' d : Decimal} {digits : ℕ} {σ : ℤ} {x : ℚ}

/-! ## Rounding -/

theorem digits_nonneg_iff : 0 ≤ d.digits ↔ 0 ≤ d.toRat := by
  rw [toRat, mul_nonneg_iff_of_pos_right (ten_zpow_pos _), Int.cast_nonneg_iff]

/-- A negative decimal is rounded as its magnitude is. -/
theorem toRat_round_negative (h : d.digits < 0) (places : ℕ) :
    (d.round places).toRat = -((⟨-d.digits, d.scale⟩ : Decimal).round places).toRat := by
  have hpos : ¬-d.digits < 0 := by omega
  unfold round
  dsimp only
  split
  · simp [toRat]
  · rw [Int.natAbs_neg, withSign, withSign, if_pos h, if_neg hpos, toRat, toRat]
    push_cast
    ring

/-- Rounding goes by the number. -/
theorem toRat_round_congr (h : a.toRat = b.toRat) (places : ℕ) :
    (a.round places).toRat = (b.round places).toRat := by
  by_cases ha : 0 ≤ a.digits
  · have hb : 0 ≤ b.digits := by rwa [digits_nonneg_iff, ← h, ← digits_nonneg_iff]
    rw [toRat_round ha, toRat_round hb, h]
  · have hb : ¬0 ≤ b.digits := by rwa [digits_nonneg_iff, ← h, ← digits_nonneg_iff]
    have hneg : toRat ⟨-a.digits, a.scale⟩ = toRat ⟨-b.digits, b.scale⟩ := by
      simpa [toRat] using h
    rw [toRat_round_negative (not_le.1 ha), toRat_round_negative (not_le.1 hb),
      toRat_round (by simpa using (not_le.1 ha).le), toRat_round (by simpa using (not_le.1 hb).le),
      hneg]

/-! ## Storing -/

theorem le_upToFour (n : ℤ) : n ≤ upToFour n := by
  unfold upToFour
  omega

/-- A stored decimal is the same number. -/
theorem toRat_stored (d : Decimal) : d.stored.toRat = d.toRat := by
  rw [← toRat_shortest d, stored]
  split
  case isTrue h => simp [toRat, h]
  case isFalse h =>
    rw [toRat, digitsAt_eq, max_eq_right (le_upToFour _), mul_ten_zpow_neg]

/-! ## The last place -/

/-- Carried to so many digits, the number ends at the place `σ`. -/
def IsLastPlace (digits : ℕ) (σ : ℤ) (x : ℚ) : Prop :=
  (10 : ℚ) ^ (digits - 1 : ℤ) ≤ x * 10 ^ σ ∧ x * 10 ^ σ < (10 : ℚ) ^ (digits : ℤ)

theorem exists_isLastPlace (hx : 0 < x) (digits : ℕ) : ∃ σ, IsLastPlace digits σ x := by
  obtain ⟨n, hle, hlt⟩ := exists_mem_Ico_zpow hx (by norm_num : (1 : ℚ) < 10)
  have hpos := ten_zpow_pos (digits - 1 - n)
  refine ⟨digits - 1 - n, ?_, ?_⟩
  · calc (10 : ℚ) ^ (digits - 1 : ℤ) = 10 ^ n * 10 ^ (digits - 1 - n : ℤ) := by
          rw [← ten_zpow_add]
          congr 1
          omega
      _ ≤ x * 10 ^ (digits - 1 - n : ℤ) := mul_le_mul_of_nonneg_right hle hpos.le
  · calc x * 10 ^ (digits - 1 - n : ℤ) < 10 ^ (n + 1) * 10 ^ (digits - 1 - n : ℤ) :=
          mul_lt_mul_of_pos_right hlt hpos
      _ = (10 : ℚ) ^ (digits : ℤ) := by
          rw [← ten_zpow_add]
          congr 1
          omega

/-- A place from which the number has enough digits is not before the last place. -/
theorem IsLastPlace.le {τ : ℤ} (h : IsLastPlace digits σ x)
    (hlt : x * 10 ^ τ < (10 : ℚ) ^ (digits : ℤ)) : τ ≤ σ := by
  by_contra hστ
  have hpow : (10 : ℚ) ^ (1 : ℤ) ≤ 10 ^ (τ - σ) :=
    zpow_le_zpow_right₀ (by norm_num) (by omega)
  have hlarge : (10 : ℚ) ^ (digits : ℤ) ≤ x * 10 ^ τ :=
    calc (10 : ℚ) ^ (digits : ℤ) = 10 ^ (digits - 1 : ℤ) * 10 ^ (1 : ℤ) := by
          rw [← ten_zpow_add, sub_add_cancel]
      _ ≤ x * 10 ^ σ * 10 ^ (τ - σ) :=
          mul_le_mul h.1 hpow (ten_zpow_pos _).le ((ten_zpow_pos _).le.trans h.1)
      _ = x * 10 ^ τ := by
          rw [mul_assoc, ← ten_zpow_add, add_sub_cancel]
  exact absurd hlt (not_lt.2 hlarge)

theorem IsLastPlace.unique {τ : ℤ} (h : IsLastPlace digits σ x) (h' : IsLastPlace digits τ x) :
    τ = σ :=
  le_antisymm (h.le h'.2) (h'.le h.2)

/-- A decimal without more digits than are carried is not rounded at the last place. -/
theorem IsLastPlace.roundHalfUp_eq (h : IsLastPlace digits σ d.toRat)
    (hsmall : d.digits < 10 ^ digits) : roundHalfUp σ d.toRat = d.toRat := by
  have hscale : d.scale ≤ σ := by
    apply h.le
    rw [toRat_mul_zpow, sub_self, zpow_zero, mul_one, zpow_natCast]
    exact_mod_cast hsmall
  exact ((hasPlaces_toRat d).mono hscale).roundHalfUp_eq

/-! ## Quotients -/

theorem longDivide_scale_le (den places q r : ℕ) (scale : ℤ) :
    (longDivide den places q r scale).2 ≤ scale + places := by
  induction places generalizing q r scale with
  | zero => simp [longDivide]
  | succ places ih =>
    rw [longDivide]
    split
    · simp only
      omega
    · have := ih (q * 10 + r * 10 / den) (r * 10 % den) (scale + 1)
      push_cast
      omega

/-- Zeros are put behind a number only as long as it is less than the divisor. -/
theorem raise_eq_or_lt (num den : ℕ) (scale : ℤ) :
    (raise num den scale).1 = num ∨ (raise num den scale).1 < den * 10 := by
  fun_induction raise num den scale with
  | case1 num scale h ih => omega
  | case2 num scale h => exact .inl rfl

/-- Carried on behind its whole part, a quotient ends at its last place. -/
theorem isLastPlace_of_quotient {m den : ℕ} {s : ℤ} (hx : x * 10 ^ s = m / (den : ℚ))
    (hden : 0 < den) (hq : 0 < m / den)
    (hlength : (Nat.toDigits 10 (m / den)).length ≤ digits) :
    IsLastPlace digits (s + (digits - (Nat.toDigits 10 (m / den)).length : ℕ)) x := by
  have hpos := Nat.length_toDigits_pos (b := 10) (n := m / den)
  have hlower := ten_pow_length_toDigits_le hq
  have hupper : m / den < 10 ^ (Nat.toDigits 10 (m / den)).length :=
    (Nat.length_toDigits_le_iff (by norm_num) hpos).1 le_rfl
  generalize (Nat.toDigits 10 (m / den)).length = length at *
  have hplaces : x * 10 ^ (s + (digits - length : ℕ)) = m / den * 10 ^ (digits - length) := by
    rw [ten_zpow_add, ← mul_assoc, hx, zpow_natCast]
  rw [IsLastPlace, hplaces]
  constructor
  · calc (10 : ℚ) ^ (digits - 1 : ℤ) = 10 ^ (length - 1 + (digits - length)) := by
          rw [← zpow_natCast]
          congr 1
          omega
      _ = 10 ^ (length - 1) * 10 ^ (digits - length) := pow_add _ _ _
      _ ≤ (m / den : ℕ) * 10 ^ (digits - length) := by
          gcongr
          exact_mod_cast hlower
      _ ≤ m / den * 10 ^ (digits - length) := by
          gcongr
          exact Nat.cast_div_le
  · have hbelow : (m : ℚ) / den < 10 ^ length := by
      rw [div_lt_iff₀ (by exact_mod_cast hden)]
      exact_mod_cast (Nat.div_lt_iff_lt_mul hden).1 hupper
    calc (m : ℚ) / den * 10 ^ (digits - length) < 10 ^ length * 10 ^ (digits - length) :=
          mul_lt_mul_of_pos_right hbelow (by positivity)
      _ = (10 : ℚ) ^ (digits : ℤ) := by
          rw [← pow_add, zpow_natCast, Nat.add_sub_cancel' hlength]

/-- The quotient of magnitudes is the exact one rounded at its last place. -/
theorem divideMagnitudes_eq {num den : ℕ} (hnum : 0 < num) (hden : 0 < den)
    (hsmall : num < 10 ^ quotientDigits) {scale : ℤ}
    (hσ : IsLastPlace quotientDigits σ (num / den * 10 ^ (-scale))) :
    ∃ n τ, divideMagnitudes num den scale = (n, τ) ∧
      toRat ⟨n, τ⟩ = roundHalfUp σ (num / den * 10 ^ (-scale)) := by
  have hvalue := toRat_raise num den scale
  have hge := le_raise hnum den scale
  have hbound := raise_eq_or_lt num den scale
  unfold divideMagnitudes
  generalize raise num den scale = raised at hvalue hge hbound
  obtain ⟨m, s⟩ := raised
  dsimp only at hvalue hge hbound ⊢
  generalize hx : (num : ℚ) / den * 10 ^ (-scale) = x at hσ ⊢
  have hxm : x * 10 ^ s = m / (den : ℚ) := by
    rw [← hx, div_mul_eq_mul_div, ← hvalue, div_mul_eq_mul_div, mul_ten_neg_zpow]
  -- The whole part of the quotient has no more digits than are carried.
  have hwhole : m / den < 10 ^ quotientDigits := by
    rcases hbound with rfl | hlt
    · exact (Nat.div_le_self m den).trans_lt hsmall
    · have hone : m / den < 10 := Nat.div_lt_of_lt_mul hlt
      exact hone.trans (by decide +kernel)
  have hlength : (Nat.toDigits 10 (m / den)).length ≤ quotientDigits :=
    (Nat.length_toDigits_le_iff (by norm_num) (by decide)).2 hwhole
  have hlast := isLastPlace_of_quotient hxm hden (Nat.div_pos hge hden) hlength
  obtain rfl := hσ.unique hlast
  have hscale := longDivide_scale_le den (quotientDigits - (Nat.toDigits 10 (m / den)).length)
    (m / den) (m % den) s
  obtain ⟨n, τ, hn, hcases⟩ := longDivide_eq
    (quotientDigits - (Nat.toDigits 10 (m / den)).length) (Nat.mod_lt m hden)
    (hxm.trans (cast_div_eq_add m hden))
  rw [hn] at hscale
  refine ⟨n, τ, hn, ?_⟩
  rcases hcases with hexact | ⟨rfl, hround⟩
  · rw [← hexact]
    exact ((hasPlaces_toRat _).mono hscale).roundHalfUp_eq.symm
  · exact hround

/-- A quotient of positive decimals is the exact one rounded half up at its last place. -/
theorem toRat_div (ha : a.IsPositive) (hb : b.IsPositive)
    (hsmall : a.digits < 10 ^ quotientDigits)
    (hσ : IsLastPlace quotientDigits σ (a.toRat / b.toRat)) :
    (a / b).toRat = roundHalfUp σ (a.toRat / b.toRat) := by
  have hzeros : a.digits ≠ 0 ∧ b.digits ≠ 0 := ⟨ha.ne', hb.ne'⟩
  change (Decimal.div a b).toRat = _
  unfold Decimal.div
  rw [if_neg hzeros.2]
  split_ifs with hone hsame
  · have hb1 : b.toRat = 1 := (hone.resolve_left hzeros.1).toRat_eq
    rw [hb1, div_one] at hσ ⊢
    exact (hσ.roundHalfUp_eq hsmall).symm
  · have hexact : a.toRat / b.toRat = (⟨1, a.scale - b.scale⟩ : Decimal).toRat := by
      rw [toRat_div_toRat, hsame, div_self (by exact_mod_cast hzeros.2), toRat, Int.cast_one]
    have hone : (1 : ℤ) < 10 ^ quotientDigits := by decide +kernel
    rw [hexact] at hσ ⊢
    exact (hσ.roundHalfUp_eq hone).symm
  · rw [toRat_div_toRat, ← ha.cast_natAbs, ← hb.cast_natAbs] at hσ ⊢
    have hnat : a.digits.natAbs < 10 ^ quotientDigits := by
      zify
      rwa [abs_of_pos ha]
    obtain ⟨n, τ, hn, hround⟩ := divideMagnitudes_eq (Int.natAbs_pos.2 hzeros.1)
      (Int.natAbs_pos.2 hzeros.2) hnat hσ
    rw [hn]
    dsimp only
    rw [withSign_of_nonneg (mul_pos ha hb).le]
    exact hround

/-- A quotient goes by the number that is divided by. -/
theorem toRat_div_congr (ha : a.IsPositive) (hb : b.IsPositive)
    (hsmall : a.digits < 10 ^ quotientDigits) (h : b.toRat = b'.toRat) :
    (a / b).toRat = (a / b').toRat := by
  have hb' : b'.IsPositive := by
    rw [isPositive_iff, ← h]
    exact isPositive_iff.1 hb
  have hx : 0 < a.toRat / b.toRat := div_pos (isPositive_iff.1 ha) (isPositive_iff.1 hb)
  obtain ⟨σ, hσ⟩ := exists_isLastPlace hx quotientDigits
  rw [toRat_div ha hb hsmall hσ, toRat_div ha hb' hsmall (h ▸ hσ), h]

/-! ## Digits that are written -/

/-- The digits of a decimal in plain notation. -/
def plainDigits (d : Decimal) : ℕ := d.write.countP Char.isDigit

theorem length_toDigits_le_plainDigits (d : Decimal) :
    (Nat.toDigits 10 d.digits.natAbs).length ≤ d.plainDigits := by
  have hall : (Nat.toDigits 10 d.digits.natAbs).countP Char.isDigit =
      (Nat.toDigits 10 d.digits.natAbs).length :=
    List.countP_eq_length.2 fun c hc => Nat.isDigit_of_mem_toDigits (by norm_num) le_rfl hc
  have hbody : (Nat.toDigits 10 d.digits.natAbs).length ≤
      (writeMagnitude d.digits.natAbs d.scale).countP Char.isDigit := by
    rw [writeMagnitude]
    dsimp only
    split
    · rw [List.countP_append, hall]
      omega
    · -- Point and padding only come in addition.
      generalize hp : List.replicate (d.scale.toNat + 1 - (Nat.toDigits 10 d.digits.natAbs).length)
        '0' ++ Nat.toDigits 10 d.digits.natAbs = padded
      have hpadded : (Nat.toDigits 10 d.digits.natAbs).length ≤ padded.countP Char.isDigit := by
        rw [← hp, List.countP_append, hall]
        omega
      rw [List.countP_append, List.countP_cons]
      have hcut := congrArg (List.countP Char.isDigit)
        (List.take_append_drop (padded.length - d.scale.toNat) padded)
      rw [List.countP_append] at hcut
      omega
  rw [plainDigits, write]
  split
  · rw [List.countP_cons]
    omega
  · exact hbody

/-- A decimal has no more digits than it is written with. -/
theorem natAbs_lt_of_plainDigits_le {k : ℕ} (h : d.plainDigits ≤ k) :
    d.digits.natAbs < 10 ^ k := by
  have hlength := (length_toDigits_le_plainDigits d).trans h
  have hpos := Nat.length_toDigits_pos (b := 10) (n := d.digits.natAbs)
  exact (Nat.length_toDigits_le_iff (by norm_num) (by omega)).1 hlength

theorem stripZeros_le (n : ℕ) (scale : ℤ) : (stripZeros n scale).1 ≤ n := by
  fun_induction stripZeros n scale with
  | case1 n scale h ih => omega
  | case2 n scale h => exact le_rfl

theorem natAbs_withSign (sign : ℤ) (n : ℕ) : (withSign sign n).natAbs = n := by
  unfold withSign
  split <;> simp

theorem natAbs_digits_shortest_le (d : Decimal) : d.shortest.digits.natAbs ≤ d.digits.natAbs := by
  unfold shortest
  split
  · simp
  · dsimp only
    rw [natAbs_withSign]
    exact stripZeros_le _ _

/-- A product has no more digits than its factors have together. -/
theorem natAbs_digits_mul_lt {m n : ℕ} (ha : a.digits.natAbs < 10 ^ m)
    (hb : b.digits.natAbs < 10 ^ n) : (a * b).digits.natAbs < 10 ^ (m + n) := by
  have hm : 10 ^ m ≤ 10 ^ (m + n) := Nat.pow_le_pow_right (by norm_num) (by omega)
  have hn : 10 ^ n ≤ 10 ^ (m + n) := Nat.pow_le_pow_right (by norm_num) (by omega)
  change (Decimal.mul a b).digits.natAbs < _
  unfold Decimal.mul
  split_ifs
  · exact ((natAbs_digits_shortest_le b).trans_lt hb).trans_le hn
  · exact ((natAbs_digits_shortest_le a).trans_lt ha).trans_le hm
  · rw [Int.natAbs_mul, pow_add]
    exact Nat.mul_lt_mul'' ha hb

end PriceSurvey.Decimal
