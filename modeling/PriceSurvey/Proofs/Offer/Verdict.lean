import PriceSurvey.Offer.Assessing
import PriceSurvey.Proofs.Decimal.Quotient

/-!
# Verdicts and the exact ratio

The ratio of an offer is a quotient, rounded once behind a hundred digits and once more to six
decimals, and it is this decimal that is set against the limits. It lies within a millionth of the
exact ratio. No rounding crosses a limit of six decimals, so a ratio that keeps to a limit is never
said to exceed it, and one that exceeds it by a millionth always is.

Results:
* `Standing.ofRatio_within`, `Standing.ofRatio_moderate`, `Standing.ofRatio_significant`: the three
  standings of a ratio.
* `Offer.ratio_le`, `Offer.lt_ratio`: the rounded ratio against a limit, by the exact one.
* `Yardstick.assess_of_exactRatio`: what the exact ratio says of an assessment.
-/
namespace PriceSurvey

open Decimal (ten_zpow_pos)

/-! ## The standing of a ratio -/

namespace Standing

variable {ratio : Decimal} {limits : Limits}

theorem ofRatio_within (h : ratio ≤ limits.acceptable) :
    ofRatio ratio limits = ⟨.within, some ratio, []⟩ :=
  if_pos h

theorem ofRatio_moderate (ha : limits.acceptable < ratio) (hh : ratio ≤ limits.high) :
    ofRatio ratio limits = ⟨.above, some ratio,
      [excess ratio limits.acceptable "threshold_acceptable" "moderately"]⟩ := by
  rw [ofRatio, if_neg (Decimal.lt_iff_not_le.1 ha),
    if_neg fun h => Decimal.lt_iff_not_le.1 h hh]

theorem ofRatio_significant (ha : limits.acceptable < ratio) (hh : limits.high < ratio) :
    ofRatio ratio limits = ⟨.above, some ratio,
      [excess ratio limits.high "threshold_eleve" "significantly"]⟩ := by
  rw [ofRatio, if_neg (Decimal.lt_iff_not_le.1 ha), if_pos hh]

theorem ofRatio_ratio (ratio : Decimal) (limits : Limits) :
    (ofRatio ratio limits).ratio = some ratio := by
  unfold ofRatio
  split_ifs <;> rfl

theorem ofRatio_verdict_eq_above_iff :
    (ofRatio ratio limits).verdict = .above ↔ limits.acceptable < ratio := by
  rw [Decimal.lt_iff_not_le]
  unfold ofRatio
  split_ifs <;> simp_all

theorem ofTotal_of_isPositive {price : Decimal} (h : price.IsPositive) (total : Decimal)
    (item : String) (limits : Limits) : ofTotal total (some item) (some price) limits =
      ofRatio ((total / price).round ratioPlaces) limits :=
  if_pos h

end Standing

/-! ## The exact ratio -/

namespace Offer

/-- The ratio of the total to a price, before any rounding. -/
def exactRatio (o : Offer) (price : Decimal) : ℚ :=
  o.unitPrice.toRat * o.quantity.toRat / price.toRat

theorem fault?_eq_none_iff {o : Offer} :
    o.fault? = none ↔ o.unitPrice.IsPositive ∧ o.quantity.IsPositive := by
  unfold fault?
  split_ifs <;> simp_all

theorem toRat_total (o : Offer) : o.total.toRat = o.unitPrice.toRat * o.quantity.toRat :=
  Decimal.toRat_mul _ _

theorem isPositive_total {o : Offer} (h : o.fault? = none) : o.total.IsPositive := by
  obtain ⟨hprice, hquantity⟩ := fault?_eq_none_iff.1 h
  rw [Decimal.isPositive_iff, toRat_total]
  exact mul_pos (Decimal.isPositive_iff.1 hprice) (Decimal.isPositive_iff.1 hquantity)

section

variable {o : Offer} {price limit : Decimal}
variable (hvalid : o.fault? = none) (hprice : price.IsPositive)

include hvalid hprice

theorem div_approximates_exactRatio :
    (o.total / price).Approximates Decimal.quotientDigits (o.exactRatio price) := by
  rw [exactRatio, ← toRat_total]
  exact Decimal.div_approximates (isPositive_total hvalid) hprice

theorem exactRatio_pos : 0 < o.exactRatio price := by
  rw [exactRatio, ← toRat_total]
  exact div_pos (Decimal.isPositive_iff.1 (isPositive_total hvalid))
    (Decimal.isPositive_iff.1 hprice)

variable (hsize : o.exactRatio price < 10 ^ 90)

include hsize

theorem abs_ratio_sub_exactRatio_lt :
    |((o.total / price).round ratioPlaces).toRat - o.exactRatio price| < 10 ^ (-6 : ℤ) :=
  (div_approximates_exactRatio hvalid hprice).abs_round_sub_lt hsize (by decide)
    (exactRatio_pos hvalid hprice).le

theorem ratio_le (hlimit : HasPlaces 6 limit.toRat) (h : o.exactRatio price ≤ limit.toRat) :
    (o.total / price).round ratioPlaces ≤ limit := by
  have happrox := div_approximates_exactRatio hvalid hprice
  rw [Decimal.le_iff_toRat_le]
  exact happrox.round_le hsize (by decide) (exactRatio_pos hvalid hprice).le hlimit h

/-- A whole unit of the last place above a limit is a number of that many decimals too. -/
theorem lt_ratio (hlimit : HasPlaces 6 limit.toRat)
    (h : limit.toRat + 10 ^ (-6 : ℤ) ≤ o.exactRatio price) :
    limit < (o.total / price).round ratioPlaces := by
  have happrox := div_approximates_exactRatio hvalid hprice
  have hunit : limit.toRat + 10 ^ (-6 : ℤ) ≤ ((o.total / price).round ratioPlaces).toRat :=
    happrox.le_round hsize (by decide) (exactRatio_pos hvalid hprice).le hlimit.add_unit h
  have hpos := ten_zpow_pos (-6)
  rw [Decimal.lt_iff_toRat_lt]
  linarith

end

end Offer

/-! ## The assessment -/

namespace Yardstick

variable {y : Yardstick} {o : Offer} {r : Resolution} {item : String} {price : Decimal}
  {limits : Limits}

/-- An offer with a positive reference price is judged by its rounded ratio. -/
theorem assess_eq (hitem : r.item = some item) (hprice : y.prices.get? item = some price)
    (hpositive : price.IsPositive) (hlimits : (y.limitsOf o.profile).limits = limits) :
    let s := Standing.ofRatio ((o.total / price).round ratioPlaces) limits
    (y.assess o r).verdict = s.verdict ∧ (y.assess o r).ratio = s.ratio ∧
      (y.assess o r).notes = y.limitNotes o.profile ++ s.notes := by
  rw [← Standing.ofTotal_of_isPositive hpositive o.total item]
  simp [assess, hitem, hprice, hlimits]

/-- An assessment follows the exact ratio up to a millionth. The reported ratio is that near; the
verdict and the note on the excess are those of the exact ratio unless it lies less than a millionth
above the limit. -/
theorem assess_of_exactRatio (hvalid : o.fault? = none) (hitem : r.item = some item)
    (hprice : y.prices.get? item = some price) (hpositive : price.IsPositive)
    (hlimits : (y.limitsOf o.profile).limits = limits)
    (hacceptable : HasPlaces 6 limits.acceptable.toRat) (hhigh : HasPlaces 6 limits.high.toRat)
    (hsize : o.exactRatio price < 10 ^ 90) :
    ∃ ratio, (y.assess o r).ratio = some ratio ∧
      |ratio.toRat - o.exactRatio price| < 10 ^ (-6 : ℤ) ∧
      (o.exactRatio price ≤ limits.acceptable.toRat → (y.assess o r).verdict = .within) ∧
      (limits.acceptable.toRat + 10 ^ (-6 : ℤ) ≤ o.exactRatio price →
        (y.assess o r).verdict = .above) ∧
      ((y.assess o r).verdict = .above →
        (o.exactRatio price ≤ limits.high.toRat →
          (y.assess o r).notes = y.limitNotes o.profile ++
            [Standing.excess ratio limits.acceptable "threshold_acceptable" "moderately"]) ∧
        (limits.high.toRat + 10 ^ (-6 : ℤ) ≤ o.exactRatio price →
          (y.assess o r).notes = y.limitNotes o.profile ++
            [Standing.excess ratio limits.high "threshold_eleve" "significantly"])) := by
  obtain ⟨hverdict, hratio, hnotes⟩ := assess_eq hitem hprice hpositive hlimits
  rw [hverdict, hratio, hnotes]
  refine ⟨(o.total / price).round ratioPlaces, Standing.ofRatio_ratio _ _,
    Offer.abs_ratio_sub_exactRatio_lt hvalid hpositive hsize, ?within, ?above, ?notes⟩
  case within =>
    intro h
    rw [Standing.ofRatio_within (Offer.ratio_le hvalid hpositive hsize hacceptable h)]
  case above =>
    intro h
    exact Standing.ofRatio_verdict_eq_above_iff.2
      (Offer.lt_ratio hvalid hpositive hsize hacceptable h)
  case notes =>
    intro habove
    have hexceeds := Standing.ofRatio_verdict_eq_above_iff.1 habove
    constructor
    · intro h
      rw [Standing.ofRatio_moderate hexceeds (Offer.ratio_le hvalid hpositive hsize hhigh h)]
    · intro h
      rw [Standing.ofRatio_significant hexceeds (Offer.lt_ratio hvalid hpositive hsize hhigh h)]

/-- A reference price of six, and the fixed limits. -/
def sixEach : Yardstick := ⟨.ofPairs [("X1", ⟨6, 0⟩)], .empty, true⟩

/-- An offer at seven. -/
def sevenEach : Offer := { name := "Ciment", unitPrice := ⟨7, 0⟩ }

/-- Seven sixths never end as a decimal. They lie between the fixed limits. -/
theorem assess_of_exactRatio_sixths :
    sevenEach.fault? = none ∧ sevenEach.exactRatio ⟨6, 0⟩ = 7 / 6 ∧
      ∃ ratio, (sixEach.assess sevenEach (.found "Ciment" "ciment" "X1" .sameName)).ratio =
          some ratio ∧
        |ratio.toRat - 7 / 6| < 10 ^ (-6 : ℤ) ∧
        (sixEach.assess sevenEach (.found "Ciment" "ciment" "X1" .sameName)).verdict = .above ∧
        (sixEach.assess sevenEach (.found "Ciment" "ciment" "X1" .sameName)).notes =
          [fixedNote, Standing.excess ratio ⟨105, 2⟩ "threshold_acceptable" "moderately"] := by
  have hvalid : sevenEach.fault? = none := by decide
  have hexact : sevenEach.exactRatio ⟨6, 0⟩ = 7 / 6 := by
    norm_num [Offer.exactRatio, sevenEach, Decimal.toRat, Decimal.ofInt]
  have hplaces (d : Decimal) (h : d.scale ≤ 6) : HasPlaces 6 d.toRat := d.hasPlaces_toRat.mono h
  have hlimits : (sixEach.limitsOf sevenEach.profile).limits = .fixed := rfl
  obtain ⟨ratio, hratio, hnear, -, habove, hnotes⟩ :=
    assess_of_exactRatio (r := .found "Ciment" "ciment" "X1" .sameName) hvalid rfl rfl (by decide)
      hlimits (hplaces ⟨105, 2⟩ (by decide)) (hplaces ⟨120, 2⟩ (by decide))
      (by rw [hexact]; norm_num)
  rw [hexact] at hnear habove hnotes
  have hverdict := habove (by norm_num [Limits.fixed, Decimal.toRat])
  exact ⟨hvalid, hexact, ratio, hratio, hnear, hverdict,
    (hnotes hverdict).1 (by norm_num [Limits.fixed, Decimal.toRat])⟩

end Yardstick

end PriceSurvey
