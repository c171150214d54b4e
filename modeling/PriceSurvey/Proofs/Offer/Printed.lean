import PriceSurvey.Proofs.Decimal.Significant
import PriceSurvey.Proofs.Offer.Standing

/-!
# What a note prints of a ratio

A ratio is set against the limits at six decimals, and the note on a ratio above a limit prints it
at four beside that limit. Rounding to four decimals can take a ratio down to the limit that it
exceeds, or below it: then the note says of two numbers that the first is greater, and it is not.

Results:
* `says_excessNote`: the numbers that a note prints.
* `Limits.exceeded_lt`: the ratio itself is above the limit.
* `assess_note_iff`: when the printed ratio is above the printed limit, too.
* `assess_note_level`: a note that prints one number as greater than itself.
-/
namespace PriceSurvey

/-- The limit that the note on a ratio sets it against. -/
def Limits.exceeded (limits : Limits) (ratio : Decimal) : Decimal :=
  if limits.high < ratio then limits.high else limits.acceptable

/-- The note prints two numbers, and says that the first one is greater. -/
def Standing.Says (note : String) (shown limit : Decimal) : Prop :=
  ∃ name degree, note = "ratio " ++ toString shown ++ " > " ++ name ++ " " ++ toString limit ++
    " -- " ++ degree ++ " above ref"

variable {ratio : Decimal} {limits : Limits}

theorem Standing.says_excessNote (ratio : Decimal) (limits : Limits) :
    Says (excessNote ratio limits) (ratio.round shownPlaces) (limits.exceeded ratio) := by
  unfold excessNote Limits.exceeded
  split_ifs
  · exact ⟨"threshold_eleve", "significantly", rfl⟩
  · exact ⟨"threshold_acceptable", "moderately", rfl⟩

theorem Limits.exceeded_lt (h : limits.acceptable < ratio) : limits.exceeded ratio < ratio := by
  unfold exceeded
  split_ifs with hhigh
  · exact hhigh
  · exact h

/-! ## The printed ratio -/

/-- What is rounded to four decimals is above a limit exactly if the ratio comes within half a unit
of the first number of four decimals above the limit. -/
theorem lt_shown_iff (h : 0 ≤ ratio.digits) (limit : Decimal) :
    limit < ratio.round shownPlaces ↔
      (⌊limit.toRat * 10 ^ 4⌋ : ℚ) + 1 / 2 ≤ ratio.toRat * 10 ^ 4 := by
  rw [Decimal.lt_iff_toRat_lt, Decimal.toRat_round h, lt_roundHalfUp_iff]
  norm_num [shownPlaces]

theorem lt_shown_iff_of_hasPlaces (h : 0 ≤ ratio.digits) {limit : Decimal}
    (hlimit : HasPlaces 4 limit.toRat) :
    limit < ratio.round shownPlaces ↔ limit.toRat + 5 / 10 ^ 5 ≤ ratio.toRat := by
  have hplaces : HasPlaces (shownPlaces : ℕ) limit.toRat := hlimit
  rw [Decimal.lt_iff_toRat_lt, Decimal.toRat_round h, hplaces.lt_roundHalfUp_iff]
  norm_num [shownPlaces]

theorem Offer.digits_ratio_nonneg {o : Offer} {price : Decimal} (hvalid : o.fault? = none)
    (hprice : price.IsPositive) : 0 ≤ ((o.total / price).round ratioPlaces).digits := by
  have hquotient : 0 ≤ (o.total / price).digits :=
    (div_approximates_exactRatio hvalid hprice).digits_nonneg (exactRatio_pos hvalid hprice).le
  have hzero : HasPlaces (ratioPlaces : ℕ) 0 := ⟨0, by simp⟩
  rw [Decimal.digits_nonneg_iff, Decimal.toRat_round hquotient]
  exact hzero.le_roundHalfUp (Decimal.digits_nonneg_iff.1 hquotient)

namespace Yardstick

variable {y : Yardstick} {o : Offer} {r : Resolution} {item : String} {price : Decimal}

/-- The note on an offer above the acceptable limit prints its ratio and the limit that this
exceeds. The printed ratio exceeds it as well exactly if the ratio comes within half a unit of the
first number of four decimals above the limit, which for a limit of four decimals is half a unit
above it. -/
theorem assess_note_iff (hvalid : o.fault? = none) (hitem : r.item = some item)
    (hprice : y.prices.get? item = some price) (hpositive : price.IsPositive)
    (hlimits : (y.limitsOf o.profile).limits = limits)
    (habove : (y.assess o r).verdict = .above) :
    ∃ ratio note, (y.assess o r).ratio = some ratio ∧
      (y.assess o r).notes = y.limitNotes o.profile ++ [note] ∧
      Standing.Says note (ratio.round shownPlaces) (limits.exceeded ratio) ∧
      limits.exceeded ratio < ratio ∧
      (limits.exceeded ratio < ratio.round shownPlaces ↔
        (⌊(limits.exceeded ratio).toRat * 10 ^ 4⌋ : ℚ) + 1 / 2 ≤ ratio.toRat * 10 ^ 4) ∧
      (HasPlaces 4 (limits.exceeded ratio).toRat →
        (limits.exceeded ratio < ratio.round shownPlaces ↔
          (limits.exceeded ratio).toRat + 5 / 10 ^ 5 ≤ ratio.toRat)) := by
  obtain ⟨hverdict, hratio, hnotes⟩ := assess_eq hitem hprice hpositive hlimits
  rw [hverdict] at habove
  have hexceeds := Standing.ofRatio_verdict_eq_above_iff.1 habove
  have hdigits := Offer.digits_ratio_nonneg hvalid hpositive
  rw [Standing.ofRatio_above (Decimal.lt_iff_not_le.1 hexceeds)] at hratio hnotes
  exact ⟨_, _, hratio, hnotes, Standing.says_excessNote _ _, Limits.exceeded_lt hexceeds,
    lt_shown_iff hdigits _, lt_shown_iff_of_hasPlaces hdigits⟩

/-- A reference price of a thousand, and generic limits that are those of the fixed ones. -/
def thousandEach : Yardstick :=
  ⟨.ofPairs [("X1", ⟨1000, 0⟩)], .ofPairs [(genericProfile, ⟨.fixed, .generic⟩)], false⟩

/-- An offer at so many cents. -/
def cementAt (cents : ℤ) : Offer := { name := "Ciment", unitPrice := ⟨cents, 2⟩ }

/-- What its name is resolved to. -/
def cement : Resolution := .found "Ciment" "ciment" "X1" .sameName

/-- Half a unit above the limit, the ratio is printed as one unit above it. -/
theorem assess_note_iff_cement :
    (cementAt 105005).fault? = none ∧
      (thousandEach.assess (cementAt 105005) cement).verdict = .above ∧
      ∃ note, (thousandEach.assess (cementAt 105005) cement).notes = [note] ∧
        Standing.Says note ⟨10501, 4⟩ ⟨105, 2⟩ ∧ (⟨105, 2⟩ : Decimal) < ⟨10501, 4⟩ := by
  have hvalid : (cementAt 105005).fault? = none := by decide
  have habove : (thousandEach.assess (cementAt 105005) cement).verdict = .above := by
    decide +kernel
  have hratio : (thousandEach.assess (cementAt 105005) cement).ratio = some ⟨105005, 5⟩ := by
    decide +kernel
  have hlimits : (thousandEach.limitsOf (cementAt 105005).profile).limits = Limits.fixed := rfl
  obtain ⟨ratio, note, hr, hnotes, hsays, -, hiff, -⟩ :=
    assess_note_iff hvalid rfl rfl (by decide) hlimits habove
  rw [hratio, Option.some.injEq] at hr
  subst hr
  refine ⟨hvalid, habove, note, hnotes, hsays, hiff.2 ?_⟩
  norm_num [Limits.exceeded, Limits.fixed, Decimal.lt_iff_toRat_lt, Decimal.toRat]

/-- A ratio of 1.05004 is above the limit of 1.05, and printed as equal to it. -/
theorem assess_note_level :
    (cementAt 105004).fault? = none ∧ (⟨1000, 0⟩ : Decimal).IsPositive ∧
      (thousandEach.assess (cementAt 105004) cement).verdict = .above ∧
      (thousandEach.assess (cementAt 105004) cement).ratio = some ⟨105004, 5⟩ ∧
      (thousandEach.assess (cementAt 105004) cement).notes =
        ["ratio 1.0500 > threshold_acceptable 1.05 -- moderately above ref"] ∧
      Decimal.round ⟨105004, 5⟩ shownPlaces = ⟨10500, 4⟩ ∧
      ¬(⟨105, 2⟩ : Decimal) < ⟨10500, 4⟩ := by
  decide +kernel

end Yardstick

end PriceSurvey
