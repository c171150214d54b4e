import PriceSurvey.Proofs.Line.Status

/-!
# Where the unit of a line comes from

The unit is the last of several words before the prices if the rule admits it, and else what
follows the prices, cut to length. Only a word before the prices is held to the rule: what follows
them is taken as it is, a further price too. So under a rule that admits no word with a number
first, a unit begins with one exactly if it stands behind the prices and these are followed by it.

Results:
* `UnitRule.splitBefore_unit_iff`, `UnitRule.unitBehind_eq_some_iff`: the unit on either side of the
  prices.
* `PriceLine.unit_ofText_iff`: which text has which unit.
* `PriceLine.unit_numeric_iff`: when a unit begins with a number.
* `PriceLine.unit_further_price`: a fourth price that is a unit.
-/
namespace PriceSurvey

open Text

namespace UnitRule

variable {rule : UnitRule}

/-! ## Before the prices -/

/-- The unit is the last of several words, and one that the rule admits. -/
def StandsBefore (rule : UnitRule) (before unit : List Char) : Prop :=
  rule.admits unit = true ∧ ∃ head b, isBlank b = true ∧ trim before = head ++ b :: unit ∧
    ∀ c ∈ unit, isBlank c = false

theorem StandsBefore.ne_nil {before unit : List Char} (h : rule.StandsBefore before unit) :
    unit ≠ [] := by
  obtain ⟨-, head, b, hb, htrim, -⟩ := h
  rintro rfl
  have hlast := (isTrimmed_trim before).2 b (by rw [htrim]; simp)
  rw [hb] at hlast
  cases hlast

theorem splitBefore_unit_iff {before unit : List Char} :
    (rule.splitBefore before).2 = some unit ↔ rule.StandsBefore before unit := by
  constructor
  · intro h
    unfold splitBefore at h
    split at h
    · next head word hword =>
      split at h
      · next hadmits =>
        obtain ⟨b, hb, htrim, hnone⟩ := lastWord?_eq_some_iff.1 hword
        have hself : trim word = word := trim_eq_self (isTrimmed_of_not_blank hnone)
        have hunit : nonBlank? word = some unit := h
        rw [nonBlank?, hself] at hunit
        split at hunit
        · cases hunit
        · cases hunit
          exact ⟨hadmits, head, b, hb, htrim, hnone⟩
      · cases h
    · cases h
  · intro h
    obtain ⟨hadmits, head, b, hb, htrim, hnone⟩ := id h
    have hword : lastWord? (trim before) = some (head, unit) :=
      lastWord?_eq_some_iff.2 ⟨b, hb, htrim, hnone⟩
    simp only [splitBefore, hword, hadmits, if_true]
    exact nonBlank?_eq (trim_eq_self (isTrimmed_of_not_blank hnone)) h.ne_nil

theorem splitBefore_unit_eq_none_iff {before : List Char} :
    (rule.splitBefore before).2 = none ↔ ∀ unit, ¬rule.StandsBefore before unit := by
  simp only [Option.eq_none_iff_forall_ne_some, ne_eq, splitBefore_unit_iff]

/-! ## Behind the prices -/

/-- The unit is what follows, cut to length, without the blanks around it. -/
def StandsBehind (rule : UnitRule) (after unit : List Char) : Prop :=
  unit ≠ [] ∧ unit = trim ((trim after).take rule.maxTailLength)

theorem unitBehind_eq_some_iff {after unit : List Char} :
    rule.unitBehind after = some unit ↔ rule.StandsBehind after unit := by
  constructor
  · intro h
    refine ⟨(nonBlank?_eq_some h).1, ?_⟩
    rw [unitBehind, nonBlank?] at h
    split at h
    · cases h
    · next c rest he => rw [he]; exact (Option.some.inj h).symm
  · rintro ⟨hne, rfl⟩
    exact nonBlank?_eq rfl hne

/-- A unit behind the prices begins as what follows them does. -/
theorem StandsBehind.head?_eq {after unit : List Char} (h : rule.StandsBehind after unit) :
    unit.head? = (trim after).head? := by
  obtain ⟨hne, hunit⟩ := h
  have hpos : rule.maxTailLength ≠ 0 := by
    intro hzero
    rw [hzero, List.take_zero] at hunit
    exact hne hunit
  have hhead : ((trim after).take rule.maxTailLength).head? = (trim after).head? := by
    rw [List.head?_take, if_neg hpos]
  rw [hunit, head?_trim fun c hc => (isTrimmed_trim after).1 c (hhead ▸ hc), hhead]

end UnitRule

/-! ## The unit of a text -/

namespace PriceLine

variable {rule : UnitRule} {raw : String} {unit : String}

/-- The unit stands before the prices of the triple, or else behind them. -/
def HasUnit (rule : UnitRule) (text : List Char) (t : Amount.Triple) (unit : List Char) : Prop :=
  rule.StandsBefore (t.low.before text) unit ∨
    (∀ word, ¬rule.StandsBefore (t.low.before text) word) ∧
      rule.StandsBehind (t.high.after text) unit

theorem around_unit_iff {text word : List Char} {t : Amount.Triple} :
    (rule.around (t.low.before text) (t.high.after text)).2 = some word ↔
      HasUnit rule text t word := by
  rw [HasUnit, UnitRule.around, Option.or_eq_some_iff, UnitRule.splitBefore_unit_iff,
    UnitRule.splitBefore_unit_eq_none_iff, UnitRule.unitBehind_eq_some_iff]

/-- A text has a unit if it can be read, and has a triple with the unit on one side. -/
theorem unit_ofText_iff : (ofText rule raw).unit = some unit ↔
    (ofText rule raw).status ≠ .unreadable ∧ ∃ t ∈ (Amount.find (trim raw.toList)).triple,
      HasUnit rule (trim raw.toList) t unit.toList := by
  have hline : IsConsistent rule (trim raw.toList) (ofText rule raw) :=
    (outcome_ofTrimmed rule raw _).isConsistent (isTrimmed_trim _)
  have htriple : (ofText rule raw).status ≠ .unreadable →
      ∀ t ∈ (Amount.find (trim raw.toList)).triple,
        ((ofText rule raw).unit = some unit ↔ HasUnit rule (trim raw.toList) t unit.toList) := by
    intro hstatus t ht
    have haround := congrArg Prod.snd (hline.of_triple hstatus t ht).2
    rw [← around_unit_iff, ← haround]
    cases (ofText rule raw).unit <;> simp [String.toList_inj]
  constructor
  · intro h
    have hstatus : (ofText rule raw).status ≠ .unreadable := fun hnot => by
      rw [(hline.nothing_read hnot).2.1] at h
      cases h
    cases ht : (Amount.find (trim raw.toList)).triple with
    | none =>
      rw [(hline.of_amounts hstatus ht).2.2.2.1] at h
      cases h
    | some t => exact ⟨hstatus, t, rfl, (htriple hstatus t ht).1 h⟩
  · rintro ⟨hstatus, t, ht, h⟩
    exact (htriple hstatus t ht).2 h

/-- Under a rule that admits no word with a number first, the unit before the prices begins with
none. The unit behind them begins as what follows the prices, so a unit begins with a number exactly
if none stands before the prices and a number follows them. -/
theorem unit_numeric_iff (hrule : rule.allowDigitFirst = false)
    (h : (ofText rule raw).unit = some unit) :
    ∃ t ∈ (Amount.find (trim raw.toList)).triple,
      HasUnit rule (trim raw.toList) t unit.toList ∧
      ((∃ c ∈ unit.toList.head?, isNumeric c = true) ↔
        (∀ word, ¬rule.StandsBefore (t.low.before (trim raw.toList)) word) ∧
          ∃ c ∈ (trim (t.high.after (trim raw.toList))).head?, isNumeric c = true) := by
  obtain ⟨-, t, ht, hunit⟩ := unit_ofText_iff.1 h
  refine ⟨t, ht, hunit, ?_⟩
  rcases hunit with hbefore | ⟨hnone, hbehind⟩
  · have hfirst : ¬∃ c ∈ unit.toList.head?, isNumeric c = true := by
      have hadmits := hbefore.1
      simp only [UnitRule.admits, hrule, Bool.false_or, Bool.and_eq_true, Bool.not_eq_true'] at hadmits
      rintro ⟨c, hc, hnumeric⟩
      rw [Option.mem_def.1 hc, Option.any_some, hnumeric] at hadmits
      cases hadmits.2
    exact iff_of_false hfirst fun hcon => hcon.1 _ hbefore
  · rw [hbehind.head?_eq]
    exact (and_iff_right hnone).symm

/-- A unit behind the prices that begins with a letter. -/
theorem unit_numeric_iff_sugar :
    ({} : UnitRule).allowDigitFirst = false ∧ (ofText {} "Sucre 600 650 700 kg").unit = some "kg" ∧
      ∃ t ∈ (Amount.find "Sucre 600 650 700 kg".toList).triple,
        UnitRule.StandsBehind {} (t.high.after "Sucre 600 650 700 kg".toList) "kg".toList := by
  have hunit : (ofText {} "Sucre 600 650 700 kg").unit = some "kg" := by decide +kernel
  have htrim : trim "Sucre 600 650 700 kg".toList = "Sucre 600 650 700 kg".toList := by
    decide +kernel
  have hsides := unit_numeric_iff rfl hunit
  rw [htrim] at hsides
  obtain ⟨t, ht, hbefore | ⟨-, hbehind⟩, -⟩ := hsides
  · have hnone : ∀ t ∈ (Amount.find "Sucre 600 650 700 kg".toList).triple,
        (UnitRule.splitBefore {} (t.low.before "Sucre 600 650 700 kg".toList)).2 = none := by
      decide +kernel
    have hbefore' := UnitRule.splitBefore_unit_iff.2 hbefore
    rw [hnone t ht] at hbefore'
    cases hbefore'
  · exact ⟨rfl, hunit, t, ht, hbehind⟩

/-- A fourth price is taken for the unit, and the line for complete. -/
theorem unit_further_price : ({} : UnitRule).allowDigitFirst = false ∧
    (ofText {} "Riz 1 2 3 4").status = .complete ∧ (ofText {} "Riz 1 2 3 4").unit = some "4" ∧
      isNumeric '4' = true := by decide +kernel

end PriceLine

end PriceSurvey
