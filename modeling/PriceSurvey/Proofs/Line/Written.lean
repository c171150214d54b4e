import PriceSurvey.Proofs.Amount.Written
import PriceSurvey.Proofs.Line.Status

/-!
# Price lines as they are written

A price line is written with its designation, its unit and its three prices in a row, and white
space between them. It is read back as it was written, whatever way the prices are written, unless
white space between two prices could be a thousands separator.

Results:
* `splitBefore_written`: designation and unit are told apart.
* `ofText_written`: reading a written line gives its parts, and nothing is wrong with it.
-/
namespace PriceSurvey

open Text Amount

/-- A price line as it is written: its parts, and the white space between them. -/
structure WrittenLine where
  designation : List Char
  unitGap : List Char
  unit : List Char
  lowGap : List Char
  low : Written
  meanGap : List Char
  mean : Written
  highGap : List Char
  high : Written
  deriving DecidableEq, Repr

namespace WrittenLine

/-- What stands before the prices. -/
def before (l : WrittenLine) : List Char := l.designation ++ l.unitGap ++ l.unit ++ l.lowGap

/-- The text of the line. -/
def text (l : WrittenLine) : List Char :=
  l.before ++ (l.low.text ++ (l.meanGap ++ (l.mean.text ++ (l.highGap ++ l.high.text))))

/-- The line is written as it should be. The designation has no digits, the unit is one word that
the rule admits, and the prices are plain or kept apart. -/
@[mk_iff]
structure IsLegal (rule : UnitRule) (l : WrittenLine) : Prop where
  designation_ne_nil : l.designation ≠ []
  designation_trimmed : IsTrimmed l.designation
  designation_digit : ∀ c ∈ l.designation, isDigit c = false
  unit_ne_nil : l.unit ≠ []
  unit_length : l.unit.length ≤ rule.maxUnitLength
  unit_first : ∀ c ∈ l.unit.head?, isNumeric c = false
  unit_word : ∀ c ∈ l.unit, isBlank c = false ∧ isDigit c = false
  low : l.low.IsLegal
  mean : l.mean.IsLegal
  high : l.high.IsLegal
  unitGap : IsGap l.unitGap
  lowGap : IsGap l.lowGap
  meanGap : IsGap l.meanGap
  highGap : IsGap l.highGap
  apart : (l.low.IsPlain ∧ l.mean.IsPlain ∧ l.high.IsPlain) ∨
    (l.low.KeepsApart l.meanGap l.mean ∧ l.mean.KeepsApart l.highGap l.high)

instance (rule : UnitRule) (l : WrittenLine) : Decidable (l.IsLegal rule) :=
  decidable_of_iff' _ (isLegal_iff rule l)

variable {rule : UnitRule} {l : WrittenLine}

/-! ## What stands before the prices -/

theorem IsLegal.digit_free (h : l.IsLegal rule) : ∀ c ∈ l.before, isDigit c = false := by
  intro c hc
  simp only [before, List.mem_append] at hc
  rcases hc with ((hc | hc) | hc) | hc
  · exact h.designation_digit c hc
  · exact h.unitGap.digit_free c hc
  · exact (h.unit_word c hc).2
  · exact h.lowGap.digit_free c hc

theorem splitBefore_written (h : l.IsLegal rule) :
    rule.splitBefore l.before = (some l.designation, some l.unit) := by
  have hunit : IsTrimmed l.unit := isTrimmed_of_not_blank fun c hc => (h.unit_word c hc).1
  have htrim : trim l.before = l.designation ++ l.unitGap ++ l.unit := by
    have hname := h.designation_trimmed.append h.designation_ne_nil hunit h.unit_ne_nil l.unitGap
    exact trim_append hname (by simp [h.unit_ne_nil]) h.lowGap.2
  -- The last blank before the unit is the end of the gap before it.
  obtain ⟨gap, b, hgap⟩ : ∃ gap b, l.unitGap = gap ++ [b] :=
    ⟨_, _, (List.dropLast_append_getLast h.unitGap.1).symm⟩
  have hblank : ∀ c ∈ l.unitGap, isBlank c = true := h.unitGap.2
  rw [hgap] at hblank htrim
  have hword : lastWord? (trim l.before) = some (l.designation ++ gap, l.unit) := by
    have hsplit := lastWord?_append (fun c hc => (h.unit_word c hc).1) (l.designation ++ gap)
      (hblank b (by simp))
    rw [htrim, ← hsplit]
    simp
  have hadmits : rule.admits l.unit = true := by
    have hfirst : l.unit.head?.any isNumeric = false := by
      obtain ⟨c, rest, hu⟩ := List.exists_cons_of_ne_nil h.unit_ne_nil
      have := h.unit_first c (by simp [hu])
      simp [hu, this]
    simp [UnitRule.admits, h.unit_length, hfirst]
  have hdesignation : trim (l.designation ++ gap) = l.designation :=
    trim_append h.designation_trimmed h.designation_ne_nil fun c hc => hblank c (by simp [hc])
  simp only [UnitRule.splitBefore, hword, hadmits, if_true]
  rw [nonBlank?_eq hdesignation h.designation_ne_nil,
    nonBlank?_eq (trim_eq_self hunit) h.unit_ne_nil]

/-! ## The whole line -/

theorem IsLegal.isTrimmed_text (h : l.IsLegal rule) : IsTrimmed l.text := by
  obtain ⟨hne, hhigh⟩ := h.high.isTrimmed_text
  have := h.designation_trimmed.append h.designation_ne_nil hhigh hne
    (l.unitGap ++ l.unit ++ l.lowGap ++ l.low.text ++ l.meanGap ++ l.mean.text ++ l.highGap)
  simpa [text, before] using this

/-- A written line is read back: nothing is wrong with it, and it has the designation, the unit and
the prices that were written. -/
theorem ofText_written (h : l.IsLegal rule) :
    PriceLine.ofText rule (String.ofList l.text) =
      { raw := String.ofList l.text
        designation := some (String.ofList l.designation)
        unit := some (String.ofList l.unit)
        low := some l.low.value
        mean := some l.mean.value
        high := some l.high.value
        currency := usualCurrency
        status := .complete
        problems := []
        resolution := none } := by
  have htriple : (find l.text).triple = some ⟨l.low.amount l.before.length, _, _⟩ :=
    triple_threeText h.digit_free (h.lowGap.goesOn_append _ _) h.low h.mean h.high h.meanGap
      h.highGap h.apart
  have hbefore : (l.low.amount l.before.length).before l.text = l.before := by
    rw [Amount.before, Written.start_amount, text, List.take_left]
  rw [PriceLine.ofText, String.toList_ofList, trim_eq_self h.isTrimmed_text,
    PriceLine.ofTrimmed_of_triple htriple, PriceLine.ofTriple]
  simp only [Triple.values, Written.value_amount h.low, Written.value_amount h.mean,
    Written.value_amount h.high, hbefore, UnitRule.around, splitBefore_written h]
  rfl

/-- A line whose prices are written in three ways. -/
def cement : WrittenLine where
  designation := "Ciment Portland".toList
  unitGap := [' ']
  unit := "Tonne".toList
  lowGap := ['\t', ' ']
  low := ⟨['8', '5'], [(' ', ['0', '0', '0'])], none⟩
  meanGap := [' ']
  mean := ⟨['9', '0'], [('\'', ['0', '0', '0'])], some (',', ['5', '0'])⟩
  highGap := [' ']
  high := ⟨['9', '7', '5', '0', '0'], [], none⟩

theorem ofText_cement :
    PriceLine.ofText {} "Ciment Portland Tonne\t 85 000 90'000,50 97500" =
      { raw := "Ciment Portland Tonne\t 85 000 90'000,50 97500"
        designation := some "Ciment Portland"
        unit := some "Tonne"
        low := some ⟨85000, 0⟩
        mean := some ⟨9000050, 2⟩
        high := some ⟨97500, 0⟩
        currency := "XOF"
        status := .complete
        problems := []
        resolution := none } := by
  have htext : "Ciment Portland Tonne\t 85 000 90'000,50 97500" = String.ofList cement.text := by
    decide +kernel
  rw [htext]
  have hlegal : cement.IsLegal {} := by decide +kernel
  exact (ofText_written hlegal).trans (by decide +kernel)

end WrittenLine

end PriceSurvey
