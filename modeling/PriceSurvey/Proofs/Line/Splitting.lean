import PriceSurvey.Proofs.Amount.Written
import PriceSurvey.Proofs.Line.Unit
import PriceSurvey.Proofs.Text.Words

/-!
# Telling the unit from the designation

The text before the prices is split into the designation and the unit, and nothing but white space
is lost: put together with the white space between them, both are the trimmed text again. Whether
there is a unit is a matter of words, the last of several being one if the rule admits it. The text
is split at its last blank instead, which is the same since no blank stands at the end of a trimmed
text or in its last word.

Results:
* `standsBefore_iff_endsIn`: the unit found at the last blank is the last of several words.
* `splitBefore_of_endsIn`, `splitBefore_of_no_unit`: what becomes of a text with a unit and of one
  without.
* `splitBefore_outcomes`: the three outcomes, and when there is which.
-/
namespace PriceSurvey.UnitRule

open Text Amount

variable {rule : UnitRule} {before unit : List Char}

/-! ## The last of several words -/

/-- The text has several words, and the last of them can be a unit: it is short enough, and does not
start with a number unless the rule allows that. -/
def EndsIn (rule : UnitRule) (text unit : List Char) : Prop :=
  2 ≤ (words text).length ∧ (words text).getLast? = some unit ∧
    unit.length ≤ rule.maxUnitLength ∧
    (rule.allowDigitFirst = true ∨ ∀ c ∈ unit.head?, isNumeric c = false)

theorem admits_iff {word : List Char} :
    rule.admits word = true ↔ word.length ≤ rule.maxUnitLength ∧
      (rule.allowDigitFirst = true ∨ ∀ c ∈ word.head?, isNumeric c = false) := by
  unfold admits
  cases word.head? <;> simp

theorem standsBefore_iff_lastWord? : rule.StandsBefore before unit ↔
    rule.admits unit = true ∧ ∃ head, lastWord? (trim before) = some (head, unit) := by
  simp only [StandsBefore, lastWord?_eq_some_iff]

/-- What stands behind the last blank is the last of several words. -/
theorem standsBefore_iff_endsIn :
    rule.StandsBefore before unit ↔ rule.EndsIn (trim before) unit := by
  rw [standsBefore_iff_lastWord?, admits_iff, lastWord?_trimmed_iff (isTrimmed_trim before),
    and_comm, and_assoc, EndsIn]

/-! ## The three outcomes -/

theorem splitBefore_of_endsIn (h : rule.EndsIn (trim before) unit) :
    ∃ designation gap, rule.splitBefore before = (some designation, some unit) ∧
      designation ≠ [] ∧ IsTrimmed designation ∧ IsGap gap ∧
      trim before = designation ++ gap ++ unit ∧
      words (trim before) = words designation ++ [unit] := by
  obtain ⟨hadmits, head, hsplit⟩ := standsBefore_iff_lastWord?.1 (standsBefore_iff_endsIn.2 h)
  obtain ⟨b, hb, htext, hunit⟩ := lastWord?_eq_some_iff.1 hsplit
  have htrimmed : IsTrimmed (head ++ b :: unit) := htext ▸ isTrimmed_trim before
  have hne : unit ≠ [] := (htrimmed.sides_ne_nil hb).2
  obtain ⟨hhead, gap, hgap, hblank, hjoined⟩ := htrimmed.exists_gap hb
  refine ⟨trim head, gap, ?_, hhead, isTrimmed_trim head, ⟨hgap, hblank⟩, htext.trans hjoined, ?_⟩
  · have hself : trim unit = unit := trim_eq_self (isTrimmed_of_not_blank hunit)
    simp only [splitBefore, hsplit, hadmits, if_true]
    rw [nonBlank?_eq rfl hhead, nonBlank?_eq hself hne]
  · rw [htext, hjoined, words_append_gap _ _ hgap hblank, words_eq_singleton hne hunit]

theorem splitBefore_of_no_unit (h : ∀ unit, ¬rule.EndsIn (trim before) unit) :
    rule.splitBefore before = (nonBlank? before, none) := by
  unfold splitBefore
  split
  · next head word hsplit =>
    have hno : ¬rule.admits word = true := fun hadmits =>
      h word (standsBefore_iff_endsIn.1 (standsBefore_iff_lastWord?.2 ⟨hadmits, head, hsplit⟩))
    rw [if_neg hno]
  · rfl

theorem splitBefore_eq_none_iff :
    rule.splitBefore before = (none, none) ↔ trim before = [] := by
  by_cases h : ∃ unit, rule.EndsIn (trim before) unit
  · obtain ⟨unit, hends⟩ := h
    obtain ⟨designation, gap, hsplit, hne, -, -, htext, -⟩ := splitBefore_of_endsIn hends
    simp [hsplit, htext, hne]
  · rw [splitBefore_of_no_unit (not_exists.1 h), Prod.mk.injEq, nonBlank?_eq_none_iff]
    exact and_iff_left rfl

/-- A trimmed text is what is left of a text without the white space around it. Nothing comes of an
empty one. If the last of its several words can be a unit, then that is the unit, and the text is
the designation, white space and the unit, with every other word in the designation. Any other text
is a designation as a whole. -/
theorem splitBefore_outcomes (rule : UnitRule) (before : List Char) :
    (IsTrimmed (trim before) ∧ ∃ front back, (∀ c ∈ front, isBlank c = true) ∧
      (∀ c ∈ back, isBlank c = true) ∧ before = front ++ trim before ++ back) ∧
    (rule.splitBefore before = (none, none) ↔ trim before = []) ∧
    (∀ unit, (rule.splitBefore before).2 = some unit ↔ rule.EndsIn (trim before) unit) ∧
    (∀ unit, rule.EndsIn (trim before) unit →
      ∃ designation gap, rule.splitBefore before = (some designation, some unit) ∧
        designation ≠ [] ∧ IsTrimmed designation ∧ IsGap gap ∧
        trim before = designation ++ gap ++ unit ∧
        words (trim before) = words designation ++ [unit]) ∧
    (trim before ≠ [] → (∀ unit, ¬rule.EndsIn (trim before) unit) →
      rule.splitBefore before = (some (trim before), none)) := by
  refine ⟨⟨isTrimmed_trim before, exists_blanks_trim before⟩, splitBefore_eq_none_iff,
    fun unit => ?_, fun unit => splitBefore_of_endsIn, fun hne hno => ?_⟩
  · exact splitBefore_unit_iff.trans standsBefore_iff_endsIn
  · rw [splitBefore_of_no_unit hno, nonBlank?_eq rfl hne]

/-- White space of several kinds, and a number that does not start its word. -/
example : ({} : UnitRule).splitBefore "\u3000Ciment  sac\u2003de50 ".toList =
    (some "Ciment  sac".toList, some "de50".toList) := by decide +kernel

end PriceSurvey.UnitRule
