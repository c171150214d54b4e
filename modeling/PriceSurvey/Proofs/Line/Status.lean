import PriceSurvey.Proofs.Amount.Value
import PriceSurvey.Proofs.Line.Grouping
import PriceSurvey.Proofs.Text.Trim

/-!
# What the status of a price line says

A text is read in one of four ways: nothing stands in it but signs, an amount has no value, it has
a price triple, or it has too few amounts. Each way gives a line of its own form, and the status of
the line says what can be found on it.

Results:
* `outcome_ofTrimmed`: every text is read in one of the four ways.
* `isTrimmed_text`: what logical lines are read by is trimmed.
* `Outcome.isConsistent`: the fields of a line agree with its status and with its text.
* `isConsistent_readAll_and_ofText`: so it is for lists of lines and for single texts.
-/
namespace PriceSurvey

open Text

/-! ## Trimmed parts -/

theorem UnitRule.around_isTrimmed (rule : UnitRule) (before after : List Char) :
    (∀ d ∈ (rule.around before after).1, d ≠ [] ∧ IsTrimmed d) ∧
      ∀ u ∈ (rule.around before after).2, u ≠ [] ∧ IsTrimmed u := by
  have hbefore : (∀ d ∈ (rule.splitBefore before).1, d ≠ [] ∧ IsTrimmed d) ∧
      ∀ u ∈ (rule.splitBefore before).2, u ≠ [] ∧ IsTrimmed u := by
    unfold splitBefore
    split
    · split
      · exact ⟨fun _ => nonBlank?_eq_some, fun _ => nonBlank?_eq_some⟩
      · exact ⟨fun _ => nonBlank?_eq_some, by simp⟩
    · exact ⟨fun _ => nonBlank?_eq_some, by simp⟩
  refine ⟨hbefore.1, fun u hu => ?_⟩
  rcases Option.or_eq_some_iff.1 hu with hu | ⟨-, hu⟩
  · exact hbefore.2 u hu
  · exact nonBlank?_eq_some hu

theorem LogicalLine.isTrimmed_text {lines : List String} {g : LogicalLine}
    (h : g ∈ ofLines lines) : IsTrimmed g.text := by
  obtain ⟨after, hg⟩ := exists_isLegal_of_mem h
  cases g with
  | blank raw => simp [text, IsTrimmed]
  | lines block =>
    rw [text, hg.2.1]
    refine isTrimmed_intercalate (fun t ht => ?_) _
    obtain ⟨raw, hr, rfl⟩ := List.mem_map.1 ht
    refine ⟨fun hn => ?_, isTrimmed_trim _⟩
    exact hg.1.not_blank raw hr (ofLine_eq_blank_iff.2 hn)

/-! ## Values of amounts -/

/-- Either some amount has no value, and its fault is the outcome, or all have one. -/
theorem Amount.mapM_value (as : List Amount) :
    (∃ a ∈ as, ∃ fault, a.value = .error fault ∧ as.mapM value = .error fault) ∨
      ∃ values, as.map value = values.map .ok ∧ as.mapM value = .ok values := by
  induction as with
  | nil => exact Or.inr ⟨[], rfl, rfl⟩
  | cons a as ih =>
    rw [List.mapM_cons]
    cases ha : a.value with
    | error fault => exact Or.inl ⟨a, List.mem_cons_self, fault, ha, rfl⟩
    | ok v =>
      rcases ih with ⟨b, hb, fault, hf, he⟩ | ⟨values, hv, he⟩
      · exact Or.inl ⟨b, List.mem_cons_of_mem _ hb, fault, hf, by rw [he]; rfl⟩
      · exact Or.inr ⟨v :: values, by simp [ha, hv], by rw [he]; rfl⟩

theorem Amount.Triple.values_eq (t : Triple) :
    (∃ a ∈ t.amounts, ∃ fault, a.value = .error fault ∧ t.values = .error fault) ∨
      ∃ low mean high, t.amounts.map value = [.ok low, .ok mean, .ok high] ∧
        t.values = .ok (low, mean, high) := by
  unfold values amounts
  cases hl : t.low.value with
  | error fault => exact Or.inl ⟨t.low, by simp, fault, hl, rfl⟩
  | ok low =>
    cases hm : t.mean.value with
    | error fault => exact Or.inl ⟨t.mean, by simp, fault, hm, rfl⟩
    | ok mean =>
      cases hh : t.high.value with
      | error fault => exact Or.inl ⟨t.high, by simp, fault, hh, rfl⟩
      | ok high => exact Or.inr ⟨low, mean, high, by simp [hl, hm, hh], rfl⟩

/-- The amount has a digit of another script than ASCII. -/
def Amount.IsForeign (a : Amount) : Prop := ∃ c ∈ a.text, isDigit c = true ∧ 128 ≤ c.toNat

theorem Amount.not_isForeign_of_map {as : List Amount} (hp : ∀ a ∈ as, a.IsProper)
    {values : List Decimal} (h : as.map value = values.map .ok) : ¬∃ a ∈ as, a.IsForeign := by
  rintro ⟨a, ha, hforeign⟩
  have hv : a.value = .error (.digits .badDigit) :=
    (value_eq_error_iff (hp a ha)).2 ⟨rfl, hforeign⟩
  have hmem : a.value ∈ values.map .ok := h ▸ List.mem_map_of_mem ha
  rw [hv] at hmem
  obtain ⟨v, -, he⟩ := List.mem_map.1 hmem
  cases he

/-! ## The ways a text is read -/

/-- Nothing stands in the text but punctuation, symbols and blanks. -/
def IsDrawn (text : List Char) : Prop := ∀ c ∈ text, isSign c = true ∨ isBlank c = true

theorem isDrawn_iff {text : List Char} : IsDrawn text ↔ text = [] ∨ isRuler text = true := by
  cases text with
  | nil => simp [IsDrawn]
  | cons c cs => simp [IsDrawn, isRuler]

/-- A text with a price triple is not drawn: there is a digit in it. -/
theorem not_isDrawn_of_triple {text : List Char} (h : (Amount.find text).triple.isSome) :
    ¬IsDrawn text := by
  intro hdrawn
  obtain ⟨t, ht⟩ := Option.isSome_iff_exists.1 h
  have hitem := Amount.mem_items_of_triple ht (a := t.low) (by simp [Amount.Triple.amounts])
    (u := t.low.head) List.mem_cons_self
  have hproper := Amount.proper_of_mem_items hitem
  obtain ⟨c, cs, hc⟩ := List.exists_cons_of_ne_nil hproper.whole_ne_nil
  have hdigit := hproper.whole c (by simp [hc])
  have hmem : c ∈ text := Amount.subset_of_mem_items hitem (by simp [Amount.Numeral.text, hc])
  rcases hdrawn c hmem with hs | hb
  · rw [isSign_of_isDigit hdigit] at hs; cases hs
  · rw [isBlank_of_isDigit hdigit] at hb; cases hb

namespace PriceLine

variable {rule : UnitRule} {raw : String} {text : List Char} {line : PriceLine}

/-- The ways the line of a text comes about, each with what it depends on. -/
inductive Outcome (rule : UnitRule) (raw : String) (text : List Char) : PriceLine → Prop
  | drawn {problem : LineProblem} (h : IsDrawn text) : Outcome rule raw text (unreadable raw problem)
  | badAmount {a : Amount} {fault : Decimal.Fault} (ha : a ∈ (Amount.find text).read)
      (hf : a.value = .error fault) : Outcome rule raw text (unreadable raw (.badAmount fault))
  | triple {t : Amount.Triple} {low mean high : Decimal} (h : ¬IsDrawn text)
      (ht : (Amount.find text).triple = some t)
      (hv : t.amounts.map Amount.value = [.ok low, .ok mean, .ok high])
      (he : t.values = .ok (low, mean, high)) : Outcome rule raw text (ofTriple rule raw text t)
  | amounts {values : List Decimal} (h : ¬IsDrawn text) (ht : (Amount.find text).triple = none)
      (hv : ((Amount.find text).amounts.take 2).map Amount.value = values.map .ok)
      (he : ((Amount.find text).amounts.take 2).mapM Amount.value = .ok values) :
      Outcome rule raw text (ofAmounts raw text (Amount.find text).amounts)

theorem outcome_ofTriple {t : Amount.Triple} (h : ¬IsDrawn text)
    (ht : (Amount.find text).triple = some t) :
    Outcome rule raw text (ofTriple rule raw text t) := by
  rcases t.values_eq with ⟨a, ha, fault, hf, he⟩ | ⟨low, mean, high, hv, he⟩
  · rw [ofTriple, he]
    refine .badAmount ?_ hf
    rwa [Amount.Found.read, ht]
  · exact .triple h ht hv he

theorem outcome_ofAmounts (h : ¬IsDrawn text) (ht : (Amount.find text).triple = none) :
    Outcome rule raw text (ofAmounts raw text (Amount.find text).amounts) := by
  rcases Amount.mapM_value ((Amount.find text).amounts.take 2) with
    ⟨a, ha, fault, hf, he⟩ | ⟨values, hv, he⟩
  · rw [ofAmounts, he]
    refine .badAmount ?_ hf
    rwa [Amount.Found.read, ht]
  · exact .amounts h ht hv he

theorem outcome_ofTrimmed (rule : UnitRule) (raw : String) (text : List Char) :
    Outcome rule raw text (ofTrimmed rule raw text) := by
  unfold ofTrimmed
  split
  · next he => exact .drawn (isDrawn_iff.2 (Or.inl (List.isEmpty_iff.1 he)))
  · next he =>
    split
    · next hr => exact .drawn (isDrawn_iff.2 (Or.inr hr))
    · next hr =>
      have hdrawn : ¬IsDrawn text := by
        rw [isDrawn_iff]
        rintro (rfl | h)
        · exact he rfl
        · exact hr h
      simp only
      split
      · next t ht => exact outcome_ofTriple hdrawn ht
      · next ht => exact outcome_ofAmounts hdrawn ht

/-- A text with a triple is read by it. -/
theorem ofTrimmed_of_triple {t : Amount.Triple} (h : (Amount.find text).triple = some t) :
    ofTrimmed rule raw text = ofTriple rule raw text t := by
  have hdrawn : ¬IsDrawn text := not_isDrawn_of_triple (by simp [h])
  rw [isDrawn_iff, not_or] at hdrawn
  rw [ofTrimmed, if_neg (by simpa using hdrawn.1), if_neg hdrawn.2]
  simp only [h]

/-! ## The status and the fields -/

/-- The fields of a line agree with its status, and the status with the text that was read. -/
structure IsConsistent (rule : UnitRule) (text : List Char) (line : PriceLine) : Prop where
  complete_iff_problems : line.status = .complete ↔ line.problems = []
  one_problem : line.status ≠ .complete → line.problems.length = 1
  unreadable_iff : line.status = .unreadable ↔
    IsDrawn text ∨ ∃ a ∈ (Amount.find text).read, a.IsForeign
  nothing_read : line.status = .unreadable → line.designation = none ∧ line.unit = none ∧
    line.low = none ∧ line.mean = none ∧ line.high = none
  complete_iff_unit : line.status = .complete ↔
    line.status ≠ .unreadable ∧ (Amount.find text).triple.isSome ∧ line.unit.isSome
  prices_iff : line.status ≠ .unreadable →
    ((line.low.isSome ∧ line.mean.isSome ∧ line.high.isSome) ↔
      (Amount.find text).triple.isSome)
  of_triple : line.status ≠ .unreadable → ∀ t ∈ (Amount.find text).triple,
    t.amounts.map (some ·.value) = [line.low.map .ok, line.mean.map .ok, line.high.map .ok] ∧
      (line.designation.map String.toList, line.unit.map String.toList) =
        rule.around (t.low.before text) (t.high.after text)
  of_amounts : line.status ≠ .unreadable → (Amount.find text).triple = none →
    line.low.map .ok = (Amount.find text).amounts[0]?.map Amount.value ∧
      line.mean.map .ok = (Amount.find text).amounts[1]?.map Amount.value ∧
        line.high = none ∧ line.unit = none ∧ line.designation = some (String.ofList text)
  designation : ∀ d ∈ line.designation, d ≠ "" ∧ IsTrimmed d.toList
  unit : ∀ u ∈ line.unit, u ≠ "" ∧ IsTrimmed u.toList

theorem isConsistent_unreadable {problem : LineProblem}
    (h : IsDrawn text ∨ ∃ a ∈ (Amount.find text).read, a.IsForeign) :
    IsConsistent rule text (unreadable raw problem) where
  complete_iff_problems := by simp [unreadable]
  one_problem := by simp [unreadable]
  unreadable_iff := iff_of_true rfl h
  nothing_read := by simp [unreadable]
  complete_iff_unit := by simp [unreadable]
  prices_iff := by simp [unreadable]
  of_triple := by simp [unreadable]
  of_amounts := by simp [unreadable]
  designation := by simp [unreadable]
  unit := by simp [unreadable]

theorem isConsistent_ofTriple {t : Amount.Triple} {low mean high : Decimal} (h : ¬IsDrawn text)
    (ht : (Amount.find text).triple = some t)
    (hv : t.amounts.map Amount.value = [.ok low, .ok mean, .ok high])
    (he : t.values = .ok (low, mean, high)) :
    IsConsistent rule text (ofTriple rule raw text t) := by
  have hread : (Amount.find text).read.map Amount.value = [low, mean, high].map .ok := by
    rwa [Amount.Found.read, ht]
  have hforeign := Amount.not_isForeign_of_map (Amount.isProper_read text) hread
  have hvalues : t.amounts.map (some ·.value) =
      [some (.ok low), some (.ok mean), some (.ok high)] := by
    simpa [Amount.Triple.amounts] using hv
  have htrimmed := rule.around_isTrimmed (t.low.before text) (t.high.after text)
  rw [ofTriple, he]
  generalize har : rule.around (t.low.before text) (t.high.after text) = around at htrimmed
  obtain ⟨designation, unit⟩ := around
  constructor
  case complete_iff_problems => cases unit <;> simp
  case one_problem => cases unit <;> simp
  case unreadable_iff => cases unit <;> simp [h, hforeign]
  case nothing_read => cases unit <;> simp
  case complete_iff_unit => cases unit <;> simp [ht]
  case prices_iff => simp [ht]
  case of_triple =>
    intro _ t' ht'
    obtain rfl : t = t' := by simpa [ht] using ht'
    refine ⟨hvalues, ?_⟩
    simp [har, Option.map_map, Function.comp_def]
  case of_amounts => simp [ht]
  case designation => simpa using htrimmed.1
  case unit => simpa using htrimmed.2

theorem isConsistent_ofAmounts {values : List Decimal} (h : ¬IsDrawn text)
    (ht : (Amount.find text).triple = none)
    (hv : ((Amount.find text).amounts.take 2).map Amount.value = values.map .ok)
    (he : ((Amount.find text).amounts.take 2).mapM Amount.value = .ok values)
    (htrim : IsTrimmed text) :
    IsConsistent rule text (ofAmounts raw text (Amount.find text).amounts) := by
  have hread : (Amount.find text).read.map Amount.value = values.map .ok := by
    rwa [Amount.Found.read, ht]
  have hforeign := Amount.not_isForeign_of_map (Amount.isProper_read text) hread
  have hget : ∀ i, i < 2 → values[i]?.map Except.ok =
      (Amount.find text).amounts[i]?.map Amount.value := by
    intro i hi
    rw [← List.getElem?_map, ← hv, List.getElem?_map, List.getElem?_take_of_lt hi]
  have hne : text ≠ [] := fun hn => h (by simp [hn, IsDrawn])
  rw [ofAmounts, he]
  constructor
  case complete_iff_problems => simp
  case one_problem => simp
  case unreadable_iff => simp [h, hforeign]
  case nothing_read => simp
  case complete_iff_unit => simp
  case prices_iff => simp [ht]
  case of_triple => simp [ht]
  case of_amounts => exact fun _ _ => ⟨hget 0 (by decide), hget 1 (by decide), rfl, rfl, rfl⟩
  case designation => simp [hne, htrim]
  case unit => simp

theorem Outcome.isConsistent (h : Outcome rule raw text line) (htrim : IsTrimmed text) :
    IsConsistent rule text line := by
  cases h with
  | drawn h => exact isConsistent_unreadable (Or.inl h)
  | @badAmount a fault ha hf =>
    have hforeign := ((Amount.value_eq_error_iff (Amount.isProper_read text a ha)).1 hf).2
    exact isConsistent_unreadable (Or.inr ⟨a, ha, hforeign⟩)
  | triple h ht hv he => exact isConsistent_ofTriple h ht hv he
  | amounts h ht hv he => exact isConsistent_ofAmounts h ht hv he htrim

theorem isConsistent_ofLogical {g : LogicalLine} (h : IsTrimmed g.text) :
    IsConsistent rule g.text (ofLogical rule g) := by
  rw [ofLogical_eq_ofTrimmed]
  exact (outcome_ofTrimmed rule _ _).isConsistent h

/-- The lines of a list and the line of a single text say of themselves what they are. -/
theorem isConsistent_readAll_and_ofText (rule : UnitRule) :
    (∀ lines, List.Forall₂ (fun g line => IsConsistent rule g.text line)
      (LogicalLine.ofLines lines) (readAll rule lines)) ∧
      ∀ raw, IsConsistent rule (trim raw.toList) (ofText rule raw) := by
  refine ⟨fun lines => ?_, fun raw => ?_⟩
  · rw [readAll, List.forall₂_map_right_iff, List.forall₂_same]
    exact fun g hg => isConsistent_ofLogical (LogicalLine.isTrimmed_text hg)
  · exact (outcome_ofTrimmed rule raw _).isConsistent (isTrimmed_trim _)

end PriceLine

end PriceSurvey
