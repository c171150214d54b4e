import PriceSurvey.Proofs.Offer.Verdict

/-!
# Standings and their reasons

An offer has a ratio exactly if its item is known and has a positive price, and it has a reason
exactly if it is not within the limits. The first letter tells a reason from a note on the limits,
and the reasons for a missing ratio are told apart by their first and last letters. The end of the
reason for a ratio above the limits says how far above them it is.

Results:
* `isJudged_ofTotal`: verdict, ratio and reason of a total, and how they hang together.
* `fixedNote_ne_genericNote`, `IsJudged.fixedNote_notMem`, `IsJudged.genericNote_notMem`: the notes
  on the limits are no reasons.
* `reasons_differ`: the three reasons for a missing ratio.
* `excessNote_significant`, `excessNote_moderate`, `degrees_differ`: the two reasons for a ratio
  above the limits.
-/
namespace PriceSurvey

namespace Standing

/-- The reason for an item that is not known. -/
def unresolvedNote : String := "alias UNRESOLVED -- no mercuriale match possible"

/-- The reason for an item without a price. -/
def unpricedNote (item : String) : String :=
  "item_id '" ++ item ++ "' resolved but no mercuriale data"

/-- The reason for a price that is not positive. -/
def notPositiveNote (item : String) (price : Decimal) : String :=
  "item_id '" ++ item ++ "' reference price " ++ toString price ++
    " is not positive -- ratio undefined"

/-- The reason for a ratio above the acceptable limit. -/
def excessNote (ratio : Decimal) (limits : Limits) : String :=
  if limits.high < ratio then excess ratio limits.high "threshold_eleve" "significantly"
  else excess ratio limits.acceptable "threshold_acceptable" "moderately"

/-! ## Verdict, ratio and reason -/

/-- `s` is the standing of a total by the price of its item, if there is one, and limits. -/
structure IsJudged (total : Decimal) (item : Option String) (price : Option Decimal)
    (limits : Limits) (s : Standing) : Prop where
  noReference_iff : s.verdict = .noReference ↔
    item = .none ∨ price = .none ∨ ∃ p, price = some p ∧ ¬p.IsPositive
  ratio_iff : s.ratio = .none ↔ s.verdict = .noReference
  ratio_eq : ∀ q, s.ratio = some q →
    ∃ p, price = some p ∧ p.IsPositive ∧ q = (total / p).round ratioPlaces
  within_iff : s.verdict = .within ↔ ∃ q, s.ratio = some q ∧ q ≤ limits.acceptable
  reason_iff : s.notes = [] ↔ s.verdict = .within
  unresolved : item = .none → s.notes = [unresolvedNote]
  unpriced : ∀ i, item = some i → price = .none → s.notes = [unpricedNote i]
  notPositive : ∀ i p, item = some i → price = some p → ¬p.IsPositive →
    s.notes = [notPositiveNote i p]
  excess : ∀ q, s.ratio = some q → ¬q ≤ limits.acceptable → s.notes = [excessNote q limits]

variable {total : Decimal} {item : Option String} {price : Option Decimal} {limits : Limits}
  {s : Standing}

theorem ofTotal_not_positive {p : Decimal} (h : ¬p.IsPositive) (total : Decimal) (i : String)
    (limits : Limits) :
    ofTotal total (some i) (some p) limits = none (notPositiveNote i p) :=
  if_neg h

theorem ofRatio_above {ratio : Decimal} (h : ¬ratio ≤ limits.acceptable) :
    ofRatio ratio limits = ⟨.above, some ratio, [excessNote ratio limits]⟩ := by
  rw [ofRatio, if_neg h, excessNote]
  split_ifs <;> rfl

theorem isJudged_ofTotal (total : Decimal) (item : Option String) (price : Option Decimal)
    (limits : Limits) : IsJudged total item price limits (ofTotal total item price limits) := by
  rcases item with _ | i
  · constructor <;> simp [ofTotal, none, unresolvedNote]
  rcases price with _ | p
  · constructor <;> simp [ofTotal, none, unpricedNote]
  by_cases hp : p.IsPositive
  · rw [ofTotal_of_isPositive hp]
    by_cases hq : (total / p).round ratioPlaces ≤ limits.acceptable
    · rw [ofRatio_within hq]
      constructor <;> simp [hp, hq]
    · rw [ofRatio_above hq]
      constructor <;> simp [hp, hq]
  · rw [ofTotal_not_positive hp]
    constructor <;> simp [hp, none]

/-! ## The texts of the notes -/

/-- The first letter of a text. -/
def initial? (t : String) : Option Char := t.toList.head?

/-- The last letter of a text. -/
def last? (t : String) : Option Char := t.toList.getLast?

theorem initial?_append (t u : String) : initial? (t ++ u) = (initial? t).or (initial? u) := by
  rw [initial?, String.toList_append, List.head?_append, initial?, initial?]

theorem last?_append (t u : String) : last? (t ++ u) = (last? u).or (last? t) := by
  rw [last?, String.toList_append, List.getLast?_append, last?, last?]

theorem initial?_unpricedNote (i : String) : initial? (unpricedNote i) = some 'i' := by
  rw [unpricedNote, initial?_append, initial?_append]
  rfl

theorem initial?_notPositiveNote (i : String) (p : Decimal) :
    initial? (notPositiveNote i p) = some 'i' := by
  rw [notPositiveNote, initial?_append, initial?_append, initial?_append, initial?_append]
  rfl

theorem last?_unpricedNote (i : String) : last? (unpricedNote i) = some 'a' := by
  rw [unpricedNote, last?_append]
  rfl

theorem last?_notPositiveNote (i : String) (p : Decimal) :
    last? (notPositiveNote i p) = some 'd' := by
  rw [notPositiveNote, last?_append]
  rfl

theorem initial?_excess (ratio limit : Decimal) (name degree : String) :
    initial? (Standing.excess ratio limit name degree) = some 'r' := by
  simp only [Standing.excess, initial?_append]
  rfl

theorem initial?_excessNote (q : Decimal) (limits : Limits) :
    initial? (excessNote q limits) = some 'r' := by
  rw [excessNote]
  split_ifs <;> exact initial?_excess _ _ _ _

theorem initial?_genericNote (profile : String) :
    initial? (Yardstick.genericNote profile) = some 'p' := by
  simp only [Yardstick.genericNote, initial?_append]
  rfl

theorem fixedNote_ne_genericNote (profile : String) :
    Yardstick.fixedNote ≠ Yardstick.genericNote profile := by
  intro h
  have hinitial := congrArg initial? h
  rw [initial?_genericNote] at hinitial
  exact absurd hinitial (by decide)

/-- The three reasons for a missing ratio are different texts, of whatever items they speak. -/
theorem reasons_differ (i j : String) (p : Decimal) :
    unresolvedNote ≠ unpricedNote i ∧ unresolvedNote ≠ notPositiveNote j p ∧
      unpricedNote i ≠ notPositiveNote j p := by
  refine ⟨fun h => ?_, fun h => ?_, fun h => ?_⟩
  · have hinitial := congrArg initial? h
    rw [initial?_unpricedNote] at hinitial
    exact absurd hinitial (by decide)
  · have hinitial := congrArg initial? h
    rw [initial?_notPositiveNote] at hinitial
    exact absurd hinitial (by decide)
  · have hlast := congrArg last? h
    rw [last?_unpricedNote, last?_notPositiveNote] at hlast
    exact absurd hlast (by decide)

/-! ## How far above the limits -/

theorem suffix_excess (ratio limit : Decimal) (name degree : String) :
    (" -- " ++ degree ++ " above ref").toList <:+
      (Standing.excess ratio limit name degree).toList := by
  refine ⟨("ratio " ++ toString (ratio.round shownPlaces) ++ " > " ++ name ++ " " ++
    toString limit).toList, ?_⟩
  simp only [Standing.excess, String.toList_append, List.append_assoc]

theorem excessNote_significant {ratio : Decimal} (h : limits.high < ratio) :
    excessNote ratio limits = "ratio " ++ toString (ratio.round shownPlaces) ++
      " > threshold_eleve " ++ toString limits.high ++ " -- significantly above ref" := by
  have hname : " > threshold_eleve " = " > " ++ "threshold_eleve" ++ " " := rfl
  have hdegree : " -- significantly above ref" = " -- " ++ "significantly" ++ " above ref" := rfl
  rw [excessNote, if_pos h, hname, hdegree]
  simp only [Standing.excess, String.append_assoc]

theorem excessNote_moderate {ratio : Decimal} (h : ¬limits.high < ratio) :
    excessNote ratio limits = "ratio " ++ toString (ratio.round shownPlaces) ++
      " > threshold_acceptable " ++ toString limits.acceptable ++ " -- moderately above ref" := by
  have hname : " > threshold_acceptable " = " > " ++ "threshold_acceptable" ++ " " := rfl
  have hdegree : " -- moderately above ref" = " -- " ++ "moderately" ++ " above ref" := rfl
  rw [excessNote, if_neg h, hname, hdegree]
  simp only [Standing.excess, String.append_assoc]

/-- A ratio above the high limit has another reason than one that is not, whatever the numbers. -/
theorem degrees_differ {ratio ratio' : Decimal} {limits' : Limits} (h : limits.high < ratio)
    (h' : ¬limits'.high < ratio') : excessNote ratio limits ≠ excessNote ratio' limits' := by
  intro heq
  rw [excessNote, if_pos h, excessNote, if_neg h'] at heq
  have hsignificant := suffix_excess ratio limits.high "threshold_eleve" "significantly"
  rw [heq] at hsignificant
  have hmoderate := suffix_excess ratio' limits'.acceptable "threshold_acceptable" "moderately"
  rcases List.suffix_or_suffix_of_suffix hsignificant hmoderate with hsuffix | hsuffix
  · exact absurd hsuffix (by decide)
  · exact absurd hsuffix (by decide)

namespace IsJudged

/-- A reason begins with its own letter. -/
theorem initial?_reason (h : IsJudged total item price limits s) :
    ∀ t ∈ s.notes, initial? t = some 'a' ∨ initial? t = some 'i' ∨ initial? t = some 'r' := by
  intro t ht
  rcases item with _ | i
  · rw [h.unresolved rfl] at ht
    obtain rfl := List.mem_singleton.1 ht
    exact .inl rfl
  rcases price with _ | p
  · rw [h.unpriced i rfl rfl] at ht
    obtain rfl := List.mem_singleton.1 ht
    exact .inr (.inl (initial?_unpricedNote i))
  by_cases hp : p.IsPositive
  · cases hq : s.ratio with
    | none =>
      rw [h.ratio_iff, h.noReference_iff] at hq
      simp [hp] at hq
    | some q =>
      have hwithin := h.reason_iff.trans h.within_iff
      by_cases hle : q ≤ limits.acceptable
      · rw [hwithin.2 ⟨q, hq, hle⟩] at ht
        cases ht
      · rw [h.excess q hq hle] at ht
        obtain rfl := List.mem_singleton.1 ht
        exact .inr (.inr (initial?_excessNote q limits))
  · rw [h.notPositive i p rfl rfl hp] at ht
    obtain rfl := List.mem_singleton.1 ht
    exact .inr (.inl (initial?_notPositiveNote i p))

theorem fixedNote_notMem (h : IsJudged total item price limits s) :
    Yardstick.fixedNote ∉ s.notes :=
  fun hmem => absurd (h.initial?_reason _ hmem) (by decide)

theorem genericNote_notMem (h : IsJudged total item price limits s) (profile : String) :
    Yardstick.genericNote profile ∉ s.notes := by
  intro hmem
  have hinitial := h.initial?_reason _ hmem
  rw [initial?_genericNote] at hinitial
  exact absurd hinitial (by decide)

end IsJudged

end Standing

end PriceSurvey
