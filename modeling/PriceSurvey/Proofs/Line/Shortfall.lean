import PriceSurvey.Proofs.Line.Status

/-!
# What is kept of a text without a price triple

A text with amounts but no triple is reported with the number of its amounts, and the first two of
them are kept. A series without a triple has one or two amounts, so a text of one series keeps all
it has. In several series there may be more than two, and all but the first two are lost then.

Results:
* `LineProblem.message_eq_amountCount_iff`: the report tells the number.
* `Amount.length_find_of_no_triple`: how many amounts the series of a text have without a triple.
* `PriceLine.amountCount_mem_iff`: when a number is reported.
* `PriceLine.keeps_of_amountCount`: what is kept then, and when it is everything.
* `PriceLine.amountCount_three`: three prices of which one is lost.
-/
namespace PriceSurvey

open Text

/-! ## The report -/

/-- The letter that the text of a problem begins with. -/
def LineProblem.initial : LineProblem → Char
  | .empty => 'E'
  | .ruler => 'd'
  | .badAmount _ => 'p'
  | .noUnit => 'u'
  | .amountCount _ => 'f'
  | .noAmounts => 'n'

theorem LineProblem.head?_message (p : LineProblem) : p.message.toList.head? = some p.initial := by
  cases p with
  | badAmount fault =>
    change ("price parse error: " ++ fault.message).toList.head? = some 'p'
    rw [String.toList_append, List.head?_append]
    rfl
  | amountCount n =>
    change ("found " ++ toString n ++ " price(s) but expected 3 (min/avg/max)").toList.head? =
      some 'f'
    rw [String.append_assoc, String.toList_append, List.head?_append]
    rfl
  | _ => rfl

theorem LineProblem.message_eq_amountCount_iff {p : LineProblem} {n : Nat} :
    p.message = (amountCount n).message ↔ p = amountCount n := by
  constructor
  · intro h
    have hfirst : p.initial = 'f' := by
      have hhead := p.head?_message
      rw [h, head?_message] at hhead
      exact (Option.some.inj hhead).symm
    cases p with
    | amountCount m =>
      have htold : "found " ++ toString m ++ " price(s) but expected 3 (min/avg/max)" =
        "found " ++ toString n ++ " price(s) but expected 3 (min/avg/max)" := h
      rw [String.append_left_inj, String.append_right_inj] at htold
      have hdigits : Nat.toDigits 10 m = Nat.toDigits 10 n := String.ofList_injective htold
      rw [← Nat.ofDigitChars_ten_toDigits (n := m), hdigits, Nat.ofDigitChars_ten_toDigits]
    | _ => simp [initial] at hfirst
  · rintro rfl
    rfl

/-! ## Amounts without a triple -/

namespace Amount

theorem Series.length_amounts_le {r : Series} (h : r.triple? = none) : r.amounts.length ≤ 2 := by
  rcases hr : r.amounts with _ | ⟨a, _ | ⟨b, _ | ⟨c, others⟩⟩⟩
  · simp
  · simp
  · simp
  · simp [triple?, hr] at h

/-- Each series of a text without a triple has one or two amounts. -/
theorem length_find_of_no_triple {cs : List Char} (h : (find cs).triple = none) :
    (seriesIn cs).length ≤ (find cs).amounts.length ∧
      (find cs).amounts.length ≤ 2 * (seriesIn cs).length := by
  have hnone : ∀ r ∈ seriesIn cs, r.triple? = none := List.findSome?_eq_none_iff.1 h
  simp only [find]
  generalize seriesIn cs = rs at hnone
  induction rs with
  | nil => simp
  | cons r rs ih =>
    have hrest := ih fun s hs => hnone s (List.mem_cons_of_mem _ hs)
    have hle := Series.length_amounts_le (hnone r List.mem_cons_self)
    have hpos := List.length_pos_iff.2 r.amounts_ne_nil
    simp only [List.flatMap_cons, List.length_append, List.length_cons]
    omega

end Amount

/-! ## Lines without a triple -/

namespace PriceLine

/-- The price fields in their order. -/
def priceFields (l : PriceLine) : List (Option Decimal) := [l.low, l.mean, l.high]

/-- The first prices of the line are the values of the amounts, and no more are set. -/
def KeepsJust (l : PriceLine) (as : List Amount) : Prop :=
  l.priceFields.map (Option.map .ok) = as.map (some ·.value) ++ List.replicate (3 - as.length) none

theorem KeepsJust.length_le {l : PriceLine} {as : List Amount} (h : l.KeepsJust as)
    (hhigh : l.high = none) : as.length ≤ 2 := by
  rcases as with _ | ⟨a, _ | ⟨b, _ | ⟨c, others⟩⟩⟩
  · simp
  · simp
  · simp
  · simp [KeepsJust, priceFields, hhigh] at h

variable {rule : UnitRule} {raw : String} {text : List Char} {n : Nat}

theorem ofTrimmed_of_no_triple (h : (ofTrimmed rule raw text).status ≠ .unreadable)
    (ht : (Amount.find text).triple = none) :
    ofTrimmed rule raw text = ofAmounts raw text (Amount.find text).amounts := by
  unfold ofTrimmed at h ⊢
  split
  · next he => simp [he, unreadable] at h
  · next he =>
    split
    · next hr => simp [he, hr, unreadable] at h
    · simp only [ht]

theorem amountCount_mem_unreadable_iff (problem : LineProblem) :
    (LineProblem.amountCount n).message ∈ (unreadable raw problem).problems ↔
      problem = .amountCount n := by
  rw [unreadable, List.mem_singleton, eq_comm, LineProblem.message_eq_amountCount_iff]

theorem amountCount_mem_ofAmounts_iff {as : List Amount} :
    (LineProblem.amountCount n).message ∈ (ofAmounts raw text as).problems ↔
      (ofAmounts raw text as).status ≠ .unreadable ∧ 0 < n ∧ n = as.length := by
  unfold ofAmounts
  split
  · rw [amountCount_mem_unreadable_iff]
    simp [unreadable]
  · rw [List.mem_singleton, eq_comm, LineProblem.message_eq_amountCount_iff]
    cases as with
    | nil => simp; omega
    | cons a as => simp; omega

theorem amountCount_not_mem_ofTriple {t : Amount.Triple} :
    (LineProblem.amountCount n).message ∉ (ofTriple rule raw text t).problems := by
  unfold ofTriple
  split
  · rw [amountCount_mem_unreadable_iff]
    simp
  · simp only
    split
    · simp
    · rw [List.mem_singleton, eq_comm, LineProblem.message_eq_amountCount_iff]
      simp

/-- A number is reported exactly if the text can be read, has no triple, and has that many amounts,
at least one. -/
theorem amountCount_mem_iff :
    (LineProblem.amountCount n).message ∈ (ofTrimmed rule raw text).problems ↔
      (ofTrimmed rule raw text).status ≠ .unreadable ∧ (Amount.find text).triple = none ∧
        0 < n ∧ n = (Amount.find text).amounts.length := by
  constructor
  · intro h
    unfold ofTrimmed at h ⊢
    split at h
    · cases (amountCount_mem_unreadable_iff _).1 h
    · next he =>
      split at h
      · cases (amountCount_mem_unreadable_iff _).1 h
      · next hr =>
        simp only at h
        split at h
        · exact absurd h amountCount_not_mem_ofTriple
        · next ht =>
          rw [if_neg he, if_neg hr]
          simp only [ht]
          obtain ⟨hstatus, hcount⟩ := amountCount_mem_ofAmounts_iff.1 h
          exact ⟨hstatus, trivial, hcount⟩
  · rintro ⟨hstatus, ht, hcount⟩
    have he := ofTrimmed_of_no_triple hstatus ht
    rw [he] at hstatus ⊢
    exact amountCount_mem_ofAmounts_iff.2 ⟨hstatus, hcount⟩

/-- The line of a text with amounts but no triple keeps the first two of them. -/
theorem keepsJust_of_amounts (h : (ofTrimmed rule raw text).status ≠ .unreadable)
    (ht : (Amount.find text).triple = none) (htrim : IsTrimmed text) :
    (ofTrimmed rule raw text).KeepsJust ((Amount.find text).amounts.take 2) := by
  obtain ⟨hlow, hmean, hhigh, -⟩ :=
    ((outcome_ofTrimmed rule raw text).isConsistent htrim).of_amounts h ht
  rw [KeepsJust, priceFields, List.map_cons, List.map_cons, hlow, hmean, hhigh]
  rcases (Amount.find text).amounts with _ | ⟨a, _ | ⟨b, as⟩⟩ <;> rfl

/-- Where a number of amounts is reported, it is that of all amounts of the text. Each of its series
has one or two of them. The line keeps the first two, and so it keeps all there are exactly if the
number is one or two. -/
theorem keeps_of_amountCount
    (h : (LineProblem.amountCount n).message ∈ (ofText rule raw).problems) :
    (Amount.find (trim raw.toList)).triple = none ∧
      (0 < n ∧ n = (Amount.find (trim raw.toList)).amounts.length) ∧
      ((Amount.seriesIn (trim raw.toList)).length ≤ n ∧
        n ≤ 2 * (Amount.seriesIn (trim raw.toList)).length) ∧
      (ofText rule raw).KeepsJust ((Amount.find (trim raw.toList)).amounts.take 2) ∧
      ((ofText rule raw).KeepsJust (Amount.find (trim raw.toList)).amounts ↔ n = 1 ∨ n = 2) := by
  obtain ⟨hstatus, ht, hpos, hn⟩ := amountCount_mem_iff.1 h
  have hkeeps := keepsJust_of_amounts hstatus ht (isTrimmed_trim _)
  refine ⟨ht, ⟨hpos, hn⟩, hn ▸ Amount.length_find_of_no_triple ht, hkeeps, ?_⟩
  constructor
  · intro hall
    obtain ⟨-, -, hhigh, -⟩ := ((outcome_ofTrimmed rule raw _).isConsistent
      (isTrimmed_trim raw.toList)).of_amounts hstatus ht
    have hfew := hall.length_le hhigh
    omega
  · intro hfew
    rwa [List.take_of_length_le (by omega)] at hkeeps

theorem keeps_of_amountCount_rice :
    (LineProblem.amountCount 2).message ∈
        (ofText {} "Riz brisure sac 25 000 27 500").problems ∧
      (ofText {} "Riz brisure sac 25 000 27 500").KeepsJust
        (Amount.find (trim "Riz brisure sac 25 000 27 500".toList)).amounts :=
  have h : (LineProblem.amountCount 2).message ∈
    (ofText {} "Riz brisure sac 25 000 27 500").problems := by decide +kernel
  ⟨h, (keeps_of_amountCount h).2.2.2.2.2 (Or.inr rfl)⟩

/-- Three prices with a stroke between them are three series. Three are reported, and two kept. -/
theorem amountCount_three :
    (LineProblem.amountCount 3).message ∈ (ofText {} "Riz kg 500 / 600 / 700").problems ∧
      (ofText {} "Riz kg 500 / 600 / 700").priceFields = [some ⟨500, 0⟩, some ⟨600, 0⟩, none] := by
  decide +kernel

end PriceLine

end PriceSurvey
