import PriceSurvey.Proofs.Line.Status

/-!
# Names broken off before their prices

Lines of text are read as one text with the priced line behind them. Numbers at the end of a name
then stand one blank before those of the priced line, which is how thousands are written, and the
amounts can be others than the priced line has alone. The prices are those of the priced line if the
lines before it do not *disturb* it: no series of numbers that begins in them has a price triple,
and the series that goes on from them into the priced line takes no triple away.

Results:
* `undisturbed_iff`: this is when the text put together has the triple of the second part.
* `undisturbed_of_digit_free`: a text without digits disturbs nothing.
* `prices_of_merged`: the prices of lines read as one, and those of the priced line alone.
* `prices_of_merged_disturbed`: a name that ends in a number changes all three prices.
-/
namespace PriceSurvey

open Text

namespace Amount

/-! ## The first triple of two texts -/

instance (s t : List Char) : Decidable (RunsOn s t) := inferInstanceAs (Decidable (_ ∧ _))

/-- The series of `t` that are the ends of longer ones behind `s`: the first at most. -/
def swallowed (s t : List Char) : List Series :=
  if RunsOn s t then (seriesIn t).take 1 else []

/-- The first triple of `t` stays the first one behind `s`: no series that begins in `s` has a
triple, and none is swallowed. -/
def Undisturbed (s t : List Char) : Prop :=
  (∀ r ∈ seriesIn (s ++ ' ' :: t), r.first.start ≤ s.length → r.triple? = none) ∧
    ∀ r ∈ swallowed s t, r.triple? = none

/-- The series of two texts: those that begin in the first, and those of the second without what is
swallowed. -/
structure IsSplit (s t : List Char) (front rest : List Series) : Prop where
  both : seriesIn (s ++ ' ' :: t) = front ++ rest.map (Series.move (s.length + 1))
  second : seriesIn t = swallowed s t ++ rest
  start : ∀ r ∈ front, r.first.start < s.length

theorem exists_isSplit (s t : List Char) : ∃ front rest, IsSplit s t front rest := by
  by_cases h : RunsOn s t
  · obtain ⟨front, last, gap, first, others, h1, h2, h3⟩ := seriesIn_append_of_runsOn h
    refine ⟨front ++ [last.link gap (first.move (s.length + 1))], others, by simp [h3],
      by simp [swallowed, h, h2], fun r hr => ?_⟩
    rcases List.mem_append.1 hr with hr | hr
    · exact seriesIn_start_lt (by simp [h1, hr])
    · obtain rfl := List.mem_singleton.1 hr
      have hlast : last.first.start < s.length := seriesIn_start_lt (by simp [h1])
      exact hlast
  · refine ⟨seriesIn s, seriesIn t, seriesIn_append h, by simp [swallowed, h], fun r hr => ?_⟩
    exact seriesIn_start_lt hr

theorem start_of_findSome? {rs : List Series} {t : Triple}
    (h : rs.findSome? Series.triple? = some t) : ∃ r ∈ rs, t.low.start = r.first.start := by
  obtain ⟨r, hr, ht⟩ := List.exists_of_findSome?_eq_some h
  exact ⟨r, hr, triple?_start ht⟩

namespace IsSplit

variable {s t : List Char} {front rest : List Series}

theorem triple_both (h : IsSplit s t front rest) :
    (find (s ++ ' ' :: t)).triple = (front.findSome? Series.triple?).or
      ((rest.findSome? Series.triple?).map (Triple.move (s.length + 1))) := by
  rw [find, h.both, List.findSome?_append, findSome?_move]

theorem triple_second (h : IsSplit s t front rest) :
    (find t).triple = ((swallowed s t).findSome? Series.triple?).or
      (rest.findSome? Series.triple?) := by
  rw [find, h.second, List.findSome?_append]

theorem undisturbed_iff_none (h : IsSplit s t front rest) : Undisturbed s t ↔
    front.findSome? Series.triple? = none ∧ (swallowed s t).findSome? Series.triple? = none := by
  simp only [Undisturbed, h.both, List.findSome?_eq_none_iff]
  refine and_congr_left' ⟨fun hall r hr => ?_, fun hall r hr hle => ?_⟩
  · exact hall r (List.mem_append_left _ hr) (h.start r hr).le
  · rcases List.mem_append.1 hr with hr | hr
    · exact hall r hr
    · obtain ⟨r', -, rfl⟩ := List.mem_map.1 hr
      simp only [Series.move, Numeral.move] at hle
      omega

/-- A triple in front begins before every one of the second text. -/
theorem start_front_lt (h : IsSplit s t front rest) {t₀ : Triple}
    (hf : front.findSome? Series.triple? = some t₀) (t₁ : Triple) :
    t₀.low.start < (t₁.move (s.length + 1)).low.start := by
  obtain ⟨r, hr, hstart⟩ := start_of_findSome? hf
  have := h.start r hr
  simp only [Triple.move, start_move]
  omega

/-- What is swallowed begins before the other series of its text. -/
theorem start_swallowed_lt (h : IsSplit s t front rest) {t₁ t₂ : Triple}
    (hc : (swallowed s t).findSome? Series.triple? = some t₁)
    (hr : rest.findSome? Series.triple? = some t₂) : t₁.low.start < t₂.low.start := by
  obtain ⟨r₁, hr₁, h1⟩ := start_of_findSome? hc
  obtain ⟨r₂, hr₂, h2⟩ := start_of_findSome? hr
  have hpairs := seriesIn_pairwise t
  rw [h.second] at hpairs
  have := (List.pairwise_append.1 hpairs).2.2 r₁ hr₁ r₂ hr₂
  omega

end IsSplit

theorem undisturbed_iff {s t : List Char} (ht : (find t).triple.isSome) :
    (find (s ++ ' ' :: t)).triple = (find t).triple.map (Triple.move (s.length + 1)) ↔
      Undisturbed s t := by
  obtain ⟨front, rest, h⟩ := exists_isSplit s t
  rw [h.undisturbed_iff_none]
  constructor
  · intro he
    obtain ⟨t₀, ht₀⟩ := Option.isSome_iff_exists.1 ht
    rw [ht₀, h.triple_both] at he
    cases hf : front.findSome? Series.triple? with
    | some t₁ =>
      have hlt := h.start_front_lt hf t₀
      rw [hf] at he
      obtain rfl : t₁ = t₀.move (s.length + 1) := by simpa using he
      omega
    | none =>
      refine ⟨rfl, ?_⟩
      cases hc : (swallowed s t).findSome? Series.triple? with
      | none => rfl
      | some t₁ =>
        rw [h.triple_second, hc] at ht₀
        obtain rfl : t₁ = t₀ := by simpa using ht₀
        rw [hf] at he
        obtain ⟨t₂, ht₂, hmove⟩ := Option.map_eq_some_iff.1 he
        have hlt := h.start_swallowed_lt hc ht₂
        have hstart := congrArg (·.low.start) hmove
        simp only [Triple.move, start_move] at hstart
        omega
  · rintro ⟨hf, hc⟩
    rw [h.triple_both, h.triple_second, hf, hc]
    rfl

theorem undisturbed_of_digit_free {s : List Char} (h : ∀ c ∈ s, isDigit c = false)
    (t : List Char) : Undisturbed s t := by
  have hs : Layout.ofText s = ⟨s, []⟩ := Layout.cut_lead h 0 false
  have hruns : ¬RunsOn s t := by
    rintro ⟨-, last, hl, -⟩
    simp [hs] at hl
  constructor
  · intro r hr hle
    rw [seriesIn_append hruns, seriesIn, hs] at hr
    obtain ⟨r', -, rfl⟩ := List.mem_map.1 (by simpa [Series.ofItems] using hr)
    simp only [Series.move, Numeral.move] at hle
    omega
  · simp [swallowed, hruns]

end Amount

/-! ## The lines of a group -/

theorem mergedText_concat {ahead : List String} (h : ahead ≠ []) (p : String) :
    mergedText (ahead ++ [p]) = mergedText ahead ++ ' ' :: trim p.toList := by
  induction ahead with
  | nil => exact absurd rfl h
  | cons raw rest ih =>
    cases rest with
    | nil => simp [mergedText, List.intercalate_cons_cons]
    | cons raw' rest =>
      have := ih (List.cons_ne_nil _ _)
      simp only [mergedText, List.cons_append, List.map_cons, List.intercalate_cons_cons] at this ⊢
      rw [this]
      simp only [List.append_assoc]

theorem triple_of_priced {raw : String} (h : LineShape.ofLine raw = .priced) :
    (Amount.find (trim raw.toList)).triple.isSome := by
  unfold LineShape.ofLine LineShape.ofTrimmed at h
  split at h
  · cases h
  · split at h
    · next ht => exact ht
    · split at h <;> cases h

namespace Amount

theorem Triple.move_zero : Triple.move 0 = id := by
  have hnum : ∀ u : Numeral, u.move 0 = u := fun u => rfl
  have hamount : ∀ a : Amount, a.move 0 = a := fun a => by simp [Amount.move, hnum]
  funext t
  simp [Triple.move, hamount]

theorem value_move (n : Nat) (a : Amount) : (a.move n).value = a.value := by
  rw [value, text_move, value]

theorem Triple.values_move (n : Nat) (t : Triple) : (t.move n).values = t.values := by
  simp only [values, Triple.move, value_move]

/-- The triple of merged lines is the one of the last line exactly if nothing disturbs it. -/
theorem undisturbed_iff_merged (ahead : List String) {p : String}
    (hp : (find (trim p.toList)).triple.isSome) :
    (find (mergedText (ahead ++ [p]))).triple = (find (trim p.toList)).triple.map
        (Triple.move ((mergedText (ahead ++ [p])).length - (trim p.toList).length)) ↔
      Undisturbed (mergedText ahead) (trim p.toList) := by
  cases ahead with
  | nil =>
    have hnone : Undisturbed (mergedText []) (trim p.toList) :=
      undisturbed_of_digit_free (by simp [mergedText]) _
    refine iff_of_true ?_ hnone
    simp [mergedText, Triple.move_zero]
  | cons raw rest =>
    rw [mergedText_concat (List.cons_ne_nil _ _), ← undisturbed_iff hp]
    rw [List.length_append, List.length_cons, show ∀ m n : Nat, m + (n + 1) - n = m + 1 by omega]

end Amount

namespace PriceLine

/-- The three prices. -/
def prices (line : PriceLine) : Option Decimal × Option Decimal × Option Decimal :=
  (line.low, line.mean, line.high)

/-- The three prices that values are. -/
def pricesOf : Except Decimal.Fault (Decimal × Decimal × Decimal) →
    Option Decimal × Option Decimal × Option Decimal
  | .ok (low, mean, high) => (some low, some mean, some high)
  | .error _ => (none, none, none)

variable {rule : UnitRule} {raw : String} {text : List Char}

theorem prices_of_triple {t : Amount.Triple} (h : (Amount.find text).triple = some t) :
    (ofTrimmed rule raw text).prices = pricesOf t.values := by
  rw [ofTrimmed_of_triple h, ofTriple]
  split <;> next hv => simp [hv, prices, pricesOf, unreadable]

theorem high_of_no_triple (h : (Amount.find text).triple = none) :
    (ofTrimmed rule raw text).high = none := by
  have hcases := outcome_ofTrimmed rule raw text
  generalize ofTrimmed rule raw text = line at hcases
  cases hcases with
  | drawn => rfl
  | badAmount => rfl
  | triple _ ht => rw [h] at ht; cases ht
  | amounts _ _ _ he => rw [ofAmounts, he]

/-- The same three prices as those of a triple that has them are those of a triple of the same
values. -/
theorem prices_eq_iff {values : Decimal × Decimal × Decimal} :
    (ofTrimmed rule raw text).prices = pricesOf (.ok values) ↔
      (Amount.find text).triple.map Amount.Triple.values = some (.ok values) := by
  cases ht : (Amount.find text).triple with
  | none =>
    have hhigh := @high_of_no_triple rule raw text ht
    refine iff_of_false (fun he => ?_) (by simp)
    have := congrArg (·.2.2) he
    simp [prices, hhigh, pricesOf] at this
  | some t =>
    rw [prices_of_triple ht]
    cases hv : t.values with
    | error fault => simp [hv, pricesOf]
    | ok v => simp [hv, pricesOf, Prod.ext_iff]

/-- The prices of lines read as one with a priced line at the end. Its triple is read there exactly
if the lines before do not disturb it, and then the prices are those that the line has alone. A
priced line that can be read has the same prices there only if a triple of its values is read. -/
theorem prices_of_merged (rule : UnitRule) {lines ahead : List String} {p : String}
    {text : List Char}
    (hg : LogicalLine.lines ⟨ahead ++ [p], text⟩ ∈ LogicalLine.ofLines lines)
    (hp : LineShape.ofLine p = .priced) :
    ((Amount.find text).triple = (Amount.find (trim p.toList)).triple.map
        (Amount.Triple.move (text.length - (trim p.toList).length)) ↔
      Amount.Undisturbed (mergedText ahead) (trim p.toList)) ∧
    (Amount.Undisturbed (mergedText ahead) (trim p.toList) →
      (ofLogical rule (.lines ⟨ahead ++ [p], text⟩)).prices = (ofText rule p).prices) ∧
    ((ofText rule p).status ≠ .unreadable →
      ((ofLogical rule (.lines ⟨ahead ++ [p], text⟩)).prices = (ofText rule p).prices ↔
        (Amount.find text).triple.map Amount.Triple.values =
          (Amount.find (trim p.toList)).triple.map Amount.Triple.values)) := by
  obtain ⟨front, behind, he⟩ := List.append_of_mem hg
  have hlegal := (LogicalLine.isGrouping_ofLines lines).legal front _ behind he
  obtain rfl : text = mergedText (ahead ++ [p]) := hlegal.2.1
  have hsome := triple_of_priced hp
  have hiff := Amount.undisturbed_iff_merged ahead hsome
  obtain ⟨t, ht⟩ := Option.isSome_iff_exists.1 hsome
  have halone : (ofText rule p).prices = pricesOf t.values := prices_of_triple ht
  refine ⟨hiff, fun h => ?_, fun hread => ?_⟩
  · have hmerged := hiff.2 h
    rw [ht] at hmerged
    rw [halone, ← t.values_move]
    exact prices_of_triple hmerged
  · obtain ⟨v, hv⟩ : ∃ v, t.values = .ok v := by
      cases hv : t.values with
      | ok v => exact ⟨v, rfl⟩
      | error fault =>
        rw [ofText, ofTrimmed_of_triple ht, ofTriple, hv] at hread
        exact absurd rfl hread
    rw [halone, ht, Option.map_some, hv]
    exact prices_eq_iff

/-- A name without digits, and the prices below it. -/
theorem prices_of_merged_name :
    (ofLogical {} (.lines ⟨["Riz parfumé", "importé sac 25 000 27 500 30 000"],
      "Riz parfumé importé sac 25 000 27 500 30 000".toList⟩)).prices =
        (ofText {} "importé sac 25 000 27 500 30 000").prices ∧
      (ofText {} "importé sac 25 000 27 500 30 000").prices =
        (some ⟨25000, 0⟩, some ⟨27500, 0⟩, some ⟨30000, 0⟩) := by
  refine ⟨(@prices_of_merged {} ["Riz parfumé", "importé sac 25 000 27 500 30 000"]
    ["Riz parfumé"] _ _ ?_ ?_).2.1 (Amount.undisturbed_of_digit_free ?_ _), ?_⟩
  · decide +kernel
  · decide +kernel
  · decide +kernel
  · decide +kernel

/-- A name that ends in a number takes a price away, and all prices move up by one. -/
theorem prices_of_merged_disturbed :
    LogicalLine.lines ⟨["Papier A4 80", "2 500 3 300 4 000 ramette"],
        "Papier A4 80 2 500 3 300 4 000 ramette".toList⟩ ∈
      LogicalLine.ofLines ["Papier A4 80", "2 500 3 300 4 000 ramette"] ∧
    LineShape.ofLine "2 500 3 300 4 000 ramette" = .priced ∧
    (ofText {} "2 500 3 300 4 000 ramette").prices =
      (some ⟨2500, 0⟩, some ⟨3300, 0⟩, some ⟨4000, 0⟩) ∧
    (ofLogical {} (.lines ⟨["Papier A4 80", "2 500 3 300 4 000 ramette"],
      "Papier A4 80 2 500 3 300 4 000 ramette".toList⟩)).prices =
      (some ⟨80, 0⟩, some ⟨2500, 0⟩, some ⟨3300, 0⟩) := by
  decide +kernel

end PriceLine

end PriceSurvey
