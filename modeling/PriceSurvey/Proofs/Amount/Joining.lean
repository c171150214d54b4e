import PriceSurvey.Proofs.Amount.Span
import PriceSurvey.Proofs.Amount.Written

/-!
# Amounts of texts put together

Where a blank puts a text behind another one, the last number before it and the first one behind it
are read together if nothing but white space is between them. Otherwise the numbers, their amounts
and the first triple of the whole are those of the one text and then, further on, those of the
other.

Results:
* `isKeptApart_iff`: when the numbers next to the blank are not read together.
* `find_joined`: what is found in texts that are kept apart.
* `Spans.ofText_joined`: the bytes at which it is found.
-/
namespace PriceSurvey

open Text

/-- The span, `n` bytes further on. -/
def Span.move (n : Nat) (s : Span) : Span := ⟨s.start + n, s.stop + n⟩

namespace Amount

/-! ## Numbers kept apart -/

/-- What stands behind the last number, or everything if there is none. -/
def Layout.trail (l : Layout) : List Char := (l.items.getLast?.map (·.2)).getD l.lead

/-- One of the texts holds no number, or something that is no white space stands behind the last
number of the first or in front of the first number of the second. -/
def IsKeptApart (s t : List Char) : Prop :=
  (Layout.ofText s).items = [] ∨ (Layout.ofText t).items = [] ∨
    ∃ c ∈ (Layout.ofText s).trail ++ (Layout.ofText t).lead, isBlank c = false

instance (s t : List Char) : Decidable (IsKeptApart s t) :=
  inferInstanceAs (Decidable (_ ∨ _ ∨ _))

/-- A text with a blank in it ends a series exactly if there is more than white space in it. -/
theorem Spacing.ofText_eq_ending_iff (gap lead : List Char) :
    ofText (gap ++ ' ' :: lead) = .ending ↔ ∃ c ∈ gap ++ lead, isBlank c = false := by
  have hmem : ∀ c, c ∈ gap ++ ' ' :: lead ↔ c = ' ' ∨ c ∈ gap ++ lead := fun c => by
    rw [List.mem_append, List.mem_cons, or_left_comm, List.mem_append]
  constructor
  · intro hending
    by_contra hblank
    have hgap : IsGap (gap ++ ' ' :: lead) := by
      refine ⟨by simp, fun c hc => ?_⟩
      rcases (hmem c).1 hc with rfl | hc
      · rfl
      · by_contra hnot
        exact hblank ⟨c, hc, by simpa using hnot⟩
    exact ne_ending_of_canPart hgap.canPart hending
  · rintro ⟨c, hc, hblank⟩
    -- The blank and the other character rule out each single separator.
    have hin : c ∈ gap ++ ' ' :: lead := (hmem c).2 (Or.inr hc)
    have hmark : gap ++ ' ' :: lead ≠ ['\''] := by
      intro h
      have hmark := (hmem ' ').2 (Or.inl rfl)
      rw [h] at hmark
      revert hmark
      decide
    have hone : ¬(gap ++ ' ' :: lead = [' '] ∨ gap ++ ' ' :: lead = ['\u00a0']) := by
      rintro (h | h) <;> rw [h, List.mem_singleton] at hin <;> subst hin <;> cases hblank
    have hall : ¬(gap ++ ' ' :: lead ≠ [] ∧ (gap ++ ' ' :: lead).all isBlank = true) := by
      rintro ⟨-, hall⟩
      rw [List.all_eq_true.1 hall c hin] at hblank
      cases hblank
    rw [ofText, if_neg hmark, if_neg hone, if_neg hall]

/-- Texts are kept apart exactly if neither runs on into the other. -/
theorem isKeptApart_iff {s t : List Char} : IsKeptApart s t ↔ ¬RunsOn s t := by
  rw [RunsOn, IsKeptApart]
  cases hlast : (Layout.ofText s).items.getLast? with
  | none => simp [List.getLast?_eq_none_iff.1 hlast]
  | some last =>
    have hne : (Layout.ofText s).items ≠ [] := by
      intro hnil
      rw [hnil] at hlast
      cases hlast
    have htrail : (Layout.ofText s).trail = last.2 := by rw [Layout.trail, hlast]; rfl
    rw [htrail, ← Spacing.ofText_eq_ending_iff]
    simp [hne, imp_iff_not_or]

/-! ## What is found -/

/-- What is found, `n` code points further on. -/
def Found.move (n : Nat) (f : Found) : Found :=
  ⟨f.amounts.map (Amount.move n), f.triple.map (Triple.move n)⟩

/-- What is found in one text and then in another. -/
def Found.append (f g : Found) : Found := ⟨f.amounts ++ g.amounts, f.triple.or g.triple⟩

/-- Texts that are kept apart hold what the one holds and then what the other holds. -/
theorem find_joined {s t : List Char} (h : IsKeptApart s t) :
    find (s ++ ' ' :: t) = (find s).append ((find t).move (s.length + 1)) := by
  have hseries := seriesIn_append (isKeptApart_iff.1 h)
  simp only [find, Found.append, Found.move, hseries, List.flatMap_append, List.flatMap_map,
    List.findSome?_append, findSome?_move, Series.amounts_move, List.map_flatMap]

/-! ## Where it is found -/

theorem IsTiling.stop_le {cs : List Char} {as : List Amount} {a : Amount}
    (h : IsTiling (Layout.ofText cs).items as) (ha : a ∈ as) : a.stop ≤ cs.length := by
  obtain ⟨front, behind, rfl, hs⟩ := h.exists_stands ha
  rw [hs.stop_eq]
  simp only [List.length_append]
  omega

theorem span_append {cs : List Char} {a : Amount} (h : a.stop ≤ cs.length) (ds : List Char) :
    a.span (cs ++ ds) = a.span cs := by
  have hstart : a.start ≤ cs.length := by
    rw [stop] at h
    omega
  rw [span, span, List.take_append_of_le_length h, List.take_append_of_le_length hstart]

theorem span_move (s t : List Char) (a : Amount) :
    (a.move (s.length + 1)).span (s ++ ' ' :: t) = (a.span t).move (byteLength s + 1) := by
  have htake : ∀ n, byteLength ((s ++ ' ' :: t).take (n + (s.length + 1))) =
      byteLength (t.take n) + (byteLength s + 1) := by
    intro n
    have hlen : n + (s.length + 1) = (s ++ [' ']).length + n := by
      rw [List.length_append, List.length_singleton]
      omega
    have hblank : byteLength [' '] = 1 := rfl
    rw [List.append_cons, hlen, List.take_length_add_append, byteLength_append, byteLength_append,
      hblank]
    omega
  have hstop : (a.move (s.length + 1)).stop = a.stop + (s.length + 1) := by
    rw [stop, stop, start_move, text_move]
    omega
  rw [span, start_move, hstop, htake, htake]
  rfl

/-- The spans of a text: those of its amounts, from left to right, and those of its first triple. -/
structure Spans where
  amounts : List Span
  triple : Option (List Span)
  deriving DecidableEq, Repr

namespace Spans

/-- The spans of what is found in a text. -/
def ofText (cs : List Char) : Spans :=
  ⟨(find cs).amounts.map (span cs), (find cs).triple.map fun t => t.amounts.map (span cs)⟩

/-- Scanning goes along texts that are kept apart: the amounts are those of the first text and then
those of the second, behind the first one and the blank, and the triple is the first one. -/
theorem ofText_joined {s t : List Char} (h : IsKeptApart s t) :
    (ofText (s ++ ' ' :: t)).amounts =
        (ofText s).amounts ++ (ofText t).amounts.map (Span.move (byteLength s + 1)) ∧
      (ofText (s ++ ' ' :: t)).triple = (ofText s).triple.or
        ((ofText t).triple.map (List.map (Span.move (byteLength s + 1)))) := by
  have hfirst : ∀ as, IsTiling (Layout.ofText s).items as → ∀ a ∈ as,
      a.span (s ++ ' ' :: t) = a.span s := fun as htiling a ha =>
    span_append (htiling.stop_le ha) _
  simp only [ofText, find_joined h, Found.append, Found.move, List.map_append, List.map_map,
    Option.map_or, Option.map_map]
  refine ⟨congrArg₂ _ ?_ ?_, congrArg₂ _ ?_ ?_⟩
  · exact List.map_congr_left (hfirst _ (isTiling_find s))
  · exact List.map_congr_left fun a _ => span_move s t a
  · refine Option.map_congr fun triple htriple => ?_
    obtain ⟨front, mid, back, -, -, -, htiling⟩ := exists_isTiling_triple htriple
    exact List.map_congr_left fun a ha => hfirst _ htiling a (by simp [ha])
  · refine Option.map_congr fun triple _ => ?_
    simp [Triple.amounts, Triple.move, span_move]

/-- A unit between the number of a name and the prices keeps them apart. -/
theorem ofText_joined_paste :
    IsKeptApart "Pâte 500 g".toList "2 500 3 300 4 000".toList ∧
      (ofText "Pâte 500 g 2 500 3 300 4 000".toList).amounts =
        ⟨6, 9⟩ :: [⟨0, 5⟩, ⟨6, 11⟩, ⟨12, 17⟩].map (Span.move 12) ∧
      (ofText "Pâte 500 g 2 500 3 300 4 000".toList).triple =
        some ([⟨0, 5⟩, ⟨6, 11⟩, ⟨12, 17⟩].map (Span.move 12)) := by
  have hapart : IsKeptApart "Pâte 500 g".toList "2 500 3 300 4 000".toList := by decide +kernel
  have hname : ofText "Pâte 500 g".toList = ⟨[⟨6, 9⟩], none⟩ := by decide +kernel
  have hprices : ofText "2 500 3 300 4 000".toList =
      ⟨[⟨0, 5⟩, ⟨6, 11⟩, ⟨12, 17⟩], some [⟨0, 5⟩, ⟨6, 11⟩, ⟨12, 17⟩]⟩ := by decide +kernel
  have htext : "Pâte 500 g 2 500 3 300 4 000".toList =
      "Pâte 500 g".toList ++ ' ' :: "2 500 3 300 4 000".toList := by decide +kernel
  obtain ⟨hamounts, htriple⟩ := ofText_joined hapart
  rw [← htext, hname, hprices] at hamounts htriple
  exact ⟨hapart, hamounts, htriple⟩

end Spans

end Amount

end PriceSurvey
