import Mathlib.Data.List.Chain
import PriceSurvey.Proofs.Amount.Tiling

/-!
# Amounts as bytes of a text

An amount is a span of bytes that begins and ends between characters. The spans that are found in a
text stand one behind the other, begin and end with digits, and share out the digit runs of the text
that no word character touches: each such run lies in exactly one span, and no other run lies in
any. The three spans of a price triple are three of them in a row, or else share out the runs of one
or two of them.

Results:
* `IsTiling.standApart`, `IsTiling.coverRuns`: so do all amounts that tile the numbers of a text.
* `find_spans`: what is found in a text.
-/
namespace PriceSurvey

open Text

/-! ## Bytes of a text -/

namespace Text

theorem byteLength_pos {cs : List Char} (h : cs ≠ []) : 0 < byteLength cs := by
  obtain ⟨c, cs, rfl⟩ := List.exists_cons_of_ne_nil h
  have := c.utf8Size_pos
  rw [byteLength]
  omega

/-- Of two texts that another one begins with, the longer one has more bytes. -/
theorem byteLength_le_iff {p q cs : List Char} (hp : p <+: cs) (hq : q <+: cs) :
    byteLength p ≤ byteLength q ↔ p.length ≤ q.length := by
  constructor
  · intro hle
    by_contra hlt
    obtain ⟨r, rfl⟩ := List.prefix_of_prefix_length_le hq hp (by omega)
    have hr : r ≠ [] := by
      rintro rfl
      simp at hlt
    have := byteLength_pos hr
    rw [byteLength_append] at hle
    omega
  · intro hle
    obtain ⟨r, rfl⟩ := List.prefix_of_prefix_length_le hp hq hle
    rw [byteLength_append]
    omega

theorem byteLength_lt_iff {p q cs : List Char} (hp : p <+: cs) (hq : q <+: cs) :
    byteLength p < byteLength q ↔ p.length < q.length := by
  rw [← Nat.not_le, byteLength_le_iff hq hp, Nat.not_le]

end Text

/-- Bytes of a text, from the first one to behind the last one. -/
structure Span where
  start : Nat
  stop : Nat
  deriving DecidableEq, Repr

namespace Span

/-- The span begins and ends between characters of the text, and its bytes are those of `part`. -/
def IsSlice (s : Span) (cs part : List Char) : Prop :=
  ∃ front back, cs = front ++ (part ++ back) ∧ s.start = byteLength front ∧
    s.stop = byteLength (front ++ part)

/-- The bytes of the run behind `front` are some of the span's. -/
def Holds (s : Span) (front run : List Char) : Prop :=
  s.start ≤ byteLength front ∧ byteLength (front ++ run) ≤ s.stop

end Span

namespace Amount

/-! ## The span of an amount -/

/-- The bytes of the amount in a text. -/
def span (cs : List Char) (a : Amount) : Span :=
  ⟨byteLength (cs.take a.start), byteLength (cs.take a.stop)⟩

namespace Stands

variable {front behind : List Char} {a : Amount}

theorem before_eq (h : a.Stands front behind) (part : List Char) :
    a.before (front ++ part) = front := by
  rw [before, h.start, List.take_left]

theorem stop_eq (h : a.Stands front behind) : a.stop = (front ++ a.text).length := by
  have := h.start
  rw [stop, List.length_append]
  omega

theorem after_eq (h : a.Stands front behind) : a.after (front ++ (a.text ++ behind)) = behind := by
  rw [after, h.stop_eq, ← List.append_assoc, List.drop_left]

theorem span_eq (h : a.Stands front behind) :
    a.span (front ++ (a.text ++ behind)) = ⟨byteLength front, byteLength (front ++ a.text)⟩ := by
  rw [span, h.start, List.take_left, h.stop_eq, ← List.append_assoc, List.take_left]

/-- What is a digit run in an amount is one of the text, and no word character touches it. -/
theorem isFreeRun (h : a.Stands front behind) (hp : a.IsProper) {l run r : List Char}
    (he : a.text = l ++ (run ++ r)) (hrun : IsDigitRun l run r) :
    IsFreeRun (front ++ l) run (r ++ behind) := by
  refine .of_word hrun.ne_nil hrun.digit (fun c hc => ?_) fun c hc => ?_
  · rcases List.eq_nil_or_concat l with rfl | ⟨l, d, rfl⟩
    · exact h.word_before c (by simpa using hc)
    · obtain rfl : d = c := by simpa using hc
      refine (hp.digit_or_not_word d (by simp [he])).resolve_left fun hd => ?_
      rw [hrun.before d (by simp)] at hd
      cases hd
  · cases r with
    | nil => exact h.word_behind c (by simpa using hc)
    | cons d r =>
      obtain rfl : d = c := by simpa using hc
      refine (hp.digit_or_not_word d (by simp [he])).resolve_left fun hd => ?_
      rw [hrun.behind d (by simp)] at hd
      cases hd

end Stands

/-! ## Spans of a tiling -/

/-- The amounts stand in the text in order and apart, between whole characters. Each begins and ends
with a digit, and what is a digit run in one of them is a digit run of the text that no word
character touches. -/
structure StandApart (cs : List Char) (as : List Amount) : Prop where
  slice : ∀ a ∈ as, (a.span cs).IsSlice cs a.text
  before : ∀ a ∈ as, Span.IsSlice ⟨0, (a.span cs).start⟩ cs (a.before cs)
  after : ∀ a ∈ as, Span.IsSlice ⟨(a.span cs).stop, byteLength cs⟩ cs (a.after cs)
  nonempty : ∀ a ∈ as, (a.span cs).start < (a.span cs).stop
  apart : as.Pairwise fun a b => (a.span cs).stop < (b.span cs).start
  first : ∀ a ∈ as, ∃ c, a.text.head? = some c ∧ isDigit c = true
  last : ∀ a ∈ as, ∃ c, a.text.getLast? = some c ∧ isDigit c = true
  runs : ∀ a ∈ as, ∀ l run r, a.text = l ++ (run ++ r) → IsDigitRun l run r →
    IsFreeRun (a.before cs ++ l) run (r ++ a.after cs)

/-- Every digit run of the text that no word character touches lies in exactly one of the
amounts. -/
def CoverRuns (cs : List Char) (as : List Amount) : Prop :=
  ∀ front run back, cs = front ++ (run ++ back) → IsFreeRun front run back →
    ∃! a, a ∈ as ∧ (a.span cs).Holds front run

/-- The same digit runs of the text lie in some amounts and in others. -/
def HoldSame (cs : List Char) (as bs : List Amount) : Prop :=
  ∀ front run back, cs = front ++ (run ++ back) → IsFreeRun front run back →
    ((∃ a ∈ as, (a.span cs).Holds front run) ↔ ∃ b ∈ bs, (b.span cs).Holds front run)

namespace IsTiling

variable {cs : List Char} {as : List Amount} {a : Amount}

theorem span_lt_iff (h : IsTiling (Layout.ofText cs).items as) {b : Amount} (ha : a ∈ as)
    (hb : b ∈ as) : (a.span cs).stop < (b.span cs).start ↔ a.stop < b.start := by
  obtain ⟨fa, ba, hca, hsa⟩ := h.exists_stands ha
  obtain ⟨fb, bb, hcb, hsb⟩ := h.exists_stands hb
  have hspan : (a.span cs).stop = byteLength (fa ++ a.text) := by
    conv_lhs => rw [hca]
    rw [hsa.span_eq]
  have hspan' : (b.span cs).start = byteLength fb := by
    conv_lhs => rw [hcb]
    rw [hsb.span_eq]
  rw [hspan, hspan', hsa.stop_eq, hsb.start]
  have hfa : fa ++ a.text <+: cs := ⟨ba, by rw [hca, List.append_assoc]⟩
  exact byteLength_lt_iff hfa ⟨_, hcb.symm⟩

/-- Amounts of a tiling, in their order, stand in the text as a set of spans. -/
theorem standApart (h : IsTiling (Layout.ofText cs).items as) {bs : List Amount}
    (hsub : bs.Sublist as) (hp : ∀ b ∈ bs, b.IsProper) : StandApart cs bs where
  slice a ha := by
    obtain ⟨front, behind, rfl, hs⟩ := h.exists_stands (hsub.subset ha)
    rw [hs.span_eq]
    exact ⟨front, behind, rfl, rfl, rfl⟩
  before a ha := by
    obtain ⟨front, behind, rfl, hs⟩ := h.exists_stands (hsub.subset ha)
    rw [hs.span_eq, hs.before_eq]
    exact ⟨[], _, rfl, rfl, rfl⟩
  after a ha := by
    obtain ⟨front, behind, rfl, hs⟩ := h.exists_stands (hsub.subset ha)
    rw [hs.span_eq, hs.after_eq]
    exact ⟨front ++ a.text, [], by simp, rfl, by simp⟩
  nonempty a ha := by
    obtain ⟨front, behind, rfl, hs⟩ := h.exists_stands (hsub.subset ha)
    obtain ⟨c, hc, -⟩ := (hp a ha).head?
    have hne : a.text ≠ [] := by
      intro hnil
      rw [hnil] at hc
      cases hc
    have := byteLength_pos hne
    rw [hs.span_eq]
    simp only [byteLength_append]
    omega
  apart := (h.pairwise.sublist hsub).imp_of_mem fun ha hb hlt =>
    (h.span_lt_iff (hsub.subset ha) (hsub.subset hb)).2 hlt
  first a ha := (hp a ha).head?
  last a ha := (hp a ha).getLast?
  runs a ha l run r he hrun := by
    obtain ⟨front, behind, rfl, hs⟩ := h.exists_stands (hsub.subset ha)
    rw [hs.before_eq, hs.after_eq]
    exact hs.isFreeRun (hp a ha) he hrun

theorem holds_span_iff (h : IsTiling (Layout.ofText cs).items as) (ha : a ∈ as)
    {front run back : List Char} (he : cs = front ++ (run ++ back)) :
    (a.span cs).Holds front run ↔ a.Holds front run := by
  obtain ⟨f, b, hc, hs⟩ := h.exists_stands ha
  have hspan : a.span cs = ⟨byteLength f, byteLength (f ++ a.text)⟩ := by
    conv_lhs => rw [hc]
    exact hs.span_eq
  have hf : f <+: cs := ⟨_, hc.symm⟩
  have hfa : f ++ a.text <+: cs := ⟨b, by rw [hc, List.append_assoc]⟩
  have hfront : front <+: cs := ⟨_, he.symm⟩
  have hrun : front ++ run <+: cs := ⟨back, by rw [he, List.append_assoc]⟩
  rw [hspan, Span.Holds, Holds, hs.start, hs.stop_eq, byteLength_le_iff hf hfront,
    byteLength_le_iff hrun hfa, @List.length_append _ front run]

theorem coverRuns (h : IsTiling (Layout.ofText cs).items as) : CoverRuns cs as := by
  intro front run back he hrun
  have hholds : ∀ a, (a ∈ as ∧ (a.span cs).Holds front run) ↔ a ∈ as ∧ a.Holds front run :=
    fun a => and_congr_right fun ha => h.holds_span_iff ha he
  simp only [hholds]
  subst he
  exact h.exists_unique_holds hrun

/-- Amounts of a tiling hold the runs that their numbers hold. -/
theorem exists_holds_span_iff (h : IsTiling (Layout.ofText cs).items as) {bs : List Amount}
    (hsub : bs ⊆ as) {front run back : List Char} (he : cs = front ++ (run ++ back))
    (hrun : IsFreeRun front run back) :
    (∃ b ∈ bs, (b.span cs).Holds front run) ↔
      ∃ t ∈ bs.flatMap Amount.numerals, t.Holds front run := by
  have hholds : ∀ b ∈ bs, (b.span cs).Holds front run ↔ ∃ t ∈ b.numerals, t.Holds front run := by
    intro b hb
    rw [h.holds_span_iff (hsub hb) he]
    subst he
    exact h.holds_iff hrun (hsub hb)
  constructor
  · rintro ⟨b, hb, hold⟩
    obtain ⟨t, ht, hold⟩ := (hholds b hb).1 hold
    exact ⟨t, List.mem_flatMap.2 ⟨b, hb, ht⟩, hold⟩
  · rintro ⟨t, ht, hold⟩
    obtain ⟨b, hb, ht⟩ := List.mem_flatMap.1 ht
    exact ⟨b, hb, (hholds b hb).2 ⟨t, ht, hold⟩⟩

end IsTiling

/-! ## What is found in a text -/

/-- The amounts of the triple are amounts in a row, or they hold the digit runs of one or two in a
row. -/
def Triple.IsAmong (cs : List Char) (t : Triple) (as : List Amount) : Prop :=
  ∃ front mid back, as = front ++ (mid ++ back) ∧
    (mid = t.amounts ∨ (mid.length = 1 ∨ mid.length = 2) ∧ HoldSame cs t.amounts mid)

theorem isAmong_find {cs : List Char} {t : Triple} (h : (find cs).triple = some t) :
    t.IsAmong cs (find cs).amounts := by
  obtain ⟨front, mid, back, he, hmid, hnumerals, htiling⟩ := exists_isTiling_triple h
  refine ⟨front, mid, back, he, hmid.imp_right fun hshort => ⟨hshort, ?_⟩⟩
  intro f run b hcs hrun
  have hfind := isTiling_find cs
  rw [he] at hfind
  have hin : ∀ {bs : List Amount}, bs ⊆ front ++ (bs ++ back) := fun ha => by simp [ha]
  rw [htiling.exists_holds_span_iff (hin : t.amounts ⊆ _) hcs hrun,
    hfind.exists_holds_span_iff (hin : mid ⊆ _) hcs hrun, hnumerals]

theorem standApart_triple {cs : List Char} {t : Triple} (h : (find cs).triple = some t) :
    StandApart cs t.amounts := by
  obtain ⟨front, mid, back, -, -, -, htiling⟩ := exists_isTiling_triple h
  refine htiling.standApart ?_ (isProper_triple h)
  exact (List.sublist_append_left _ back).trans (List.sublist_append_right front _)

theorem stands_single {front behind : List Char} {t : Numeral} (h : t.Stands front behind) :
    (single t).Stands front behind :=
  ⟨h.start, h.word_before, h.word_behind⟩

/-- What stands between two numbers that follow each other is cut out between characters. -/
theorem isSlice_gap {cs : List Char} {xs ys : List (Numeral × List Char)} {t u : Numeral}
    {gap behind : List Char} (h : (Layout.ofText cs).items = xs ++ (t, gap) :: (u, behind) :: ys) :
    Span.IsSlice ⟨((single t).span cs).stop, ((single u).span cs).start⟩ cs gap := by
  have hnext : (Layout.ofText cs).items = (xs ++ [(t, gap)]) ++ (u, behind) :: ys := by simp [h]
  obtain ⟨ht, hst⟩ := stands_of_items h
  obtain ⟨hu, hsu⟩ := stands_of_items hnext
  generalize hfront : Layout.text ⟨(Layout.ofText cs).lead, xs⟩ = front at ht hst
  have hfront' : Layout.text ⟨(Layout.ofText cs).lead, xs ++ [(t, gap)]⟩ =
      front ++ (t.text ++ gap) := by
    rw [Layout.text_append, hfront, Layout.text_cons]
    simp [Layout.text]
  have hspan : ((single t).span cs).stop = byteLength (front ++ t.text) := by
    rw [ht, ← text_single t, (stands_single hst).span_eq]
  have hspan' : ((single u).span cs).start = byteLength (front ++ t.text ++ gap) := by
    rw [hu, ← text_single u, (stands_single hsu).span_eq, hfront',
      ← List.append_assoc front t.text gap]
  refine ⟨front ++ t.text, u.text ++ Layout.text ⟨behind, ys⟩, ?_, hspan, hspan'⟩
  conv_lhs => rw [hu, hfront']
  simp

/-- What is found in a text: spans in order and apart, which share out the digit runs that no word
character touches; the spans of the triple, which are some of these or hold the same runs; and,
between every two numbers, what tells whether they belong together. -/
theorem find_spans (cs : List Char) :
    StandApart cs (find cs).amounts ∧ CoverRuns cs (find cs).amounts ∧
      (∀ t ∈ (find cs).triple, StandApart cs t.amounts ∧ t.IsAmong cs (find cs).amounts) ∧
      (Layout.ofText cs).items.IsChain fun item next =>
        Span.IsSlice ⟨((single item.1).span cs).stop, ((single next.1).span cs).start⟩ cs
          item.2 := by
  have hfind := isTiling_find cs
  refine ⟨hfind.standApart (List.Sublist.refl _) (isProper_find cs), hfind.coverRuns,
    fun t ht => ⟨standApart_triple ht, isAmong_find ht⟩, ?_⟩
  refine List.isChain_iff_forall_rel_of_append_cons_cons.2 ?_
  rintro ⟨t, gap⟩ ⟨u, behind⟩ xs ys hitems
  exact isSlice_gap hitems

end Amount

end PriceSurvey
