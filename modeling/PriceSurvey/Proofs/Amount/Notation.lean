import Mathlib.Data.Nat.Digits.Defs
import PriceSurvey.Proofs.Amount.Span
import PriceSurvey.Proofs.Amount.Written

/-!
# How a scanned amount is written

What is found in a text is cut out of it by the numbers and the gaps between them; its value is read
off its characters, without looking at numbers or gaps again. Both agree: an amount is written as
digits, or as digits and groups of three behind single separators, and decimals behind its last
digits; and its value is the number that its digits make, at the scale of the decimals.

Results:
* `Integer.ofDigits_eq`: the number that ASCII digits make, place by place.
* `text_written`, `isShaped_written`: a proper amount is written as an amount should be.
* `read_written`: the value of what is written.
* `notation_of_found`: all this for what is found in a text.
-/
namespace PriceSurvey

open Text

/-! ## Digits and numbers -/

/-- The number that digits make, the last of them the units. -/
def placeValue (cs : List Char) : Nat :=
  Nat.ofDigits 10 (cs.map fun c => c.toNat - '0'.toNat).reverse

theorem Integer.ofDigits_eq {cs : List Char} (h : ∀ c ∈ cs, isAsciiDigit c = true) :
    ofDigits cs = placeValue cs := by
  rw [ofDigits, placeValue, filterMap_digit? h, Nat.ofDigits_eq_foldr, List.foldr_reverse]
  simp only [Nat.cast_id, Nat.add_comm]

namespace Amount

/-! ## The notation of amounts -/

namespace Written

/-- The amount is written as an amount can be, in digits of any script: digits, and decimals behind
a mark; before groups of three behind separators, there are at most three digits and no needless
zero in front. -/
structure IsShaped (w : Written) : Prop where
  head_ne_nil : w.head ≠ []
  head : ∀ c ∈ w.head, isDigit c = true
  leads : ¬w.IsPlain → w.head.length ≤ 3 ∧ ¬(w.head.head? = some '0' ∧ 1 < w.head.length)
  group : ∀ g ∈ w.groups, IsSeparator g.1 ∧ g.2.length = 3 ∧ ∀ c ∈ g.2, isDigit c = true
  decimals : ∀ d ∈ w.decimals, (d.1 = ',' ∨ d.1 = '.') ∧ 1 ≤ d.2.length ∧ d.2.length ≤ 4 ∧
    ∀ c ∈ d.2, isDigit c = true

/-- The decimals. -/
def places (w : Written) : List Char := w.tail.tail

/-- The digits of what is written are the digits in it. -/
theorem IsShaped.filter_text {w : Written} (h : w.IsShaped) : w.text.filter isDigit = w.digits := by
  have hkeep : ∀ cs : List Char, (∀ c ∈ cs, isDigit c = true) → cs.filter isDigit = cs :=
    fun cs hcs => List.filter_eq_self.2 hcs
  have hgroup : ∀ g ∈ w.groups, (g.1 :: g.2).filter isDigit = g.2 := by
    intro g hg
    obtain ⟨hsep, -, hd⟩ := h.group g hg
    rw [List.filter_cons_of_neg (by simp [hsep.isBreak.digit]), hkeep _ hd]
  have htail : w.tail.filter isDigit = w.tail.tail := by
    cases hw : w.decimals with
    | none => rw [tail_of_none hw]; rfl
    | some d =>
      obtain ⟨mark, places⟩ := d
      obtain ⟨hm, -, -, hd⟩ := h.decimals _ hw
      have hmark : isDigit mark = false := not_isDigit_mark hm.symm
      rw [tail, hw, List.filter_cons_of_neg (by simp [hmark]), hkeep _ hd]
      rfl
  rw [text, digits, List.filter_append, List.filter_append, hkeep _ h.head, List.filter_flatMap,
    List.flatMap_congr hgroup, htail]

end Written

/-! ## What an amount is written as -/

/-- The mark of a decimal tail and its digits. -/
def splitMark : List Char → Option (Char × List Char)
  | [] => none
  | mark :: places => some (mark, places)

/-- The amount as it is written: the digits of its numbers, with their separators, and the decimals
of the last. -/
def written (a : Amount) : Written :=
  ⟨a.head.whole, a.groups.map fun (gap, t) => (gap.headD ' ', t.whole), splitMark a.last.tail⟩

@[simp] theorem tail_written (a : Amount) : a.written.tail = a.last.tail := by
  rw [Written.tail, written]
  cases a.last.tail <;> rfl

theorem digits_written (a : Amount) : a.written.digits = a.digits := by
  rw [Written.digits, tail_written, digits, whole, decimals, numerals, List.flatMap_cons,
    List.flatMap_map]
  simp [written, List.flatMap_map]

/-- If only the last number has decimals, they stand behind everything else. -/
theorem text_eq_of_decimal {head : Numeral} {groups : List (List Char × Numeral)}
    (h : ∀ t ∈ (Amount.mk head groups).numerals.dropLast, t.tail = []) :
    text ⟨head, groups⟩ = head.whole ++ groups.flatMap (fun g => g.1 ++ g.2.whole) ++
      (Amount.mk head groups).last.tail := by
  induction groups generalizing head with
  | nil => simp [text, last, Numeral.text]
  | cons g groups ih =>
    have hhead : head.tail = [] := h head (by simp [numerals])
    have hlast : (Amount.mk head (g :: groups)).last = (Amount.mk g.2 groups).last := by
      simp only [last, List.getLast?_cons]
      cases groups.getLast? <;> rfl
    have htext : text ⟨head, g :: groups⟩ = head.text ++ (g.1 ++ text ⟨g.2, groups⟩) := by
      simp [text]
    rw [htext, ih fun t ht => h t (by simpa [numerals] using Or.inr ht), hlast, Numeral.text, hhead]
    simp

theorem text_written {a : Amount} (h : a.IsGrouped) : a.text = a.written.text := by
  rw [Written.text, tail_written, text_eq_of_decimal h.decimal, written, List.flatMap_map]
  congr 2
  refine List.flatMap_congr fun g hg => ?_
  conv_lhs => rw [(Spacing.eq_separator (h.gap g hg)).1]
  rfl

theorem isShaped_written {a : Amount} (h : a.IsProper) : a.written.IsShaped where
  head_ne_nil := (h.numeral a.head List.mem_cons_self).whole_ne_nil
  head := (h.numeral a.head List.mem_cons_self).whole
  leads hgroups := by
    have hne : a.groups ≠ [] := by simpa [Written.IsPlain, written] using hgroups
    have hlead := h.grouped.leads hne
    simp only [Numeral.canLead, Numeral.isZeroLed, Bool.and_eq_true, Bool.not_eq_true',
      Bool.and_eq_false_iff, beq_eq_false_iff_ne, decide_eq_true_eq, decide_eq_false_iff_not]
      at hlead
    exact ⟨hlead.2, fun hzero => hlead.1.2.elim (· hzero.1) (· hzero.2)⟩
  group := by
    intro g hg
    obtain ⟨⟨gap, t⟩, hmem, rfl⟩ := List.mem_map.1 hg
    have hproper := h.numeral t (List.mem_cons_of_mem _ (List.mem_map_of_mem (f := (·.2)) hmem))
    exact ⟨(Spacing.eq_separator (h.grouped.gap _ hmem)).2,
      by simpa [Numeral.isThousands] using h.grouped.group _ hmem, hproper.whole⟩
  decimals := by
    intro d hd
    rcases (h.numeral a.last a.last_mem_numerals).tail with ht | ⟨mark, places, ht, hm, h1, h4, hp⟩
    · simp [written, ht, splitMark] at hd
    · obtain rfl : (mark, places) = d := by simpa [written, ht, splitMark] using hd
      exact ⟨hm.symm, h1, h4, hp⟩

/-- What is written is read exactly if its digits are ASCII digits, and then as their number at the
scale of the decimals. -/
theorem read_written {a : Amount} (h : a.IsProper) (d : Decimal) :
    read a.text = .ok d ↔ (∀ c ∈ a.digits, c.toNat < 128) ∧
      d = ⟨placeValue a.digits, a.decimals.length⟩ := by
  have hdigit : ∀ c ∈ a.digits, isDigit c = true := fun c hc => ((mem_digits h).1 hc).2
  have hascii : a.digits.all isAsciiDigit = true ↔ ∀ c ∈ a.digits, c.toNat < 128 := by
    rw [List.all_eq_true]
    refine forall₂_congr fun c hc => ?_
    simp [isAsciiDigit, hdigit c hc]
  rw [← value, value_eq h, ← hascii]
  split
  · next hall =>
    rw [Integer.ofDigits_eq (List.all_eq_true.1 hall), Except.ok.injEq, eq_comm]
    exact (and_iff_right hall).symm
  · next hall => simp [hall]

/-! ## What is found in a text -/

/-- An amount of the text, or of its price triple. -/
def Found.Has (f : Found) (a : Amount) : Prop := a ∈ f.amounts ∨ ∃ t ∈ f.triple, a ∈ t.amounts

theorem isProper_of_has {cs : List Char} {a : Amount} (h : (find cs).Has a) : a.IsProper := by
  rcases h with h | ⟨t, ht, h⟩
  · exact isProper_find cs a h
  · exact isProper_triple ht a h

theorem isSlice_of_has {cs : List Char} {a : Amount} (h : (find cs).Has a) :
    (a.span cs).IsSlice cs a.text := by
  rcases h with h | ⟨t, ht, h⟩
  · exact ((isTiling_find cs).standApart (List.Sublist.refl _) (isProper_find cs)).slice a h
  · exact (standApart_triple ht).slice a h

/-- What is found is cut out of the text as an amount is written, and its value is that of what is
written. -/
theorem notation_of_found {cs : List Char} {a : Amount} (h : (find cs).Has a) :
    (a.span cs).IsSlice cs a.text ∧ a.text = a.written.text ∧ a.written.IsShaped ∧
      a.text.filter isDigit = a.written.digits ∧
      ∀ d, read a.text = .ok d ↔ (∀ c ∈ a.written.digits, c.toNat < 128) ∧
        d = ⟨placeValue a.written.digits, a.written.places.length⟩ := by
  have hp := isProper_of_has h
  have htext := text_written hp.grouped
  have hshaped := isShaped_written hp
  refine ⟨isSlice_of_has h, htext, hshaped, by rw [htext, hshaped.filter_text], fun d => ?_⟩
  rw [Written.places, tail_written, digits_written, ← decimals]
  exact read_written hp d

/-- An amount with thousands and decimals. -/
theorem notation_of_found_gravel :
    ∃ a ∈ (find "Gravier 1'250,50 la tonne".toList).amounts,
      a.written = ⟨['1'], [('\'', ['2', '5', '0'])], some (',', ['5', '0'])⟩ ∧
        read a.text = .ok ⟨125050, 2⟩ := by
  have hfind : (find "Gravier 1'250,50 la tonne".toList).amounts =
      [⟨⟨8, ['1'], []⟩, [(['\''], ⟨10, ['2', '5', '0'], [',', '5', '0']⟩)]⟩] := by decide +kernel
  refine ⟨_, by rw [hfind]; exact List.mem_singleton_self _, rfl, ?_⟩
  have hhas : (find "Gravier 1'250,50 la tonne".toList).Has _ :=
    Or.inl (by rw [hfind]; exact List.mem_singleton_self _)
  exact ((notation_of_found hhas).2.2.2.2 _).2 (by decide)

end Amount

end PriceSurvey
