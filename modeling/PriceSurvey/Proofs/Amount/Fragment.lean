import PriceSurvey.Proofs.Amount.Span
import PriceSurvey.Proofs.Amount.Written

/-!
# Amounts that are broken off a literal

Where a number cannot take the decimals behind a mark, since they are more than four or a word goes
on behind them, it ends before the mark, and where digits before a mark belong to a word, a number
may begin behind it. So an amount can be a fragment of what is written. A text yields none exactly
if each literal with a mark between digits is either a number or stands between letters on both
sides.

Results:
* `Numeral.IsCut.exists_amount`: where the amount of a number begins and ends.
* `no_fragment_iff`: the texts without fragments.
* `fragment_of_measure`: a measure that is broken.
-/
namespace PriceSurvey.Amount

open Text

/-! ## Fragments -/

/-- A decimal mark and a digit come first. -/
def StartsDecimals (cs : List Char) : Prop :=
  ∃ mark d rest, cs = mark :: d :: rest ∧ (mark = '.' ∨ mark = ',') ∧ isDigit d = true

/-- A digit and a decimal mark come last. -/
def EndsWhole (cs : List Char) : Prop :=
  ∃ front d mark, cs = front ++ [d, mark] ∧ (mark = '.' ∨ mark = ',') ∧ isDigit d = true

/-- The digits of the amount go on behind a decimal mark, or come from before one. -/
def IsFragment (cs : List Char) (a : Amount) : Prop :=
  StartsDecimals (a.after cs) ∨ EndsWhole (a.before cs)

/-- Digits, a decimal mark and digits, with no further digit next to them. -/
structure IsLiteral (front whole : List Char) (mark : Char) (places back : List Char) : Prop where
  is_mark : mark = '.' ∨ mark = ','
  whole_run : IsDigitRun front whole (mark :: (places ++ back))
  places_run : IsDigitRun (front ++ (whole ++ [mark])) places back

/-- What is written between two parts of a text can be a number: no word character touches it, it
has at most four decimals, and they do not go on behind a further mark. -/
structure IsReadable (front places back : List Char) : Prop where
  word_before : ∀ c ∈ front.getLast?, isWord c = false
  short : places.length ≤ 4
  word_behind : ∀ c ∈ back.head?, isWord c = false
  ends : ¬StartsDecimals back

/-- Word characters stand on both sides. -/
def IsGlued (front back : List Char) : Prop :=
  (∃ c ∈ front.getLast?, isWord c = true) ∧ ∃ c ∈ back.head?, isWord c = true

/-! ## Numbers and their amounts -/

theorem chain_cut {t u : Numeral} {rest : List (List Char × Numeral)} {gap g : List Char}
    {xs ys : List (Numeral × List Char)} (h : chain t rest gap = xs ++ (u, g) :: ys) :
    (xs = [] ∨ ∃ init v, ∃ p ∈ rest, xs = init ++ [(v, p.1)]) ∧
      ((g = gap ∧ ys = []) ∨ ∃ p ∈ rest, g = p.1) := by
  induction rest generalizing t xs with
  | nil =>
    cases xs with
    | nil => simp_all [chain]
    | cons x xs => simp [chain] at h
  | cons p rest ih =>
    cases xs with
    | nil =>
      simp only [chain, List.nil_append, List.cons.injEq, Prod.mk.injEq] at h
      exact ⟨Or.inl rfl, Or.inr ⟨p, List.mem_cons_self, h.1.2.symm⟩⟩
    | cons x xs =>
      simp only [chain, List.cons_append, List.cons.injEq] at h
      obtain ⟨rfl, h⟩ := h
      obtain ⟨hfront, hback⟩ := ih h
      refine ⟨Or.inr ?_, ?_⟩
      · rcases hfront with rfl | ⟨init, v, q, hq, rfl⟩
        · exact ⟨[], t, p, List.mem_cons_self, rfl⟩
        · exact ⟨(t, p.1) :: init, v, q, List.mem_cons_of_mem _ hq, rfl⟩
      · rcases hback with hend | ⟨q, hq, he⟩
        · exact Or.inl hend
        · exact Or.inr ⟨q, List.mem_cons_of_mem _ hq, he⟩

/-- A number of a tiling is one of an amount's. -/
theorem IsTiling.exists_chain_of_items {items xs ys : List (Numeral × List Char)}
    {as : List Amount} {t : Numeral} {g : List Char} (h : IsTiling items as)
    (he : items = xs ++ (t, g) :: ys) :
    ∃ a ∈ as, ∃ gap pre before after post, chain a.head a.groups gap = before ++ (t, g) :: after ∧
      xs = pre ++ before ∧ ys = after ++ post := by
  induction h generalizing xs with
  | nil => simp at he
  | @cons a gap items as h ih =>
    have hcases : (∃ rest, xs = chain a.head a.groups gap ++ rest ∧
          items = rest ++ (t, g) :: ys) ∨
        ∃ after, chain a.head a.groups gap = xs ++ (t, g) :: after ∧ ys = after ++ items := by
      rcases List.append_eq_append_iff.1 he with ⟨rest, hxs, hrest⟩ | ⟨rest, hchain, hrest⟩
      · exact Or.inl ⟨rest, hxs, hrest⟩
      · cases rest with
        | nil => exact Or.inl ⟨[], by simpa using hchain.symm, hrest.symm⟩
        | cons item rest =>
          simp only [List.cons_append, List.cons.injEq] at hrest
          obtain ⟨rfl, rfl⟩ := hrest
          exact Or.inr ⟨rest, hchain, rfl⟩
    rcases hcases with ⟨rest, rfl, hrest⟩ | ⟨after, hchain, hys⟩
    · obtain ⟨b, hb, gap', pre, before, after, post, hchain, rfl, hys⟩ := ih hrest
      exact ⟨b, List.mem_cons_of_mem _ hb, gap', chain a.head a.groups gap ++ pre, before, after,
        post, hchain, (List.append_assoc _ _ _).symm, hys⟩
    · exact ⟨a, List.mem_cons_self, gap, [], xs, after, items, hchain, rfl, hys⟩

theorem not_isSeparator_mark {mark : Char} (h : mark = '.' ∨ mark = ',') : ¬IsSeparator mark := by
  rcases h with rfl | rfl <;> decide

namespace Numeral.IsCut

variable {cs front behind : List Char} {t : Numeral}

/-- Two numbers that share a place begin at the same place. -/
theorem length_eq_of_meet (h : t.IsCut cs front behind) {u : Numeral} {front' behind' : List Char}
    (h' : u.IsCut cs front' behind') (hle : front'.length ≤ front.length)
    (hlt : front.length < front'.length + u.text.length) : front.length = front'.length := by
  have hmem : ∀ {t f b}, Numeral.IsCut cs f t b →
      single t ∈ (Layout.ofText cs).items.map fun item => single item.1 := by
    rintro t f b ⟨xs, gap, ys, hitems, -⟩
    exact List.mem_map.2 ⟨(t, gap), by simp [hitems], rfl⟩
  have hpos := List.length_pos_iff.2 h.stands.proper.text_ne_nil
  have hs := stands_single h.stands
  have hs' := stands_single h'.stands
  have heq := (isTiling_numbers _).eq_of_meet (hmem h) (hmem h') (n := front.length)
    (by rw [hs.start, hs.stop_eq, List.length_append, text_single]; omega)
    (by rw [hs'.start, hs'.stop_eq, List.length_append, text_single]; omega)
  rw [← hs.start, heq, hs'.start]

/-- The amount of a number begins and ends with it, or goes on behind a separator. -/
theorem exists_amount (h : t.IsCut cs front behind) : ∃ a ∈ (find cs).amounts,
    (a.before cs = front ∨ ∃ c ∈ front.getLast?, IsSeparator c) ∧
      (a.after cs = behind ∨ ∃ c ∈ behind.head?, IsSeparator c) := by
  obtain ⟨xs, g, ys, hitems, rfl, rfl⟩ := h
  obtain ⟨a, ha, gap, pre, before, after, post, hchain, rfl, rfl⟩ :=
    (isTiling_find cs).exists_chain_of_items hitems
  have hall : (Layout.ofText cs).items = pre ++ (chain a.head a.groups gap ++ post) := by
    rw [hitems, hchain]; simp
  obtain ⟨hcs, hs⟩ := stands_of_chain hall
  have hsep : ∀ p ∈ a.groups, ∃ c, p.1 = [c] ∧ IsSeparator c := fun p hp =>
    ⟨_, Spacing.eq_separator ((isProper_find cs a ha).grouped.gap p hp)⟩
  obtain ⟨hbefore, hafter⟩ := chain_cut hchain
  refine ⟨a, ha, ?_, ?_⟩
  · rcases hbefore with rfl | ⟨init, v, p, hp, rfl⟩
    · left
      conv_lhs => rw [hcs, hs.before_eq]
      rw [List.append_nil]
    · right
      obtain ⟨c, hc, hcsep⟩ := hsep p hp
      refine ⟨c, ?_, hcsep⟩
      simp [Layout.text, hc]
  · rcases hafter with ⟨rfl, rfl⟩ | ⟨p, hp, rfl⟩
    · left
      conv_lhs => rw [hcs, hs.after_eq]
      rfl
    · right
      obtain ⟨c, hc, hcsep⟩ := hsep p hp
      refine ⟨c, ?_, hcsep⟩
      simp [Layout.text, hc]

theorem exists_fragment_behind (h : t.IsCut cs front behind) (hb : StartsDecimals behind) :
    ∃ a ∈ (find cs).amounts, a.IsFragment cs := by
  obtain ⟨a, ha, -, hafter⟩ := h.exists_amount
  rcases hafter with he | ⟨c, hc, hsep⟩
  · exact ⟨a, ha, Or.inl (he ▸ hb)⟩
  · obtain ⟨mark, d, rest, rfl, hm, -⟩ := hb
    obtain rfl : mark = c := by simpa using hc
    exact absurd hsep (not_isSeparator_mark hm)

theorem exists_fragment_before (h : t.IsCut cs front behind) (hf : EndsWhole front) :
    ∃ a ∈ (find cs).amounts, a.IsFragment cs := by
  obtain ⟨a, ha, hbefore, -⟩ := h.exists_amount
  rcases hbefore with he | ⟨c, hc, hsep⟩
  · exact ⟨a, ha, Or.inr (he ▸ hf)⟩
  · obtain ⟨rest, d, mark, rfl, hm, -⟩ := hf
    obtain rfl : mark = c := by simpa using hc
    exact absurd hsep (not_isSeparator_mark hm)

end Numeral.IsCut

theorem exists_isCut_head {cs : List Char} {a : Amount} (ha : a ∈ (find cs).amounts) :
    ∃ behind, a.head.IsCut cs (a.before cs) behind := by
  obtain ⟨xs, gap, ys, hitems⟩ := (isTiling_find cs).exists_chain ha
  obtain ⟨hcs, hs⟩ := stands_of_chain hitems
  obtain ⟨g, more, hhead⟩ := a.chain_eq_head gap
  refine ⟨_, xs, g, more ++ ys, by rw [hitems, hhead, List.cons_append], ?_, rfl⟩
  conv_lhs => rw [hcs, hs.before_eq]

theorem exists_isCut_last {cs : List Char} {a : Amount} (ha : a ∈ (find cs).amounts) :
    ∃ front, a.last.IsCut cs front (a.after cs) := by
  obtain ⟨xs, gap, ys, hitems⟩ := (isTiling_find cs).exists_chain ha
  obtain ⟨hcs, hs⟩ := stands_of_chain hitems
  obtain ⟨init, hlast⟩ := a.chain_eq_last gap
  refine ⟨_, xs ++ init, gap, ys, by rw [hitems, hlast]; simp, rfl, ?_⟩
  conv_lhs => rw [hcs, hs.after_eq]

/-! ## Literals that are read -/

/-- The decimals of a literal are taken if they are not too many and no word goes on behind them. -/
theorem splitTail_literal {mark : Char} (hm : mark = '.' ∨ mark = ',')
    {front places back : List Char} (h : IsDigitRun front places back) :
    splitTail (mark :: (places ++ back)) =
      if places.length ≤ 4 ∧ atWordEnd back = true then (mark :: places, back)
      else ([], mark :: (places ++ back)) := by
  have hpos : 1 ≤ places.length := List.length_pos_iff.2 h.ne_nil
  simp only [splitTail, takeWhile_digits h.digit h.behind, dropWhile_digits h.digit h.behind, hm,
    hpos, true_and]

namespace IsLiteral

variable {front whole places back : List Char} {mark : Char}

theorem of_digits (hm : mark = '.' ∨ mark = ',') (hfront : ∀ c ∈ front.getLast?, isDigit c = false)
    (hne : whole ≠ []) (hd : ∀ c ∈ whole, isDigit c = true) (hne' : places ≠ [])
    (hd' : ∀ c ∈ places, isDigit c = true) (hback : ∀ c ∈ back.head?, isDigit c = false) :
    IsLiteral front whole mark places back := by
  have hmark : isDigit mark = false := not_isDigit_mark hm
  refine ⟨hm, ⟨hne, hd, hfront, ?_⟩, hne', hd', fun c hc => ?_, hback⟩
  · rintro c ⟨⟩
    exact hmark
  · obtain rfl : mark = c := by simpa using hc
    exact hmark

theorem startsDecimals (h : IsLiteral front whole mark places back) :
    StartsDecimals (mark :: (places ++ back)) := by
  obtain ⟨d, rest, hd⟩ := List.exists_cons_of_ne_nil h.places_run.ne_nil
  exact ⟨mark, d, rest ++ back, by rw [hd]; rfl, h.is_mark, h.places_run.digit d (by simp [hd])⟩

theorem endsWhole (h : IsLiteral front whole mark places back) :
    EndsWhole (front ++ (whole ++ [mark])) := by
  obtain ⟨rest, d, hd⟩ := (List.eq_nil_or_concat whole).resolve_left h.whole_run.ne_nil
  rw [List.concat_eq_append] at hd
  exact ⟨front ++ rest, d, mark, by simp [hd], h.is_mark, h.whole_run.digit d (by simp [hd])⟩

theorem whole_free (h : IsLiteral front whole mark places back)
    (hword : ∀ c ∈ front.getLast?, isWord c = false) :
    IsFreeRun front whole (mark :: (places ++ back)) := by
  refine .of_word h.whole_run.ne_nil h.whole_run.digit hword ?_
  rintro c ⟨⟩
  exact not_isWord_mark h.is_mark

theorem places_free (h : IsLiteral front whole mark places back)
    (hword : ∀ c ∈ back.head?, isWord c = false) :
    IsFreeRun (front ++ (whole ++ [mark])) places back := by
  refine .of_word h.places_run.ne_nil h.places_run.digit (fun c hc => ?_) hword
  obtain rfl : mark = c := by simpa using hc
  exact not_isWord_mark h.is_mark

end IsLiteral

/-- Every literal with a mark between digits can be a number or stands between letters. -/
def IsUnbroken (cs : List Char) : Prop :=
  ∀ front whole mark places back, cs = front ++ (whole ++ mark :: (places ++ back)) →
    IsLiteral front whole mark places back → IsReadable front places back ∨ IsGlued front back

/-! ## No fragments, no broken literals -/

section

variable {cs front whole places back : List Char} {mark : Char}

theorem isReadable_of_no_fragment (hno : ∀ a ∈ (find cs).amounts, ¬a.IsFragment cs)
    (he : cs = front ++ (whole ++ mark :: (places ++ back)))
    (h : IsLiteral front whole mark places back)
    (hword : ∀ c ∈ front.getLast?, isWord c = false) : IsReadable front places back := by
  have hbroken : ∀ {t f b}, Numeral.IsCut cs f t b → ¬StartsDecimals b := by
    intro t f b hcut hb
    obtain ⟨a, ha, hf⟩ := hcut.exists_fragment_behind hb
    exact hno a ha hf
  obtain ⟨t, f, b, hcut, ⟨rfl, -, hrest⟩ | ⟨-, -, -, rfl⟩⟩ := exists_isCut he (h.whole_free hword)
  · have hsplit := hcut.stands.splitTail
    rw [hrest, splitTail_literal h.is_mark h.places_run] at hsplit
    split at hsplit
    · next hread =>
      obtain rfl : back = b := (Prod.ext_iff.1 hsplit).2
      exact ⟨hword, hread.1, atWordEnd_iff.1 hread.2, hbroken hcut⟩
    · obtain rfl : mark :: (places ++ back) = b := (Prod.ext_iff.1 hsplit).2
      exact absurd h.startsDecimals (hbroken hcut)
  · exact absurd h.startsDecimals (hbroken hcut)

theorem isGlued_of_no_fragment (hno : ∀ a ∈ (find cs).amounts, ¬a.IsFragment cs)
    (he : cs = front ++ (whole ++ mark :: (places ++ back)))
    (h : IsLiteral front whole mark places back)
    (hword : ∃ c ∈ front.getLast?, isWord c = true) : IsGlued front back := by
  refine ⟨hword, Classical.byContradiction fun hb => ?_⟩
  have hfree := h.places_free fun c hc => by
    by_contra hc'
    exact hb ⟨c, hc, by simpa using hc'⟩
  have he' : cs = front ++ (whole ++ [mark]) ++ (places ++ back) := by simp [he]
  obtain ⟨t, f, b, hcut, ⟨rfl, -, -⟩ | ⟨mark', -, hfront, -⟩⟩ := exists_isCut he' hfree
  · obtain ⟨a, ha, hf⟩ := hcut.exists_fragment_before h.endsWhole
    exact hno a ha hf
  · -- A number that takes the decimals begins with the digits before them, but these go on a word.
    have hs := hcut.stands
    rw [← List.append_assoc, ← List.append_assoc] at hfront
    obtain ⟨rfl, -⟩ := append_digits_inj (List.append_inj_left' hfront rfl)
      hs.digit_before hs.proper.whole h.whole_run.before h.whole_run.digit
    obtain ⟨c, hc, hc'⟩ := hword
    rw [hs.word_before c hc] at hc'
    cases hc'

end

/-! ## No broken literals, no fragments -/

namespace IsUnbroken

variable {cs front behind : List Char} {t : Numeral}

/-- Where a mark and digits follow the integer digits of a number, they are its decimals. -/
theorem isReadable (h : IsUnbroken cs) (hcut : t.IsCut cs front behind) {mark : Char}
    {places back : List Char} (hrest : t.tail ++ behind = mark :: (places ++ back))
    (hm : mark = '.' ∨ mark = ',') (hne : places ≠ []) (hd : ∀ c ∈ places, isDigit c = true)
    (hback : ∀ c ∈ back.head?, isDigit c = false) : IsReadable front places back := by
  have hs := hcut.stands
  have hliteral : IsLiteral front t.whole mark places back :=
    .of_digits hm hs.digit_before hs.proper.whole_ne_nil hs.proper.whole hne hd hback
  have he : cs = front ++ (t.whole ++ mark :: (places ++ back)) := by
    rw [← hrest, hcut.eq_text, Numeral.text, List.append_assoc]
  rcases h _ _ _ _ _ he hliteral with hread | ⟨⟨c, hc, hword⟩, -⟩
  · exact hread
  · rw [hs.word_before c hc] at hword
    cases hword

theorem not_startsDecimals (h : IsUnbroken cs) (hcut : t.IsCut cs front behind) :
    ¬StartsDecimals behind := by
  intro hstarts
  have hs := hcut.stands
  rcases hs.proper.tail with htail | ⟨mark, places, htail, hm, hpos, -, hd⟩
  · obtain ⟨mark, d, rest, rfl, hm, hd⟩ := hstarts
    obtain ⟨places, back, hdigits, hp, hback⟩ := exists_digits_append (d :: rest)
    have hne : places ≠ [] := by
      rintro rfl
      rw [hback d (by rw [← List.nil_append back, ← hdigits]; rfl)] at hd
      cases hd
    have hread := h.isReadable hcut (by rw [htail, List.nil_append, hdigits]) hm hne hp hback
    have hrun : IsDigitRun [] places back := ⟨hne, hp, by simp, hback⟩
    have hsplit := hs.splitTail
    rw [htail, List.nil_append, hdigits, splitTail_literal hm hrun,
      if_pos ⟨hread.short, atWordEnd_iff.2 hread.word_behind⟩] at hsplit
    cases hsplit
  · have hread := h.isReadable hcut (by rw [htail, List.cons_append]) hm
      (List.ne_nil_of_length_pos hpos) hd hs.digit_behind
    exact hread.ends hstarts

theorem not_endsWhole (h : IsUnbroken cs) (hcut : t.IsCut cs front behind) : ¬EndsWhole front := by
  rintro ⟨rest, d, mark, rfl, hm, hd⟩
  obtain ⟨front, whole, hdigits, hfront, hw⟩ := exists_append_digits (rest ++ [d])
  have hne : whole ≠ [] := by
    rintro rfl
    rw [hfront d (by rw [← List.append_nil front, ← hdigits]; simp)] at hd
    cases hd
  have hs := hcut.stands
  have hliteral : IsLiteral front whole mark t.whole (t.tail ++ behind) :=
    .of_digits hm hfront hne hw hs.proper.whole_ne_nil hs.proper.whole
      (hs.proper.not_isDigit_behind hs.digit_behind)
  have hmarked : rest ++ [d, mark] = front ++ (whole ++ [mark]) := by
    rw [← List.append_assoc front, ← hdigits]; simp
  have he : cs = front ++ (whole ++ mark :: (t.whole ++ (t.tail ++ behind))) := by
    rw [hcut.eq_text, hmarked, Numeral.text]; simp
  rcases h _ _ _ _ _ he hliteral with hread | ⟨-, c, hc, hword⟩
  · obtain ⟨u, f, b, hcut', ⟨rfl, hwhole, hrest⟩ | ⟨-, -, -, rfl⟩⟩ :=
      exists_isCut he (hliteral.whole_free hread.word_before)
    · -- The digits before the mark are a number that takes those behind it as its decimals.
      have hsplit := hcut'.stands.splitTail
      rw [hrest, splitTail_literal hm hliteral.places_run,
        if_pos ⟨hread.short, atWordEnd_iff.2 hread.word_behind⟩] at hsplit
      have htail : mark :: t.whole = u.tail := (Prod.ext_iff.1 hsplit).1
      have hpos := List.length_pos_iff.2 hs.proper.whole_ne_nil
      have hmeet := hcut.length_eq_of_meet hcut'
      rw [hmarked, Numeral.text, hwhole, ← htail] at hmeet
      simp only [List.length_append, List.length_cons, List.length_nil] at hmeet
      omega
    · exact h.not_startsDecimals hcut' hliteral.startsDecimals
  · rcases hs.proper.tail with htail | ⟨mark', places, htail, hm', -⟩
    · rw [htail, List.nil_append] at hc
      rw [hs.word_behind c hc] at hword
      cases hword
    · obtain rfl : mark' = c := by simpa [htail] using hc
      rw [not_isWord_mark hm'] at hword
      cases hword

end IsUnbroken

/-- The amounts of a text are no fragments exactly if its literals are not broken. -/
theorem no_fragment_iff (cs : List Char) :
    (∀ a ∈ (find cs).amounts, ¬a.IsFragment cs) ↔ IsUnbroken cs := by
  constructor
  · intro hno front whole mark places back he h
    by_cases hword : ∀ c ∈ front.getLast?, isWord c = false
    · exact Or.inl (isReadable_of_no_fragment hno he h hword)
    · refine Or.inr (isGlued_of_no_fragment hno he h ?_)
      simpa using hword
  · rintro h a ha (hafter | hbefore)
    · obtain ⟨front, hcut⟩ := exists_isCut_last ha
      exact h.not_startsDecimals hcut hafter
    · obtain ⟨behind, hcut⟩ := exists_isCut_head ha
      exact h.not_endsWhole hcut hbefore

/-- The two before the decimals of a measure is an amount, since the unit touches the decimals. -/
theorem fragment_of_measure : ∃ a ∈ (find "Ciment 2,5kg".toList).amounts,
    a.text = ['2'] ∧ a.IsFragment "Ciment 2,5kg".toList := by
  have hfind : (find "Ciment 2,5kg".toList).amounts = [single ⟨7, ['2'], []⟩] := by decide +kernel
  refine ⟨_, by rw [hfind]; exact List.mem_singleton_self _, rfl, Or.inl ?_⟩
  exact ⟨',', '5', ['k', 'g'], rfl, Or.inr rfl, by decide⟩

end PriceSurvey.Amount
