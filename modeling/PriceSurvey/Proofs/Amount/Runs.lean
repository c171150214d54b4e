import Mathlib.Data.List.Basic
import PriceSurvey.Proofs.Amount.Layout

/-!
# Digit runs and numbers

A number is read where digits begin and no word goes on before them. It takes them all, and the
decimals behind them if these are a run of their own. So the numbers of a text hold whole digit
runs, and every run that no word character touches is held by one of them.

Results:
* `stands_of_items`: what is read at a number, and what stands around it.
* `Numeral.IsProper.runs`: the runs in a number are its integer digits and its decimals.
* `exists_holds`, `exists_isCut`: a run that no word character touches lies in a number, and is its
  integer digits or its decimals.
-/
namespace PriceSurvey

/-! ## Digit runs -/

namespace Text

/-- Digits in a text, between what stands before and behind them, with no further digit next to
them. -/
structure IsDigitRun (front run back : List Char) : Prop where
  ne_nil : run ≠ []
  digit : ∀ c ∈ run, isDigit c = true
  before : ∀ c ∈ front.getLast?, isDigit c = false
  behind : ∀ c ∈ back.head?, isDigit c = false

/-- A digit run that no word character touches. -/
structure IsFreeRun (front run back : List Char) : Prop extends IsDigitRun front run back where
  word_before : ∀ c ∈ front.getLast?, isWord c = false
  word_behind : ∀ c ∈ back.head?, isWord c = false

theorem IsFreeRun.of_word {front run back : List Char} (hne : run ≠ [])
    (hd : ∀ c ∈ run, isDigit c = true) (hf : ∀ c ∈ front.getLast?, isWord c = false)
    (hb : ∀ c ∈ back.head?, isWord c = false) : IsFreeRun front run back where
  ne_nil := hne
  digit := hd
  before c hc := isDigit_of_not_isWord (hf c hc)
  behind c hc := isDigit_of_not_isWord (hb c hc)
  word_before := hf
  word_behind := hb

theorem takeWhile_digits {x y : List Char} (hx : ∀ c ∈ x, isDigit c = true)
    (hy : ∀ c ∈ y.head?, isDigit c = false) : (x ++ y).takeWhile isDigit = x := by
  rw [List.takeWhile_append_of_pos hx]
  cases y with
  | nil => simp
  | cons c y => simp [hy c rfl]

theorem dropWhile_digits {x y : List Char} (hx : ∀ c ∈ x, isDigit c = true)
    (hy : ∀ c ∈ y.head?, isDigit c = false) : (x ++ y).dropWhile isDigit = y := by
  rw [List.dropWhile_append_of_pos hx]
  cases y with
  | nil => rfl
  | cons c y => simp [hy c rfl]

theorem exists_digits_append (cs : List Char) : ∃ x y, cs = x ++ y ∧
    (∀ c ∈ x, isDigit c = true) ∧ ∀ c ∈ y.head?, isDigit c = false := by
  refine ⟨cs.takeWhile isDigit, cs.dropWhile isDigit, List.takeWhile_append_dropWhile.symm,
    fun _ => List.mem_takeWhile_imp, fun c hc => ?_⟩
  have hnot := List.head?_dropWhile_not isDigit cs
  rw [hc] at hnot
  simpa using hnot

theorem exists_append_digits (cs : List Char) : ∃ x y, cs = x ++ y ∧
    (∀ c ∈ x.getLast?, isDigit c = false) ∧ ∀ c ∈ y, isDigit c = true := by
  obtain ⟨x, y, h, hx, hy⟩ := exists_digits_append cs.reverse
  refine ⟨y.reverse, x.reverse, ?_, by simpa using hy, by simpa using hx⟩
  rw [← List.reverse_append, ← h, List.reverse_reverse]

/-- Where the digits at the front of a text end is seen from the text. -/
theorem digits_append_inj {x y u v : List Char} (h : x ++ y = u ++ v)
    (hx : ∀ c ∈ x, isDigit c = true) (hy : ∀ c ∈ y.head?, isDigit c = false)
    (hu : ∀ c ∈ u, isDigit c = true) (hv : ∀ c ∈ v.head?, isDigit c = false) : x = u ∧ y = v := by
  have hxu : x = u := by rw [← takeWhile_digits hx hy, h, takeWhile_digits hu hv]
  subst hxu
  exact ⟨rfl, List.append_cancel_left h⟩

/-- Where the digits at the end of a text begin is seen from the text. -/
theorem append_digits_inj {x y u v : List Char} (h : x ++ y = u ++ v)
    (hx : ∀ c ∈ x.getLast?, isDigit c = false) (hy : ∀ c ∈ y, isDigit c = true)
    (hu : ∀ c ∈ u.getLast?, isDigit c = false) (hv : ∀ c ∈ v, isDigit c = true) :
    x = u ∧ y = v := by
  have hreverse : y.reverse ++ x.reverse = v.reverse ++ u.reverse := by
    rw [← List.reverse_append, ← List.reverse_append, h]
  obtain ⟨hyv, hxu⟩ := digits_append_inj hreverse (by simpa using hy) (by simpa using hx)
    (by simpa using hv) (by simpa using hu)
  exact ⟨List.reverse_inj.1 hxu, List.reverse_inj.1 hyv⟩

/-- A run that begins among digits is all of them. -/
theorem IsDigitRun.eq_of_digits {digits rest front run back : List Char}
    (h : IsDigitRun front run back) (he : digits ++ rest = front ++ (run ++ back))
    (hd : ∀ c ∈ digits, isDigit c = true) (hrest : ∀ c ∈ rest.head?, isDigit c = false)
    (hlt : front.length < digits.length) : front = [] ∧ run = digits ∧ back = rest := by
  have hfirst : front <+: digits := List.prefix_of_prefix_length_le
    (he ▸ List.prefix_append front (run ++ back)) (List.prefix_append digits rest) hlt.le
  have hfront : front = [] := by
    by_contra hne
    have hlast := hd _ (hfirst.subset (List.getLast_mem hne))
    rw [h.before _ (List.getLast?_eq_some_getLast hne)] at hlast
    cases hlast
  subst hfront
  rw [List.nil_append] at he
  obtain ⟨hrun, hback⟩ := digits_append_inj he hd hrest h.digit h.behind
  exact ⟨rfl, hrun.symm, hback.symm⟩

theorem IsDigitRun.of_append {s front run back : List Char} (h : IsDigitRun (s ++ front) run back) :
    IsDigitRun front run back := by
  refine ⟨h.ne_nil, h.digit, fun c hc => h.before c ?_, h.behind⟩
  have hne : front ≠ [] := by rintro rfl; cases hc
  rwa [List.getLast?_append_of_ne_nil _ hne]

theorem IsDigitRun.of_cons {c : Char} {front run back : List Char}
    (h : IsDigitRun (c :: front) run back) : IsDigitRun front run back := by
  rw [← List.singleton_append] at h
  exact h.of_append

end Text

namespace Amount

open Text

/-! ## Words around a number -/

theorem atWordEnd_iff {cs : List Char} :
    atWordEnd cs = true ↔ ∀ c ∈ cs.head?, isWord c = false := by
  cases cs <;> simp [atWordEnd]

theorem goesOn_false_iff {cs : List Char} :
    goesOn false cs = false ↔ ∀ c ∈ cs.getLast?, isWord c = false := by
  rw [goesOn]
  cases cs.getLast? <;> simp

theorem goesOn_append (inWord : Bool) (s t : List Char) :
    goesOn inWord (s ++ t) = goesOn (goesOn inWord s) t := by
  induction s generalizing inWord with
  | nil => rfl
  | cons c s ih => rw [List.cons_append, goesOn_cons, ih, goesOn_cons]

theorem goesOn_of_getLast? {cs : List Char} {c : Char} (h : cs.getLast? = some c) (inWord : Bool) :
    goesOn inWord cs = isWord c := by rw [goesOn, h]; rfl

/-- A number ends in a digit. -/
theorem Numeral.IsProper.getLast? {t : Numeral} (h : t.IsProper) :
    ∃ c, t.text.getLast? = some c ∧ isDigit c = true := by
  have hdigits : ∀ cs : List Char, cs ≠ [] → (∀ c ∈ cs, isDigit c = true) →
      ∃ c, cs.getLast? = some c ∧ isDigit c = true := fun cs hne hcs =>
    ⟨_, List.getLast?_eq_some_getLast hne, hcs _ (List.getLast_mem hne)⟩
  rcases h.tail with ht | ⟨mark, digits, ht, -, h1, -, hd⟩
  · rw [Numeral.text, ht, List.append_nil]
    exact hdigits _ h.whole_ne_nil h.whole
  · have hne : digits ≠ [] := List.ne_nil_of_length_pos h1
    rw [Numeral.text, ht, List.getLast?_append_of_ne_nil _ (List.cons_ne_nil _ _),
      ← List.singleton_append, List.getLast?_append_of_ne_nil _ hne]
    exact hdigits _ hne hd

/-- A number starts with a digit. -/
theorem Numeral.IsProper.head? {t : Numeral} (h : t.IsProper) :
    ∃ c, t.text.head? = some c ∧ isDigit c = true := by
  obtain ⟨c, cs, hc⟩ := List.exists_cons_of_ne_nil h.whole_ne_nil
  exact ⟨c, by simp [Numeral.text, hc], h.whole c (by simp [hc])⟩

theorem not_isWord_mark {mark : Char} (h : mark = '.' ∨ mark = ',') : isWord mark = false := by
  rcases h with rfl | rfl <;> decide +kernel

theorem not_isDigit_mark {mark : Char} (h : mark = '.' ∨ mark = ',') : isDigit mark = false :=
  isDigit_of_not_isWord (not_isWord_mark h)

/-- What follows the integer digits of a number is no digit. -/
theorem Numeral.IsProper.not_isDigit_behind {t : Numeral} (h : t.IsProper) {rest : List Char}
    (hrest : ∀ c ∈ rest.head?, isDigit c = false) :
    ∀ c ∈ (t.tail ++ rest).head?, isDigit c = false := by
  rcases h.tail with ht | ⟨mark, digits, ht, hm, -⟩
  · rwa [ht]
  · rw [ht]
    rintro c ⟨⟩
    exact not_isDigit_mark hm

/-! ## What is read at a number -/

theorem splitNumber?_atWordEnd {cs whole tail rest : List Char}
    (h : splitNumber? cs = some (whole, tail, rest)) : atWordEnd rest = true := by
  simp only [splitNumber?] at h
  split at h
  · cases h
  · split at h
    · cases h
    · next hend =>
      simp only [Option.some.injEq, Prod.mk.injEq] at h
      obtain ⟨rfl, rfl, rfl⟩ := h
      cases hafter : cs.dropWhile isDigit with
      | nil => rfl
      | cons mark after =>
        rw [hafter] at hend
        simp only [splitTail] at hend ⊢
        split at hend
        · next hm => rw [if_pos hm]; exact hm.2.2.2
        · next hm => rw [if_neg hm]; simpa using hend

/-- A number stands between two parts of a text: no word goes on before it, and it is what is read
there. -/
structure Numeral.Stands (front : List Char) (t : Numeral) (behind : List Char) : Prop where
  start : t.start = front.length
  word : goesOn false front = false
  split : splitNumber? (t.text ++ behind) = some (t.whole, t.tail, behind)

namespace Numeral.Stands

variable {front behind : List Char} {t : Numeral}

theorem proper (h : t.Stands front behind) : t.IsProper := splitNumber?_proper t.start h.split

theorem word_before (h : t.Stands front behind) : ∀ c ∈ front.getLast?, isWord c = false :=
  goesOn_false_iff.1 h.word

theorem word_behind (h : t.Stands front behind) : ∀ c ∈ behind.head?, isWord c = false :=
  atWordEnd_iff.1 (splitNumber?_atWordEnd h.split)

theorem digit_before (h : t.Stands front behind) : ∀ c ∈ front.getLast?, isDigit c = false :=
  fun c hc => isDigit_of_not_isWord (h.word_before c hc)

theorem digit_behind (h : t.Stands front behind) : ∀ c ∈ behind.head?, isDigit c = false :=
  fun c hc => isDigit_of_not_isWord (h.word_behind c hc)

/-- The decimals are all that can be read as such. -/
theorem splitTail (h : t.Stands front behind) :
    Amount.splitTail (t.tail ++ behind) = (t.tail, behind) := by
  have hsplit := h.split
  have hnext := h.proper.not_isDigit_behind h.digit_behind
  have hdrop : (t.text ++ behind).dropWhile isDigit = t.tail ++ behind := by
    rw [Numeral.text, List.append_assoc, dropWhile_digits h.proper.whole hnext]
  simp only [splitNumber?, hdrop] at hsplit
  split at hsplit
  · cases hsplit
  · split at hsplit
    · cases hsplit
    · simp only [Option.some.injEq, Prod.mk.injEq] at hsplit
      exact Prod.ext hsplit.2.1 hsplit.2.2

end Numeral.Stands

/-- Every number is what is read off the text where it stands, and no word goes on there. -/
def Layout.IsRead : Bool → List Char → List (Numeral × List Char) → Prop
  | _, _, [] => True
  | inWord, lead, (t, gap) :: rest =>
    goesOn inWord lead = false ∧
      splitNumber? (t.text ++ Layout.text ⟨gap, rest⟩) =
        some (t.whole, t.tail, Layout.text ⟨gap, rest⟩) ∧ IsRead true gap rest

theorem Layout.isRead_push {inWord : Bool} {c : Char} {lead : List Char}
    {items : List (Numeral × List Char)} (h : IsRead (isWord c) lead items) :
    IsRead inWord (c :: lead) items := by
  cases items with
  | nil => trivial
  | cons item rest => exact ⟨by rw [goesOn_cons]; exact h.1, h.2⟩

theorem Layout.isRead_cut (start : Nat) (inWord : Bool) (cs : List Char) :
    IsRead inWord (cut start inWord cs).lead (cut start inWord cs).items := by
  fun_induction cut start inWord cs with
  | case1 => trivial
  | case2 start c after ih => exact isRead_push ih
  | case3 start inWord c after hw h ih => exact isRead_push ih
  | case4 start inWord c after hw whole tail rest h ih =>
    have hrest : Layout.text ⟨_, _⟩ = rest :=
      text_cut (start + whole.length + tail.length) true rest
    refine ⟨by simpa [goesOn, pushNumeral] using hw, ?_, ih⟩
    simp only [hrest, Numeral.text, splitNumber?_append h]
    exact h

theorem Layout.IsRead.stands {n : Nat} {inWord : Bool} {lead : List Char}
    {xs ys : List (Numeral × List Char)} {t : Numeral} {gap : List Char}
    (hread : IsRead inWord lead (xs ++ (t, gap) :: ys))
    (hplaced : Placed n lead (xs ++ (t, gap) :: ys)) :
    t.start = n + (Layout.text ⟨lead, xs⟩).length ∧
      goesOn inWord (Layout.text ⟨lead, xs⟩) = false ∧
      splitNumber? (t.text ++ Layout.text ⟨gap, ys⟩) =
        some (t.whole, t.tail, Layout.text ⟨gap, ys⟩) := by
  induction xs generalizing n inWord lead with
  | nil =>
    obtain ⟨hword, hsplit, -⟩ := hread
    have hlead : Layout.text ⟨lead, []⟩ = lead := by simp [Layout.text]
    rw [hlead]
    exact ⟨hplaced.1, hword, hsplit⟩
  | cons item xs ih =>
    obtain ⟨u, g⟩ := item
    obtain ⟨-, hsplit, hread⟩ := hread
    obtain ⟨hstart, hword, hnumber⟩ := ih hread hplaced.2
    have htext : Layout.text ⟨lead, (u, g) :: xs⟩ = lead ++ u.text ++ Layout.text ⟨g, xs⟩ := by
      simp [Layout.text]
    -- A number ends in a digit, which is a word character.
    have hdigit : goesOn inWord (lead ++ u.text) = true := by
      obtain ⟨c, hc, hd⟩ := (splitNumber?_proper u.start hsplit).getLast?
      rw [goesOn_append, goesOn_of_getLast? hc]
      exact isWord_of_isDigit hd
    refine ⟨?_, ?_, hnumber⟩
    · rw [htext, hstart]
      simp only [List.length_append]
      omega
    · rw [htext, goesOn_append, hdigit]
      exact hword

theorem Layout.text_append (lead : List Char) (xs ys : List (Numeral × List Char)) :
    Layout.text ⟨lead, xs ++ ys⟩ = Layout.text ⟨lead, xs⟩ ++ Layout.text ⟨[], ys⟩ := by
  simp [Layout.text]

theorem Layout.text_cons (lead : List Char) (t : Numeral) (gap : List Char)
    (rest : List (Numeral × List Char)) :
    Layout.text ⟨lead, (t, gap) :: rest⟩ = lead ++ (t.text ++ Layout.text ⟨gap, rest⟩) := by
  simp [Layout.text]

theorem Layout.text_of_items {cs : List Char} {items : List (Numeral × List Char)}
    (h : (ofText cs).items = items) : Layout.text ⟨(ofText cs).lead, items⟩ = cs := by
  rw [← h]
  exact text_ofText cs

/-- Each number of a text stands where the text is cut at it. -/
theorem stands_of_items {cs : List Char} {xs ys : List (Numeral × List Char)} {t : Numeral}
    {gap : List Char} (h : (Layout.ofText cs).items = xs ++ (t, gap) :: ys) :
    cs = Layout.text ⟨(Layout.ofText cs).lead, xs⟩ ++ (t.text ++ Layout.text ⟨gap, ys⟩) ∧
      t.Stands (Layout.text ⟨(Layout.ofText cs).lead, xs⟩) (Layout.text ⟨gap, ys⟩) := by
  have hread := Layout.isRead_cut 0 false cs
  have hplaced := Layout.cut_placed 0 false cs
  rw [show Layout.cut 0 false cs = Layout.ofText cs from rfl, h] at hread hplaced
  obtain ⟨hstart, hword, hsplit⟩ := hread.stands hplaced
  refine ⟨?_, by omega, hword, hsplit⟩
  have htext := Layout.text_of_items h
  rw [Layout.text_append, Layout.text_cons, List.nil_append] at htext
  exact htext.symm

/-! ## The runs that numbers hold -/

/-- The code points of the run behind `front` are some of the number's. -/
def Numeral.Holds (t : Numeral) (front run : List Char) : Prop :=
  t.start ≤ front.length ∧ front.length + run.length ≤ t.start + t.text.length

/-- A run that begins in a number is its integer digits or its decimals. -/
theorem Numeral.IsProper.runs {t : Numeral} (h : t.IsProper) {rest front run back : List Char}
    (hrest : ∀ c ∈ rest.head?, isDigit c = false) (he : t.text ++ rest = front ++ (run ++ back))
    (hrun : IsDigitRun front run back) (hlt : front.length < t.text.length) :
    (front = [] ∧ run = t.whole ∧ back = t.tail ++ rest) ∨
      ∃ mark, t.tail = mark :: run ∧ front = t.whole ++ [mark] ∧ back = rest := by
  rw [Numeral.text, List.append_assoc] at he
  by_cases hwhole : front.length < t.whole.length
  · exact Or.inl (hrun.eq_of_digits he h.whole (h.not_isDigit_behind hrest) hwhole)
  · right
    obtain ⟨a, rfl⟩ : t.whole <+: front := List.prefix_of_prefix_length_le
      (he ▸ List.prefix_append _ _) (List.prefix_append _ _) (by omega)
    rw [List.append_assoc, List.append_cancel_left_eq] at he
    simp only [Numeral.text, List.length_append] at hlt
    rcases h.tail with ht | ⟨mark, digits, ht, hm, -, -, hd⟩
    · rw [ht, List.length_nil] at hlt
      omega
    · rw [ht, List.cons_append] at he
      rw [ht, List.length_cons] at hlt
      cases a with
      | nil =>
        obtain ⟨c, run, rfl⟩ := List.exists_cons_of_ne_nil hrun.ne_nil
        simp only [List.nil_append, List.cons_append, List.cons.injEq] at he
        have hc := not_isDigit_mark hm
        rw [he.1, hrun.digit c List.mem_cons_self] at hc
        cases hc
      | cons c a =>
        simp only [List.cons_append, List.cons.injEq] at he
        obtain ⟨rfl, he⟩ := he
        obtain ⟨rfl, rfl, rfl⟩ := hrun.of_append.of_cons.eq_of_digits he hd hrest
          (by simp only [List.length_cons] at hlt; omega)
        exact ⟨mark, ht, rfl, rfl⟩

/-- A number is read where a run begins that no word character touches behind. -/
theorem splitNumber?_run {run back : List Char} (h : IsDigitRun [] run back)
    (hend : atWordEnd back = true) : splitNumber? (run ++ back) ≠ none := by
  simp [splitNumber?, takeWhile_digits h.digit h.behind, dropWhile_digits h.digit h.behind, hend,
    h.ne_nil]

/-- Every run that no word character touches lies in a number. -/
theorem Layout.exists_holds (start : Nat) (inWord : Bool) (cs : List Char)
    {front run back : List Char} (he : cs = front ++ (run ++ back))
    (hrun : IsDigitRun front run back) (hbefore : goesOn inWord front = false)
    (hbehind : atWordEnd back = true) {n : Nat} (hn : n = start + front.length) :
    ∃ item ∈ (cut start inWord cs).items,
      item.1.start ≤ n ∧ n + run.length ≤ item.1.start + item.1.text.length := by
  fun_induction cut start inWord cs generalizing front with
  | case1 =>
    have hnil := congrArg List.length he
    have hpos := List.length_pos_iff.2 hrun.ne_nil
    simp only [List.length_nil, List.length_append] at hnil
    omega
  | case2 start c after ih =>
    cases front with
    | nil => cases hbefore
    | cons d front =>
      obtain ⟨rfl, rfl⟩ : c = d ∧ after = front ++ (run ++ back) := by simpa using he
      exact ih rfl hrun.of_cons (by rwa [goesOn_cons] at hbefore)
        (by rw [hn, List.length_cons]; omega)
  | case3 start inWord c after hw h ih =>
    cases front with
    | nil =>
      -- The run begins here, so a number is read.
      rw [he, List.nil_append] at h
      exact absurd h (splitNumber?_run hrun hbehind)
    | cons d front =>
      obtain ⟨rfl, rfl⟩ : c = d ∧ after = front ++ (run ++ back) := by simpa using he
      exact ih rfl hrun.of_cons (by rwa [goesOn_cons] at hbefore)
        (by rw [hn, List.length_cons]; omega)
  | case4 start inWord c after hw whole tail rest h ih =>
    have hp : Numeral.IsProper ⟨start, whole, tail⟩ := splitNumber?_proper start h
    have htext : Numeral.text ⟨start, whole, tail⟩ ++ rest = front ++ (run ++ back) := by
      rw [← he, ← splitNumber?_append h]; rfl
    have hrest : ∀ c ∈ rest.head?, isDigit c = false := fun c hc =>
      isDigit_of_not_isWord (atWordEnd_iff.1 (splitNumber?_atWordEnd h) c hc)
    have hlength : (Numeral.text ⟨start, whole, tail⟩).length = whole.length + tail.length := by
      simp [Numeral.text]
    -- The number holds the run if it begins in it; else the run stands behind the number.
    by_cases hlt : front.length < (Numeral.text ⟨start, whole, tail⟩).length
    · refine ⟨_, List.mem_cons_self, hn ▸ Nat.le_add_right _ _, ?_⟩
      rcases hp.runs hrest htext hrun hlt with ⟨rfl, rfl, -⟩ | ⟨mark, htail, rfl, -⟩
      · simp only [hn, List.length_nil, hlength]
        omega
      · simp only at htail
        simp only [hn, Numeral.text, htail, List.length_append, List.length_cons, List.length_nil]
        omega
    · obtain ⟨front, rfl⟩ : Numeral.text ⟨start, whole, tail⟩ <+: front :=
        List.prefix_of_prefix_length_le (htext ▸ List.prefix_append _ _) (List.prefix_append _ _)
          (by omega)
      rw [List.append_assoc, List.append_cancel_left_eq] at htext
      obtain ⟨d, hd, hdigit⟩ := hp.getLast?
      rw [goesOn_append, goesOn_of_getLast? hd, isWord_of_isDigit hdigit] at hbefore
      obtain ⟨item, hi, hin⟩ := ih htext hrun.of_append hbefore
        (by rw [hn, List.length_append, hlength]; omega)
      exact ⟨item, List.mem_cons_of_mem _ hi, hin⟩

theorem exists_holds {front run back : List Char} (h : IsFreeRun front run back) :
    ∃ t ∈ (Layout.ofText (front ++ (run ++ back))).items.map Prod.fst, t.Holds front run := by
  obtain ⟨item, hi, hin⟩ := Layout.exists_holds 0 false _ rfl h.toIsDigitRun
    (goesOn_false_iff.2 h.word_before) (atWordEnd_iff.2 h.word_behind) (Nat.zero_add _).symm
  exact ⟨item.1, List.mem_map_of_mem hi, hin⟩

/-! ## The number at a run -/

/-- The text is cut at the number, between what stands before and behind it. -/
def Numeral.IsCut (cs front : List Char) (t : Numeral) (behind : List Char) : Prop :=
  ∃ xs gap ys, (Layout.ofText cs).items = xs ++ (t, gap) :: ys ∧
    front = Layout.text ⟨(Layout.ofText cs).lead, xs⟩ ∧ behind = Layout.text ⟨gap, ys⟩

namespace Numeral.IsCut

variable {cs front behind : List Char} {t : Numeral}

theorem eq_text (h : t.IsCut cs front behind) : cs = front ++ (t.text ++ behind) := by
  obtain ⟨xs, gap, ys, hitems, rfl, rfl⟩ := h
  exact (stands_of_items hitems).1

theorem stands (h : t.IsCut cs front behind) : t.Stands front behind := by
  obtain ⟨xs, gap, ys, hitems, rfl, rfl⟩ := h
  exact (stands_of_items hitems).2

end Numeral.IsCut

/-- A run that no word character touches is the integer digits of a number or its decimals. -/
theorem exists_isCut {cs front run back : List Char} (he : cs = front ++ (run ++ back))
    (hrun : IsFreeRun front run back) : ∃ t f b, Numeral.IsCut cs f t b ∧
      ((f = front ∧ t.whole = run ∧ t.tail ++ b = back) ∨
        ∃ mark, t.tail = mark :: run ∧ f ++ (t.whole ++ [mark]) = front ∧ b = back) := by
  obtain ⟨t, ht, hstart, hstop⟩ := exists_holds hrun
  rw [← he] at ht
  obtain ⟨⟨u, gap⟩, hi, rfl⟩ := List.mem_map.1 ht
  obtain ⟨xs, ys, hitems⟩ := List.append_of_mem hi
  have hcut : u.IsCut cs _ _ := ⟨xs, gap, ys, hitems, rfl, rfl⟩
  refine ⟨u, _, _, hcut, ?_⟩
  have htext := hcut.eq_text
  have hs := hcut.stands
  generalize Layout.text ⟨(Layout.ofText cs).lead, xs⟩ = f at htext hs ⊢
  generalize Layout.text ⟨gap, ys⟩ = b at htext hs ⊢
  rw [hs.start] at hstart hstop
  rw [he] at htext
  obtain ⟨front, rfl⟩ : f <+: front := List.prefix_of_prefix_length_le
    ⟨_, htext.symm⟩ (List.prefix_append _ _) hstart
  rw [List.append_assoc, List.append_cancel_left_eq] at htext
  have hpos := List.length_pos_iff.2 hrun.ne_nil
  simp only [List.length_append] at hstop
  rcases hs.proper.runs hs.digit_behind htext.symm hrun.toIsDigitRun.of_append (by omega) with
    ⟨rfl, rfl, rfl⟩ | ⟨mark, htail, rfl, rfl⟩
  · exact Or.inl ⟨(List.append_nil _).symm, rfl, rfl⟩
  · exact Or.inr ⟨mark, htail, rfl, rfl⟩

end Amount

end PriceSurvey
