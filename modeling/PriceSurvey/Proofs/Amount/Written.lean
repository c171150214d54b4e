import Mathlib.Tactic.MkIffOfInductiveProp
import PriceSurvey.Proofs.Amount.Value
import PriceSurvey.Proofs.Text.Trim

/-!
# Amounts as they are written

An amount is written with its digits together, or with its thousands in groups of three behind
single separators, and with up to four decimals behind a mark. What is written this way is read as
one amount, with the value that its digits have, wherever a break follows it.

Results:
* `cut_written`: the numbers of a written amount are cut off the text in front of a break.
* `isProper_amount`, `value_amount`: they make a proper amount, and its value is what was written.
* `amounts_apart`: written amounts that are kept apart are found as they were written.
* `triple?_three`: three numbers apart from each other are a triple, however they are grouped.
-/
namespace PriceSurvey.Amount

open Text

/-- A character that stands between groups of thousands. -/
def IsSeparator (c : Char) : Prop := c = ' ' ∨ c = '\u00a0' ∨ c = '\''

instance : DecidablePred IsSeparator := fun _ => inferInstanceAs (Decidable (_ ∨ _))

/-- An amount as it is written: the digits in front, groups of three digits behind their separators,
and decimals behind their mark. -/
structure Written where
  head : List Char
  groups : List (Char × List Char)
  decimals : Option (Char × List Char)
  deriving DecidableEq, Repr

namespace Written

/-- The decimal mark and the decimals. -/
def tail (w : Written) : List Char :=
  match w.decimals with
  | none => []
  | some (mark, places) => mark :: places

/-- The text of the amount. -/
def text (w : Written) : List Char :=
  w.head ++ w.groups.flatMap (fun (sep, group) => sep :: group) ++ w.tail

/-- All the digits in order. -/
def digits (w : Written) : List Char := w.head ++ w.groups.flatMap (·.2) ++ w.tail.tail

/-- The number that the digits make, at the scale of the decimals. -/
def value (w : Written) : Decimal := ⟨Integer.ofDigits w.digits, w.tail.tail.length⟩

/-- The digits stand together. -/
def IsPlain (w : Written) : Prop := w.groups = []

instance (w : Written) : Decidable w.IsPlain := inferInstanceAs (Decidable (_ = _))

/-- The amount is written as it should be: in ASCII digits, without a needless zero in front; with
groups, it has at most three digits before them. -/
@[mk_iff]
structure IsLegal (w : Written) : Prop where
  head_ne_nil : w.head ≠ []
  head : ∀ c ∈ w.head, isAsciiDigit c = true
  zero : w.head.head? = some '0' → w.IsPlain ∧ w.head = ['0']
  short : ¬w.IsPlain → w.head.length ≤ 3
  group : ∀ g ∈ w.groups, IsSeparator g.1 ∧ g.2.length = 3 ∧ ∀ c ∈ g.2, isAsciiDigit c = true
  decimals : ∀ d ∈ w.decimals, (d.1 = ',' ∨ d.1 = '.') ∧ 1 ≤ d.2.length ∧ d.2.length ≤ 4 ∧
    ∀ c ∈ d.2, isAsciiDigit c = true

instance (w : Written) : Decidable w.IsLegal := decidable_of_iff' _ (isLegal_iff w)

/-- The white space between two amounts cannot be a thousands separator: it is none, what follows is
no group of three, or what stands before cannot take one more group. -/
def KeepsApart (v : Written) (gap : List Char) (w : Written) : Prop :=
  (gap ≠ [' '] ∧ gap ≠ ['\u00a0']) ∨ w.head.length ≠ 3 ∨ v.decimals ≠ none ∨
    (v.IsPlain ∧ 3 < v.head.length)

instance (v : Written) (gap : List Char) (w : Written) : Decidable (v.KeepsApart gap w) :=
  inferInstanceAs (Decidable (_ ∨ _))

end Written

/-! ## The numbers of a written amount -/

/-- The amount of digits, groups and a decimal tail that are written from `n` on. -/
def ofWritten (tail : List Char) (n : Nat) (head : List Char) : List (Char × List Char) → Amount
  | [] => single ⟨n, head, tail⟩
  | (sep, group) :: rest =>
    let behind := ofWritten tail (n + head.length + 1) group rest
    ⟨⟨n, head, []⟩, ([sep], behind.head) :: behind.groups⟩

/-- The amount that a written one is if it starts behind `n` code points. -/
def Written.amount (w : Written) (n : Nat) : Amount := ofWritten w.tail n w.head w.groups

section

variable (tail : List Char) (n : Nat) (head : List Char) (groups : List (Char × List Char))

theorem head_ofWritten : (ofWritten tail n head groups).head =
    ⟨n, head, if groups = [] then tail else []⟩ := by
  cases groups <;> rfl

theorem text_ofWritten : (ofWritten tail n head groups).text =
    head ++ groups.flatMap (fun (sep, group) => sep :: group) ++ tail := by
  induction groups generalizing n head with
  | nil => simp [ofWritten, single, text, Numeral.text]
  | cons g rest ih =>
    obtain ⟨sep, group⟩ := g
    have hrest := ih (n + head.length + 1) group
    simp only [text] at hrest
    simp only [ofWritten, text, Numeral.text, List.flatMap_cons, List.append_nil] at hrest ⊢
    rw [List.append_assoc [sep], hrest]
    simp

theorem numerals_ofWritten_cons (sep : Char) (group : List Char) :
    (ofWritten tail n head ((sep, group) :: groups)).numerals =
      ⟨n, head, []⟩ :: (ofWritten tail (n + head.length + 1) group groups).numerals := rfl

theorem whole_ofWritten :
    (ofWritten tail n head groups).whole = head ++ groups.flatMap (·.2) := by
  induction groups generalizing n head with
  | nil => simp [ofWritten, whole, single, numerals]
  | cons g rest ih =>
    obtain ⟨sep, group⟩ := g
    have hrest := ih (n + head.length + 1) group
    rw [whole] at hrest ⊢
    rw [numerals_ofWritten_cons, List.flatMap_cons, List.flatMap_cons, hrest]

/-- The decimal tail is that of the last number. -/
theorem numerals_ofWritten_tail : ∃ front last,
    (ofWritten tail n head groups).numerals = front ++ [last] ∧ last.tail = tail ∧
      ∀ t ∈ front, t.tail = [] := by
  induction groups generalizing n head with
  | nil => exact ⟨[], ⟨n, head, tail⟩, rfl, rfl, by simp⟩
  | cons g rest ih =>
    obtain ⟨sep, group⟩ := g
    obtain ⟨front, last, he, hlast, hfront⟩ := ih (n + head.length + 1) group
    refine ⟨⟨n, head, []⟩ :: front, last, ?_, hlast, ?_⟩
    · rw [numerals_ofWritten_cons, he, List.cons_append]
    · intro t ht
      rcases List.mem_cons.1 ht with rfl | ht
      · rfl
      · exact hfront t ht

theorem last_ofWritten : (ofWritten tail n head groups).last.tail = tail := by
  obtain ⟨front, last, he, hlast, -⟩ := numerals_ofWritten_tail tail n head groups
  rw [numerals_eq] at he
  rw [(List.append_inj' he rfl).2 |> List.singleton_inj.1, hlast]

theorem mem_numerals_ofWritten : ∀ t ∈ (ofWritten tail n head groups).numerals,
    (t.whole = head ∨ ∃ g ∈ groups, t.whole = g.2) ∧ (t.tail = [] ∨ t.tail = tail) := by
  induction groups generalizing n head with
  | nil => simp [ofWritten]
  | cons g rest ih =>
    obtain ⟨sep, group⟩ := g
    intro t ht
    rw [numerals_ofWritten_cons] at ht
    rcases List.mem_cons.1 ht with rfl | ht
    · exact ⟨Or.inl rfl, Or.inl rfl⟩
    · obtain ⟨hw, htail⟩ := ih _ _ t ht
      refine ⟨Or.inr ?_, htail⟩
      rcases hw with hw | ⟨g, hg, hw⟩
      · exact ⟨(sep, group), List.mem_cons_self, hw⟩
      · exact ⟨g, List.mem_cons_of_mem _ hg, hw⟩

theorem mem_groups_ofWritten : ∀ g ∈ (ofWritten tail n head groups).groups,
    ∃ sep, (sep, g.2.whole) ∈ groups ∧ g.1 = [sep] := by
  induction groups generalizing n head with
  | nil => simp [ofWritten, single]
  | cons g rest ih =>
    obtain ⟨sep, group⟩ := g
    intro g hg
    rcases List.mem_cons.1 hg with rfl | hg
    · exact ⟨sep, by simp [head_ofWritten], rfl⟩
    · obtain ⟨sep', hmem, he⟩ := ih _ _ g hg
      exact ⟨sep', List.mem_cons_of_mem _ hmem, he⟩

end

/-! ## What is written is one amount -/

theorem IsSeparator.canJoin {sep : Char} (h : IsSeparator sep) :
    (Spacing.ofText [sep]).canJoin = true := by
  rcases h with rfl | rfl | rfl <;> decide

theorem Spacing.eq_separator {gap : List Char} (h : (Spacing.ofText gap).canJoin = true) :
    gap = [gap.headD ' '] ∧ IsSeparator (gap.headD ' ') := by
  rcases eq_of_canJoin h with rfl | rfl | rfl <;> decide

theorem IsSeparator.isBreak {sep : Char} (h : IsSeparator sep) : IsBreak sep := by
  rcases h with rfl | rfl | rfl
  · exact .of_isBlank rfl
  · exact .of_isBlank rfl
  · exact isBreak_apostrophe

namespace Written

variable {w : Written}

theorem tail_of_none (h : w.decimals = none) : w.tail = [] := by rw [tail, h]

theorem tail_ne_nil (h : w.decimals ≠ none) : w.tail ≠ [] := by
  obtain ⟨d, hd⟩ := Option.ne_none_iff_exists'.1 h
  rw [tail, hd]
  exact List.cons_ne_nil _ _

theorem IsLegal.proper (h : w.IsLegal) {t : Numeral}
    (hw : t.whole = w.head ∨ ∃ g ∈ w.groups, t.whole = g.2)
    (ht : t.tail = [] ∨ t.tail = w.tail) : t.IsProper where
  whole_ne_nil := by
    rcases hw with hw | ⟨g, hg, hw⟩
    · rw [hw]; exact h.head_ne_nil
    · have := (h.group g hg).2.1
      intro hn
      rw [← hw, hn] at this
      cases this
  whole := by
    rcases hw with hw | ⟨g, hg, hw⟩
    · rw [hw]; exact fun c hc => isDigit_of_isAsciiDigit (h.head c hc)
    · rw [hw]; exact fun c hc => isDigit_of_isAsciiDigit ((h.group g hg).2.2 c hc)
  tail := by
    rcases ht with ht | ht
    · exact Or.inl ht
    · cases hd : w.decimals with
      | none => exact Or.inl (ht.trans (tail_of_none hd))
      | some d =>
        obtain ⟨mark, places⟩ := d
        obtain ⟨hm, h1, h4, hdigits⟩ := h.decimals _ hd
        refine Or.inr ⟨mark, places, by rw [ht, tail, hd], hm.symm, h1, h4, fun c hc => ?_⟩
        exact isDigit_of_isAsciiDigit (hdigits c hc)

@[simp] theorem start_amount (w : Written) (n : Nat) : (w.amount n).start = n := by
  rw [start, amount, head_ofWritten]

@[simp] theorem text_amount (w : Written) (n : Nat) : (w.amount n).text = w.text :=
  text_ofWritten w.tail n w.head w.groups

theorem whole_head_amount (w : Written) (n : Nat) : (w.amount n).head.whole = w.head := by
  rw [amount, head_ofWritten]

theorem canLead_amount (h : w.IsLegal) (hg : ¬w.IsPlain) (n : Nat) :
    (w.amount n).head.canLead = true := by
  have hhead : (w.amount n).head = ⟨n, w.head, []⟩ := by
    unfold IsPlain at hg
    rw [amount, head_ofWritten, if_neg hg]
  have hzero : w.head.head? ≠ some '0' := fun h0 => hg (h.zero h0).1
  simp [hhead, Numeral.canLead, Numeral.isDecimal, Numeral.isZeroLed, hzero, h.short hg]

theorem isGrouped_amount (h : w.IsLegal) (n : Nat) : (w.amount n).IsGrouped where
  gap := by
    intro g hg
    obtain ⟨sep, hmem, he⟩ := mem_groups_ofWritten _ _ _ _ g hg
    rw [he]
    exact (h.group _ hmem).1.canJoin
  group := by
    intro g hg
    obtain ⟨sep, hmem, -⟩ := mem_groups_ofWritten _ _ _ _ g hg
    simp [Numeral.isThousands, (h.group _ hmem).2.1]
  leads := by
    intro hne
    refine canLead_amount h (fun hplain => hne ?_) n
    rw [amount, hplain]
    rfl
  decimal := by
    obtain ⟨front, last, he, -, hfront⟩ := numerals_ofWritten_tail w.tail n w.head w.groups
    rw [amount, he, List.dropLast_concat]
    exact hfront

theorem isProper_amount (h : w.IsLegal) (n : Nat) : (w.amount n).IsProper where
  grouped := isGrouped_amount h n
  numeral := by
    intro t ht
    obtain ⟨hw, htail⟩ := mem_numerals_ofWritten _ _ _ _ t ht
    exact h.proper hw htail

theorem digits_amount (w : Written) (n : Nat) : (w.amount n).digits = w.digits := by
  rw [Amount.digits, Amount.decimals, amount, whole_ofWritten, last_ofWritten, digits]

theorem isAsciiDigit_of_mem_digits (h : w.IsLegal) : ∀ c ∈ w.digits, isAsciiDigit c = true := by
  intro c hc
  rcases List.mem_append.1 hc with hc | hc
  · rcases List.mem_append.1 hc with hc | hc
    · exact h.head c hc
    · obtain ⟨g, hg, hc⟩ := List.mem_flatMap.1 hc
      exact (h.group g hg).2.2 c hc
  · cases hd : w.decimals with
    | none => rw [tail_of_none hd] at hc; cases hc
    | some d =>
      rw [tail, hd] at hc
      exact (h.decimals d hd).2.2.2 c hc

theorem IsLegal.isTrimmed_text (h : w.IsLegal) : w.text ≠ [] ∧ IsTrimmed w.text := by
  have htrimmed : ∀ cs : List Char, (∀ c ∈ cs, isAsciiDigit c = true) → IsTrimmed cs :=
    fun cs hcs => isTrimmed_of_not_blank fun c hc =>
      isBlank_of_isDigit (isDigit_of_isAsciiDigit (hcs c hc))
  have hhead := htrimmed w.head h.head
  refine ⟨by simp [text, h.head_ne_nil], ?_⟩
  cases hd : w.decimals with
  | some d =>
    obtain ⟨mark, places⟩ := d
    obtain ⟨-, h1, -, hp⟩ := h.decimals _ hd
    have := hhead.append h.head_ne_nil (htrimmed places hp) (List.ne_nil_of_length_pos h1)
      (w.groups.flatMap (fun (sep, group) => sep :: group) ++ [mark])
    simpa [text, tail, hd] using this
  | none =>
    rw [text, tail_of_none hd, List.append_nil]
    rcases List.eq_nil_or_concat w.groups with hg | ⟨front, ⟨sep, group⟩, hg⟩
    · simpa [hg] using hhead
    · obtain ⟨-, hlen, hp⟩ := h.group (sep, group) (by simp [hg])
      have := hhead.append h.head_ne_nil (htrimmed group hp)
        (List.ne_nil_of_length_pos (by simp only at hlen; omega))
        (front.flatMap (fun (sep, group) => sep :: group) ++ [sep])
      simpa [hg] using this

/-- The value of the amount is the number that was written. -/
theorem value_amount (h : w.IsLegal) (n : Nat) : (w.amount n).value = .ok w.value := by
  have hascii : w.digits.all isAsciiDigit = true :=
    List.all_eq_true.2 (isAsciiDigit_of_mem_digits h)
  rw [value_eq (isProper_amount h n), digits_amount, if_pos hascii, Amount.decimals,
    amount, last_ofWritten, value]

end Written

/-! ## What is written is cut off the text -/

theorem cut_ofWritten {tail : List Char} {n : Nat} {head : List Char}
    {groups : List (Char × List Char)}
    (hp : ∀ t ∈ (ofWritten tail n head groups).numerals, t.IsProper)
    (hsep : ∀ g ∈ groups, IsBreak g.1) {cs : List Char} (hb : ∀ b ∈ cs.head?, IsBreak b) :
    Layout.cut n false ((ofWritten tail n head groups).text ++ cs) =
      Layout.pushNumbers (ofWritten tail n head groups).head (ofWritten tail n head groups).groups
        (Layout.cut (n + (ofWritten tail n head groups).text.length) false cs) := by
  induction groups generalizing n head with
  | nil =>
    have ht : (⟨n, head, tail⟩ : Numeral).IsProper := hp _ (by simp [ofWritten])
    have htext : (ofWritten tail n head []).text = (⟨n, head, tail⟩ : Numeral).text := by
      simp [ofWritten, single, text]
    rw [htext]
    exact Layout.cut_number_append ht hb
  | cons g rest ih =>
    obtain ⟨sep, group⟩ := g
    have hbreak : IsBreak sep := hsep (sep, group) List.mem_cons_self
    rw [numerals_ofWritten_cons] at hp
    have ht : (⟨n, head, []⟩ : Numeral).IsProper := hp _ List.mem_cons_self
    have hrest := @ih (n + head.length + 1) group
      (fun t hm => hp t (List.mem_cons_of_mem _ hm)) fun g hg => hsep g (List.mem_cons_of_mem _ hg)
    have htext : (ofWritten tail n head ((sep, group) :: rest)).text =
        (⟨n, head, []⟩ : Numeral).text ++
          sep :: (ofWritten tail (n + head.length + 1) group rest).text := by
      simp [text_ofWritten, Numeral.text]
    have hcut := @Layout.cut_number_append ⟨n, head, []⟩ ht
      (sep :: ((ofWritten tail (n + head.length + 1) group rest).text ++ cs)) (by simpa using hbreak)
    rw [htext, List.append_assoc, List.cons_append, hcut, Layout.cut_cons hbreak.digit, hbreak.word]
    simp only [Numeral.text, List.append_nil, hrest, ofWritten, Layout.pushNumbers,
      List.length_append, List.length_cons, Layout.push, Layout.prepend, List.cons_append,
      List.nil_append]
    rw [show n + (head.length + ((ofWritten tail (n + head.length + 1) group rest).text.length + 1)) =
      n + head.length + 1 + (ofWritten tail (n + head.length + 1) group rest).text.length by omega]

theorem cut_written {w : Written} (h : w.IsLegal) (n : Nat) {cs : List Char}
    (hb : ∀ b ∈ cs.head?, IsBreak b) :
    Layout.cut n false (w.text ++ cs) = Layout.pushNumbers (w.amount n).head (w.amount n).groups
      (Layout.cut (n + w.text.length) false cs) := by
  have hsep : ∀ g ∈ w.groups, IsBreak g.1 := fun g hg => (h.group g hg).1.isBreak
  have hcut := cut_ofWritten (w.isProper_amount h n).numeral hsep hb
  rwa [← Written.amount, Written.text_amount] at hcut

/-! ## White space between amounts -/

/-- White space, and some of it. -/
def IsGap (gap : List Char) : Prop := gap ≠ [] ∧ ∀ c ∈ gap, isBlank c = true

instance (gap : List Char) : Decidable (IsGap gap) := inferInstanceAs (Decidable (_ ∧ _))

namespace IsGap

variable {gap : List Char}

theorem digit_free (h : IsGap gap) : ∀ c ∈ gap, isDigit c = false :=
  fun c hc => isDigit_of_isBlank (h.2 c hc)

theorem goesOn_eq (h : IsGap gap) (inWord : Bool) : goesOn inWord gap = false := by
  have hlast := List.getLast?_eq_some_getLast h.1
  rw [goesOn, hlast]
  exact isWord_of_isBlank (h.2 _ (List.getLast_mem h.1))

/-- No word goes on behind white space. -/
theorem goesOn_append (h : IsGap gap) (cs : List Char) (inWord : Bool) :
    goesOn inWord (cs ++ gap) = false := by
  rw [goesOn, List.getLast?_append_of_ne_nil _ h.1]
  exact h.goesOn_eq inWord

theorem isBreak_head (h : IsGap gap) (cs : List Char) : ∀ b ∈ (gap ++ cs).head?, IsBreak b := by
  obtain ⟨c, rest, rfl⟩ := List.exists_cons_of_ne_nil h.1
  intro b hb
  obtain rfl : c = b := by simpa using hb
  exact .of_isBlank (h.2 c List.mem_cons_self)

theorem ne_apostrophe (h : IsGap gap) : gap ≠ ['\''] := by
  rintro rfl
  have := h.2 '\'' List.mem_cons_self
  revert this
  decide

theorem canPart (h : IsGap gap) : (Spacing.ofText gap).canPart = true := by
  unfold Spacing.ofText
  rw [if_neg h.ne_apostrophe]
  split
  · rfl
  · rw [if_pos ⟨h.1, List.all_eq_true.2 h.2⟩]
    rfl

theorem canJoin_eq_false (h : IsGap gap) (h1 : gap ≠ [' ']) (h2 : gap ≠ ['\u00a0']) :
    (Spacing.ofText gap).canJoin = false := by
  unfold Spacing.ofText
  rw [if_neg h.ne_apostrophe, if_neg (by simp [h1, h2]), if_pos ⟨h.1, List.all_eq_true.2 h.2⟩]
  rfl

end IsGap

theorem Spacing.ne_ending_of_canPart {s : Spacing} (h : s.canPart = true) : s ≠ .ending := by
  rintro rfl; cases h

theorem Spacing.ne_ending_of_canJoin {s : Spacing} (h : s.canJoin = true) : s ≠ .ending := by
  rintro rfl; cases h

theorem takes_eq_false {v w : Written} {gap : List Char} (hgap : IsGap gap)
    (h : v.KeepsApart gap w) (m n : Nat) :
    (v.amount m).takes gap (w.amount n).head = false := by
  have hlast : (v.amount m).last.tail = v.tail := last_ofWritten _ _ _ _
  unfold takes
  rcases h with ⟨h1, h2⟩ | hlen | hdec | ⟨hplain, hlong⟩
  · rw [hgap.canJoin_eq_false h1 h2, Bool.and_false, Bool.false_and]
  · have hgroup : (w.amount n).head.isThousands = false := by
      simp [Numeral.isThousands, Written.whole_head_amount, hlen]
    rw [hgroup, Bool.and_false]
  · have htail : (v.amount m).last.isDecimal = true := by
      simp [Numeral.isDecimal, hlast, Written.tail_ne_nil hdec]
    rw [htail, Bool.not_true, Bool.and_false, Bool.false_and, Bool.false_and]
  · have hlead : (v.amount m).head.canLead = false := by
      simp [Numeral.canLead, Written.whole_head_amount, hlong]
    rw [hlead, Bool.false_and, Bool.false_and, Bool.false_and]

/-! ## Three amounts -/

/-- The series of three amounts, with the text between them. -/
def Series.ofThree (a : Amount) (g : List Char) (b : Amount) (h : List Char) (c : Amount) : Series :=
  ⟨a.head, a.groups ++ (g, b.head) :: (b.groups ++ (h, c.head) :: c.groups)⟩

theorem amounts_apart {a b c : Amount} {g h : List Char} (ha : a.IsGrouped) (hb : b.IsGrouped)
    (hc : c.IsGrouped) (hab : a.takes g b.head = false) (hbc : b.takes h c.head = false) :
    (Series.ofThree a g b h c).amounts = [a, b, c] := by
  have hlast : regroup (single c.head) c.groups = [c] := by
    have := regroup_groups hc []
    rwa [List.append_nil] at this
  rw [Series.ofThree, Series.amounts, regroup_groups ha, regroup, if_neg (by simp [hab]),
    regroup_groups hb, regroup, if_neg (by simp [hbc]), hlast]

/-- Three numbers apart from each other are a triple, however they are grouped. -/
theorem triple?_three {s t u : Numeral} {g h : List Char}
    (hg : (Spacing.ofText g).canPart = true) (hh : (Spacing.ofText h).canPart = true)
    (hs : s.isZeroLed = false) (ht : t.isZeroLed = false) (hu : u.isZeroLed = false) :
    (Series.mk s [(g, t), (h, u)]).triple? = some ⟨single s, single t, single u⟩ := by
  have hthree : (Series.mk s [(g, t), (h, u)]).threeNumbers? =
      some ⟨single s, single t, single u⟩ := by
    simp [Series.threeNumbers?, hg, hh, hs, ht, hu]
  simp only [Series.triple?, Series.amounts, regroup, hthree]
  -- If none is joined to another, the three amounts are the numbers.
  by_cases h1 : (single s).takes g t = true
  · rw [if_pos h1]
    split
    · next he => split at he <;> simp at he
    · rfl
  · rw [if_neg h1]
    by_cases h2 : (single t).takes h u = true
    · rw [if_pos h2]
    · rw [if_neg h2]

theorem Written.isZeroLed_amount {w : Written} (h : w.IsLegal) (n : Nat) :
    (w.amount n).head.isZeroLed = false := by
  rw [Numeral.isZeroLed, whole_head_amount]
  by_cases h0 : w.head.head? = some '0'
  · simp [(h.zero h0).2]
  · simp [h0]

theorem Written.amount_of_isPlain {w : Written} (h : w.IsPlain) (n : Nat) :
    w.amount n = single (w.amount n).head := by
  rw [amount, h]; rfl

/-- Three written amounts behind a text, with white space between them. -/
def threeText (lead : List Char) (u : Written) (g : List Char) (v : Written) (h : List Char)
    (w : Written) : List Char :=
  lead ++ (u.text ++ (g ++ (v.text ++ (h ++ w.text))))

section

variable {lead g h : List Char} {u v w : Written}

/-- Where the second and the third amount start. -/
def secondStart (lead : List Char) (u : Written) (g : List Char) : Nat :=
  lead.length + u.text.length + g.length

def thirdStart (lead : List Char) (u : Written) (g : List Char) (v : Written) (h : List Char) : Nat :=
  secondStart lead u g + v.text.length + h.length

theorem seriesIn_threeText (hlead : ∀ c ∈ lead, isDigit c = false)
    (hword : goesOn false lead = false) (hu : u.IsLegal) (hv : v.IsLegal) (hw : w.IsLegal)
    (hg : IsGap g) (hh : IsGap h) :
    seriesIn (threeText lead u g v h w) = [Series.ofThree (u.amount lead.length) g
      (v.amount (secondStart lead u g)) h (w.amount (thirdStart lead u g v h))] := by
  have hthird : ∀ n, Layout.cut n false w.text =
      Layout.pushNumbers (w.amount n).head (w.amount n).groups ⟨[], []⟩ := by
    intro n
    have hcut := @cut_written w hw n [] (by simp)
    rwa [List.append_nil, Layout.cut] at hcut
  rw [seriesIn, Layout.ofText, threeText, Layout.cut_digit_free hlead, hword,
    cut_written hu _ (hg.isBreak_head _), Layout.cut_digit_free hg.digit_free, hg.goesOn_eq,
    cut_written hv _ (hh.isBreak_head _), Layout.cut_digit_free hh.digit_free, hh.goesOn_eq, hthird]
  have hjoin : ∀ (x : Written), x.IsLegal → ∀ n, ∀ gap ∈ (x.amount n).groups,
      Spacing.ofText gap.1 ≠ .ending := fun x hx n gap hgap =>
    Spacing.ne_ending_of_canJoin ((x.isGrouped_amount hx n).gap gap hgap)
  have hpart : ∀ {gap}, IsGap gap → Spacing.ofText gap ≠ .ending := fun hgap =>
    Spacing.ne_ending_of_canPart hgap.canPart
  have hgaps : ∀ gap ∈ (Series.ofThree (u.amount lead.length) g (v.amount (secondStart lead u g)) h
      (w.amount (thirdStart lead u g v h))).rest, Spacing.ofText gap.1 ≠ .ending := by
    intro gap hgap
    simp only [Series.ofThree, List.mem_append, List.mem_cons] at hgap
    rcases hgap with hgap | rfl | hgap | rfl | hgap
    · exact hjoin u hu _ gap hgap
    · exact hpart hg
    · exact hjoin v hv _ gap hgap
    · exact hpart hh
    · exact hjoin w hw _ gap hgap
  rw [← Layout.pushNumbers_append, ← Layout.pushNumbers_append, Nat.zero_add, List.append_assoc,
    List.cons_append]
  exact Series.ofItems_pushNumbers hgaps

/-- The triple of three written amounts is made of them, if they are kept apart or all plain. -/
theorem triple_threeText (hlead : ∀ c ∈ lead, isDigit c = false)
    (hword : goesOn false lead = false) (hu : u.IsLegal) (hv : v.IsLegal) (hw : w.IsLegal)
    (hg : IsGap g) (hh : IsGap h)
    (hapart : (u.IsPlain ∧ v.IsPlain ∧ w.IsPlain) ∨ (u.KeepsApart g v ∧ v.KeepsApart h w)) :
    (find (threeText lead u g v h w)).triple = some ⟨u.amount lead.length,
      v.amount (secondStart lead u g), w.amount (thirdStart lead u g v h)⟩ := by
  have hseries := seriesIn_threeText hlead hword hu hv hw hg hh
  rw [find, hseries, List.findSome?_cons, List.findSome?_nil]
  rcases hapart with ⟨pu, pv, pw⟩ | ⟨huv, hvw⟩
  · rw [Written.amount_of_isPlain pu, Written.amount_of_isPlain pv, Written.amount_of_isPlain pw]
    have hthree := triple?_three hg.canPart hh.canPart (u.isZeroLed_amount hu lead.length)
      (v.isZeroLed_amount hv (secondStart lead u g))
      (w.isZeroLed_amount hw (thirdStart lead u g v h))
    simp only [Series.ofThree, single, List.nil_append] at hthree ⊢
    rw [hthree]
  · have hamounts := amounts_apart (u.isGrouped_amount hu lead.length)
      (v.isGrouped_amount hv (secondStart lead u g))
      (w.isGrouped_amount hw (thirdStart lead u g v h))
      (takes_eq_false hg huv _ _) (takes_eq_false hh hvw _ _)
    simp only [Series.triple?, hamounts]

end

end PriceSurvey.Amount
