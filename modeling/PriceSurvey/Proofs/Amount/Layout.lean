import Mathlib.Data.List.TakeWhile
import PriceSurvey.Amount.Spacing
import PriceSurvey.Proofs.Text.Class

/-!
# How a text is cut at its numbers

Where a text is cut depends on the characters next to the cut alone. A *break*, such as a blank or
an apostrophe, belongs to no number and to no word, so the text behind it is cut as if it stood
alone.

Results:
* `cut_proper`: every number is one or more digits, with a mark and one to four digits at most.
* `cut_placed`: the numbers stand where they say.
* `cut_move`: a text is cut alike wherever it starts.
* `cut_append`: a text with a break in it is cut as its two parts are.
* `cut_digit_free`, `cut_number_append`: what is cut off a text with no digit, or a number, in
  front.
-/
namespace PriceSurvey.Amount

open Text

/-! ## Numbers as they are cut -/

/-- One or more digits, and a decimal tail that is empty or a mark with one to four digits. -/
structure Numeral.IsProper (t : Numeral) : Prop where
  whole_ne_nil : t.whole ≠ []
  whole : ∀ c ∈ t.whole, isDigit c = true
  tail : t.tail = [] ∨ ∃ mark digits, t.tail = mark :: digits ∧ (mark = '.' ∨ mark = ',') ∧
    1 ≤ digits.length ∧ digits.length ≤ 4 ∧ ∀ c ∈ digits, isDigit c = true

theorem Numeral.IsProper.text_ne_nil {t : Numeral} (h : t.IsProper) : t.text ≠ [] := by
  simp [Numeral.text, h.whole_ne_nil]

theorem splitNumber?_proper {cs whole tail rest : List Char} (start : Nat)
    (h : splitNumber? cs = some (whole, tail, rest)) : Numeral.IsProper ⟨start, whole, tail⟩ := by
  have hne := splitNumber?_whole_ne_nil h
  simp only [splitNumber?] at h
  split at h
  · cases h
  · split at h
    · cases h
    · simp only [Option.some.injEq, Prod.mk.injEq] at h
      obtain ⟨rfl, rfl, rfl⟩ := h
      refine ⟨hne, fun _ => List.mem_takeWhile_imp, ?_⟩
      cases hd : cs.dropWhile isDigit with
      | nil => exact Or.inl rfl
      | cons mark after =>
        simp only [splitTail]
        split
        · next hm =>
          exact Or.inr ⟨mark, _, rfl, hm.1, hm.2.1, hm.2.2.1, fun _ => List.mem_takeWhile_imp⟩
        · exact Or.inl rfl

theorem Layout.cut_proper (start : Nat) (inWord : Bool) (cs : List Char) :
    ∀ item ∈ (cut start inWord cs).items, item.1.IsProper := by
  fun_induction cut start inWord cs with
  | case1 => simp
  | case2 _ c after ih => exact ih
  | case3 _ _ c after _ _ ih => exact ih
  | case4 start _ c after _ whole tail rest h ih =>
    intro item hi
    rcases List.mem_cons.1 hi with rfl | hi
    · exact splitNumber?_proper start h
    · exact ih item hi

/-! ## Where the numbers stand -/

/-- The numbers behind `n` code points and the text `lead` say where they stand. -/
def Layout.Placed (n : Nat) : List Char → List (Numeral × List Char) → Prop
  | _, [] => True
  | lead, (t, gap) :: rest =>
    t.start = n + lead.length ∧ Placed (n + lead.length + t.text.length) gap rest

theorem Layout.placed_cons {n : Nat} {c : Char} {lead : List Char}
    {items : List (Numeral × List Char)} (h : Placed (n + 1) lead items) :
    Placed n (c :: lead) items := by
  cases items with
  | nil => trivial
  | cons item rest =>
    obtain ⟨h1, h2⟩ := h
    refine ⟨by simp only [List.length_cons]; omega, ?_⟩
    rwa [List.length_cons, show n + (lead.length + 1) = n + 1 + lead.length by omega]

theorem Layout.cut_placed (start : Nat) (inWord : Bool) (cs : List Char) :
    Placed start (cut start inWord cs).lead (cut start inWord cs).items := by
  fun_induction cut start inWord cs with
  | case1 => trivial
  | case2 _ c after ih => exact placed_cons ih
  | case3 _ _ c after _ _ ih => exact placed_cons ih
  | case4 start _ c after _ whole tail rest h ih =>
    refine ⟨rfl, ?_⟩
    simpa [pushNumeral, Numeral.text, Nat.add_assoc] using ih

/-- Numbers stand behind what is in front of them. -/
theorem Layout.Placed.le_start {n : Nat} {lead : List Char} {items : List (Numeral × List Char)}
    (h : Placed n lead items) : ∀ item ∈ items, n + lead.length ≤ item.1.start := by
  induction items generalizing n lead with
  | nil => simp
  | cons item rest ih =>
    obtain ⟨h1, h2⟩ := h
    intro item' hi
    rcases List.mem_cons.1 hi with rfl | hi
    · omega
    · have := ih h2 item' hi
      omega

/-- Each number stands before those that follow it. -/
theorem Layout.Placed.pairwise {n : Nat} {lead : List Char} {items : List (Numeral × List Char)}
    (h : Placed n lead items) (hp : ∀ item ∈ items, item.1.IsProper) :
    items.Pairwise fun a b => a.1.start < b.1.start := by
  induction items generalizing n lead with
  | nil => exact List.Pairwise.nil
  | cons item rest ih =>
    obtain ⟨h1, h2⟩ := h
    refine List.Pairwise.cons (fun b hb => ?_) (ih h2 fun i hi => hp i (List.mem_cons_of_mem _ hi))
    have hpos := List.length_pos_iff.2 (hp item List.mem_cons_self).text_ne_nil
    have := h2.le_start b hb
    omega

/-- A number ends within the text that was cut. -/
theorem Layout.Placed.start_lt {n : Nat} {lead : List Char} {items : List (Numeral × List Char)}
    (h : Placed n lead items) (hp : ∀ item ∈ items, item.1.IsProper) :
    ∀ item ∈ items, item.1.start < n + (Layout.text ⟨lead, items⟩).length := by
  induction items generalizing n lead with
  | nil => simp
  | cons item rest ih =>
    obtain ⟨h1, h2⟩ := h
    have hpos := List.length_pos_iff.2 (hp item List.mem_cons_self).text_ne_nil
    intro item' hi
    rcases List.mem_cons.1 hi with rfl | hi
    · simp only [Layout.text, List.flatMap_cons, List.length_append]
      omega
    · have := ih h2 (fun i hi => hp i (List.mem_cons_of_mem _ hi)) item' hi
      simp only [Layout.text, List.flatMap_cons, List.length_append] at this ⊢
      omega

/-! ## The same text elsewhere -/

/-- The number, `n` code points further on. -/
def Numeral.move (n : Nat) (t : Numeral) : Numeral := { t with start := t.start + n }

/-- The layout of a text that stands `n` code points further on. -/
def Layout.move (n : Nat) (l : Layout) : Layout :=
  ⟨l.lead, l.items.map fun (t, gap) => (t.move n, gap)⟩

theorem Layout.cut_move (n start : Nat) (inWord : Bool) (cs : List Char) :
    cut (start + n) inWord cs = (cut start inWord cs).move n := by
  fun_induction cut start inWord cs with
  | case1 => simp [cut, move]
  | case2 start c after ih =>
    rw [cut, if_pos rfl, Nat.add_right_comm, ih]; rfl
  | case3 start inWord c after hw h ih =>
    rw [cut, if_neg hw, Nat.add_right_comm, ih]
    split
    · rfl
    · next h' => rw [h] at h'; cases h'
  | case4 start inWord c after hw whole tail rest h ih =>
    rw [cut, if_neg hw]
    split
    · next h' => rw [h] at h'; cases h'
    · next h' =>
      rw [h] at h'
      obtain ⟨rfl, rfl, rfl⟩ : _ = _ ∧ _ = _ ∧ _ = _ := by simpa using h'
      rw [show start + n + whole.length + tail.length = start + whole.length + tail.length + n by
        omega, ih]
      rfl

/-! ## Breaks -/

/-- A character that stands neither in a number nor in a word. -/
structure IsBreak (c : Char) : Prop where
  digit : isDigit c = false
  word : isWord c = false
  point : c ≠ '.'
  comma : c ≠ ','

theorem IsBreak.of_isBlank {c : Char} (h : isBlank c = true) : IsBreak c where
  digit := isDigit_of_isBlank h
  word := isWord_of_isBlank h
  point := by rintro rfl; revert h; decide
  comma := by rintro rfl; revert h; decide

theorem isBreak_apostrophe : IsBreak '\'' := ⟨by decide, by decide +kernel, by decide, by decide⟩

variable {b : Char}

theorem takeWhile_append_cons {p : Char → Bool} (hb : p b = false) (s t : List Char) :
    (s ++ b :: t).takeWhile p = s.takeWhile p := by
  induction s with
  | nil => simp [hb]
  | cons c s ih => by_cases hc : p c <;> simp [hc, ih]

theorem dropWhile_append_cons {p : Char → Bool} (hb : p b = false) (s t : List Char) :
    (s ++ b :: t).dropWhile p = s.dropWhile p ++ b :: t := by
  induction s with
  | nil => simp [hb]
  | cons c s ih => by_cases hc : p c <;> simp [hc, ih]

theorem atWordEnd_append (hb : IsBreak b) (s t : List Char) :
    atWordEnd (s ++ b :: t) = atWordEnd s := by
  cases s with
  | nil => simp [atWordEnd, hb.word]
  | cons c s => rfl

theorem splitTail_append_break (hb : IsBreak b) (s t : List Char) :
    splitTail (s ++ b :: t) = ((splitTail s).1, (splitTail s).2 ++ b :: t) := by
  cases s with
  | nil => simp [splitTail, hb.point, hb.comma]
  | cons mark after =>
    simp only [List.cons_append, splitTail, takeWhile_append_cons hb.digit,
      dropWhile_append_cons hb.digit, atWordEnd_append hb]
    split <;> rfl

theorem splitNumber?_append_break (hb : IsBreak b) (s t : List Char) :
    splitNumber? (s ++ b :: t) =
      (splitNumber? s).map fun (whole, tail, rest) => (whole, tail, rest ++ b :: t) := by
  simp only [splitNumber?, takeWhile_append_cons hb.digit, dropWhile_append_cons hb.digit,
    splitTail_append_break hb, atWordEnd_append hb]
  split
  · rfl
  · split <;> rfl

/-- No number starts with a character that is no digit. -/
theorem splitNumber?_cons {c : Char} (h : isDigit c = false) (cs : List Char) :
    splitNumber? (c :: cs) = none := by
  simp [splitNumber?, h]

theorem Layout.cut_cons {c : Char} (h : isDigit c = false) (start : Nat) (inWord : Bool)
    (cs : List Char) :
    cut start inWord (c :: cs) = (cut (start + 1) (isWord c) cs).push c := by
  rw [cut]
  split
  · rfl
  · split
    · rfl
    · next h' => rw [splitNumber?_cons h] at h'; cases h'

/-! ## Texts put together at a break -/

/-- The layout of a text behind the layout `l`: what stands before its first number goes to the last
gap of `l`. -/
def Layout.appendTo (m : Layout) : List Char → List (Numeral × List Char) → Layout
  | lead, [] => { m with lead := lead ++ m.lead }
  | lead, (t, gap) :: rest =>
    let behind := m.appendTo gap rest
    ⟨lead, (t, behind.lead) :: behind.items⟩

/-- The layout of two texts, one behind the other. -/
def Layout.append (l m : Layout) : Layout := m.appendTo l.lead l.items

theorem Layout.push_append (c : Char) (l m : Layout) :
    (l.push c).append m = (l.append m).push c := by
  obtain ⟨lead, items⟩ := l
  cases items <;> rfl

theorem Layout.pushNumeral_append (t : Numeral) (l m : Layout) :
    (l.pushNumeral t).append m = (l.append m).pushNumeral t := rfl

theorem Layout.nil_append (m : Layout) : (⟨[], []⟩ : Layout).append m = m := rfl

/-- A text with a break in it is cut as its two parts are. -/
theorem Layout.cut_append (hb : IsBreak b) (start : Nat) (inWord : Bool) (s t : List Char) :
    cut start inWord (s ++ b :: t) =
      (cut start inWord s).append (cut (start + s.length) false (b :: t)) := by
  fun_induction cut start inWord s with
  | case1 start inWord =>
    rw [List.nil_append, cut_cons hb.digit, nil_append, cut_cons hb.digit]; rfl
  | case2 start c after ih =>
    rw [List.cons_append, cut, if_pos rfl, ih, push_append, List.length_cons,
      show start + (after.length + 1) = start + 1 + after.length by omega]
  | case3 start inWord c after hw h ih =>
    have h' := splitNumber?_append_break hb (c :: after) t
    rw [h] at h'
    rw [List.cons_append, cut, if_neg hw, push_append, List.length_cons,
      show start + (after.length + 1) = start + 1 + after.length by omega, ← ih]
    split
    · rfl
    · next h'' => rw [← List.cons_append, h'] at h''; cases h''
  | case4 start inWord c after hw whole tail rest h ih =>
    have h' := splitNumber?_append_break hb (c :: after) t
    have hlen := congrArg List.length (splitNumber?_append h)
    simp only [List.length_append, List.length_cons] at hlen
    rw [h] at h'
    rw [List.cons_append, cut, if_neg hw, pushNumeral_append, List.length_cons]
    split
    · next h'' => rw [← List.cons_append, h'] at h''; cases h''
    · next h'' =>
      rw [← List.cons_append, h'] at h''
      obtain ⟨rfl, rfl, rfl⟩ : _ = _ ∧ _ = _ ∧ _ = _ := by simpa using h''
      rw [ih, show start + whole.length + tail.length + rest.length =
        start + (after.length + 1) by omega]

/-! ## What is cut off in front -/

/-- Text in front. -/
def Layout.prepend (lead : List Char) (l : Layout) : Layout := { l with lead := lead ++ l.lead }

/-- Whether a word goes on behind a text, given whether one goes on before it. -/
def goesOn (inWord : Bool) (cs : List Char) : Bool := (cs.getLast?.map isWord).getD inWord

theorem goesOn_cons (inWord : Bool) (c : Char) (cs : List Char) :
    goesOn inWord (c :: cs) = goesOn (isWord c) cs := by
  rw [goesOn, goesOn, List.getLast?_cons]
  cases cs.getLast? <;> rfl

/-- A text without digits holds no number. -/
theorem Layout.cut_digit_free {lead : List Char} (h : ∀ c ∈ lead, isDigit c = false) (start : Nat)
    (inWord : Bool) (cs : List Char) :
    cut start inWord (lead ++ cs) =
      (cut (start + lead.length) (goesOn inWord lead) cs).prepend lead := by
  induction lead generalizing start inWord with
  | nil => rfl
  | cons c lead ih =>
    rw [List.cons_append, cut_cons (h c List.mem_cons_self),
      ih fun d hd => h d (List.mem_cons_of_mem _ hd), goesOn_cons, List.length_cons,
      show start + (lead.length + 1) = start + 1 + lead.length by omega]
    rfl

theorem Layout.cut_lead {lead : List Char} (h : ∀ c ∈ lead, isDigit c = false) (start : Nat)
    (inWord : Bool) : cut start inWord lead = ⟨lead, []⟩ := by
  have := cut_digit_free h start inWord []
  simpa [cut, prepend] using this

/-- A number that stands alone is cut as it is. -/
theorem Layout.cut_number {t : Numeral} (h : t.IsProper) :
    cut t.start false t.text = ⟨[], [(t, [])]⟩ := by
  obtain ⟨start, whole, tail⟩ := t
  obtain ⟨hne, hwhole, htail⟩ := h
  have hsplit : splitNumber? (whole ++ tail) = some (whole, tail, []) := by
    have hstop : tail.takeWhile isDigit = [] ∧ tail.dropWhile isDigit = tail := by
      rcases htail with rfl | ⟨mark, digits, rfl, rfl | rfl, -⟩
      · exact ⟨rfl, rfl⟩
      · exact ⟨rfl, rfl⟩
      · exact ⟨rfl, rfl⟩
    have hend : splitTail tail = (tail, []) := by
      rcases htail with rfl | ⟨mark, digits, rfl, hm, h1, h4, hd⟩
      · rfl
      · have htake : digits.takeWhile isDigit = digits := List.takeWhile_eq_self_iff.2 hd
        have hdrop : digits.dropWhile isDigit = [] := List.dropWhile_eq_nil_iff.2 hd
        simp only [splitTail, htake, hdrop]
        rw [if_pos ⟨hm, h1, h4, rfl⟩]
    rw [splitNumber?, List.takeWhile_append_of_pos hwhole, List.dropWhile_append_of_pos hwhole,
      hstop.1, hstop.2, List.append_nil, hend]
    cases tail with
    | nil => simp [hne, atWordEnd]
    | cons c cs => simp [hne]
  obtain ⟨d, ds, hds⟩ := List.exists_cons_of_ne_nil hne
  simp only [Numeral.text] at hsplit ⊢
  subst hds
  rw [List.cons_append, cut, if_neg Bool.false_ne_true]
  split
  · next h' => rw [← List.cons_append, hsplit] at h'; cases h'
  · next h' =>
    rw [← List.cons_append, hsplit] at h'
    obtain ⟨rfl, rfl, rfl⟩ : _ = _ ∧ _ = _ ∧ _ = _ := by simpa using h'
    rw [cut]; rfl

/-- A number behind which a break or nothing comes is cut off the text. -/
theorem Layout.cut_number_append {t : Numeral} (h : t.IsProper) {cs : List Char}
    (hb : ∀ b ∈ cs.head?, IsBreak b) :
    cut t.start false (t.text ++ cs) =
      (cut (t.start + t.text.length) false cs).pushNumeral t := by
  cases cs with
  | nil => rw [List.append_nil, cut_number h, cut]; rfl
  | cons b rest => rw [cut_append (hb b rfl), cut_number h]; rfl

/-! ## Numbers in front -/

/-- A number in front, and more behind it, each with the text between. -/
def Layout.pushNumbers (t : Numeral) : List (List Char × Numeral) → Layout → Layout
  | [], l => l.pushNumeral t
  | (gap, u) :: rest, l => ((pushNumbers u rest l).prepend gap).pushNumeral t

theorem Layout.pushNumbers_append (t u : Numeral) (gap : List Char)
    (xs ys : List (List Char × Numeral)) (l : Layout) :
    pushNumbers t (xs ++ (gap, u) :: ys) l =
      pushNumbers t xs ((pushNumbers u ys l).prepend gap) := by
  induction xs generalizing t with
  | nil => rfl
  | cons x xs ih =>
    obtain ⟨gap', v⟩ := x
    simp only [List.cons_append, pushNumbers, ih]

end PriceSurvey.Amount
