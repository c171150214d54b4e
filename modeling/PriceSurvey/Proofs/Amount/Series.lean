import PriceSurvey.Amount.Finding
import PriceSurvey.Proofs.Amount.Layout

/-!
# Series of numbers in texts put together

A text that a blank puts behind another keeps its series of numbers, except that its first series
may go on the last one before it: this is so if only white space stands between the two (`RunsOn`).

Results:
* `seriesIn_append`: texts that do not run on have the series of the one and then of the other.
* `seriesIn_append_of_runsOn`: texts that run on have one series less, as the two that meet are one.
* `triple?_start`: the triple of a series starts where the series does.
* `seriesIn_pairwise`: the series of a text stand one behind the other.
-/
namespace PriceSurvey.Amount

open Text

/-! ## Elsewhere in a text -/

/-- The series, `n` code points further on. -/
def Series.move (n : Nat) (r : Series) : Series :=
  ⟨r.first.move n, r.rest.map fun (gap, t) => (gap, t.move n)⟩

/-- The amount, `n` code points further on. -/
def move (n : Nat) (a : Amount) : Amount :=
  ⟨a.head.move n, a.groups.map fun (gap, t) => (gap, t.move n)⟩

/-- The triple, `n` code points further on. -/
def Triple.move (n : Nat) (t : Triple) : Triple := ⟨t.low.move n, t.mean.move n, t.high.move n⟩

@[simp] theorem isZeroLed_move (n : Nat) (t : Numeral) : (t.move n).isZeroLed = t.isZeroLed := rfl

@[simp] theorem single_move (n : Nat) (t : Numeral) : single (t.move n) = (single t).move n := rfl

@[simp] theorem start_move (n : Nat) (a : Amount) : (a.move n).start = a.start + n := rfl

@[simp] theorem text_move (n : Nat) (a : Amount) : (a.move n).text = a.text := by
  simp [text, move, Numeral.text, Numeral.move, List.flatMap_map]

theorem last_move (n : Nat) (a : Amount) : (a.move n).last = a.last.move n := by
  simp only [last, move, List.getLast?_map, Option.map_map]
  cases a.groups.getLast? <;> rfl

theorem takes_move (n : Nat) (a : Amount) (gap : List Char) (t : Numeral) :
    (a.move n).takes gap (t.move n) = a.takes gap t := by
  rw [takes, last_move]; rfl

theorem join_move (n : Nat) (a : Amount) (gap : List Char) (t : Numeral) :
    (a.move n).join gap (t.move n) = (a.join gap t).move n := by simp [join, move]

theorem regroup_move (n : Nat) (a : Amount) (rest : List (List Char × Numeral)) :
    regroup (a.move n) (rest.map fun (gap, t) => (gap, t.move n)) =
      (regroup a rest).map (move n) := by
  induction rest generalizing a with
  | nil => rfl
  | cons p rest ih =>
    obtain ⟨gap, t⟩ := p
    simp only [List.map_cons, regroup, takes_move, join_move, single_move]
    split
    · exact ih _
    · rw [ih, List.map_cons]

theorem Series.amounts_move (n : Nat) (r : Series) :
    (r.move n).amounts = r.amounts.map (Amount.move n) := regroup_move n (single r.first) r.rest

theorem Series.threeNumbers?_move (n : Nat) (r : Series) :
    (r.move n).threeNumbers? = r.threeNumbers?.map (Triple.move n) := by
  obtain ⟨first, rest⟩ := r
  match rest with
  | [] => rfl
  | [_] => rfl
  | [(g, b), (h, c)] =>
    simp only [threeNumbers?, Series.move, List.map_cons, List.map_nil, isZeroLed_move]
    split <;> rfl
  | _ :: _ :: _ :: _ => rfl

theorem Series.triple?_move (n : Nat) (r : Series) :
    (r.move n).triple? = r.triple?.map (Triple.move n) := by
  simp only [triple?, amounts_move, threeNumbers?_move]
  match r.amounts with
  | [] => rfl
  | [_] => rfl
  | [_, _] => rfl
  | _ :: _ :: _ :: _ => rfl

theorem findSome?_move (n : Nat) (rs : List Series) :
    (rs.map (Series.move n)).findSome? Series.triple? =
      (rs.findSome? Series.triple?).map (Triple.move n) := by
  induction rs with
  | nil => rfl
  | cons r rs ih =>
    rw [List.map_cons, List.findSome?_cons, List.findSome?_cons, Series.triple?_move, ih]
    cases r.triple? <;> rfl

/-! ## Numbers in front of a list of series -/

/-- The series with one more number in front of them. -/
def Series.extend (t : Numeral) (gap : List Char) : List Series → List Series
  | [] => [⟨t, []⟩]
  | r :: others =>
    if Spacing.ofText gap = .ending then ⟨t, []⟩ :: r :: others
    else ⟨t, (gap, r.first) :: r.rest⟩ :: others

theorem Series.ofItems_cons (t : Numeral) (gap : List Char) (rest : List (Numeral × List Char)) :
    ofItems ((t, gap) :: rest) = extend t gap (ofItems rest) := by
  rw [ofItems]
  cases ofItems rest <;> rfl

theorem Series.extend_append {rs : List Series} (h : rs ≠ []) (t : Numeral) (gap : List Char)
    (ss : List Series) : extend t gap (rs ++ ss) = extend t gap rs ++ ss := by
  obtain ⟨r, rs, rfl⟩ := List.exists_cons_of_ne_nil h
  simp only [List.cons_append, extend]
  split <;> rfl

theorem Series.extend_ne_nil (t : Numeral) (gap : List Char) (rs : List Series) :
    extend t gap rs ≠ [] := by
  cases rs with
  | nil => simp [extend]
  | cons r rs => simp only [extend]; split <;> simp

theorem Series.ofItems_eq_nil {items : List (Numeral × List Char)} :
    ofItems items = [] ↔ items = [] := by
  cases items with
  | nil => simp [ofItems]
  | cons item rest =>
    obtain ⟨t, gap⟩ := item
    simp [ofItems_cons, extend_ne_nil]

theorem Series.ofItems_move (n : Nat) (items : List (Numeral × List Char)) :
    ofItems (items.map fun (t, gap) => (t.move n, gap)) = (ofItems items).map (Series.move n) := by
  induction items with
  | nil => rfl
  | cons item rest ih =>
    obtain ⟨t, gap⟩ := item
    rw [List.map_cons, ofItems_cons, ofItems_cons, ih]
    cases ofItems rest with
    | nil => rfl
    | cons r others => simp only [List.map_cons, extend]; split <;> rfl

/-- The first numbers of the series are some of the numbers, in their order. -/
theorem Series.first_sublist (items : List (Numeral × List Char)) :
    ((ofItems items).map Series.first).Sublist (items.map Prod.fst) := by
  induction items with
  | nil => exact List.Sublist.refl _
  | cons item rest ih =>
    obtain ⟨t, gap⟩ := item
    rw [ofItems_cons]
    cases hr : ofItems rest with
    | nil =>
      simp only [extend, List.map_cons, List.map_nil, List.cons_sublist_cons]
      exact List.nil_sublist _
    | cons r others =>
      rw [hr, List.map_cons] at ih
      simp only [extend]
      split
      · simpa using ih
      · simpa using List.Sublist.trans (List.sublist_cons_self _ _) ih

/-! ## Layouts put together -/

/-- The series that goes on, behind the gap, with the numbers of another one. -/
def Series.link (r : Series) (gap : List Char) (s : Series) : Series :=
  ⟨r.first, r.rest ++ (gap, s.first) :: s.rest⟩

/-- Numbers that the gap between keeps apart have the series of the one and then of the other. -/
theorem Series.ofItems_appendTo {m : Layout} {items : List (Numeral × List Char)}
    (h : ∀ item ∈ items.getLast?, m.items = [] ∨ Spacing.ofText (item.2 ++ m.lead) = .ending)
    (lead : List Char) :
    ofItems (m.appendTo lead items).items = ofItems items ++ ofItems m.items := by
  induction items generalizing lead with
  | nil => rfl
  | cons item rest ih =>
    obtain ⟨t, gap⟩ := item
    simp only [Layout.appendTo, ofItems_cons]
    cases rest with
    | nil =>
      rcases h (t, gap) rfl with hm | hm
      · simp [Layout.appendTo, hm, ofItems, extend]
      · cases hs : ofItems m.items with
        | nil => simp [Layout.appendTo, hs, ofItems, extend]
        | cons s others => simp [Layout.appendTo, hs, ofItems, extend, hm]
    | cons item' rest' =>
      have hgap : (m.appendTo gap (item' :: rest')).lead = gap := rfl
      rw [ih (by simpa using h) gap, hgap, extend_append (by simp [ofItems_eq_nil])]

/-- Numbers that the gap between does not keep apart share the series that meet there. -/
theorem Series.ofItems_appendTo_link {m : Layout} {items : List (Numeral × List Char)}
    {t₀ : Numeral} {gap₀ : List Char} (hlast : items.getLast? = some (t₀, gap₀))
    (hspace : Spacing.ofText (gap₀ ++ m.lead) ≠ .ending) {s : Series} {others : List Series}
    (hm : ofItems m.items = s :: others) (lead : List Char) :
    ∃ front last, ofItems items = front ++ [last] ∧
      ofItems (m.appendTo lead items).items =
        front ++ last.link (gap₀ ++ m.lead) s :: others := by
  induction items generalizing lead with
  | nil => cases hlast
  | cons item rest ih =>
    obtain ⟨t, gap⟩ := item
    simp only [Layout.appendTo, ofItems_cons]
    cases rest with
    | nil =>
      obtain ⟨rfl, rfl⟩ : t = t₀ ∧ gap = gap₀ := by simpa using hlast
      exact ⟨[], ⟨t, []⟩, rfl, by simp [Layout.appendTo, hm, extend, hspace, link]⟩
    | cons item' rest' =>
      have hgap : (m.appendTo gap (item' :: rest')).lead = gap := rfl
      obtain ⟨front, last, h1, h2⟩ := ih (by simpa using hlast) gap
      rw [h1, h2, hgap]
      -- The number in front joins the first series, which may be the one that is linked.
      cases front with
      | nil =>
        by_cases hg : Spacing.ofText gap = .ending
        · exact ⟨[⟨t, []⟩], last, by simp [extend, hg], by simp [extend, hg]⟩
        · exact ⟨[], ⟨t, (gap, last.first) :: last.rest⟩, by simp [extend, hg],
            by simp [extend, hg, link]⟩
      | cons r front =>
        refine ⟨extend t gap (r :: front), last, ?_, ?_⟩
        · exact extend_append (List.cons_ne_nil _ _) t gap [last]
        · exact extend_append (List.cons_ne_nil _ _) t gap _

/-- Numbers with nothing but white space and separators between them are one series. -/
theorem Series.ofItems_pushNumbers {t : Numeral} {rest : List (List Char × Numeral)}
    (h : ∀ g ∈ rest, Spacing.ofText g.1 ≠ .ending) :
    ofItems (Layout.pushNumbers t rest ⟨[], []⟩).items = [⟨t, rest⟩] := by
  induction rest generalizing t with
  | nil => rfl
  | cons g rest ih =>
    obtain ⟨gap, u⟩ := g
    have hrest := ih (t := u) fun g hg => h g (List.mem_cons_of_mem _ hg)
    have hlead : (Layout.pushNumbers u rest ⟨[], []⟩).lead = [] := by cases rest <;> rfl
    have hgap : Spacing.ofText gap ≠ .ending := h (gap, u) List.mem_cons_self
    simp only [Layout.pushNumbers, Layout.pushNumeral, Layout.prepend, ofItems_cons, hrest, hlead]
    simp [extend, hgap]

/-! ## Texts put together -/

/-- The last number of `s` and the first of `t` are read together if a blank stands between the
texts: nothing but white space is between the numbers then. -/
def RunsOn (s t : List Char) : Prop :=
  (Layout.ofText t).items ≠ [] ∧ ∃ last ∈ (Layout.ofText s).items.getLast?,
    Spacing.ofText (last.2 ++ ' ' :: (Layout.ofText t).lead) ≠ .ending

theorem ofText_append (s t : List Char) :
    Layout.ofText (s ++ ' ' :: t) =
      (Layout.ofText s).append (((Layout.ofText t).move (s.length + 1)).push ' ') := by
  have hb : IsBreak ' ' := .of_isBlank rfl
  rw [Layout.ofText, Layout.cut_append hb, Layout.cut_cons hb.digit, hb.word,
    show 0 + s.length + 1 = 0 + (s.length + 1) by omega, Layout.cut_move]
  rfl

theorem seriesIn_move (n : Nat) (t : List Char) :
    Series.ofItems (((Layout.ofText t).move n).push ' ').items =
      (seriesIn t).map (Series.move n) := Series.ofItems_move n _

theorem seriesIn_append {s t : List Char} (h : ¬RunsOn s t) :
    seriesIn (s ++ ' ' :: t) = seriesIn s ++ (seriesIn t).map (Series.move (s.length + 1)) := by
  rw [seriesIn, ofText_append, ← seriesIn_move]
  refine Series.ofItems_appendTo (fun item hi => ?_) _
  by_cases ht : (Layout.ofText t).items = []
  · exact Or.inl (by simp [Layout.push, Layout.move, ht])
  · refine Or.inr (Decidable.byContradiction fun hs => h ⟨ht, item, hi, hs⟩)

theorem seriesIn_append_of_runsOn {s t : List Char} (h : RunsOn s t) :
    ∃ front last gap first others, seriesIn s = front ++ [last] ∧ seriesIn t = first :: others ∧
      seriesIn (s ++ ' ' :: t) = front ++ last.link gap (first.move (s.length + 1)) ::
        others.map (Series.move (s.length + 1)) := by
  obtain ⟨ht, ⟨t₀, gap⟩, hlast, hspace⟩ := h
  obtain ⟨first, others, hs⟩ := List.exists_cons_of_ne_nil (mt Series.ofItems_eq_nil.1 ht)
  have hm := seriesIn_move (s.length + 1) t
  rw [show seriesIn t = first :: others from hs, List.map_cons] at hm
  obtain ⟨front, last, h1, h2⟩ :=
    Series.ofItems_appendTo_link hlast hspace hm (Layout.ofText s).lead
  exact ⟨front, last, _, first, others, h1, hs, by rw [seriesIn, ofText_append]; exact h2⟩

/-! ## Where series and triples stand -/

theorem seriesIn_pairwise (cs : List Char) :
    (seriesIn cs).Pairwise fun a b => a.first.start < b.first.start := by
  have hnum : ((Layout.ofText cs).items.map Prod.fst).Pairwise fun a b => a.start < b.start :=
    List.pairwise_map.2 ((Layout.cut_placed 0 false cs).pairwise (Layout.cut_proper 0 false cs))
  have hfirst := hnum.sublist (Series.first_sublist (Layout.ofText cs).items)
  rw [List.pairwise_map] at hfirst
  exact hfirst

theorem seriesIn_start_lt {cs : List Char} {r : Series} (h : r ∈ seriesIn cs) :
    r.first.start < cs.length := by
  have hmem := (Series.first_sublist _).mem (List.mem_map_of_mem (f := Series.first) h)
  obtain ⟨item, hi, he⟩ := List.mem_map.1 hmem
  have hlt := (Layout.cut_placed 0 false cs).start_lt (Layout.cut_proper 0 false cs) item hi
  have htext : Layout.text ⟨_, _⟩ = cs := Layout.text_cut 0 false cs
  rw [htext, he] at hlt
  omega

theorem head?_regroup (a : Amount) (rest : List (List Char × Numeral)) :
    ∃ b others, regroup a rest = b :: others ∧ b.start = a.start := by
  induction rest generalizing a with
  | nil => exact ⟨a, [], rfl, rfl⟩
  | cons p rest ih =>
    obtain ⟨gap, t⟩ := p
    simp only [regroup]
    split
    · exact ih (a.join gap t)
    · exact ⟨a, _, rfl, rfl⟩

theorem triple?_start {r : Series} {t : Triple} (h : r.triple? = some t) :
    t.low.start = r.first.start := by
  obtain ⟨b, others, hr, hb⟩ := head?_regroup (single r.first) r.rest
  simp only [Series.triple?, Series.amounts, hr] at h
  split at h
  · next he =>
    simp only [List.cons.injEq] at he
    cases h
    rw [← he.1, hb]; rfl
  · simp only [Series.threeNumbers?] at h
    split at h
    · split at h
      · cases h; rfl
      · cases h
    · cases h

end PriceSurvey.Amount
