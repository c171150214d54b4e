import Mathlib.Data.List.Pairwise
import PriceSurvey.Proofs.Amount.Runs
import PriceSurvey.Proofs.Amount.Value

/-!
# Amounts that tile a text

Amounts *tile* the numbers of a text if the numbers of the amounts, one behind the other, are those
of the text, with the same text between them. The amounts that are found in a text do so, and
still do when those of the series with the price triple give way to the amounts of the triple.
What tiles the numbers of a text stands in it in order and apart, and holds every digit run that no
word character touches exactly once.

Results:
* `isTiling_find`, `exists_isTiling_triple`: what is found in a text tiles its numbers.
* `IsTiling.exists_stands`, `IsTiling.pairwise`: where the amounts stand.
* `IsTiling.exists_unique_holds`: in which amount a digit run lies.
-/
namespace PriceSurvey

open Text

namespace Amount

@[simp] theorem text_single (t : Numeral) : (single t).text = t.text := by simp [single, text]

/-! ## Numbers in a row -/

/-- Numbers with the text behind each, given the text between them and the text behind the last. -/
def chain (t : Numeral) : List (List Char × Numeral) → List Char → List (Numeral × List Char)
  | [], behind => [(t, behind)]
  | (gap, u) :: rest, behind => (t, gap) :: chain u rest behind

theorem chain_append (t : Numeral) (rest : List (List Char × Numeral)) (gap : List Char)
    (u : Numeral) (more : List (List Char × Numeral)) (behind : List Char) :
    chain t (rest ++ (gap, u) :: more) behind = chain t rest gap ++ chain u more behind := by
  induction rest generalizing t with
  | nil => rfl
  | cons g rest ih => simp only [List.cons_append, chain, ih]

theorem map_fst_chain (t : Numeral) (rest : List (List Char × Numeral)) (behind : List Char) :
    (chain t rest behind).map Prod.fst = t :: rest.map (·.2) := by
  induction rest generalizing t with
  | nil => rfl
  | cons g rest ih => simp [chain, ih]

theorem text_chain (a : Amount) (lead behind : List Char) :
    Layout.text ⟨lead, chain a.head a.groups behind⟩ = lead ++ (a.text ++ behind) := by
  obtain ⟨head, groups⟩ := a
  induction groups generalizing lead head with
  | nil => simp [chain, text, Layout.text]
  | cons g groups ih =>
    have := ih g.1 g.2
    simp only [text, Layout.text] at this ⊢
    simp [chain, this]

/-! ## Tilings -/

/-- The numbers of the amounts, with the text between them, are the given ones. -/
inductive IsTiling : List (Numeral × List Char) → List Amount → Prop where
  | nil : IsTiling [] []
  | cons (a : Amount) (gap : List Char) {items : List (Numeral × List Char)} {as : List Amount}
      (h : IsTiling items as) : IsTiling (chain a.head a.groups gap ++ items) (a :: as)

namespace IsTiling

variable {items xs ys : List (Numeral × List Char)} {as bs : List Amount} {a : Amount}

theorem one (a : Amount) (gap : List Char) : IsTiling (chain a.head a.groups gap) [a] := by
  have := cons a gap .nil
  rwa [List.append_nil] at this

theorem append (h : IsTiling xs as) (h' : IsTiling ys bs) : IsTiling (xs ++ ys) (as ++ bs) := by
  induction h with
  | nil => exact h'
  | cons a gap _ ih => rw [List.append_assoc]; exact .cons a gap ih

theorem split (h : IsTiling items (as ++ bs)) :
    ∃ xs ys, items = xs ++ ys ∧ IsTiling xs as ∧ IsTiling ys bs := by
  induction as generalizing items with
  | nil => exact ⟨[], items, rfl, .nil, h⟩
  | cons a as ih =>
    cases h with
    | cons _ gap h =>
      obtain ⟨xs, ys, rfl, hx, hy⟩ := ih h
      exact ⟨_ ++ xs, ys, (List.append_assoc _ _ _).symm, .cons a gap hx, hy⟩

/-- Amounts that are tiled themselves give way to what tiles them. -/
theorem refine {f : Amount → List Amount} (h : IsTiling items as)
    (hf : ∀ a ∈ as, ∀ gap, IsTiling (chain a.head a.groups gap) (f a)) :
    IsTiling items (as.flatMap f) := by
  induction h with
  | nil => exact .nil
  | cons a gap _ ih =>
    exact (hf a List.mem_cons_self gap).append (ih fun b hb => hf b (List.mem_cons_of_mem _ hb))

theorem numerals (h : IsTiling items as) : as.flatMap Amount.numerals = items.map Prod.fst := by
  induction h with
  | nil => rfl
  | cons a gap _ ih =>
    rw [List.flatMap_cons, ih, List.map_append, map_fst_chain]; rfl

end IsTiling

/-! ## What is found tiles the text -/

theorem isTiling_regroup (a : Amount) (rest : List (List Char × Numeral)) (gap : List Char) :
    IsTiling (chain a.head (a.groups ++ rest) gap) (regroup a rest) := by
  induction rest generalizing a with
  | nil => rw [List.append_nil]; exact .one a gap
  | cons p rest ih =>
    obtain ⟨sep, t⟩ := p
    simp only [regroup]
    split
    · have := ih (a.join sep t)
      simpa [join] using this
    · rw [chain_append]
      exact .cons a sep (ih (single t))

theorem isTiling_singles (t : Numeral) (rest : List (List Char × Numeral)) (gap : List Char) :
    IsTiling (chain t rest gap) ((t :: rest.map (·.2)).map single) := by
  induction rest generalizing t with
  | nil => exact .one (single t) gap
  | cons g rest ih => exact .cons (single t) g.1 (ih g.2)

/-- The numbers of a text tile it if each is an amount alone. -/
theorem isTiling_numbers (items : List (Numeral × List Char)) :
    IsTiling items (items.map fun item => single item.1) := by
  induction items with
  | nil => exact .nil
  | cons item items ih => exact .cons (single item.1) item.2 ih

/-- The series as if it were one amount. -/
def Series.joined (r : Series) : Amount := ⟨r.first, r.rest⟩

theorem isTiling_series (items : List (Numeral × List Char)) :
    IsTiling items ((Series.ofItems items).map Series.joined) := by
  induction items with
  | nil => exact .nil
  | cons item rest ih =>
    obtain ⟨t, gap⟩ := item
    rw [Series.ofItems_cons]
    cases hr : Series.ofItems rest with
    | nil =>
      rw [Series.ofItems_eq_nil.1 hr]
      exact .one (single t) gap
    | cons r others =>
      rw [hr] at ih
      simp only [Series.extend]
      split
      · exact .cons (single t) gap ih
      · cases ih with
        | cons _ behind h => exact .cons ⟨t, (gap, r.first) :: r.rest⟩ behind h

theorem isTiling_amounts {items : List (Numeral × List Char)} {rs : List Series}
    (h : IsTiling items (rs.map Series.joined)) : IsTiling items (rs.flatMap Series.amounts) := by
  have hrefine := h.refine (f := fun a => Series.amounts ⟨a.head, a.groups⟩) fun a _ gap =>
    isTiling_regroup (single a.head) a.groups gap
  rwa [List.flatMap_map] at hrefine

theorem isTiling_find (cs : List Char) : IsTiling (Layout.ofText cs).items (find cs).amounts :=
  isTiling_amounts (isTiling_series _)

/-- The amounts of the triple stand in place of some of the amounts that are found. These are the
same, or one or two with the same numbers. -/
theorem exists_isTiling_triple {cs : List Char} {t : Triple} (h : (find cs).triple = some t) :
    ∃ front mid back, (find cs).amounts = front ++ (mid ++ back) ∧
      (mid = t.amounts ∨ mid.length = 1 ∨ mid.length = 2) ∧
      mid.flatMap numerals = t.amounts.flatMap numerals ∧
      IsTiling (Layout.ofText cs).items (front ++ (t.amounts ++ back)) := by
  obtain ⟨r, hr, ht⟩ := List.exists_of_findSome?_eq_some h
  obtain ⟨ahead, behind, hrs⟩ := List.append_of_mem hr
  have hamounts : (find cs).amounts =
      ahead.flatMap Series.amounts ++ (r.amounts ++ behind.flatMap Series.amounts) := by
    simp [find, hrs]
  by_cases hthree : ∃ others, r.amounts = t.amounts ++ others
  · obtain ⟨others, he⟩ := hthree
    have hfind := isTiling_find cs
    rw [hamounts, he, List.append_assoc] at hfind
    exact ⟨_, t.amounts, others ++ behind.flatMap Series.amounts,
      by rw [hamounts, he, List.append_assoc], Or.inl rfl, rfl, hfind⟩
  · have hnumbers : t.amounts = r.numerals.map single :=
      (Series.triple?_amounts ht).resolve_left hthree
    have hseries := isTiling_series (Layout.ofText cs).items
    rw [show Series.ofItems _ = seriesIn cs from rfl, hrs, List.map_append] at hseries
    obtain ⟨xs, ys, hitems, hx, hy⟩ := hseries.split
    cases hy with
    | cons _ gap hy =>
    refine ⟨_, r.amounts, _, hamounts, Or.inr ?_, ?_, ?_⟩
    · rcases he : r.amounts with _ | ⟨a, _ | ⟨b, _ | ⟨c, others⟩⟩⟩
      · exact absurd he r.amounts_ne_nil
      · exact Or.inl rfl
      · exact Or.inr rfl
      · simp only [Series.triple?, he, Option.some.injEq] at ht
        exact absurd ⟨others, by rw [← ht]; exact he⟩ hthree
    · rw [Series.numerals_amounts, hnumbers, List.flatMap_map]
      simp
    · rw [hitems, hnumbers]
      exact (isTiling_amounts hx).append ((isTiling_singles _ _ gap).append (isTiling_amounts hy))

/-! ## Characters of an amount -/

theorem text_eq_last (a : Amount) : ∃ s, a.text = s ++ a.last.text := by
  obtain ⟨head, groups⟩ := a
  rcases List.eq_nil_or_concat groups with rfl | ⟨gs, g, rfl⟩
  · exact ⟨[], by simp [text, last]⟩
  · exact ⟨head.text ++ gs.flatMap (fun h => h.1 ++ h.2.text) ++ g.1, by simp [text, last]⟩

/-- An amount starts with a digit. -/
theorem IsProper.head? {a : Amount} (h : a.IsProper) :
    ∃ c, a.text.head? = some c ∧ isDigit c = true := by
  obtain ⟨c, hc, hd⟩ := (h.numeral a.head List.mem_cons_self).head?
  exact ⟨c, by simp [text, hc], hd⟩

/-- An amount ends in a digit. -/
theorem IsProper.getLast? {a : Amount} (h : a.IsProper) :
    ∃ c, a.text.getLast? = some c ∧ isDigit c = true := by
  have hlast : a.last ∈ a.numerals := by rw [numerals_eq]; simp
  obtain ⟨c, hc, hd⟩ := (h.numeral a.last hlast).getLast?
  obtain ⟨s, hs⟩ := a.text_eq_last
  exact ⟨c, by rw [hs, List.getLast?_append, hc]; rfl, hd⟩

theorem not_isWord_of_canJoin {gap : List Char} (h : (Spacing.ofText gap).canJoin = true) :
    ∀ c ∈ gap, isWord c = false := by
  rcases Spacing.eq_of_canJoin h with rfl | rfl | rfl <;> decide +kernel

/-- What is no digit in an amount is no part of a word: a separator or the decimal mark. -/
theorem IsProper.digit_or_not_word {a : Amount} (h : a.IsProper) :
    ∀ c ∈ a.text, isDigit c = true ∨ isWord c = false := by
  have hnumeral : ∀ t ∈ a.numerals, ∀ c ∈ t.text, isDigit c = true ∨ isWord c = false := by
    intro t ht c hc
    have hp := h.numeral t ht
    rcases List.mem_append.1 hc with hc | hc
    · exact Or.inl (hp.whole c hc)
    · rcases hp.tail with htail | ⟨mark, digits, htail, hm, -, -, hd⟩
      · rw [htail] at hc; cases hc
      · rw [htail] at hc
        rcases List.mem_cons.1 hc with rfl | hc
        · exact Or.inr (not_isWord_mark hm)
        · exact Or.inl (hd c hc)
  intro c hc
  rcases List.mem_append.1 hc with hc | hc
  · exact hnumeral a.head List.mem_cons_self c hc
  · obtain ⟨g, hg, hc⟩ := List.mem_flatMap.1 hc
    rcases List.mem_append.1 hc with hc | hc
    · exact Or.inr (not_isWord_of_canJoin (h.grouped.gap g hg) c hc)
    · exact hnumeral g.2 (List.mem_cons_of_mem _ (List.mem_map_of_mem hg)) c hc

/-! ## Where the amounts stand -/

/-- An amount stands between two parts of a text, and no word character touches it. -/
structure Stands (front : List Char) (a : Amount) (behind : List Char) : Prop where
  start : a.start = front.length
  word_before : ∀ c ∈ front.getLast?, isWord c = false
  word_behind : ∀ c ∈ behind.head?, isWord c = false

theorem chain_eq_head (a : Amount) (gap : List Char) :
    ∃ g more, chain a.head a.groups gap = (a.head, g) :: more := by
  obtain ⟨head, groups⟩ := a
  cases groups with
  | nil => exact ⟨gap, [], rfl⟩
  | cons g groups => exact ⟨g.1, _, rfl⟩

theorem chain_eq_last (a : Amount) (gap : List Char) :
    ∃ init, chain a.head a.groups gap = init ++ [(a.last, gap)] := by
  obtain ⟨head, groups⟩ := a
  rcases List.eq_nil_or_concat groups with rfl | ⟨gs, g, rfl⟩
  · exact ⟨[], rfl⟩
  · refine ⟨chain head gs g.1, ?_⟩
    rw [List.concat_eq_append, chain_append]
    simp [chain, last]

/-- An amount stands where its numbers are. -/
theorem stands_of_chain {cs gap : List Char} {xs ys : List (Numeral × List Char)} {a : Amount}
    (h : (Layout.ofText cs).items = xs ++ (chain a.head a.groups gap ++ ys)) :
    cs = Layout.text ⟨(Layout.ofText cs).lead, xs⟩ ++ (a.text ++ Layout.text ⟨gap, ys⟩) ∧
      a.Stands (Layout.text ⟨(Layout.ofText cs).lead, xs⟩) (Layout.text ⟨gap, ys⟩) := by
  obtain ⟨g, more, hhead⟩ := a.chain_eq_head gap
  obtain ⟨init, hlast⟩ := a.chain_eq_last gap
  have hfirst : (Layout.ofText cs).items = xs ++ (a.head, g) :: (more ++ ys) := by
    rw [h, hhead, List.cons_append]
  have hend : (Layout.ofText cs).items = (xs ++ init) ++ (a.last, gap) :: ys := by
    rw [h, hlast]; simp
  have hstart := (stands_of_items hfirst).2
  refine ⟨?_, hstart.start, hstart.word_before, (stands_of_items hend).2.word_behind⟩
  have htext := Layout.text_of_items h
  rw [Layout.text_append, Layout.text_append, text_chain] at htext
  exact htext.symm.trans (by simp [Layout.text])

/-- The numbers of an amount of a tiling follow each other in the text. -/
theorem IsTiling.exists_chain {items : List (Numeral × List Char)} {as : List Amount} {a : Amount}
    (h : IsTiling items as) (ha : a ∈ as) :
    ∃ xs gap ys, items = xs ++ (chain a.head a.groups gap ++ ys) := by
  obtain ⟨bs, ds, rfl⟩ := List.append_of_mem ha
  obtain ⟨xs, ys, hitems, -, hy⟩ := h.split
  cases hy with
  | cons _ gap => exact ⟨xs, gap, _, hitems⟩

theorem IsTiling.exists_stands {cs : List Char} {as : List Amount} {a : Amount}
    (h : IsTiling (Layout.ofText cs).items as) (ha : a ∈ as) :
    ∃ front behind, cs = front ++ (a.text ++ behind) ∧ a.Stands front behind := by
  obtain ⟨xs, gap, ys, hitems⟩ := h.exists_chain ha
  exact ⟨_, _, stands_of_chain hitems⟩

/-! ## In order and apart -/

theorem placed_chain {n : Nat} {lead gap : List Char} {a : Amount}
    {items : List (Numeral × List Char)}
    (h : Layout.Placed n lead (chain a.head a.groups gap ++ items)) :
    a.start = n + lead.length ∧ Layout.Placed (n + lead.length + a.text.length) gap items ∧
      ∀ t ∈ a.numerals, a.start ≤ t.start ∧ t.start + t.text.length ≤ a.stop := by
  obtain ⟨head, groups⟩ := a
  induction groups generalizing n lead head with
  | nil =>
    have htext : text ⟨head, []⟩ = head.text := by simp [text]
    refine ⟨h.1, by rw [htext]; exact h.2, fun t ht => ?_⟩
    obtain rfl : t = head := List.mem_singleton.1 ht
    rw [stop, htext]
    exact ⟨le_rfl, le_rfl⟩
  | cons g groups ih =>
    have htext : (text ⟨head, g :: groups⟩).length =
        head.text.length + g.1.length + (text ⟨g.2, groups⟩).length := by
      simp [text, Nat.add_assoc]
    obtain ⟨hstart, hplaced, hnumerals⟩ := ih g.2 h.2
    refine ⟨h.1, ?_, fun t ht => ?_⟩
    · rwa [htext, ← Nat.add_assoc, ← Nat.add_assoc]
    · simp only [start, stop, htext] at hstart hnumerals ⊢
      have hhead : head.start = n + lead.length := h.1
      rcases List.mem_cons.1 ht with rfl | ht
      · omega
      · have := hnumerals t ht
        omega

theorem isRead_chain {inWord : Bool} {lead gap : List Char} {t : Numeral}
    {rest : List (List Char × Numeral)} {items : List (Numeral × List Char)}
    (h : Layout.IsRead inWord lead (chain t rest gap ++ items)) : Layout.IsRead true gap items := by
  induction rest generalizing inWord lead t with
  | nil => exact h.2.2
  | cons g rest ih => exact ih h.2.2

/-- Something stands between the amounts, whichever comes first. -/
def Apart (a b : Amount) : Prop := a.stop < b.start ∨ b.stop < a.start

instance : Std.Symm Apart := ⟨fun _ _ => Or.symm⟩

namespace IsTiling

variable {cs : List Char} {items : List (Numeral × List Char)} {as : List Amount}

theorem placed (h : IsTiling items as) {n : Nat} {inWord : Bool} {lead : List Char}
    (hplaced : Layout.Placed n lead items) (hread : Layout.IsRead inWord lead items) :
    (∀ a ∈ as, n + lead.length ≤ a.start ∧
      ∀ t ∈ a.numerals, a.start ≤ t.start ∧ t.start + t.text.length ≤ a.stop) ∧
      as.Pairwise fun a b => a.stop < b.start := by
  induction h generalizing n inWord lead with
  | nil => simp
  | @cons a gap items as h ih =>
    obtain ⟨hstart, hrest, hnumerals⟩ := placed_chain hplaced
    obtain ⟨hall, hpairs⟩ := ih hrest (isRead_chain hread)
    -- The word that the amount ends goes on no further, so there is a gap before the next one.
    have hgap : ∀ b ∈ as, 0 < gap.length := by
      intro b hb
      cases h with
      | nil => cases hb
      | cons b' gap' =>
        obtain ⟨g, more, hhead⟩ := b'.chain_eq_head gap'
        have hnext := isRead_chain hread
        rw [hhead] at hnext
        refine List.length_pos_iff.2 fun hnil => ?_
        rw [hnil] at hnext
        cases hnext.1
    have hbehind : ∀ b ∈ as, a.stop < b.start := by
      intro b hb
      have h1 := hgap b hb
      have h2 := (hall b hb).1
      rw [stop]
      omega
    refine ⟨fun b hb => ?_, List.Pairwise.cons hbehind hpairs⟩
    rcases List.mem_cons.1 hb with rfl | hb
    · exact ⟨hstart.ge, hnumerals⟩
    · refine ⟨?_, (hall b hb).2⟩
      have := (hall b hb).1
      omega

/-- The amounts of a tiling stand in order, and something stands between them. -/
theorem pairwise (h : IsTiling (Layout.ofText cs).items as) :
    as.Pairwise fun a b => a.stop < b.start :=
  (h.placed (Layout.cut_placed 0 false cs) (Layout.isRead_cut 0 false cs)).2

theorem numeral_within (h : IsTiling (Layout.ofText cs).items as) {a : Amount} (ha : a ∈ as)
    {t : Numeral} (ht : t ∈ a.numerals) : a.start ≤ t.start ∧ t.start + t.text.length ≤ a.stop :=
  ((h.placed (Layout.cut_placed 0 false cs) (Layout.isRead_cut 0 false cs)).1 a ha).2 t ht

/-- Amounts of a tiling that share a place are one. -/
theorem eq_of_meet (h : IsTiling (Layout.ofText cs).items as) {a b : Amount} (ha : a ∈ as)
    (hb : b ∈ as) {n : Nat} (han : a.start ≤ n ∧ n < a.stop) (hbn : b.start ≤ n ∧ n < b.stop) :
    a = b := by
  by_contra hne
  have hpairs : as.Pairwise Apart := h.pairwise.imp Or.inl
  have hapart : a.stop < b.start ∨ b.stop < a.start := hpairs.forall ha hb hne
  omega

end IsTiling

/-! ## Digit runs in amounts -/

/-- The code points of the run behind `front` are some of the amount's. -/
def Holds (a : Amount) (front run : List Char) : Prop :=
  a.start ≤ front.length ∧ front.length + run.length ≤ a.stop

namespace IsTiling

variable {as : List Amount} {front run back : List Char}

theorem exists_holds (h : IsTiling (Layout.ofText (front ++ (run ++ back))).items as)
    (hrun : IsFreeRun front run back) :
    ∃ a ∈ as, ∃ t ∈ a.numerals, t.Holds front run ∧ a.Holds front run := by
  obtain ⟨t, ht, h1, h2⟩ := Amount.exists_holds hrun
  rw [← h.numerals] at ht
  obtain ⟨a, ha, hta⟩ := List.mem_flatMap.1 ht
  have := h.numeral_within ha hta
  exact ⟨a, ha, t, hta, ⟨h1, h2⟩, by omega, by omega⟩

/-- Every digit run that no word character touches lies in exactly one amount of a tiling. -/
theorem exists_unique_holds (h : IsTiling (Layout.ofText (front ++ (run ++ back))).items as)
    (hrun : IsFreeRun front run back) : ∃! a, a ∈ as ∧ a.Holds front run := by
  obtain ⟨a, ha, t, -, -, h1, h2⟩ := h.exists_holds hrun
  have hpos := List.length_pos_iff.2 hrun.ne_nil
  refine ⟨a, ⟨ha, h1, h2⟩, ?_⟩
  rintro b ⟨hb, h3, h4⟩
  exact h.eq_of_meet hb ha (n := front.length) (by omega) (by omega)

/-- An amount holds the runs that its numbers hold. -/
theorem holds_iff (h : IsTiling (Layout.ofText (front ++ (run ++ back))).items as)
    (hrun : IsFreeRun front run back) {a : Amount} (ha : a ∈ as) :
    a.Holds front run ↔ ∃ t ∈ a.numerals, t.Holds front run := by
  constructor
  · intro hold
    obtain ⟨b, hb, t, ht, hhold, hold'⟩ := h.exists_holds hrun
    obtain rfl : a = b := (h.exists_unique_holds hrun).unique ⟨ha, hold⟩ ⟨hb, hold'⟩
    exact ⟨t, ht, hhold⟩
  · rintro ⟨t, ht, h1, h2⟩
    have := h.numeral_within ha ht
    exact ⟨by omega, by omega⟩

end IsTiling

end Amount

end PriceSurvey
