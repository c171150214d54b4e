import PriceSurvey.Proofs.Amount.Span
import PriceSurvey.Proofs.Amount.Written

/-!
# What parts the amounts of a price triple

Three numbers apart from each other are a triple only if white space is between them. The first
three amounts of a series are one whatever is between them, and so an apostrophe parts two amounts
where the one before it cannot take the number behind it.

Results:
* `regroup_meet`: an amount does not take the number that the next one begins with.
* `Meet.between_eq`: what stands between amounts that follow each other.
* `isParted_triple_iff`: where white space parts a triple, and what does so elsewhere.
* `not_isParted_cement`: a triple with an apostrophe between two prices.
-/
namespace PriceSurvey

open Text

namespace Amount

/-- What stands between two amounts of a text. -/
def between (cs : List Char) (a b : Amount) : List Char := (cs.take b.start).drop a.stop

/-- The amounts that follow each other. -/
def Triple.neighbours (t : Triple) : List (Amount × Amount) := [(t.low, t.mean), (t.mean, t.high)]

/-- White space, and some of it, stands between the amounts. -/
def Triple.IsParted (cs : List Char) (t : Triple) : Prop :=
  ∀ p ∈ t.neighbours, IsGap (between cs p.1 p.2)

instance (cs : List Char) (t : Triple) : Decidable (t.IsParted cs) :=
  inferInstanceAs (Decidable (∀ p ∈ t.neighbours, IsGap (between cs p.1 p.2)))

/-! ## Spacing in a series -/

/-- What does not end a series is white space or one apostrophe. -/
theorem Spacing.isGap_or_apostrophe {gap : List Char} (h : Spacing.ofText gap ≠ .ending) :
    IsGap gap ∨ gap = ['\''] := by
  unfold Spacing.ofText at h
  split at h
  · next hmark => exact Or.inr hmark
  · split at h
    · next hone => rcases hone with rfl | rfl <;> exact Or.inl (by decide)
    · split at h
      · next hall => exact Or.inl ⟨hall.1, List.all_eq_true.1 hall.2⟩
      · exact absurd rfl h

theorem Series.ne_ending {items : List (Numeral × List Char)} {r : Series} (h : r ∈ ofItems items) :
    ∀ g ∈ r.rest, Spacing.ofText g.1 ≠ .ending := by
  induction items generalizing r with
  | nil => cases h
  | cons item rest ih =>
    obtain ⟨t, gap⟩ := item
    rw [ofItems_cons] at h
    cases hr : ofItems rest with
    | nil =>
      rw [hr] at h
      obtain rfl := List.mem_singleton.1 h
      simp
    | cons s others =>
      rw [hr] at h ih
      simp only [extend] at h
      split at h
      · rcases List.mem_cons.1 h with rfl | h
        · simp
        · exact ih h
      · next hgap =>
        rcases List.mem_cons.1 h with rfl | h
        · intro g hg
          rcases List.mem_cons.1 hg with rfl | hg
          · exact hgap
          · exact ih List.mem_cons_self g hg
        · exact ih (List.mem_cons_of_mem _ h)

/-! ## Amounts that follow each other -/

/-- The numbers of one amount, and behind the gap those of the other. -/
def Meet (items : List (Numeral × List Char)) (a : Amount) (gap : List Char) (b : Amount) : Prop :=
  ∃ front gap' back,
    items = front ++ (chain a.head a.groups gap ++ (chain b.head b.groups gap' ++ back))

theorem Meet.append {items : List (Numeral × List Char)} {a b : Amount} {gap : List Char}
    (h : Meet items a gap b) (xs ys : List (Numeral × List Char)) :
    Meet (xs ++ (items ++ ys)) a gap b := by
  obtain ⟨front, gap', back, rfl⟩ := h
  exact ⟨xs ++ front, gap', back ++ ys, by simp⟩

theorem head_of_chain {t : Numeral} {rest : List (List Char × Numeral)} {behind gap : List Char}
    {a : Amount} {ys : List (Numeral × List Char)}
    (h : chain t rest behind = chain a.head a.groups gap ++ ys) : a.head = t := by
  have hfirst := congrArg (List.map Prod.fst) h
  rw [List.map_append, map_fst_chain, map_fst_chain, List.cons_append, List.cons.injEq] at hfirst
  exact hfirst.1.symm

/-- Between two amounts of a series is one of its gaps, behind which the amount before does not take
the next number. -/
theorem regroup_meet {a x y : Amount} {rest : List (List Char × Numeral)} {pre post : List Amount}
    (h : regroup a rest = pre ++ x :: y :: post) (behind : List Char) :
    ∃ gap, (gap, y.head) ∈ rest ∧ x.takes gap y.head = false ∧
      Meet (chain a.head (a.groups ++ rest) behind) x gap y := by
  induction rest generalizing a pre with
  | nil => rcases pre with _ | ⟨p, _ | ⟨q, pre⟩⟩ <;> simp [regroup] at h
  | cons g rest ih =>
    obtain ⟨gap, t⟩ := g
    simp only [regroup] at h
    split at h
    · obtain ⟨gap', hmem, htakes, hmeet⟩ := ih h
      refine ⟨gap', List.mem_cons_of_mem _ hmem, htakes, ?_⟩
      simpa [join] using hmeet
    · next hno =>
      rw [chain_append]
      cases pre with
      | nil =>
        simp only [List.nil_append, List.cons.injEq] at h
        obtain ⟨rfl, hrest⟩ := h
        have htiling := isTiling_regroup (single t) rest behind
        rw [hrest] at htiling
        generalize hitems : chain _ _ behind = items at htiling
        cases htiling with
        | cons _ gap' htiling =>
          have hhead : y.head = t := head_of_chain hitems
          rw [hhead]
          exact ⟨gap, List.mem_cons_self, by simpa using hno, [], gap', _, by rw [← hitems]; rfl⟩
      | cons p pre =>
        simp only [List.cons_append, List.cons.injEq] at h
        obtain ⟨gap', hmem, htakes, hmeet⟩ := ih h.2
        refine ⟨gap', List.mem_cons_of_mem _ hmem, htakes, ?_⟩
        have := hmeet.append (chain a.head a.groups gap) []
        rwa [List.append_nil] at this

/-- The amounts of a triple are parted by white space, or by what stands in front of a number that
the amount before does not take. -/
theorem Series.meet_of_triple {r : Series} {t : Triple} (h : r.triple? = some t)
    {p : Amount × Amount} (hp : p ∈ t.neighbours) (behind : List Char) :
    ∃ gap ∈ r.rest.map Prod.fst, Meet (chain r.first r.rest behind) p.1 gap p.2 ∧
      ((Spacing.ofText gap).canPart = true ∨
        p.1.takes gap p.2.head = false ∧ ∃ others, r.amounts = t.amounts ++ others) := by
  simp only [triple?] at h
  split at h
  · next low mean high others hr =>
    cases h
    obtain ⟨pre, post, he⟩ : ∃ pre post, r.amounts = pre ++ p.1 :: p.2 :: post := by
      rcases List.mem_pair.1 hp with rfl | rfl
      · exact ⟨[], _, hr⟩
      · exact ⟨[low], _, hr⟩
    obtain ⟨gap, hmem, htakes, hmeet⟩ := regroup_meet (a := single r.first) he behind
    exact ⟨gap, List.mem_map_of_mem (f := Prod.fst) hmem, hmeet, Or.inr ⟨htakes, others, hr⟩⟩
  · obtain ⟨first, rest⟩ := r
    simp only [threeNumbers?] at h
    split at h
    · next g b k c _ =>
      split at h
      · next hpart =>
        simp only [Bool.and_eq_true] at hpart
        cases h
        rcases List.mem_pair.1 hp with rfl | rfl
        · exact ⟨g, by simp, ⟨[], k, [(c, behind)], rfl⟩, Or.inl hpart.1.1.1.1⟩
        · exact ⟨k, by simp, ⟨[(first, g)], behind, [], rfl⟩, Or.inl hpart.1.1.1.2⟩
      · cases h
    · cases h

/-! ## Between the amounts of a text -/

section

variable {cs gap : List Char} {a b : Amount}

/-- The text around two amounts that meet. -/
theorem Meet.exists_eq (h : Meet (Layout.ofText cs).items a gap b) : ∃ front back,
    cs = front ++ a.text ++ gap ++ (b.text ++ back) ∧ a.stop = (front ++ a.text).length ∧
      b.start = (front ++ a.text ++ gap).length := by
  obtain ⟨xs, gap', ys, hitems⟩ := h
  have hitems' : (Layout.ofText cs).items =
      (xs ++ chain a.head a.groups gap) ++ (chain b.head b.groups gap' ++ ys) := by
    rw [hitems, List.append_assoc]
  obtain ⟨-, ha⟩ := stands_of_chain hitems
  obtain ⟨hcs, hb⟩ := stands_of_chain hitems'
  have hfront : Layout.text ⟨(Layout.ofText cs).lead, xs ++ chain a.head a.groups gap⟩ =
      Layout.text ⟨(Layout.ofText cs).lead, xs⟩ ++ a.text ++ gap := by
    rw [Layout.text_append, text_chain, List.nil_append, List.append_assoc]
  rw [hfront] at hcs hb
  refine ⟨_, Layout.text ⟨gap', ys⟩, hcs, ?_, hb.start⟩
  rw [stop, ha.start, List.length_append]

theorem Meet.between_eq (h : Meet (Layout.ofText cs).items a gap b) : between cs a b = gap := by
  obtain ⟨front, back, rfl, hstop, hstart⟩ := h.exists_eq
  rw [between, hstart, List.take_left, hstop, List.drop_left]

theorem Meet.isSlice (h : Meet (Layout.ofText cs).items a gap b) :
    Span.IsSlice ⟨(a.span cs).stop, (b.span cs).start⟩ cs gap := by
  obtain ⟨front, back, rfl, hstop, hstart⟩ := h.exists_eq
  refine ⟨front ++ a.text, b.text ++ back, List.append_assoc _ _ _, ?_, ?_⟩
  · simp only [span, hstop]
    rw [List.append_assoc _ gap, List.take_left]
  · simp only [span, hstart]
    rw [List.take_left]

theorem Meet.after_eq (h : Meet (Layout.ofText cs).items a gap b) :
    ∃ rest, a.after cs = gap ++ rest := by
  obtain ⟨front, back, rfl, hstop, -⟩ := h.exists_eq
  exact ⟨b.text ++ back, by rw [after, hstop, List.append_assoc _ gap, List.drop_left]⟩

end

/-- The amounts of a triple follow each other, with white space between them or else one
apostrophe, behind which the amount before does not take the number; the three are then amounts of
the text. -/
theorem exists_meet_of_triple {cs : List Char} {t : Triple} (h : (find cs).triple = some t)
    {p : Amount × Amount} (hp : p ∈ t.neighbours) :
    ∃ gap, Meet (Layout.ofText cs).items p.1 gap p.2 ∧
      (IsGap gap ∨ gap = ['\''] ∧ p.1.takes gap p.2.head = false ∧
        ∃ front back, (find cs).amounts = front ++ (t.amounts ++ back)) := by
  obtain ⟨r, hr, ht⟩ := List.exists_of_findSome?_eq_some h
  obtain ⟨ahead, others, hrs⟩ := List.append_of_mem hr
  have hseries := isTiling_series (Layout.ofText cs).items
  rw [show Series.ofItems _ = seriesIn cs from rfl, hrs, List.map_append] at hseries
  obtain ⟨xs, ys, hitems, -, hy⟩ := hseries.split
  cases hy with
  | cons _ behind =>
    obtain ⟨gap, hmem, hmeet, hparts⟩ := Series.meet_of_triple ht hp behind
    obtain ⟨g, hg, rfl⟩ := List.mem_map.1 hmem
    refine ⟨g.1, by rw [hitems]; exact hmeet.append xs _, ?_⟩
    rcases Spacing.isGap_or_apostrophe (Series.ne_ending hr g hg) with hgap | hmark
    · exact Or.inl hgap
    · rcases hparts with hpart | ⟨htakes, more, he⟩
      · rw [hmark] at hpart
        cases hpart
      · refine Or.inr ⟨hmark, htakes, ahead.flatMap Series.amounts,
          more ++ others.flatMap Series.amounts, ?_⟩
        simp [find, hrs, he]

/-- An amount takes the number behind an apostrophe if it can lead groups, has no decimals, and the
number is a group of three digits. -/
theorem takes_apostrophe_eq_false {a : Amount} {t : Numeral} :
    a.takes ['\''] t = false ↔
      a.head.canLead = false ∨ a.last.isDecimal = true ∨ t.isThousands = false := by
  have hjoin : (Spacing.ofText ['\'']).canJoin = true := rfl
  rw [takes, hjoin]
  cases a.head.canLead <;> cases a.last.isDecimal <;> cases t.isThousands <;> decide

/-- White space parts the amounts of a triple exactly if no apostrophe stands directly behind the
first two of them. Where one stands there, it is all that is between the two amounts: the first
cannot take the number behind it, and the triple is three amounts of the text in a row. -/
theorem isParted_triple_iff {cs : List Char} {t : Triple} (h : (find cs).triple = some t) :
    (∀ p ∈ t.neighbours, Span.IsSlice ⟨(p.1.span cs).stop, (p.2.span cs).start⟩ cs
      (between cs p.1 p.2)) ∧
    (t.IsParted cs ↔ ∀ p ∈ t.neighbours, (p.1.after cs).head? ≠ some '\'') ∧
    ∀ p ∈ t.neighbours, (p.1.after cs).head? = some '\'' → between cs p.1 p.2 = ['\''] ∧
      (p.1.head.canLead = false ∨ p.1.last.isDecimal = true ∨ p.2.head.isThousands = false) ∧
        ∃ front back, (find cs).amounts = front ++ (t.amounts ++ back) := by
  have hafter : ∀ p ∈ t.neighbours,
      ((p.1.after cs).head? = some '\'' ↔ ¬IsGap (between cs p.1 p.2)) := by
    intro p hp
    obtain ⟨gap, hmeet, hparts⟩ := exists_meet_of_triple h hp
    obtain ⟨rest, hrest⟩ := hmeet.after_eq
    rw [hmeet.between_eq, hrest]
    rcases hparts with hgap | ⟨rfl, -⟩
    · obtain ⟨c, more, rfl⟩ := List.exists_cons_of_ne_nil hgap.1
      have hc : c ≠ '\'' := by
        rintro rfl
        have := hgap.2 '\'' List.mem_cons_self
        revert this
        decide
      simp [hgap, hc]
    · exact iff_of_true rfl (by decide)
  refine ⟨fun p hp => ?_, ?_, fun p hp hmark => ?_⟩
  · obtain ⟨gap, hmeet, -⟩ := exists_meet_of_triple h hp
    rw [hmeet.between_eq]
    exact hmeet.isSlice
  · exact forall₂_congr fun p hp => by rw [ne_eq, hafter p hp, not_not]
  · obtain ⟨gap, hmeet, hparts⟩ := exists_meet_of_triple h hp
    have hgap := (hafter p hp).1 hmark
    rw [hmeet.between_eq] at hgap ⊢
    obtain ⟨rfl, htakes, hrow⟩ := hparts.resolve_left hgap
    exact ⟨rfl, takes_apostrophe_eq_false.1 htakes, hrow⟩

/-- Prices with thousands behind apostrophes, and blanks between them. -/
theorem isParted_triple_mortar :
    ∃ t, (find "Mortier 85'000 90'000 97'500".toList).triple = some t ∧
      t.IsParted "Mortier 85'000 90'000 97'500".toList := by
  obtain ⟨t, ht, hafter⟩ : ∃ t, (find "Mortier 85'000 90'000 97'500".toList).triple = some t ∧
      ∀ p ∈ t.neighbours,
        (p.1.after "Mortier 85'000 90'000 97'500".toList).head? ≠ some '\'' :=
    ⟨⟨⟨⟨8, ['8', '5'], []⟩, [(['\''], ⟨11, ['0', '0', '0'], []⟩)]⟩,
      ⟨⟨15, ['9', '0'], []⟩, [(['\''], ⟨18, ['0', '0', '0'], []⟩)]⟩,
      ⟨⟨22, ['9', '7'], []⟩, [(['\''], ⟨25, ['5', '0', '0'], []⟩)]⟩⟩,
      by decide +kernel, by decide +kernel⟩
  exact ⟨t, ht, (isParted_triple_iff ht).2.1.2 hafter⟩

/-- An apostrophe parts the first two prices, as neither of them has a group of thousands. -/
theorem not_isParted_cement :
    ∃ t, (find "Ciment tonne 85000'90000 97500".toList).triple = some t ∧
      between "Ciment tonne 85000'90000 97500".toList t.low t.mean = ['\''] ∧
        ¬t.IsParted "Ciment tonne 85000'90000 97500".toList :=
  ⟨⟨single ⟨13, ['8', '5', '0', '0', '0'], []⟩, single ⟨19, ['9', '0', '0', '0', '0'], []⟩,
    single ⟨25, ['9', '7', '5', '0', '0'], []⟩⟩, by decide +kernel, by decide +kernel,
    by decide +kernel⟩

end Amount

end PriceSurvey
