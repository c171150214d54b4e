import PriceSurvey.Proofs.Amount.Tiling

/-!
# The one way to cut a series into amounts

A cut of a series is into blocks of numbers that follow each other. In a block of several numbers
the first can lead groups, the others are groups of thousands behind single separators, and only
the last may have decimals. If no block could take the number behind it as well, the cut is the one
that reading from the left makes: there is no other.

Results:
* `takes_iff`: what an amount takes is what it could take by these rules.
* `isSegmented_iff`: the amounts of a series are its only cut into such blocks.
* `stop_eq_of_mem_amounts`: each goes from the start of its first number to the end of its last.
-/
namespace PriceSurvey.Amount

/-! ## Cuts -/

/-- The amounts are a cut of the series: grouped blocks of its numbers in order, and none of them
would still be grouped with the number that follows it. -/
inductive Series.IsSegmented : Series → List Amount → Prop where
  | last {a : Amount} (grouped : a.IsGrouped) : IsSegmented ⟨a.head, a.groups⟩ [a]
  | cons {a : Amount} {gap : List Char} {r : Series} {as : List Amount} (grouped : a.IsGrouped)
      (longest : ¬(a.join gap r.first).IsGrouped) (behind : r.IsSegmented as) :
      IsSegmented ⟨a.head, a.groups ++ (gap, r.first) :: r.rest⟩ (a :: as)

/-- An amount takes the number behind it exactly if it is grouped with it. -/
theorem takes_iff {a : Amount} (h : a.IsGrouped) {gap : List Char} {t : Numeral} :
    a.takes gap t = true ↔ (a.join gap t).IsGrouped := by
  refine ⟨h.join, fun hjoin => ?_⟩
  have hmem : (gap, t) ∈ (a.join gap t).groups := by simp [Amount.join]
  have hlead : a.head.canLead = true := hjoin.leads (List.ne_nil_of_mem hmem)
  have hgap : (Spacing.ofText gap).canJoin = true := hjoin.gap _ hmem
  have hgroup : t.isThousands = true := hjoin.group _ hmem
  have hlast : a.last.tail = [] := by
    refine hjoin.decimal a.last ?_
    rw [numerals_join, List.dropLast_concat, numerals_eq]
    simp
  simp [takes, hlead, hgap, hgroup, Numeral.isDecimal, hlast]

/-- Reading on from a block that may still grow makes a cut. -/
theorem isSegmented_regroup {a : Amount} (h : a.IsGrouped) (rest : List (List Char × Numeral)) :
    Series.IsSegmented ⟨a.head, a.groups ++ rest⟩ (regroup a rest) := by
  induction rest generalizing a with
  | nil => simpa [regroup] using Series.IsSegmented.last h
  | cons g rest ih =>
    obtain ⟨gap, t⟩ := g
    simp only [regroup]
    split
    · next htakes => simpa [Amount.join] using ih (h.join htakes)
    · next hno => exact .cons h (mt (takes_iff h).2 hno) (ih (isGrouped_single t))

theorem Series.IsSegmented.eq_amounts {r : Series} {as : List Amount} (h : r.IsSegmented as) :
    as = r.amounts := by
  induction h with
  | @last a grouped =>
    have hregroup := regroup_groups grouped []
    rw [List.append_nil] at hregroup
    rw [Series.amounts, hregroup, regroup]
  | @cons a gap r as grouped longest behind ih =>
    have hno : ¬a.takes gap r.first = true := mt (takes_iff grouped).1 longest
    rw [Series.amounts, regroup_groups grouped, regroup, if_neg hno, ih, Series.amounts]

theorem isSegmented_amounts (r : Series) : r.IsSegmented r.amounts :=
  isSegmented_regroup (isGrouped_single r.first) r.rest

/-! ## Where the blocks end -/

/-- Code points before the end of the number. -/
def Numeral.stop (t : Numeral) : Nat := t.start + t.text.length

/-- The numbers follow each other behind `n` code points, with nothing but the gaps between. -/
def AreLaid (n : Nat) : List (List Char × Numeral) → Prop
  | [] => True
  | (gap, t) :: rest => t.start = n + gap.length ∧ AreLaid t.stop rest

/-- Each number of the series starts where the gap in front of it ends. -/
def Series.IsLaid (r : Series) : Prop := AreLaid r.first.stop r.rest

theorem stop_eq_of_mem_regroup {a : Amount} (h : a.stop = a.last.stop)
    {rest : List (List Char × Numeral)} (hlaid : AreLaid a.last.stop rest) :
    ∀ b ∈ regroup a rest, b.stop = b.last.stop := by
  induction rest generalizing a with
  | nil => simpa [regroup] using h
  | cons g rest ih =>
    obtain ⟨gap, t⟩ := g
    obtain ⟨hstart, hrest⟩ := hlaid
    simp only [regroup]
    split
    · have hjoin : (a.join gap t).stop = t.stop := by
        have htext := congrArg List.length (a.text_join gap t)
        simp only [List.length_append] at htext
        simp only [stop, Numeral.stop] at h hstart ⊢
        rw [htext, hstart, ← h]
        simp only [start, join]
        omega
      exact ih (by rw [hjoin, last_join]) (by rwa [last_join])
    · have hsingle : (single t).stop = t.stop := by rw [stop, text_single]; rfl
      exact List.forall_mem_cons.2 ⟨h, ih hsingle hrest⟩

theorem stop_eq_of_mem_amounts {r : Series} (h : r.IsLaid) :
    ∀ a ∈ r.amounts, a.stop = a.last.stop := by
  have hfirst : (single r.first).stop = r.first.stop := by rw [stop, text_single]; rfl
  exact stop_eq_of_mem_regroup hfirst h

/-- The series of a text are laid as they stand in it. -/
theorem isLaid_ofItems {n : Nat} {lead : List Char} {items : List (Numeral × List Char)}
    (h : Layout.Placed n lead items) :
    (∀ r ∈ Series.ofItems items, r.IsLaid) ∧
      ∀ r ∈ (Series.ofItems items).head?, r.first.start = n + lead.length := by
  induction items generalizing n lead with
  | nil => simp [Series.ofItems]
  | cons item rest ih =>
    obtain ⟨t, gap⟩ := item
    obtain ⟨hstart, hrest⟩ := h
    obtain ⟨hlaid, hnext⟩ := ih hrest
    rw [Series.ofItems_cons]
    cases hr : Series.ofItems rest with
    | nil => simp [Series.extend, Series.IsLaid, AreLaid, hstart]
    | cons r others =>
      rw [hr] at hlaid hnext
      obtain ⟨hfirst, hothers⟩ := List.forall_mem_cons.1 hlaid
      simp only [Series.extend]
      split
      · refine ⟨List.forall_mem_cons.2 ⟨trivial, hlaid⟩, ?_⟩
        simpa using hstart
      · have hjoined : Series.IsLaid ⟨t, (gap, r.first) :: r.rest⟩ := by
          refine ⟨?_, hfirst⟩
          rw [hnext r rfl, Numeral.stop, hstart]
        refine ⟨List.forall_mem_cons.2 ⟨hjoined, hothers⟩, ?_⟩
        simpa using hstart

theorem isLaid_of_mem_seriesIn {cs : List Char} {r : Series} (h : r ∈ seriesIn cs) : r.IsLaid :=
  (isLaid_ofItems (Layout.cut_placed 0 false cs)).1 r h

/-! ## The only cut -/

/-- The amounts of a series are its one cut into grouped blocks of which none could be longer. They
hold all its numbers, and where these follow each other, as in every text, each amount goes from the
start of its first number to the end of its last. -/
theorem isSegmented_iff (r : Series) :
    (∀ as, r.IsSegmented as ↔ as = r.amounts) ∧
      r.amounts.flatMap Amount.numerals = r.numerals ∧
      (r.IsLaid → ∀ a ∈ r.amounts, a.start = a.head.start ∧ a.stop = a.last.stop) ∧
      ∀ cs, r ∈ seriesIn cs → r.IsLaid := by
  refine ⟨fun as => ⟨fun h => h.eq_amounts, ?_⟩, r.numerals_amounts, fun h a ha => ⟨rfl, ?_⟩,
    fun cs => isLaid_of_mem_seriesIn⟩
  · rintro rfl
    exact isSegmented_amounts r
  · exact stop_eq_of_mem_amounts h a ha

/-- The numbers of `25'000 27 500`. -/
def riceSeries : Series :=
  ⟨⟨0, ['2', '5'], []⟩, [(['\''], ⟨3, ['0', '0', '0'], []⟩), ([' '], ⟨7, ['2', '7'], []⟩),
    ([' '], ⟨10, ['5', '0', '0'], []⟩)]⟩

/-- They are two amounts of two numbers each, and can be cut in no other way. -/
theorem isSegmented_iff_rice :
    riceSeries ∈ seriesIn "25'000 27 500".toList ∧ riceSeries.IsLaid ∧
      (∀ as, riceSeries.IsSegmented as ↔
        as = [⟨⟨0, ['2', '5'], []⟩, [(['\''], ⟨3, ['0', '0', '0'], []⟩)]⟩,
          ⟨⟨7, ['2', '7'], []⟩, [([' '], ⟨10, ['5', '0', '0'], []⟩)]⟩]) ∧
      ∀ a ∈ riceSeries.amounts, a.start = a.head.start ∧ a.stop = a.last.stop := by
  have hmem : riceSeries ∈ seriesIn "25'000 27 500".toList := by decide +kernel
  have hamounts : riceSeries.amounts =
      [⟨⟨0, ['2', '5'], []⟩, [(['\''], ⟨3, ['0', '0', '0'], []⟩)]⟩,
        ⟨⟨7, ['2', '7'], []⟩, [([' '], ⟨10, ['5', '0', '0'], []⟩)]⟩] := by decide
  obtain ⟨honly, -, hends, hlaid⟩ := isSegmented_iff riceSeries
  have hseries : riceSeries.IsLaid := hlaid _ hmem
  rw [hamounts] at honly
  exact ⟨hmem, hseries, honly, hends hseries⟩

end PriceSurvey.Amount
