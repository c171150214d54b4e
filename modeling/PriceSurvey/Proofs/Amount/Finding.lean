import Mathlib.Data.List.Basic
import PriceSurvey.Proofs.Amount.Series

/-!
# The amounts that are found

Every number of a text is a number of exactly one of its amounts, in the same order. An amount of
more than one number is grouped: single separators stand between the numbers, the first has at most
three digits and the others three, and only the last may have decimals.

Results:
* `numerals_find`: the amounts of a text hold its numbers, each once and in order.
* `isProper_find`: they are grouped, and their numbers are proper.
* `regroup_groups`: a grouped amount is found again where its numbers follow each other.
* `triple_find`: the amounts of a price triple are amounts of the text or single numbers of it.
-/
namespace PriceSurvey

open Text

namespace Amount

/-! ## Numbers of amounts -/

/-- The numbers of the amount. -/
def numerals (a : Amount) : List Numeral := a.head :: a.groups.map (·.2)

@[simp] theorem numerals_single (t : Numeral) : (single t).numerals = [t] := rfl

@[simp] theorem numerals_join (a : Amount) (gap : List Char) (t : Numeral) :
    (a.join gap t).numerals = a.numerals ++ [t] := by simp [numerals, join]

theorem numerals_eq (a : Amount) : a.numerals = a.numerals.dropLast ++ [a.last] := by
  have hlast : a.numerals.getLast? = some a.last := by
    simp [numerals, last, List.getLast?_cons, List.getLast?_map]
  exact (List.dropLast_append_getLast? _ hlast).symm

theorem numerals_regroup (a : Amount) (rest : List (List Char × Numeral)) :
    (regroup a rest).flatMap numerals = a.numerals ++ rest.map (·.2) := by
  induction rest generalizing a with
  | nil => simp [regroup]
  | cons p rest ih =>
    obtain ⟨gap, t⟩ := p
    simp only [regroup]
    split
    · rw [ih, numerals_join]; simp
    · rw [List.flatMap_cons, ih]; simp

/-- The numbers of the series. -/
def Series.numerals (r : Series) : List Numeral := r.first :: r.rest.map (·.2)

theorem Series.numerals_amounts (r : Series) : r.amounts.flatMap Amount.numerals = r.numerals :=
  numerals_regroup (single r.first) r.rest

theorem Series.numerals_ofItems (items : List (Numeral × List Char)) :
    (ofItems items).flatMap numerals = items.map Prod.fst := by
  induction items with
  | nil => rfl
  | cons item rest ih =>
    obtain ⟨t, gap⟩ := item
    rw [ofItems_cons, List.map_cons, ← ih]
    cases ofItems rest with
    | nil => rfl
    | cons r others => simp only [extend]; split <;> rfl

theorem numerals_find (cs : List Char) :
    (find cs).amounts.flatMap numerals = (Layout.ofText cs).items.map Prod.fst := by
  rw [← Series.numerals_ofItems]
  simp only [find, seriesIn, List.flatMap_assoc, Series.numerals_amounts]

theorem mem_items_of_find {cs : List Char} {a : Amount} (ha : a ∈ (find cs).amounts) {t : Numeral}
    (ht : t ∈ a.numerals) : t ∈ (Layout.ofText cs).items.map Prod.fst := by
  rw [← numerals_find]
  exact List.mem_flatMap.2 ⟨a, ha, ht⟩

/-- The numbers of a text are proper. -/
theorem proper_of_mem_items {cs : List Char} {t : Numeral}
    (h : t ∈ (Layout.ofText cs).items.map Prod.fst) : t.IsProper := by
  obtain ⟨item, hi, rfl⟩ := List.mem_map.1 h
  exact Layout.cut_proper 0 false cs item hi

/-- The numbers of a text stand in it. -/
theorem subset_of_mem_items {cs : List Char} {t : Numeral}
    (h : t ∈ (Layout.ofText cs).items.map Prod.fst) : t.text ⊆ cs := by
  obtain ⟨item, hi, rfl⟩ := List.mem_map.1 h
  intro c hc
  rw [← Layout.text_ofText cs]
  exact List.mem_append_right _
    (List.mem_flatMap.2 ⟨item, hi, List.mem_append_left _ hc⟩)

/-! ## Grouped amounts -/

/-- Single separators stand between the numbers of the amount, the first number can lead groups and
the others are groups of thousands, and none but the last has decimals. -/
structure IsGrouped (a : Amount) : Prop where
  gap : ∀ g ∈ a.groups, (Spacing.ofText g.1).canJoin = true
  group : ∀ g ∈ a.groups, g.2.isThousands = true
  leads : a.groups ≠ [] → a.head.canLead = true
  decimal : ∀ t ∈ a.numerals.dropLast, t.tail = []

theorem isGrouped_single (t : Numeral) : (single t).IsGrouped where
  gap := by simp [single]
  group := by simp [single]
  leads h := absurd rfl h
  decimal := by simp

theorem IsGrouped.join {a : Amount} {gap : List Char} {t : Numeral} (ha : a.IsGrouped)
    (ht : a.takes gap t = true) : (a.join gap t).IsGrouped := by
  simp only [takes, Bool.and_eq_true, Bool.not_eq_true'] at ht
  obtain ⟨⟨⟨hlead, hlast⟩, hgap⟩, hgroup⟩ := ht
  have hmem : ∀ g ∈ (a.join gap t).groups, g ∈ a.groups ∨ g = (gap, t) := by simp [Amount.join]
  refine ⟨fun g hg => ?_, fun g hg => ?_, fun _ => hlead, ?_⟩
  · rcases hmem g hg with h | rfl
    · exact ha.gap g h
    · exact hgap
  · rcases hmem g hg with h | rfl
    · exact ha.group g h
    · exact hgroup
  · rw [numerals_join, List.dropLast_concat]
    intro u hu
    rw [numerals_eq a] at hu
    rcases List.mem_append.1 hu with h | h
    · exact ha.decimal u h
    · rw [List.mem_singleton.1 h]
      simpa [Numeral.isDecimal] using hlast

theorem isGrouped_regroup {a : Amount} (ha : a.IsGrouped) (rest : List (List Char × Numeral)) :
    ∀ b ∈ regroup a rest, b.IsGrouped := by
  induction rest generalizing a with
  | nil => simpa [regroup] using ha
  | cons p rest ih =>
    obtain ⟨gap, t⟩ := p
    simp only [regroup]
    split
    · next ht => exact ih (ha.join ht)
    · intro b hb
      rcases List.mem_cons.1 hb with rfl | hb
      · exact ha
      · exact ih (isGrouped_single t) b hb

/-- An amount takes all its numbers again if they follow each other in a series. -/
theorem regroup_groups {a : Amount} (ha : a.IsGrouped) (rest : List (List Char × Numeral)) :
    regroup (single a.head) (a.groups ++ rest) = regroup a rest := by
  obtain ⟨head, groups⟩ := a
  suffices ∀ taken todo, groups = taken ++ todo →
      regroup ⟨head, taken⟩ (todo ++ rest) = regroup ⟨head, groups⟩ rest from this [] groups rfl
  intro taken todo
  induction todo generalizing taken with
  | nil => intro he; rw [he, List.append_nil]; rfl
  | cons g todo ih =>
    intro he
    obtain ⟨gap, t⟩ := g
    have hg : (gap, t) ∈ groups := by simp [he]
    have hlast : (Amount.mk head taken).last.tail = [] := by
      refine ha.decimal _ ?_
      have hnum : (Amount.mk head groups).numerals =
          (Amount.mk head taken).numerals ++ t :: todo.map (·.2) := by simp [numerals, he]
      rw [hnum, List.dropLast_append_of_ne_nil (List.cons_ne_nil _ _), numerals_eq]
      simp
    have htakes : (Amount.mk head taken).takes gap t = true := by
      have hlead := ha.leads (List.ne_nil_of_mem hg)
      simp [takes, hlead, Numeral.isDecimal, hlast, ha.gap _ hg, ha.group _ hg]
    rw [List.cons_append, regroup, if_pos htakes]
    exact ih (taken ++ [(gap, t)]) (by simp [he])

/-- A grouped amount of proper numbers. -/
structure IsProper (a : Amount) : Prop where
  grouped : a.IsGrouped
  numeral : ∀ t ∈ a.numerals, t.IsProper

theorem isProper_find (cs : List Char) : ∀ a ∈ (find cs).amounts, a.IsProper := by
  intro a ha
  constructor
  · obtain ⟨r, -, hr⟩ := List.mem_flatMap.1 ha
    exact isGrouped_regroup (isGrouped_single r.first) r.rest a hr
  · exact fun t ht => proper_of_mem_items (mem_items_of_find ha ht)

/-! ## Price triples -/

/-- The amounts of the triple. -/
def Triple.amounts (t : Triple) : List Amount := [t.low, t.mean, t.high]

theorem Series.triple?_amounts {r : Series} {t : Triple} (h : r.triple? = some t) :
    (∃ others, r.amounts = t.amounts ++ others) ∨ t.amounts = r.numerals.map single := by
  simp only [triple?] at h
  split at h
  · next hr =>
    cases h
    exact Or.inl ⟨_, hr⟩
  · obtain ⟨first, rest⟩ := r
    simp only [threeNumbers?] at h
    split at h
    · split at h
      · cases h
        exact Or.inr rfl
      · cases h
    · cases h

/-- The amounts of a triple are some of the amounts of the text, or numbers of it taken alone. -/
theorem triple_find {cs : List Char} {t : Triple} (h : (find cs).triple = some t) :
    (∀ a ∈ t.amounts, a ∈ (find cs).amounts) ∨
      ∀ a ∈ t.amounts, ∃ u ∈ (Layout.ofText cs).items.map Prod.fst, a = single u := by
  obtain ⟨r, hr, ht⟩ := List.exists_of_findSome?_eq_some h
  rcases Series.triple?_amounts ht with ⟨others, he⟩ | he
  · refine Or.inl fun a ha => List.mem_flatMap.2 ⟨r, hr, ?_⟩
    rw [he]
    exact List.mem_append_left _ ha
  · refine Or.inr fun a ha => ?_
    rw [he] at ha
    obtain ⟨u, hu, rfl⟩ := List.mem_map.1 ha
    refine ⟨u, ?_, rfl⟩
    rw [← Series.numerals_ofItems]
    exact List.mem_flatMap.2 ⟨r, hr, hu⟩

theorem mem_items_of_triple {cs : List Char} {t : Triple} (h : (find cs).triple = some t)
    {a : Amount} (ha : a ∈ t.amounts) {u : Numeral} (hu : u ∈ a.numerals) :
    u ∈ (Layout.ofText cs).items.map Prod.fst := by
  rcases triple_find h with hall | hall
  · exact mem_items_of_find (hall a ha) hu
  · obtain ⟨v, hv, rfl⟩ := hall a ha
    rwa [List.mem_singleton.1 hu]

theorem isProper_triple {cs : List Char} {t : Triple} (h : (find cs).triple = some t) :
    ∀ a ∈ t.amounts, a.IsProper := by
  intro a ha
  rcases triple_find h with hall | hall
  · exact isProper_find cs a (hall a ha)
  · obtain ⟨u, -, rfl⟩ := hall a ha
    exact ⟨isGrouped_single u, fun v hv => proper_of_mem_items (mem_items_of_triple h ha hv)⟩

/-! ## The amounts that are read -/

/-- The amounts that a line is read by: those of the triple, or else the first two. -/
def Found.read (f : Found) : List Amount :=
  match f.triple with
  | some t => t.amounts
  | none => f.amounts.take 2

theorem isProper_read (cs : List Char) : ∀ a ∈ (find cs).read, a.IsProper := by
  intro a ha
  simp only [Found.read] at ha
  split at ha
  · next t ht => exact isProper_triple ht a ha
  · exact isProper_find cs a (List.mem_of_mem_take ha)

end Amount

end PriceSurvey
