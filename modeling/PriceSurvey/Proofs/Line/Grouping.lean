import Mathlib.Data.List.Forall2
import PriceSurvey.Line.Reading

/-!
# The one way to group lines

A grouping of a list of lines cuts it into groups that are *legal*: a blank line, a ruler, or lines
of text with a priced line behind them, or with nothing behind them that they could go on with. How
many lines the first group takes can be seen from the list, so there is one grouping only, and
gathering the lines gives it.

Results:
* `IsLegal.unique`: two legal groups in front of one list are the same.
* `IsGrouping.unique`: a list has one grouping at most.
* `isGrouping_gather`: the lines that wait and the lines that come are grouped together.
* `ofTrimmed_with_raw`, `ofLogical_eq_ofTrimmed`: a logical line is read by its text, and the
  evidence makes no difference.
* `isGrouping_iff_and_evidence`: the logical lines of a list are its one grouping, and the price
  lines keep the lines of their groups as they stand.
-/
namespace PriceSurvey

open Text

/-! ## Lines read as one -/

/-- Lines of text cannot go on with these lines: a blank line or a ruler is first, or there are
none. -/
def EndsText (after : List String) : Prop :=
  ∀ raw ∈ after.head?, LineShape.ofLine raw = .blank ∨ LineShape.ofLine raw = .ruler

/-- Lines that may be read as one in front of the lines `after`. -/
inductive IsBlock (after : List String) : List String → Prop
  | ruler {raw : String} (h : LineShape.ofLine raw = .ruler) : IsBlock after [raw]
  | priced {texts : List String} {raw : String} (ht : ∀ t ∈ texts, LineShape.ofLine t = .text)
      (h : LineShape.ofLine raw = .priced) : IsBlock after (texts ++ [raw])
  | text {texts : List String} (hne : texts ≠ []) (ht : ∀ t ∈ texts, LineShape.ofLine t = .text)
      (h : EndsText after) : IsBlock after texts

namespace IsBlock

variable {after lines : List String}

theorem ne_nil (h : IsBlock after lines) : lines ≠ [] := by
  cases h with
  | ruler => simp
  | priced => simp
  | text hne => exact hne

theorem not_blank (h : IsBlock after lines) : ∀ raw ∈ lines, LineShape.ofLine raw ≠ .blank := by
  intro raw hr
  cases h with
  | ruler h =>
    obtain rfl := List.mem_singleton.1 hr
    simp [h]
  | priced ht h =>
    rcases List.mem_append.1 hr with hr | hr
    · simp [ht raw hr]
    · obtain rfl := List.mem_singleton.1 hr
      simp [h]
  | text _ ht _ => simp [ht raw hr]

end IsBlock

/-- The text that lines make: trimmed, with a blank between them. -/
def mergedText (raws : List String) : List Char :=
  [' '].intercalate (raws.map fun raw => trim raw.toList)

/-- A line is blank if nothing is left of it when it is trimmed. -/
theorem ofLine_eq_blank_iff {raw : String} :
    LineShape.ofLine raw = .blank ↔ trim raw.toList = [] := by
  unfold LineShape.ofLine LineShape.ofTrimmed
  split
  · next h => simpa using h
  · next h =>
    refine iff_of_false (fun hs => ?_) (by simpa using h)
    split at hs
    · cases hs
    · split at hs <;> cases hs

theorem mergedText_ne_nil {after lines : List String} (h : IsBlock after lines) :
    mergedText lines ≠ [] := by
  obtain ⟨raw, rest, rfl⟩ := List.exists_cons_of_ne_nil h.ne_nil
  have hraw : trim raw.toList ≠ [] := fun he =>
    h.not_blank raw List.mem_cons_self (ofLine_eq_blank_iff.2 he)
  cases rest with
  | nil => simpa [mergedText] using hraw
  | cons raw' rest => simp [mergedText, List.intercalate_cons_cons, hraw]

/-! ## The first group of a list -/

/-- The line is plain text. -/
def isText (raw : String) : Bool := LineShape.ofLine raw = .text

/-- How many lines the first group takes: the text in front, and the priced line behind it; or else
one line at least. -/
def firstLength (lines : List String) : Nat :=
  let texts := lines.takeWhile isText
  if (lines.dropWhile isText).head?.any fun raw => LineShape.ofLine raw = .priced then
    texts.length + 1
  else max 1 texts.length

theorem span_texts {texts : List String} (h : ∀ t ∈ texts, LineShape.ofLine t = .text)
    {after : List String} (hafter : ∀ raw ∈ after.head?, LineShape.ofLine raw ≠ .text) :
    (texts ++ after).takeWhile isText = texts ∧ (texts ++ after).dropWhile isText = after := by
  have hall : ∀ t ∈ texts, isText t = true := fun t ht => by simp [isText, h t ht]
  rw [List.takeWhile_append_of_pos hall, List.dropWhile_append_of_pos hall]
  cases after with
  | nil => simp
  | cons raw rest =>
    have hraw : isText raw = false := by simpa [isText] using hafter raw rfl
    simp [hraw]

theorem firstLength_append {texts : List String} (h : ∀ t ∈ texts, LineShape.ofLine t = .text)
    {after : List String} (hafter : ∀ raw ∈ after.head?, LineShape.ofLine raw ≠ .text) :
    firstLength (texts ++ after) =
      if after.head?.any fun raw => LineShape.ofLine raw = .priced then texts.length + 1
      else max 1 texts.length := by
  obtain ⟨htake, hdrop⟩ := span_texts h hafter
  rw [firstLength, htake, hdrop]

theorem firstLength_cons {raw : String} (h : LineShape.ofLine raw ≠ .text) (after : List String) :
    firstLength (raw :: after) = 1 := by
  have := @firstLength_append [] (by simp) (raw :: after) (by simpa using h)
  simpa using this

theorem IsBlock.length_eq {after lines : List String} (h : IsBlock after lines) :
    lines.length = firstLength (lines ++ after) := by
  cases h with
  | ruler h => simp [firstLength_cons (by rw [h]; decide) after]
  | @priced texts raw ht h =>
    rw [List.append_assoc, List.singleton_append, firstLength_append ht (by simp [h])]
    simp [h]
  | text hne ht h =>
    have hpos := List.length_pos_iff.2 hne
    have hnext : ∀ raw ∈ after.head?, LineShape.ofLine raw ≠ .text ∧
        LineShape.ofLine raw ≠ .priced := by
      intro raw hr
      rcases h raw hr with h | h <;> simp [h]
    have hopen : ¬after.head?.any (fun raw => LineShape.ofLine raw = .priced) = true := by
      intro ha
      obtain ⟨raw, hr, hs⟩ := (Option.any_eq_true _ _).1 ha
      exact (hnext raw hr).2 (of_decide_eq_true hs)
    rw [firstLength_append ht fun raw hr => (hnext raw hr).1, if_neg hopen]
    omega

/-! ## Groupings -/

namespace LogicalLine

/-- A blank line alone, or a block with the text that its lines make, which is not empty. -/
def IsLegal (after : List String) : LogicalLine → Prop
  | .blank raw => LineShape.ofLine raw = .blank
  | .lines block =>
    IsBlock after block.raws ∧ block.text = mergedText block.raws ∧ block.text ≠ []

/-- The groups hold the lines, and each is legal in front of the lines of those behind it. -/
structure IsGrouping (lines : List String) (gs : List LogicalLine) : Prop where
  flat : gs.flatMap raws = lines
  legal : ∀ front g behind, gs = front ++ g :: behind → g.IsLegal (behind.flatMap raws)

variable {lines after after' : List String} {g g' : LogicalLine} {gs gs' : List LogicalLine}

theorem IsLegal.raws_ne_nil (h : g.IsLegal after) : g.raws ≠ [] := by
  cases g with
  | blank raw => simp [raws]
  | lines block => exact h.1.ne_nil

theorem IsLegal.length_eq (h : g.IsLegal after) :
    g.raws.length = firstLength (g.raws ++ after) := by
  cases g with
  | blank raw =>
    have hb : LineShape.ofLine raw = .blank := h
    exact (firstLength_cons (by rw [hb]; decide) after).symm
  | lines block => exact h.1.length_eq

/-- Two legal groups in front of one list are the same. -/
theorem IsLegal.unique (h : g.IsLegal after) (h' : g'.IsLegal after')
    (he : g.raws ++ after = g'.raws ++ after') : g = g' ∧ after = after' := by
  have hlen : g.raws.length = g'.raws.length := by rw [h.length_eq, h'.length_eq, he]
  obtain ⟨hraws, rfl⟩ := List.append_inj he hlen
  refine ⟨?_, rfl⟩
  match g, g', hraws with
  | .blank raw, .blank raw', hraws =>
    obtain rfl : raw = raw' := by simpa [raws] using hraws
    rfl
  | .blank raw, .lines ⟨raws', text'⟩, hraws =>
    obtain rfl : [raw] = raws' := hraws
    exact absurd h (h'.1.not_blank raw List.mem_cons_self)
  | .lines ⟨raws, text⟩, .blank raw, hraws =>
    obtain rfl : raws = [raw] := hraws
    exact absurd h' (h.1.not_blank raw List.mem_cons_self)
  | .lines ⟨raws, text⟩, .lines ⟨raws', text'⟩, hraws =>
    obtain rfl : raws = raws' := hraws
    obtain rfl : text = text' := h.2.1.trans h'.2.1.symm
    rfl

theorem isGrouping_nil : IsGrouping lines [] ↔ lines = [] := by
  constructor
  · intro h
    exact h.flat.symm
  · rintro rfl
    exact ⟨rfl, fun front g behind h => by simp at h⟩

theorem isGrouping_cons : IsGrouping lines (g :: gs) ↔
    ∃ after, lines = g.raws ++ after ∧ g.IsLegal after ∧ IsGrouping after gs := by
  constructor
  · intro h
    refine ⟨gs.flatMap raws, h.flat.symm, h.legal [] g gs rfl, rfl, fun front g' behind he => ?_⟩
    exact h.legal (g :: front) g' behind (by rw [he]; rfl)
  · rintro ⟨after, rfl, hg, hgs⟩
    refine ⟨by rw [List.flatMap_cons, hgs.flat], fun front g' behind he => ?_⟩
    cases front with
    | nil =>
      obtain ⟨rfl, rfl⟩ : g = g' ∧ gs = behind := by simpa using he
      rwa [hgs.flat]
    | cons g₀ front =>
      obtain ⟨-, he⟩ : g = g₀ ∧ gs = front ++ g' :: behind := by simpa using he
      exact hgs.legal front g' behind he

/-- A list has one grouping at most: group by group, both take the same lines. -/
theorem IsGrouping.unique (h : IsGrouping lines gs) (h' : IsGrouping lines gs') : gs = gs' := by
  induction gs generalizing lines gs' with
  | nil =>
    obtain rfl := isGrouping_nil.1 h
    cases gs' with
    | nil => rfl
    | cons g' gs' =>
      obtain ⟨after', he, hg', -⟩ := isGrouping_cons.1 h'
      exact absurd (List.append_eq_nil_iff.1 he.symm).1 hg'.raws_ne_nil
  | cons g gs ih =>
    obtain ⟨after, rfl, hg, hgs⟩ := isGrouping_cons.1 h
    cases gs' with
    | nil => exact absurd (List.append_eq_nil_iff.1 (isGrouping_nil.1 h')).1 hg.raws_ne_nil
    | cons g' gs' =>
      obtain ⟨after', he, hg', hgs'⟩ := isGrouping_cons.1 h'
      obtain ⟨rfl, rfl⟩ := hg.unique hg' he
      rw [ih hgs hgs']

end LogicalLine

/-! ## Lines that wait -/

namespace Pending

/-- The texts that wait are those of the lines that wait. -/
def InStep (p : Pending) : Prop := p.texts = p.raws.map fun raw => trim raw.toList

theorem inStep_empty : InStep {} := rfl

theorem inStep_push {p : Pending} (h : p.InStep) (raw : String) :
    (p.push raw (trim raw.toList)).InStep := by
  unfold InStep at h
  simp [InStep, push, h]

end Pending

namespace LogicalLine

/-- Closing the lines that wait puts the group they make in front. -/
theorem isGrouping_close {p : Pending} {after : List String} {gs : List LogicalLine}
    (hp : p.InStep) (hb : p.raws ≠ [] → IsBlock after p.raws) (h : IsGrouping after gs) :
    IsGrouping (p.raws ++ after) (p.close ++ gs) := by
  by_cases hne : p.raws = []
  · simpa [Pending.close, hne] using h
  · have hblock := hb hne
    rw [Pending.close, if_neg (by simpa using hne), hp]
    exact isGrouping_cons.2 ⟨after, rfl, ⟨hblock, rfl, mergedText_ne_nil hblock⟩, h⟩

/-- The lines of text that wait and the lines that come are grouped together. -/
theorem isGrouping_gather {p : Pending} (hp : p.InStep)
    (ht : ∀ raw ∈ p.raws, LineShape.ofLine raw = .text) (lines : List String) :
    IsGrouping (p.raws ++ lines) (gather p lines) := by
  induction lines generalizing p with
  | nil =>
    have := isGrouping_close hp (fun hne => .text hne ht (by simp [EndsText]))
      (isGrouping_nil.2 rfl)
    simpa [gather] using this
  | cons raw rest ih =>
    have hrest := ih Pending.inStep_empty (by simp)
    rw [gather]
    split
    · next hs =>
      refine isGrouping_close hp (fun hne => .text hne ht ?_)
        (isGrouping_cons.2 ⟨rest, rfl, hs, hrest⟩)
      simp [EndsText, LineShape.ofLine, hs]
    · next hs =>
      have hblock : IsBlock rest (p.raws ++ [raw]) := .priced ht hs
      have := isGrouping_close (Pending.inStep_push hp raw) (fun _ => hblock) hrest
      simpa [Pending.push] using this
    · next hs =>
      have hblock : IsBlock rest [raw] := .ruler hs
      have hmerged : mergedText [raw] = trim raw.toList := by simp [mergedText]
      refine isGrouping_close hp (fun hne => .text hne ht ?_)
        (isGrouping_cons.2 ⟨rest, rfl, ⟨hblock, hmerged.symm, ?_⟩, hrest⟩)
      · simp [EndsText, LineShape.ofLine, hs]
      · exact hmerged ▸ mergedText_ne_nil hblock
    · next hs =>
      have hpush : ∀ raw' ∈ (p.push raw (trim raw.toList)).raws,
          LineShape.ofLine raw' = .text := by
        intro raw' hr
        rcases List.mem_append.1 hr with hr | hr
        · exact ht raw' hr
        · obtain rfl := List.mem_singleton.1 hr
          exact hs
      have := ih (Pending.inStep_push hp raw) hpush
      simpa [Pending.push] using this

theorem isGrouping_ofLines (lines : List String) : IsGrouping lines (ofLines lines) :=
  isGrouping_gather (p := {}) Pending.inStep_empty (by simp) lines

theorem exists_isLegal_of_mem {lines : List String} {g : LogicalLine} (h : g ∈ ofLines lines) :
    ∃ after, g.IsLegal after := by
  obtain ⟨front, behind, he⟩ := List.append_of_mem h
  exact ⟨_, (isGrouping_ofLines lines).legal front g behind he⟩

end LogicalLine

/-! ## The evidence -/

namespace PriceLine

variable (rule : UnitRule)

/-- What is read from a text does not depend on the evidence for it. -/
theorem ofTrimmed_with_raw (raw raw' : String) (text : List Char) :
    { ofTrimmed rule raw text with raw := raw' } = ofTrimmed rule raw' text := by
  unfold ofTrimmed
  split
  · rfl
  · split
    · rfl
    · simp only
      split
      · unfold ofTriple; split <;> rfl
      · unfold ofAmounts; split <;> rfl

theorem raw_ofTrimmed (raw : String) (text : List Char) : (ofTrimmed rule raw text).raw = raw := by
  rw [← ofTrimmed_with_raw rule raw raw text]

/-- A logical line is read by its text, a blank line by the empty one. -/
theorem ofLogical_eq_ofTrimmed (g : LogicalLine) :
    ofLogical rule g = ofTrimmed rule g.raw g.text := by
  cases g with
  | blank raw =>
    have hraw : (LogicalLine.blank raw).raw = raw := by simp [LogicalLine.raw, LogicalLine.raws]
    rw [hraw]
    rfl
  | lines block => rfl

theorem raw_ofLogical (g : LogicalLine) : (ofLogical rule g).raw = g.raw := by
  rw [ofLogical_eq_ofTrimmed, raw_ofTrimmed]

end PriceLine

/-- The logical lines of a list are its one grouping. The evidence of a price line is the line it is
read from, or its lines with bars between them. -/
theorem LogicalLine.isGrouping_iff_and_evidence (rule : UnitRule) (lines : List String) :
    (∀ gs, IsGrouping lines gs ↔ gs = ofLines lines) ∧
      List.Forall₂
        (fun g (line : PriceLine) =>
          line.raw = " | ".intercalate g.raws ∧ ∀ raw, g.raws = [raw] → line.raw = raw)
        (ofLines lines) (PriceLine.readAll rule lines) := by
  refine ⟨fun gs => ⟨fun h => h.unique (isGrouping_ofLines lines), ?_⟩, ?_⟩
  · rintro rfl
    exact isGrouping_ofLines lines
  · rw [PriceLine.readAll, List.forall₂_map_right_iff, List.forall₂_same]
    intro g _
    refine ⟨PriceLine.raw_ofLogical rule g, fun raw hr => ?_⟩
    rw [PriceLine.raw_ofLogical, LogicalLine.raw, hr]
    simp

end PriceSurvey
