import Mathlib.Data.List.Chain
import PriceSurvey.Proofs.Line.Grouping

/-!
# Cutting a list of lines

A line of text goes on with the next line if that is text too or has prices. Between any other two
lines there is a border: a list can be cut there, and the parts are grouped as they are in the
whole list. Inside a group every line goes on with the next, so there are as many groups as lines,
less the places where a line goes on.

Results:
* `joints_append`: where two lists meet, there is a border or one joint more.
* `joints_add_one_of_isChain`, `IsLegal.isBorder`: the joints of a group, and its end.
* `IsGrouping.append`, `IsGrouping.length_add_joints`: groupings of two lists, and how many groups
  there are.
* `ofLines_append_iff_and_length`: the logical lines of two lists are those of the two together
  exactly if there is a border between them, and each joint makes one less.
-/
namespace PriceSurvey

/-! ## Where lines go on -/

/-- A line of text goes on with the next line, which is text too or has prices. -/
def GoesOn (raw next : String) : Prop :=
  LineShape.ofLine raw = .text ∧ (LineShape.ofLine next = .text ∨ LineShape.ofLine next = .priced)

instance (raw next : String) : Decidable (GoesOn raw next) := inferInstanceAs (Decidable (_ ∧ _))

/-- The number of places where a line goes on with the next. -/
def joints (lines : List String) : Nat := (lines.zip lines.tail).countP fun p => GoesOn p.1 p.2

/-- The list in front is empty or does not end with text, or the list behind is empty or starts with
a blank line or a ruler. -/
def IsBorder (front behind : List String) : Prop :=
  (∀ raw ∈ front.getLast?, LineShape.ofLine raw ≠ .text) ∨ EndsText behind

instance (front behind : List String) : Decidable (IsBorder front behind) :=
  inferInstanceAs (Decidable ((∀ raw ∈ front.getLast?, _) ∨ ∀ raw ∈ behind.head?, _))

theorem isBorder_iff {front behind : List String} : IsBorder front behind ↔
    ∀ raw ∈ front.getLast?, ∀ next ∈ behind.head?, ¬GoesOn raw next := by
  constructor
  · rintro (h | h) raw hr next hn ⟨htext, hnext⟩
    · exact h raw hr htext
    · rcases h next hn with hs | hs <;> simp [hs] at hnext
  · intro h
    by_cases hlast : ∀ raw ∈ front.getLast?, LineShape.ofLine raw ≠ .text
    · exact Or.inl hlast
    · obtain ⟨raw, hr, htext⟩ : ∃ raw ∈ front.getLast?, LineShape.ofLine raw = .text := by
        simpa using hlast
      refine Or.inr fun next hn => ?_
      have hnot := h raw hr next hn
      cases hs : LineShape.ofLine next with
      | blank => exact Or.inl rfl
      | ruler => exact Or.inr rfl
      | priced => exact absurd ⟨htext, Or.inr hs⟩ hnot
      | text => exact absurd ⟨htext, Or.inl hs⟩ hnot

theorem isBorder_concat (front : List String) {behind : List String} {raw : String}
    (h : LineShape.ofLine raw ≠ .text) : IsBorder (front ++ [raw]) behind :=
  Or.inl fun last hl => by
    obtain rfl : raw = last := by simpa using hl
    exact h

/-- Lines further in front do not matter for a border. -/
theorem IsBorder.of_append {front between behind : List String}
    (h : IsBorder (front ++ between) behind) : IsBorder between behind := by
  refine h.imp_left fun hlast raw hr => hlast raw ?_
  rw [List.getLast?_append, Option.mem_def.1 hr, Option.some_or]
  rfl

theorem joints_cons_cons (raw next : String) (rest : List String) :
    joints (raw :: next :: rest) = (if GoesOn raw next then 1 else 0) + joints (next :: rest) := by
  simp only [joints, List.tail_cons, List.zip_cons_cons, List.countP_cons, decide_eq_true_eq]
  exact Nat.add_comm _ _

/-- Where two lists meet, there is a border or one joint more. -/
theorem joints_append (front behind : List String) :
    joints (front ++ behind) =
      joints front + joints behind + if IsBorder front behind then 0 else 1 := by
  induction front with
  | nil => simp [joints, IsBorder]
  | cons raw rest ih =>
    cases rest with
    | nil =>
      cases behind with
      | nil => simp [joints, isBorder_iff]
      | cons next more =>
        have hborder : IsBorder [raw] (next :: more) ↔ ¬GoesOn raw next := by simp [isBorder_iff]
        have hone : joints [raw] = 0 := rfl
        rw [List.singleton_append, joints_cons_cons, hone]
        by_cases h : GoesOn raw next <;> simp [hborder, h, Nat.add_comm]
    | cons raw' rest =>
      have hborder : IsBorder (raw :: raw' :: rest) behind ↔ IsBorder (raw' :: rest) behind := by
        simp [isBorder_iff]
      rw [List.cons_append, List.cons_append, joints_cons_cons, ← List.cons_append, ih,
        joints_cons_cons]
      simp only [hborder]
      omega

/-- Lines that go on to the last have one joint less than lines. -/
theorem joints_add_one_of_isChain {lines : List String} (h : lines.IsChain GoesOn)
    (hne : lines ≠ []) : joints lines + 1 = lines.length := by
  induction h with
  | nil => exact absurd rfl hne
  | singleton raw => rfl
  | cons_cons hgoes _ ih =>
    have := ih (List.cons_ne_nil _ _)
    rw [joints_cons_cons, if_pos hgoes, List.length_cons]
    omega

/-! ## Groups -/

/-- Lines of text go on to a line that they can go on with. -/
theorem isChain_concat {texts : List String} {raw : String}
    (ht : ∀ t ∈ texts, LineShape.ofLine t = .text)
    (h : LineShape.ofLine raw = .text ∨ LineShape.ofLine raw = .priced) :
    (texts ++ [raw]).IsChain GoesOn := by
  induction texts with
  | nil => exact .singleton raw
  | cons t texts ih =>
    have hrest := ih fun u hu => ht u (List.mem_cons_of_mem _ hu)
    have htext := ht t List.mem_cons_self
    cases texts with
    | nil => exact .cons_cons ⟨htext, h⟩ hrest
    | cons t' texts => exact .cons_cons ⟨htext, Or.inl (ht t' (by simp))⟩ hrest

namespace IsBlock

variable {after lines : List String}

theorem isChain (h : IsBlock after lines) : lines.IsChain GoesOn := by
  cases h with
  | ruler => exact .singleton _
  | priced ht h => exact isChain_concat ht (Or.inr h)
  | text hne ht _ =>
    obtain ⟨texts, last, rfl⟩ := (List.eq_nil_or_concat lines).resolve_left hne
    rw [List.concat_eq_append] at ht ⊢
    exact isChain_concat (fun t h => ht t (by simp [h])) (Or.inl (ht last (by simp)))

theorem isBorder (h : IsBlock after lines) : IsBorder lines after := by
  cases h with
  | @ruler raw h => exact isBorder_concat [] (by simp [h])
  | priced _ h => exact isBorder_concat _ (by simp [h])
  | text _ _ h => exact Or.inr h

/-- A block in front of a list stays one in front of a longer list, if that goes on behind a
border. -/
theorem append {behind : List String} (h : IsBlock after lines)
    (hb : IsBorder (lines ++ after) behind) : IsBlock (after ++ behind) lines := by
  cases h with
  | ruler h => exact .ruler h
  | priced ht h => exact .priced ht h
  | text hne ht h =>
    refine .text hne ht ?_
    cases after with
    | nil =>
      -- The block is the end of the list and ends with text, so the border is due to what follows.
      refine hb.resolve_left fun hlast => ?_
      have hl := List.getLast?_eq_some_getLast hne
      rw [List.append_nil] at hlast
      exact hlast _ hl (ht _ (List.getLast_mem hne))
    | cons raw rest => exact h

end IsBlock

namespace LogicalLine

variable {lines lines' after : List String} {g : LogicalLine} {gs gs' : List LogicalLine}

theorem IsLegal.isChain (h : g.IsLegal after) : g.raws.IsChain GoesOn := by
  cases g with
  | blank raw => exact .singleton raw
  | lines block => exact h.1.isChain

theorem IsLegal.isBorder (h : g.IsLegal after) : IsBorder g.raws after := by
  cases g with
  | blank raw =>
    have hb : LineShape.ofLine raw = .blank := h
    exact isBorder_concat [] (by simp [hb])
  | lines block => exact h.1.isBorder

theorem IsLegal.append (h : g.IsLegal after) (hb : IsBorder (g.raws ++ after) lines') :
    g.IsLegal (after ++ lines') := by
  cases g with
  | blank raw => exact h
  | lines block => exact ⟨h.1.append hb, h.2⟩

/-- Each joint between the lines makes one group less. -/
theorem IsGrouping.length_add_joints (h : IsGrouping lines gs) :
    gs.length + joints lines = lines.length := by
  induction gs generalizing lines with
  | nil =>
    obtain rfl := isGrouping_nil.1 h
    rfl
  | cons g gs ih =>
    obtain ⟨after, rfl, hg, hgs⟩ := isGrouping_cons.1 h
    have hgroup := joints_add_one_of_isChain hg.isChain hg.raws_ne_nil
    have hrest := ih hgs
    rw [joints_append, if_pos hg.isBorder, List.length_append, List.length_cons]
    omega

/-- Groupings of two lists are one of the lists together, if there is a border between them. -/
theorem IsGrouping.append (h : IsGrouping lines gs) (h' : IsGrouping lines' gs')
    (hb : IsBorder lines lines') : IsGrouping (lines ++ lines') (gs ++ gs') := by
  induction gs generalizing lines with
  | nil =>
    obtain rfl := isGrouping_nil.1 h
    exact h'
  | cons g gs ih =>
    obtain ⟨after, rfl, hg, hgs⟩ := isGrouping_cons.1 h
    rw [List.append_assoc, List.cons_append]
    exact isGrouping_cons.2 ⟨after ++ lines', rfl, hg.append hb, ih hgs hb.of_append⟩

/-! ## Logical lines -/

theorem ofLines_append (h : IsBorder lines lines') :
    ofLines (lines ++ lines') = ofLines lines ++ ofLines lines' :=
  (isGrouping_ofLines _).unique ((isGrouping_ofLines lines).append (isGrouping_ofLines lines') h)

theorem length_ofLines_add_joints (lines : List String) :
    (ofLines lines).length + joints lines = lines.length :=
  (isGrouping_ofLines lines).length_add_joints

/-- The number of logical lines tells a border. -/
theorem isBorder_of_length
    (h : (ofLines (lines ++ lines')).length = (ofLines lines).length + (ofLines lines').length) :
    IsBorder lines lines' := by
  refine Decidable.byContradiction fun hb => ?_
  have hwhole := length_ofLines_add_joints (lines ++ lines')
  have hfront := length_ofLines_add_joints lines
  have hbehind := length_ofLines_add_joints lines'
  rw [joints_append, if_neg hb, List.length_append] at hwhole
  omega

end LogicalLine

theorem PriceLine.readAll_append (rule : UnitRule) {lines lines' : List String}
    (h : IsBorder lines lines') :
    readAll rule (lines ++ lines') = readAll rule lines ++ readAll rule lines' := by
  rw [readAll, LogicalLine.ofLines_append h, List.map_append]
  rfl

/-- Two lists of lines can be grouped and read apart exactly if there is a border between them.
There are as many logical lines as lines, less the places where a line goes on with the next. -/
theorem LogicalLine.ofLines_append_iff_and_length (rule : UnitRule) :
    (∀ xs ys, (ofLines (xs ++ ys) = ofLines xs ++ ofLines ys ↔ IsBorder xs ys) ∧
      (PriceLine.readAll rule (xs ++ ys) = PriceLine.readAll rule xs ++ PriceLine.readAll rule ys ↔
        IsBorder xs ys)) ∧
      ∀ lines, (ofLines lines).length + joints lines = lines.length := by
  refine ⟨fun xs ys => ⟨⟨fun h => ?_, ofLines_append⟩, fun h => ?_,
    PriceLine.readAll_append rule⟩, length_ofLines_add_joints⟩
  · exact isBorder_of_length (by rw [h, List.length_append])
  · have hlength := congrArg List.length h
    simp only [PriceLine.readAll, List.length_append, List.length_map] at hlength
    exact isBorder_of_length hlength

end PriceSurvey
