import PriceSurvey.Proofs.Line.Border
import PriceSurvey.Proofs.Line.Status

/-!
# Lists of lines and single texts

A list is read as its logical lines are read one by one: each is the line of the text that its lines
make, and differs from what that text gives alone in nothing but the evidence. For a logical line
of one line there is no difference, so a list in which no line goes on with the next is read line by
line.

Results:
* `text_of_mem`: what the logical lines of a list are read by.
* `ofLogical_of_mem`: a logical line of a list, by what its text gives alone.
* `readAll_of_isChain`: a list in which no line goes on.
* `readAll_agrees_with_ofText`: lists of lines are read as single texts are.
-/
namespace PriceSurvey

open Text

namespace LogicalLine

/-- The text of a logical line of a list is made of its lines, if it is blank, too. -/
theorem text_of_mem {lines : List String} {g : LogicalLine} (h : g ∈ ofLines lines) :
    g.text = mergedText g.raws := by
  obtain ⟨after, hg⟩ := exists_isLegal_of_mem h
  cases g with
  | blank raw =>
    have hempty : trim raw.toList = [] := ofLine_eq_blank_iff.1 hg
    simp [text, raws, mergedText, hempty]
  | lines block => exact hg.2.1

end LogicalLine

namespace PriceLine

variable (rule : UnitRule)

/-- The line that the text of lines gives alone, with these lines for evidence. -/
def ofMerged (raws : List String) : PriceLine :=
  { ofText rule (String.ofList (mergedText raws)) with raw := " | ".intercalate raws }

theorem ofMerged_eq (raws : List String) :
    ofMerged rule raws = ofTrimmed rule (" | ".intercalate raws) (trim (mergedText raws)) := by
  rw [ofMerged, ofText, String.toList_ofList, ofTrimmed_with_raw]

theorem ofMerged_singleton (raw : String) : ofMerged rule [raw] = ofText rule raw := by
  have htext : mergedText [raw] = trim raw.toList := by simp [mergedText]
  have hraw : " | ".intercalate [raw] = raw := by simp
  rw [ofMerged_eq, htext, hraw, trim_idem, ofText]

variable {lines : List String}

/-- A logical line of a list is read as its text alone, apart from the evidence. -/
theorem ofLogical_of_mem {g : LogicalLine} (h : g ∈ LogicalLine.ofLines lines) :
    ofLogical rule g = ofMerged rule g.raws := by
  have htrim := trim_eq_self (LogicalLine.isTrimmed_text h)
  rw [LogicalLine.text_of_mem h] at htrim
  rw [ofLogical_eq_ofTrimmed, LogicalLine.text_of_mem h, ofMerged_eq, htrim, LogicalLine.raw]

theorem readAll_eq_map_ofMerged (lines : List String) :
    readAll rule lines = (LogicalLine.ofLines lines).map fun g => ofMerged rule g.raws :=
  List.map_congr_left fun _ hg => ofLogical_of_mem rule hg

/-- A list of one line has one logical line, which is this line. -/
theorem readAll_singleton (raw : String) : readAll rule [raw] = [ofText rule raw] := by
  have hlength := LogicalLine.length_ofLines_add_joints [raw]
  have hflat := LogicalLine.raws_ofLines [raw]
  obtain ⟨g, hg⟩ := List.length_eq_one_iff.1 hlength
  rw [hg, List.flatMap_singleton] at hflat
  rw [readAll_eq_map_ofMerged, hg, List.map_singleton, hflat, ofMerged_singleton]

/-- A list in which no line goes on with the next is read line by line. -/
theorem readAll_of_isChain (h : lines.IsChain fun raw next => ¬GoesOn raw next) :
    readAll rule lines = lines.map (ofText rule) := by
  induction lines with
  | nil => rfl
  | cons raw rest ih =>
    have hborder : IsBorder [raw] rest := by
      refine isBorder_iff.2 fun last hl next hn => ?_
      obtain rfl : raw = last := by simpa using hl
      exact h.rel_head? hn
    rw [List.map_cons, ← ih h.tail, ← List.singleton_append, readAll_append rule hborder,
      readAll_singleton, List.singleton_append]

/-- The lines of a list are those that the texts of its logical lines give alone, with the lines of
each for evidence. A logical line of one line gives what this line gives alone, and if no line goes
on with the next, so does every line of the list. -/
theorem readAll_agrees_with_ofText (lines : List String) :
    readAll rule lines = (LogicalLine.ofLines lines).map (fun g => ofMerged rule g.raws) ∧
      (∀ (k : Nat) g raw, (LogicalLine.ofLines lines)[k]? = some g → g.raws = [raw] →
        (readAll rule lines)[k]? = some (ofText rule raw)) ∧
      (lines.IsChain (fun raw next => ¬GoesOn raw next) →
        readAll rule lines = lines.map (ofText rule)) := by
  have hread := readAll_eq_map_ofMerged rule lines
  refine ⟨hread, fun k g raw hk hg => ?_, readAll_of_isChain rule⟩
  rw [hread, List.getElem?_map, hk, Option.map_some, hg, ofMerged_singleton]

/-- A ruler behind a name and its prices is read as it is alone, and a list without names that go on
is read line by line. -/
theorem readAll_agrees_with_ofText_oil :
    (LogicalLine.ofLines ["Huile d'arachide", " raffinee Litre 1500 1750 2000", "==== "])[1]? =
        some (.lines ⟨["==== "], ['=', '=', '=', '=']⟩) ∧
      (readAll {} ["Huile d'arachide", " raffinee Litre 1500 1750 2000", "==== "])[1]? =
        some (ofText {} "==== ") ∧
      ["Sucre kg 600 650 7000", "   ", "Gomme", "|||"].IsChain (fun raw next => ¬GoesOn raw next) ∧
      readAll {} ["Sucre kg 600 650 7000", "   ", "Gomme", "|||"] =
        ["Sucre kg 600 650 7000", "   ", "Gomme", "|||"].map (ofText {}) := by
  have hruler : (LogicalLine.ofLines
      ["Huile d'arachide", " raffinee Litre 1500 1750 2000", "==== "])[1]? =
        some (.lines ⟨["==== "], ['=', '=', '=', '=']⟩) := by decide +kernel
  have hchain : ["Sucre kg 600 650 7000", "   ", "Gomme", "|||"].IsChain
      fun raw next => ¬GoesOn raw next := by decide +kernel
  exact ⟨hruler, (readAll_agrees_with_ofText {} _).2.1 1 _ _ hruler rfl, hchain,
    (readAll_agrees_with_ofText {} _).2.2 hchain⟩

end PriceLine

end PriceSurvey
