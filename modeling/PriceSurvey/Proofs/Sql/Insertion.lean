import Mathlib.Algebra.GroupWithZero.Nat
import Mathlib.Data.List.Forall2
import PriceSurvey.Sql.Connection

/-!
# Insertions of evidence

Rows of evidence are cut into pieces of a thousand, and each piece is one insertion. Its text
numbers the parameters through, row by row, and its parameters stand in the order of the columns. So
what a column of a row is given can be read off text and parameters.

Results:
* `flatten_pieces`, `length_pieces`, `length_of_mem_pieces`, `length_of_mem_dropLast_pieces`: how
  rows are cut.
* `isInsertion_insertEvidence`: text and parameters of an insertion.
* `holds_params`: the parameters of a row hold its line.
-/
namespace PriceSurvey.Sql

/-! ## Pieces -/

namespace Connection

variable {rows : List EvidenceRow}

theorem pieces_nil : pieces [] = [] := by
  unfold pieces
  rfl

/-- Cut into pieces, rows are neither lost nor repeated nor moved. -/
theorem flatten_pieces (rows : List EvidenceRow) : (pieces rows).flatten = rows := by
  fun_induction pieces rows with
  | case1 rows h => exact (List.isEmpty_iff.1 h).symm
  | case2 rows h ih => rw [List.flatten_cons, ih, List.take_append_drop]

theorem sum_length_pieces (rows : List EvidenceRow) :
    ((pieces rows).map List.length).sum = rows.length := by
  rw [← List.length_flatten, flatten_pieces]

/-- There are as many pieces as are needed. -/
theorem length_pieces (rows : List EvidenceRow) :
    (pieces rows).length = (rows.length + 999) / 1000 := by
  fun_induction pieces rows with
  | case1 rows h =>
    rw [List.isEmpty_iff.1 h]
    rfl
  | case2 rows h ih =>
    have hpos : 0 < rows.length := List.length_pos_iff.2 (by simpa using h)
    rw [List.length_cons, ih, List.length_drop, insertSize]
    omega

theorem length_of_mem_pieces : ∀ piece ∈ pieces rows, 1 ≤ piece.length ∧ piece.length ≤ 1000 := by
  fun_induction pieces rows with
  | case1 rows h => simp
  | case2 rows h ih =>
    have hpos : 0 < rows.length := List.length_pos_iff.2 (by simpa using h)
    refine List.forall_mem_cons.2 ⟨?_, ih⟩
    rw [List.length_take, insertSize]
    omega

/-- All pieces but the last one are full. -/
theorem length_of_mem_dropLast_pieces : ∀ piece ∈ (pieces rows).dropLast, piece.length = 1000 := by
  fun_induction pieces rows with
  | case1 rows h => simp
  | case2 rows h ih =>
    by_cases hrest : rows.drop insertSize = []
    · simp [hrest, pieces_nil]
    · have hlong : insertSize < rows.length := by
        simpa [List.drop_eq_nil_iff] using hrest
      have hnext : pieces (rows.drop insertSize) ≠ [] := by
        intro hnil
        apply hrest
        rw [← flatten_pieces (rows.drop insertSize), hnil, List.flatten_nil]
      rw [List.dropLast_cons_of_ne_nil hnext]
      refine List.forall_mem_cons.2 ⟨?_, ih⟩
      rw [List.length_take, insertSize] at *
      omega

end Connection

/-! ## Text and parameters -/

/-- The statement inserts rows of evidence. -/
def Statement.isInsertion : Statement → Bool
  | .insertEvidence _ => true
  | _ => false

/-- The text of the row `k` of an insertion: a place for each column, numbered through from the
first row on. -/
def rowText (k : Nat) : String :=
  let width := evidenceColumns.length
  let places := (List.range width).map fun j => "$" ++ toString (width * k + j + 1)
  "(" ++ ", ".intercalate places ++ ")"

/-- A statement that inserts rows: as many rows are in its text, and its parameters are those of the
rows, one for each column. -/
structure IsInsertion (t : Statement) (rows : List (List Param)) : Prop where
  text : t.text = Statement.insertHead ++ " " ++
    ", ".intercalate ((List.range rows.length).map rowText)
  params : t.params = rows.flatten
  width : ∀ row ∈ rows, row.length = evidenceColumns.length

theorem placeholders_eq (k : Nat) (rows : List EvidenceRow) :
    Statement.placeholders (evidenceColumns.length * k + 1) rows =
      (List.range' k rows.length).map rowText := by
  induction rows generalizing k with
  | nil => rfl
  | cons r rest ih =>
    have hwidth : r.params.length = evidenceColumns.length := rfl
    have hnext : evidenceColumns.length * k + 1 + evidenceColumns.length =
        evidenceColumns.length * (k + 1) + 1 := by
      rw [Nat.mul_succ]
      omega
    have hplaces (j : Nat) : evidenceColumns.length * k + 1 + j =
        evidenceColumns.length * k + j + 1 := by omega
    rw [Statement.placeholders, hwidth, hnext, ih, List.length_cons, List.range'_succ,
      List.map_cons, rowText]
    simp only [hplaces]

theorem isInsertion_insertEvidence (rows : List EvidenceRow) :
    IsInsertion (.insertEvidence rows) (rows.map EvidenceRow.params) where
  text := by
    have hplaces : Statement.placeholders 1 rows = (List.range rows.length).map rowText := by
      rw [List.range_eq_range']
      exact placeholders_eq 0 rows
    change Statement.insertHead ++ " " ++ ", ".intercalate (Statement.placeholders 1 rows) = _
    rw [hplaces, List.length_map]
  params := rfl
  width := by
    intro row hrow
    obtain ⟨r, -, rfl⟩ := List.mem_map.1 hrow
    rfl

/-! ## Columns -/

/-- The parameter of a row for a column. -/
def column? (row : List Param) (name : String) : Option Param :=
  (evidenceColumns.zip row).lookup name

/-- The row holds a line, with where it is from. What the line lacks is null. -/
structure Holds (source : Option String) (line : PriceLine) (row : List Param) : Prop where
  raw : column? row "raw_line" = some (.text line.raw)
  source : column? row "source" = some (.ofText? source)
  status : column? row "parse_status" = some (.text line.status.text)
  designation : column? row "designation_raw" = some (.ofText? line.designation)
  unit : column? row "unite_raw" = some (.ofText? line.unit)
  low : column? row "price_min" = some (.ofDecimal? line.low)
  mean : column? row "price_avg" = some (.ofDecimal? line.mean)
  high : column? row "price_max" = some (.ofDecimal? line.high)
  currency : column? row "currency" = some (.text line.currency)
  item : column? row "item_id" = some (.ofText? (line.resolution.bind (·.item)))
  basis : column? row "strategy" = some (.ofText? (line.resolution.map (·.basis.text)))
  score : column? row "score" =
    some (line.resolution.elim .null fun resolution => .float resolution.score)
  problems : column? row "parse_errors" = some (.json line.problems)

theorem holds_params (source : Option String) (line : PriceLine) :
    Holds source line (EvidenceRow.params ⟨line, source⟩) := by
  constructor
  case score =>
    simp only [EvidenceRow.params]
    cases line.resolution <;> rfl
  all_goals rfl

end PriceSurvey.Sql
