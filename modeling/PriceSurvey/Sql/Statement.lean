import PriceSurvey.Line.Record

/-!
# Statements

The statements that the library sends to its database, each with its text and its parameters. Rows
of evidence are inserted many at a time; their parameters are numbered through.
-/
namespace PriceSurvey.Sql

inductive Param where
  | null
  | text (s : String)
  | texts (ss : List String)
  | decimal (d : Decimal)
  | float (x : Binary)
  /-- Texts as a JSON array. -/
  | json (ss : List String)
  deriving DecidableEq, Repr

/-- A row of evidence: a line, and where it is from. -/
structure EvidenceRow where
  line : PriceLine
  source : Option String
  deriving DecidableEq, Repr

inductive Statement where
  | start
  | commit
  | rollBack
  | selectEntries (names keys : List String)
  | selectPrices (items : List String)
  | selectLimits (profile : String)
  | selectEvidenceTable
  | insertEvidence (rows : List EvidenceRow)
  deriving DecidableEq, Repr

def evidenceTable : String := "couche_b.mercuriale_raw_queue"

/-- The columns of a row of evidence, in the order of its parameters. -/
def evidenceColumns : List String := [
  "raw_line", "source", "parse_status", "designation_raw", "unite_raw", "price_min", "price_avg",
  "price_max", "currency", "item_id", "strategy", "score", "parse_errors"]

/-- The parameter for a text that may be missing. -/
def Param.ofText? : Option String → Param
  | none => .null
  | some s => .text s

/-- The parameter for a decimal that may be missing. -/
def Param.ofDecimal? : Option Decimal → Param
  | none => .null
  | some d => .decimal d

def EvidenceRow.params (r : EvidenceRow) : List Param := [
  .text r.line.raw,
  .ofText? r.source,
  .text r.line.status.text,
  .ofText? r.line.designation,
  .ofText? r.line.unit,
  .ofDecimal? r.line.low,
  .ofDecimal? r.line.mean,
  .ofDecimal? r.line.high,
  .text r.line.currency,
  .ofText? r.line.item?,
  .ofText? (r.line.resolution.map (·.basis.text)),
  (match r.line.resolution with
    | none => .null
    | some resolution => .float resolution.score),
  .json r.line.problems]

namespace Statement

/-- The places of the parameters of rows, numbered from `next` on. -/
def placeholders (next : Nat) : List EvidenceRow → List String
  | [] => []
  | r :: rest =>
    let width := r.params.length
    let places := (List.range width).map fun k => "$" ++ toString (next + k)
    ("(" ++ ", ".intercalate places ++ ")") :: placeholders (next + width) rest

/-- The text of an insertion up to its rows. -/
def insertHead : String :=
  "INSERT INTO " ++ evidenceTable ++ " ( " ++ ", ".intercalate evidenceColumns ++ " ) VALUES"

def text : Statement → String
  | .start => "BEGIN"
  | .commit => "COMMIT"
  | .rollBack => "ROLLBACK"
  | .selectEntries _ _ =>
    "SELECT alias_raw, normalized_alias, item_id FROM couche_b.procurement_dict_aliases " ++
      "WHERE alias_raw = ANY($1) OR normalized_alias = ANY($2)"
  | .selectPrices _ =>
    "SELECT item_id, AVG(price_avg) AS ref_price FROM " ++ evidenceTable ++
      " WHERE item_id = ANY($1) AND parse_status IN ('ok', 'partial') AND price_avg IS NOT NULL" ++
      " GROUP BY item_id"
  | .selectLimits _ =>
    "SELECT price_ratio_acceptable::numeric AS ratio_acceptable, " ++
      "price_ratio_eleve::numeric AS ratio_eleve FROM public.scoring_configs " ++
      "WHERE profile_code = $1 LIMIT 1"
  | .selectEvidenceTable =>
    "SELECT 1 FROM information_schema.tables WHERE table_schema = 'couche_b' " ++
      "AND table_name = 'mercuriale_raw_queue'"
  | .insertEvidence rows => insertHead ++ " " ++ ", ".intercalate (placeholders 1 rows)

def params : Statement → List Param
  | .start | .commit | .rollBack | .selectEvidenceTable => []
  | .selectEntries names keys => [.texts names, .texts keys]
  | .selectPrices items => [.texts items]
  | .selectLimits profile => [.text profile]
  | .insertEvidence rows => rows.flatMap EvidenceRow.params

end Statement

end PriceSurvey.Sql
