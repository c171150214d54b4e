import PriceSurvey.Json.Decode
import PriceSurvey.Line.Record

/-!
# JSON forms of lines and resolutions

Each record has a writer and a reader, field by field. Decimals are written as texts in plain
notation; absent values are written as null.
-/
namespace PriceSurvey

open Json Json.Reader

def Decimal.toJson (d : Decimal) : Json := .string (toString d)

/-! ## Resolutions -/

def Basis.toJson (b : Basis) : Json := .string b.text

def Basis.ofJson : Json → Except Json.Fault Basis :=
  toVariant ([.sameName, .sameKey, .noMatch].map fun b => (Basis.text b, b))

def Resolution.toJson (r : Resolution) : Json := .object [
  ("confidence_note", orNull .string r.note),
  ("input_raw", .string r.input),
  ("item_id", orNull .string r.item),
  ("normalized_input", .string r.key),
  ("score", .number (.float r.score)),
  ("strategy", r.basis.toJson)]

def Resolution.ofJson : Json → Except Json.Fault Resolution :=
  (Resolution.mk <$> required "input_raw" toText <*> required "normalized_input" toText
    <*> optional "item_id" toText <*> required "strategy" Basis.ofJson
    <*> required "score" toFloat <*> optional "confidence_note" toText).run "NormalizationResult"

/-! ## Dictionary entries -/

def AliasEntry.toJson (e : AliasEntry) : Json := .object [
  ("alias_raw", .string e.name),
  ("item_id", .string e.item),
  ("normalized_alias", .string e.key)]

def AliasEntry.ofJson : Json → Except Json.Fault AliasEntry :=
  (AliasEntry.mk <$> required "alias_raw" toText <*> required "normalized_alias" toText
    <*> required "item_id" toText).run "AliasRow"

/-! ## Lines -/

def LineStatus.toJson (s : LineStatus) : Json := .string s.text

def LineStatus.ofJson : Json → Except Json.Fault LineStatus :=
  toVariant ([.complete, .incomplete, .unreadable].map fun s => (LineStatus.text s, s))

def PriceLine.toJson (l : PriceLine) : Json := .object [
  ("currency", .string l.currency),
  ("designation", orNull .string l.designation),
  ("normalization", orNull Resolution.toJson l.resolution),
  ("parse_errors", ofStrings l.problems),
  ("price_avg", orNull Decimal.toJson l.mean),
  ("price_max", orNull Decimal.toJson l.high),
  ("price_min", orNull Decimal.toJson l.low),
  ("raw_line", .string l.raw),
  ("status", l.status.toJson),
  ("unit", orNull .string l.unit)]

def PriceLine.ofJson : Json → Except Json.Fault PriceLine :=
  (PriceLine.mk <$> required "raw_line" toText <*> optional "designation" toText
    <*> optional "unit" toText <*> optional "price_min" toDecimal
    <*> optional "price_avg" toDecimal <*> optional "price_max" toDecimal
    <*> required "currency" toText <*> required "status" LineStatus.ofJson
    <*> required "parse_errors" (toList toText)
    <*> optional "normalization" Resolution.ofJson).run "ParsedLine"

/-! ## Submissions -/

def Submission.toJson (s : Submission) : Json := .object [
  ("lines", ofStrings s.lines),
  ("persist", .bool s.persist),
  ("source", orNull .string s.source)]

def Submission.ofJson : Json → Except Json.Fault Submission :=
  (Submission.mk <$> required "lines" (toList toText) <*> defaulted "persist" false toBool
    <*> defaulted "source" none (toOption toText)).run "ParseRequest"

end PriceSurvey
