import PriceSurvey.Json.Line
import PriceSurvey.Offer.Record

/-!
# JSON forms of offers and assessments

Each record has a writer and a reader, field by field. What an offer leaves out is filled in: one
piece, the default currency and the generic profile.
-/
namespace PriceSurvey

open Json Json.Reader

/-! ## Offers -/

def Offer.toJson (o : Offer) : Json := .object [
  ("alias_raw", .string o.name),
  ("currency", .string o.currency),
  ("profile_code", .string o.profile),
  ("quantity", o.quantity.toJson),
  ("unit_price", o.unitPrice.toJson)]

def Offer.ofJson : Json → Except Json.Fault Offer :=
  (Offer.mk <$> required "alias_raw" toText <*> required "unit_price" toDecimal
    <*> defaulted "quantity" (.ofInt 1) toDecimal <*> defaulted "currency" usualCurrency toText
    <*> defaulted "profile_code" genericProfile toText).run "OfferLine"

/-! ## Limits and reference prices -/

def Limits.toJson (l : Limits) : Json := .object [
  ("ratio_acceptable", l.acceptable.toJson),
  ("ratio_eleve", l.high.toJson)]

def Limits.ofJson : Json → Except Json.Fault Limits :=
  (Limits.mk <$> required "ratio_acceptable" toDecimal
    <*> required "ratio_eleve" toDecimal).run "Thresholds"

def ReferencePrice.toJson (p : ReferencePrice) : Json := .object [
  ("item_id", .string p.item),
  ("ref_price", p.price.toJson)]

def ReferencePrice.ofJson : Json → Except Json.Fault ReferencePrice :=
  (ReferencePrice.mk <$> required "item_id" toText
    <*> required "ref_price" toDecimal).run "ReferencePriceRow"

/-! ## Assessments -/

def Verdict.toJson (v : Verdict) : Json := .string v.text

def Verdict.ofJson : Json → Except Json.Fault Verdict :=
  toVariant ([.within, .above, .noReference].map fun v => (Verdict.text v, v))

def Assessment.toJson (a : Assessment) : Json := .object [
  ("alias_raw", .string a.name),
  ("item_id", orNull .string a.item),
  ("normalization", a.resolution.toJson),
  ("notes", ofStrings a.notes),
  ("profile_code", .string a.profile),
  ("ratio", orNull Decimal.toJson a.ratio),
  ("reference_price", orNull Decimal.toJson a.reference),
  ("submitted_total", a.total.toJson),
  ("verdict", a.verdict.toJson)]

def Assessment.ofJson : Json → Except Json.Fault Assessment :=
  (Assessment.mk <$> required "alias_raw" toText <*> optional "item_id" toText
    <*> required "submitted_total" toDecimal <*> optional "reference_price" toDecimal
    <*> optional "ratio" toDecimal <*> required "verdict" Verdict.ofJson
    <*> required "profile_code" toText <*> required "notes" (toList toText)
    <*> required "normalization" Resolution.ofJson).run "PriceCheckResult"

end PriceSurvey
