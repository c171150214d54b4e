import PriceSurvey.Json.Offer
import PriceSurvey.Proofs.Json.Reader
import PriceSurvey.Proofs.Offer.Alike

/-!
# Records survive their JSON form

A record is read back from its JSON form as it was written. Only a decimal with a negative scale
comes back at another scale, as the same number: plain notation writes zeros in its place. What is
read from an object depends on the fields of the record alone, and a field that may be missing is
read as a value of its own.

Results:
* `Resolution.ofJson_toJson`, `Offer.ofJson_toJson`, `PriceLine.ofJson_toJson`,
  `Assessment.ofJson_toJson`: what is read back from the form of a record.
* `records_roundTrip`: reading and writing each of the four records.
-/
namespace PriceSurvey

open Json Json.Reader
open Decimal (SameNumber)

variable {α : Type}

/-! ## Round trips -/

/-- A JSON form is read back. `fields` are the names of the record in an object, each with what
stands for it if it is missing; `decimals` are the decimals of a record, and `Same` compares records
with the decimals as numbers. -/
structure Json.RoundTrips (toJson : α → Json) (ofJson : Json → Except Fault α)
    (fields : List (String × Option Json)) (decimals : α → List Decimal) (Same : α → α → Prop) :
    Prop where
  /-- A record is read as it was written, digits and scales included. -/
  exact : ∀ a, (∀ d ∈ decimals a, 0 ≤ d.scale) → ofJson (toJson a) = .ok a
  /-- What is read from any value can be written and read again. -/
  again : ∀ v a, ofJson v = .ok a → ∃ b, ofJson (toJson a) = .ok b ∧ Same b a
  /-- Fields of other names count for nothing, and missing ones count as what stands for them. -/
  filled : ∀ given given', (∀ d ∈ fields, valueIn given d = valueIn given' d) →
    ofJson (.object given) = ofJson (.object given')

/-- It is enough to know what a form is read back as. -/
theorem Json.RoundTrips.of_read {toJson : α → Json} {ofJson : Json → Except Fault α}
    {fields : List (String × Option Json)} {decimals : α → List Decimal} {Same : α → α → Prop}
    {f : α → α} (hread : ∀ a, ofJson (toJson a) = .ok (f a))
    (hexact : ∀ a, (∀ d ∈ decimals a, 0 ≤ d.scale) → f a = a) (hsame : ∀ a, Same (f a) a)
    (hfilled : ∀ given given', (∀ d ∈ fields, valueIn given d = valueIn given' d) →
      ofJson (.object given) = ofJson (.object given')) :
    RoundTrips toJson ofJson fields decimals Same where
  exact a h := by rw [hread, hexact a h]
  again _ a _ := ⟨f a, hread a, hsame a⟩
  filled := hfilled

/-! ## Decimals in records -/

theorem Decimal.sameNumber_plain (d : Decimal) : SameNumber d.plain d := d.toRat_plain

theorem Decimal.map_plain_of_nonneg {o : Option Decimal} (h : ∀ d ∈ o, 0 ≤ d.scale) :
    o.map plain = o := by
  cases o with
  | none => rfl
  | some d => rw [Option.map_some, plain_of_nonneg (h d rfl)]

theorem Decimal.sameNumber_map_plain (o : Option Decimal) :
    Option.Rel SameNumber (o.map plain) o := by
  cases o with
  | none => exact .none
  | some d => exact .some d.sameNumber_plain

/-! ## Resolutions -/

theorem Basis.text_injective : Basis.text.Injective := by
  intro a b h
  cases a <;> cases b <;> simp [Basis.text] at h ⊢

theorem Basis.ofJson_toJson (b : Basis) : Basis.ofJson b.toJson = .ok b :=
  toVariant_text text_injective (by cases b <;> simp)

namespace Resolution

/-- The fields of a resolution. -/
def jsonFields : List (String × Option Json) :=
  [("input_raw", none), ("normalized_input", none), ("item_id", some .null), ("strategy", none),
    ("score", none), ("confidence_note", some .null)]

theorem ofJson_toJson (r : Resolution) : ofJson r.toJson = .ok r := by
  refine Accepts.run
    (.seq (.seq (.seq (.seq (.seq (.map ?input _) ?key) ?item) ?basis) ?score) ?note)
  case input => exact accepts_field rfl rfl
  case key => exact accepts_field rfl rfl
  case item => exact accepts_field rfl (toOption_orNull_text r.item)
  case basis => exact accepts_field rfl r.basis.ofJson_toJson
  case score => exact accepts_field rfl rfl
  case note => exact accepts_field rfl (toOption_orNull_text r.note)

theorem ofJson_congr {given given' : List (String × Json)}
    (h : ∀ d ∈ jsonFields, valueIn given d = valueIn given' d) :
    ofJson (.object given) = ofJson (.object given') := by
  refine Uses.run
    (.seq (.seq (.seq (.seq (.seq (.map ?input _) ?key) ?item) ?basis) ?score) ?note) h
  case item => exact uses_optional (by simp [jsonFields])
  case note => exact uses_optional (by simp [jsonFields])
  all_goals exact uses_required (by simp [jsonFields])

theorem toJson_ne_null (r : Resolution) : r.toJson ≠ .null := Json.noConfusion

end Resolution

/-! ## Offers -/

namespace Offer

/-- The fields of an offer. Left out, the quantity is one, and currency and profile are the usual
ones. -/
def jsonFields : List (String × Option Json) :=
  [("alias_raw", none), ("unit_price", none), ("quantity", some (.number (.integer 1))),
    ("currency", some (.string usualCurrency)), ("profile_code", some (.string genericProfile))]

/-- The decimals of an offer. -/
def decimals (o : Offer) : List Decimal := [o.unitPrice, o.quantity]

/-- The same offer, its decimals compared as numbers. -/
structure Same (a b : Offer) : Prop where
  name : a.name = b.name
  unitPrice : SameNumber a.unitPrice b.unitPrice
  quantity : SameNumber a.quantity b.quantity
  currency : a.currency = b.currency
  profile : a.profile = b.profile

/-- The offer with its decimals as plain notation has them. -/
def plain (o : Offer) : Offer :=
  { o with unitPrice := o.unitPrice.plain, quantity := o.quantity.plain }

theorem ofJson_toJson (o : Offer) : ofJson o.toJson = .ok o.plain := by
  refine Accepts.run (.seq (.seq (.seq (.seq (.map ?name _) ?price) ?quantity) ?currency) ?profile)
  case name => exact accepts_field rfl rfl
  case price => exact accepts_field rfl (toDecimal_toJson o.unitPrice)
  case quantity => exact accepts_field rfl (toDecimal_toJson o.quantity)
  case currency => exact accepts_field rfl rfl
  case profile => exact accepts_field rfl rfl

theorem ofJson_congr {given given' : List (String × Json)}
    (h : ∀ d ∈ jsonFields, valueIn given d = valueIn given' d) :
    ofJson (.object given) = ofJson (.object given') := by
  refine Uses.run (.seq (.seq (.seq (.seq (.map ?name _) ?price) ?quantity) ?currency) ?profile) h
  case name => exact uses_required (by simp [jsonFields])
  case price => exact uses_required (by simp [jsonFields])
  case quantity => exact uses_defaulted (v := .number (.integer 1)) rfl (by simp [jsonFields])
  case currency => exact uses_defaulted (v := .string usualCurrency) rfl (by simp [jsonFields])
  case profile => exact uses_defaulted (v := .string genericProfile) rfl (by simp [jsonFields])

theorem plain_of_nonneg {o : Offer} (h : ∀ d ∈ o.decimals, 0 ≤ d.scale) : o.plain = o := by
  simp only [decimals, List.forall_mem_cons] at h
  rw [plain, Decimal.plain_of_nonneg h.1, Decimal.plain_of_nonneg h.2.1]

theorem same_plain (o : Offer) : o.plain.Same o :=
  ⟨rfl, o.unitPrice.sameNumber_plain, o.quantity.sameNumber_plain, rfl, rfl⟩

end Offer

/-! ## Lines -/

theorem LineStatus.text_injective : LineStatus.text.Injective := by
  intro a b h
  cases a <;> cases b <;> simp [LineStatus.text] at h ⊢

theorem LineStatus.ofJson_toJson (s : LineStatus) : LineStatus.ofJson s.toJson = .ok s :=
  toVariant_text text_injective (by cases s <;> simp)

namespace PriceLine

/-- The fields of a line. -/
def jsonFields : List (String × Option Json) :=
  [("raw_line", none), ("designation", some .null), ("unit", some .null), ("price_min", some .null),
    ("price_avg", some .null), ("price_max", some .null), ("currency", none), ("status", none),
    ("parse_errors", none), ("normalization", some .null)]

/-- The decimals of a line. -/
def decimals (l : PriceLine) : List Decimal := l.low.toList ++ l.mean.toList ++ l.high.toList

/-- The same line, its prices compared as numbers. -/
structure Same (a b : PriceLine) : Prop where
  raw : a.raw = b.raw
  designation : a.designation = b.designation
  unit : a.unit = b.unit
  low : Option.Rel SameNumber a.low b.low
  mean : Option.Rel SameNumber a.mean b.mean
  high : Option.Rel SameNumber a.high b.high
  currency : a.currency = b.currency
  status : a.status = b.status
  problems : a.problems = b.problems
  resolution : a.resolution = b.resolution

/-- The line with its prices as plain notation has them. -/
def plain (l : PriceLine) : PriceLine :=
  { l with
    low := l.low.map Decimal.plain
    mean := l.mean.map Decimal.plain
    high := l.high.map Decimal.plain }

theorem toOption_orNull_resolution (o : Option Resolution) :
    toOption Resolution.ofJson (orNull Resolution.toJson o) = .ok o := by
  rw [toOption_orNull (f := id) Resolution.ofJson_toJson Resolution.toJson_ne_null, Option.map_id,
    id]

theorem ofJson_toJson (l : PriceLine) : ofJson l.toJson = .ok l.plain := by
  refine Accepts.run (.seq (.seq (.seq (.seq (.seq (.seq (.seq (.seq (.seq (.map ?raw _)
    ?designation) ?unit) ?low) ?mean) ?high) ?currency) ?status) ?problems) ?resolution)
  case raw => exact accepts_field rfl rfl
  case designation => exact accepts_field rfl (toOption_orNull_text l.designation)
  case unit => exact accepts_field rfl (toOption_orNull_text l.unit)
  case low => exact accepts_field rfl (toOption_orNull_decimal l.low)
  case mean => exact accepts_field rfl (toOption_orNull_decimal l.mean)
  case high => exact accepts_field rfl (toOption_orNull_decimal l.high)
  case currency => exact accepts_field rfl rfl
  case status => exact accepts_field rfl l.status.ofJson_toJson
  case problems => exact accepts_field rfl (toList_ofStrings l.problems)
  case resolution => exact accepts_field rfl (toOption_orNull_resolution l.resolution)

theorem ofJson_congr {given given' : List (String × Json)}
    (h : ∀ d ∈ jsonFields, valueIn given d = valueIn given' d) :
    ofJson (.object given) = ofJson (.object given') := by
  refine Uses.run (.seq (.seq (.seq (.seq (.seq (.seq (.seq (.seq (.seq (.map ?raw _)
    ?designation) ?unit) ?low) ?mean) ?high) ?currency) ?status) ?problems) ?resolution) h
  case raw => exact uses_required (by simp [jsonFields])
  case currency => exact uses_required (by simp [jsonFields])
  case status => exact uses_required (by simp [jsonFields])
  case problems => exact uses_required (by simp [jsonFields])
  all_goals exact uses_optional (by simp [jsonFields])

theorem plain_of_nonneg {l : PriceLine} (h : ∀ d ∈ l.decimals, 0 ≤ d.scale) : l.plain = l := by
  simp only [decimals, List.forall_mem_append, Option.mem_toList] at h
  rw [plain, Decimal.map_plain_of_nonneg h.1.1, Decimal.map_plain_of_nonneg h.1.2,
    Decimal.map_plain_of_nonneg h.2]

theorem same_plain (l : PriceLine) : l.plain.Same l where
  raw := rfl
  designation := rfl
  unit := rfl
  low := Decimal.sameNumber_map_plain l.low
  mean := Decimal.sameNumber_map_plain l.mean
  high := Decimal.sameNumber_map_plain l.high
  currency := rfl
  status := rfl
  problems := rfl
  resolution := rfl

end PriceLine

/-! ## Assessments -/

theorem Verdict.text_injective : Verdict.text.Injective := by
  intro a b h
  cases a <;> cases b <;> simp [Verdict.text] at h ⊢

theorem Verdict.ofJson_toJson (v : Verdict) : Verdict.ofJson v.toJson = .ok v :=
  toVariant_text text_injective (by cases v <;> simp)

namespace Assessment

/-- The fields of an assessment. -/
def jsonFields : List (String × Option Json) :=
  [("alias_raw", none), ("item_id", some .null), ("submitted_total", none),
    ("reference_price", some .null), ("ratio", some .null), ("verdict", none),
    ("profile_code", none), ("notes", none), ("normalization", none)]

/-- The decimals of an assessment. -/
def decimals (a : Assessment) : List Decimal := a.total :: a.reference.toList ++ a.ratio.toList

/-- The same assessment, its decimals compared as numbers. -/
structure Same (a b : Assessment) : Prop where
  name : a.name = b.name
  item : a.item = b.item
  total : SameNumber a.total b.total
  reference : Option.Rel SameNumber a.reference b.reference
  ratio : Option.Rel SameNumber a.ratio b.ratio
  verdict : a.verdict = b.verdict
  profile : a.profile = b.profile
  notes : a.notes = b.notes
  resolution : a.resolution = b.resolution

/-- The assessment with its decimals as plain notation has them. -/
def plain (a : Assessment) : Assessment :=
  { a with
    total := a.total.plain
    reference := a.reference.map Decimal.plain
    ratio := a.ratio.map Decimal.plain }

theorem ofJson_toJson (a : Assessment) : ofJson a.toJson = .ok a.plain := by
  refine Accepts.run (.seq (.seq (.seq (.seq (.seq (.seq (.seq (.seq (.map ?name _)
    ?item) ?total) ?reference) ?ratio) ?verdict) ?profile) ?notes) ?resolution)
  case name => exact accepts_field rfl rfl
  case item => exact accepts_field rfl (toOption_orNull_text a.item)
  case total => exact accepts_field rfl (toDecimal_toJson a.total)
  case reference => exact accepts_field rfl (toOption_orNull_decimal a.reference)
  case ratio => exact accepts_field rfl (toOption_orNull_decimal a.ratio)
  case verdict => exact accepts_field rfl a.verdict.ofJson_toJson
  case profile => exact accepts_field rfl rfl
  case notes => exact accepts_field rfl (toList_ofStrings a.notes)
  case resolution => exact accepts_field rfl a.resolution.ofJson_toJson

theorem ofJson_congr {given given' : List (String × Json)}
    (h : ∀ d ∈ jsonFields, valueIn given d = valueIn given' d) :
    ofJson (.object given) = ofJson (.object given') := by
  refine Uses.run (.seq (.seq (.seq (.seq (.seq (.seq (.seq (.seq (.map ?name _)
    ?item) ?total) ?reference) ?ratio) ?verdict) ?profile) ?notes) ?resolution) h
  case item => exact uses_optional (by simp [jsonFields])
  case reference => exact uses_optional (by simp [jsonFields])
  case ratio => exact uses_optional (by simp [jsonFields])
  all_goals exact uses_required (by simp [jsonFields])

theorem plain_of_nonneg {a : Assessment} (h : ∀ d ∈ a.decimals, 0 ≤ d.scale) : a.plain = a := by
  simp only [decimals, List.cons_append, List.forall_mem_cons, List.forall_mem_append,
    Option.mem_toList] at h
  rw [plain, Decimal.plain_of_nonneg h.1, Decimal.map_plain_of_nonneg h.2.1,
    Decimal.map_plain_of_nonneg h.2.2]

theorem same_plain (a : Assessment) : a.plain.Same a where
  name := rfl
  item := rfl
  total := a.total.sameNumber_plain
  reference := Decimal.sameNumber_map_plain a.reference
  ratio := Decimal.sameNumber_map_plain a.ratio
  verdict := rfl
  profile := rfl
  notes := rfl
  resolution := rfl

end Assessment

/-! ## All records -/

/-- Offers, lines, resolutions and assessments survive their JSON forms. -/
theorem records_roundTrip :
    RoundTrips Offer.toJson Offer.ofJson Offer.jsonFields Offer.decimals Offer.Same ∧
    RoundTrips PriceLine.toJson PriceLine.ofJson PriceLine.jsonFields PriceLine.decimals
      PriceLine.Same ∧
    RoundTrips Resolution.toJson Resolution.ofJson Resolution.jsonFields (fun _ => []) Eq ∧
    RoundTrips Assessment.toJson Assessment.ofJson Assessment.jsonFields Assessment.decimals
      Assessment.Same := by
  refine ⟨?offer, ?line, ?resolution, ?assessment⟩
  case offer =>
    exact .of_read Offer.ofJson_toJson (fun _ => Offer.plain_of_nonneg) Offer.same_plain
      fun _ _ => Offer.ofJson_congr
  case line =>
    exact .of_read PriceLine.ofJson_toJson (fun _ => PriceLine.plain_of_nonneg)
      PriceLine.same_plain fun _ _ => PriceLine.ofJson_congr
  case resolution =>
    exact .of_read (f := id) Resolution.ofJson_toJson (fun _ _ => rfl) (fun _ => rfl)
      fun _ _ => Resolution.ofJson_congr
  case assessment =>
    exact .of_read Assessment.ofJson_toJson (fun _ => Assessment.plain_of_nonneg)
      Assessment.same_plain fun _ _ => Assessment.ofJson_congr

end PriceSurvey
