import PriceSurvey.Proofs.Decimal.Significant
import PriceSurvey.Proofs.Offer.Batch
import PriceSurvey.Proofs.Request.Alike

/-!
# Assessments from the same numbers

A database gives prices and limits back as the numbers they are, at other scales. An assessment goes
by the numbers: what is asked does not depend on scales, and where prices and quantities are of
ordinary length, neither do verdicts and ratios.

Results:
* `alike_ofNames`, `alike_ofOffers`, `alike_ofOffer`: what the library asks, and what it comes to,
  with answers of the same numbers.
* `Standing.ofTotal_same`: verdict and ratio of a total.
-/
namespace PriceSurvey

variable {α β : Type}

/-! ## The same numbers -/

/-- The same number, at whatever scale. -/
def Decimal.SameNumber (a b : Decimal) : Prop := a.toRat = b.toRat

/-- Limits of the same numbers. -/
structure Limits.Same (l l' : Limits) : Prop where
  acceptable : l.acceptable.SameNumber l'.acceptable
  high : l.high.SameNumber l'.high

/-- Limits of the same numbers from the same origin. -/
structure SourcedLimits.Same (l l' : SourcedLimits) : Prop where
  limits : l.limits.Same l'.limits
  origin : l.origin = l'.origin

/-- The same number for the same item. -/
structure ReferencePrice.Same (p p' : ReferencePrice) : Prop where
  item : p.item = p'.item
  price : p.price.SameNumber p'.price

/-- Answers with the same texts and the same numbers. -/
def Request.Same : (r : Request) → r.Answer → r.Answer → Prop
  | .entries _ _ => Eq
  | .prices _ => List.Forall₂ ReferencePrice.Same
  | .limits _ => Option.Rel Limits.Same
  | .evidenceTable => Eq
  | .append _ _ => Eq
  | .resolve _ => Eq

theorem Limits.Same.refl (l : Limits) : l.Same l := ⟨rfl, rfl⟩

/-! ## Indexes of related values -/

namespace Index

variable {R : α → β → Prop} {ix : Index α} {ix' : Index β}

/-- Indexes with the same keys in the same order, and related values. -/
def Related (R : α → β → Prop) (ix : Index α) (ix' : Index β) : Prop :=
  List.Forall₂ (fun e e' => e.1 = e'.1 ∧ R e.2 e'.2) ix.entries ix'.entries

theorem related_empty : Related R (empty : Index α) (empty : Index β) := .nil

theorem Related.insert (h : Related R ix ix') (key : String) {a : α} {b : β} (hab : R a b) :
    Related R (ix.insert key a) (ix'.insert key b) := by
  refine .cons ⟨rfl, hab⟩ (List.rel_filter ?_ h)
  rintro e e' ⟨hkey, -⟩
  simp only [hkey]

theorem Related.get? (h : Related R ix ix') (key : String) :
    Option.Rel R (ix.get? key) (ix'.get? key) := by
  obtain ⟨entries⟩ := ix
  obtain ⟨entries'⟩ := ix'
  change Option.Rel R (entries.lookup key) (entries'.lookup key)
  change List.Forall₂ _ entries entries' at h
  induction h with
  | nil => exact .none
  | @cons e e' rest rest' he hrest ih =>
    obtain ⟨k, a⟩ := e
    obtain ⟨k', b⟩ := e'
    obtain ⟨rfl, hab⟩ := he
    rw [List.lookup_cons, List.lookup_cons]
    cases key == k with
    | true => exact .some hab
    | false => exact ih

theorem related_ofPairs {pairs : List (String × α)} {pairs' : List (String × β)}
    (h : List.Forall₂ (fun p p' => p.1 = p'.1 ∧ R p.2 p'.2) pairs pairs') :
    Related R (ofPairs pairs) (ofPairs pairs') := by
  refine List.rel_foldl ?_ related_empty h
  rintro ix ix' hix p p' ⟨hkey, hab⟩
  simp only [hkey]
  exact hix.insert _ hab

theorem Related.any (h : Related R ix ix') {p : α → Bool} {q : β → Bool}
    (hpq : ∀ a b, R a b → p a = q b) : ix.values.any p = ix'.values.any q := by
  obtain ⟨entries⟩ := ix
  obtain ⟨entries'⟩ := ix'
  change (entries.map (·.2)).any p = (entries'.map (·.2)).any q
  change List.Forall₂ _ entries entries' at h
  induction h with
  | nil => rfl
  | cons he hrest ih => simp only [List.map_cons, List.any_cons, hpq _ _ he.2, ih]

end Index

/-! ## Names -/

/-- From the same entries names are resolved the same. -/
theorem alike_ofNames (names : List String) :
    Action.Alike Request.Same Eq (Resolution.ofNames names) (Resolution.ofNames names) := by
  have hfetch (queries : List Query) : Action.Alike Request.Same Eq (Query.fetch queries)
      (Query.fetch queries) := by
    rw [Query.fetch]
    split
    · exact .done rfl
    · exact Action.Alike.request (r := .entries _ _) rfl
  refine (hfetch _).seq ?_
  rintro entries _ rfl
  exact .log_seq (.done rfl)

/-! ## Limits -/

namespace LimitCache

/-- Caches with the same profiles and the same numbers. -/
def Same (c c' : LimitCache) : Prop := c.found.Related SourcedLimits.Same c'.found

variable {c c' : LimitCache}

theorem Same.keep (h : c.Same c') (profile : String) {l l' : SourcedLimits} (hl : l.Same l') :
    (c.keep profile l).Same (c'.keep profile l') :=
  Index.Related.insert h profile hl

theorem Same.usedFixed (h : c.Same c') : c.usedFixed = c'.usedFixed :=
  Index.Related.any h fun l l' hl => by rw [hl.origin]

theorem genericLimits_same {answer answer' : Option Limits}
    (h : Option.Rel Limits.Same answer answer') :
    (genericLimits answer).Same (genericLimits answer') := by
  cases h with
  | some h => exact ⟨h, rfl⟩
  | none => exact ⟨.refl _, rfl⟩

/-- Limits with the cache behind them. -/
def SameFound (x x' : SourcedLimits × LimitCache) : Prop := x.1.Same x'.1 ∧ x.2.Same x'.2

theorem alike_getGeneric (h : c.Same c') :
    Action.Alike Request.Same SameFound c.getGeneric c'.getGeneric := by
  have hfound := Index.Related.get? h genericProfile
  unfold getGeneric
  generalize c.found.get? genericProfile = l at hfound ⊢
  generalize c'.found.get? genericProfile = l' at hfound ⊢
  cases hfound with
  | some hl => exact .done ⟨hl, h⟩
  | none =>
    refine Action.Alike.seq (.request rfl) fun answer answer' ha => .done ?_
    exact ⟨genericLimits_same ha, h.keep _ (genericLimits_same ha)⟩

theorem alike_get (h : c.Same c') (profile : String) :
    Action.Alike Request.Same SameFound (c.get profile) (c'.get profile) := by
  have hfound := Index.Related.get? h profile
  unfold get
  split
  · exact alike_getGeneric h
  generalize c.found.get? profile = l at hfound ⊢
  generalize c'.found.get? profile = l' at hfound ⊢
  cases hfound with
  | some hl => exact .done ⟨hl, h⟩
  | none =>
    refine Action.Alike.seq (.request rfl) fun answer answer' ha => ?_
    change Option.Rel Limits.Same answer answer' at ha
    cases ha with
    | some hl => exact .done ⟨⟨hl, rfl⟩, h.keep _ ⟨hl, rfl⟩⟩
    | none =>
      refine (alike_getGeneric h).seq ?_
      rintro ⟨l, c⟩ ⟨l', c'⟩ ⟨hl, hc⟩
      exact .done ⟨hl, hc.keep _ hl⟩

theorem alike_getAll (h : c.Same c') (profiles : List String) :
    Action.Alike Request.Same Same (c.getAll profiles) (c'.getAll profiles) := by
  induction profiles generalizing c c' with
  | nil => exact .done h
  | cons profile rest ih =>
    refine (alike_get h profile).seq ?_
    rintro ⟨l, c⟩ ⟨l', c'⟩ ⟨-, hc⟩
    exact ih hc

end LimitCache

/-! ## One offer -/

open Decimal (SameNumber)

theorem Decimal.SameNumber.isPositive_iff {a b : Decimal} (h : SameNumber a b) :
    a.IsPositive ↔ b.IsPositive := by
  rw [Decimal.isPositive_iff, Decimal.isPositive_iff, h]

theorem Decimal.SameNumber.le_iff {a a' b b' : Decimal} (ha : SameNumber a a')
    (hb : SameNumber b b') : a ≤ b ↔ a' ≤ b' := by
  rw [Decimal.le_iff_toRat_le, Decimal.le_iff_toRat_le, ha, hb]

/-- The digits of price and quantity that are written in plain notation are not more than forty. -/
def Offer.IsShort (o : Offer) : Prop :=
  o.unitPrice.plainDigits ≤ 40 ∧ o.quantity.plainDigits ≤ 40

instance (o : Offer) : Decidable o.IsShort :=
  inferInstanceAs (Decidable (o.unitPrice.plainDigits ≤ 40 ∧ o.quantity.plainDigits ≤ 40))

theorem Offer.IsShort.digits_total_lt {o : Offer} (h : o.IsShort) :
    o.total.digits < 10 ^ Decimal.quotientDigits := by
  have htotal := Decimal.natAbs_digits_mul_lt (Decimal.natAbs_lt_of_plainDigits_le h.1)
    (Decimal.natAbs_lt_of_plainDigits_le h.2)
  have hroom : 10 ^ (40 + 40) ≤ 10 ^ Decimal.quotientDigits :=
    Nat.pow_le_pow_right (by norm_num) (by decide)
  change o.total.digits.natAbs < _ at htotal
  have hcast : ((10 ^ Decimal.quotientDigits : ℕ) : ℤ) = 10 ^ Decimal.quotientDigits := by
    push_cast
    rfl
  rw [← hcast]
  omega

namespace Standing

/-- The same verdict, and the same number for a ratio. -/
structure Same (s s' : Standing) : Prop where
  verdict : s.verdict = s'.verdict
  ratio : Option.Rel SameNumber s.ratio s'.ratio

variable {limits limits' : Limits}

theorem ofRatio_same {ratio ratio' : Decimal} (h : SameNumber ratio ratio')
    (hl : limits.Same limits') : (ofRatio ratio limits).Same (ofRatio ratio' limits') := by
  have hle := h.le_iff hl.acceptable
  by_cases hwithin : ratio ≤ limits.acceptable
  · rw [ofRatio_within hwithin, ofRatio_within (hle.1 hwithin)]
    exact ⟨rfl, .some h⟩
  · rw [ofRatio_above hwithin, ofRatio_above (mt hle.2 hwithin)]
    exact ⟨rfl, .some h⟩

/-- A total that has no more digits than a quotient is carried to stands the same to prices and
limits of the same numbers. -/
theorem ofTotal_same {total : Decimal} (hpos : total.IsPositive)
    (hsmall : total.digits < 10 ^ Decimal.quotientDigits) (item : Option String)
    {price price' : Option Decimal} (hp : Option.Rel SameNumber price price')
    (hl : limits.Same limits') :
    (ofTotal total item price limits).Same (ofTotal total item price' limits') := by
  cases item with
  | none => exact ⟨rfl, .none⟩
  | some item =>
    cases hp with
    | none => exact ⟨rfl, .none⟩
    | @some p p' hp =>
      by_cases h : p.IsPositive
      · rw [ofTotal_of_isPositive h, ofTotal_of_isPositive (hp.isPositive_iff.1 h)]
        apply ofRatio_same _ hl
        exact Decimal.toRat_round_congr (Decimal.toRat_div_congr hpos h hsmall hp) _
      · rw [ofTotal_not_positive h, ofTotal_not_positive (mt hp.isPositive_iff.2 h)]
        exact ⟨rfl, .none⟩

end Standing

/-- Assessments of one offer: the same names and the same resolution, totals and reference prices of
the same numbers, and under the condition the same verdict and a ratio of the same number. -/
structure Assessment.Agrees (condition : Prop) (a b : Assessment) : Prop where
  name : a.name = b.name
  item : a.item = b.item
  resolution : a.resolution = b.resolution
  profile : a.profile = b.profile
  total : SameNumber a.total b.total
  reference : Option.Rel SameNumber a.reference b.reference
  verdict : condition → a.verdict = b.verdict
  ratio : condition → Option.Rel SameNumber a.ratio b.ratio

theorem Assessment.Agrees.mono {p q : Prop} {a b : Assessment} (h : Agrees p a b) (hqp : q → p) :
    Agrees q a b :=
  { h with
    verdict := fun hq => h.verdict (hqp hq)
    ratio := fun hq => h.ratio (hqp hq) }

namespace Yardstick

/-- Yardsticks with the same numbers. -/
structure Same (y y' : Yardstick) : Prop where
  prices : y.prices.Related SameNumber y'.prices
  limits : y.limits.Related SourcedLimits.Same y'.limits
  usedFixed : y.usedFixed = y'.usedFixed

variable {y y' : Yardstick} {o : Offer}

theorem Same.limitsOf (h : y.Same y') (profile : String) :
    (y.limitsOf profile).Same (y'.limitsOf profile) := by
  have hfound := h.limits.get? profile
  rw [Yardstick.limitsOf, Yardstick.limitsOf]
  generalize y.limits.get? profile = l at hfound ⊢
  generalize y'.limits.get? profile = l' at hfound ⊢
  cases hfound with
  | some hl => exact hl
  | none => exact ⟨.refl _, rfl⟩

theorem Same.price (h : y.Same y') (item : Option String) :
    Option.Rel SameNumber (item.bind y.prices.get?) (item.bind y'.prices.get?) := by
  cases item with
  | none => exact .none
  | some item => exact h.prices.get? item

theorem Same.agrees (h : y.Same y') (hvalid : o.IsValid) (r : Resolution) :
    Assessment.Agrees o.IsShort (y.assess o r) (y'.assess o r) := by
  have hprice := h.price r.item
  have hpos := Offer.isPositive_total (Offer.fault?_of_isValid hvalid)
  have hstanding (hs : o.IsShort) := Standing.ofTotal_same hpos hs.digits_total_lt r.item hprice
    (h.limitsOf o.profile).limits
  constructor
  case reference =>
    change Option.Rel _ ((r.item.bind y.prices.get?).map _) ((r.item.bind y'.prices.get?).map _)
    generalize r.item.bind y.prices.get? = price at hprice
    generalize r.item.bind y'.prices.get? = price' at hprice
    cases hprice with
    | some hp => exact .some (Decimal.toRat_round_congr hp _)
    | none => exact .none
  case verdict => exact fun hs => (hstanding hs).verdict
  case ratio => exact fun hs => (hstanding hs).ratio
  all_goals rfl

end Yardstick

/-! ## A batch of offers -/

namespace Assessment

variable {offers : List Offer}

theorem alike_referencePrices (results : List Resolution) :
    Action.Alike Request.Same (Index.Related SameNumber) (referencePrices results)
      (referencePrices results) := by
  rw [referencePrices]
  split
  · exact .done Index.related_empty
  · refine Action.Alike.seq (.request rfl) fun prices prices' hp => .done (Index.related_ofPairs ?_)
    change List.Forall₂ ReferencePrice.Same prices prices' at hp
    rw [List.forall₂_map_left_iff, List.forall₂_map_right_iff]
    exact hp.imp fun p p' h => ⟨h.item, h.price⟩

theorem alike_limitsFor (offers : List Offer) :
    Action.Alike Request.Same LimitCache.Same (limitsFor offers) (limitsFor offers) := by
  refine (LimitCache.alike_getAll Index.related_empty (profiles offers)).seq fun c c' hc => ?_
  rw [hc.usedFixed]
  split
  · exact .log_seq (.done hc)
  · exact .done hc

theorem forall₂_assess {y y' : Yardstick} (h : y.Same y') (hvalid : ∀ o ∈ offers, o.IsValid)
    (results : List Resolution) :
    List.Forall₂ (Agrees (∀ o ∈ offers, o.IsShort)) (List.zipWith y.assess offers results)
      (List.zipWith y'.assess offers results) := by
  induction offers generalizing results with
  | nil => exact .nil
  | cons o rest ih =>
    cases results with
    | nil => exact .nil
    | cons r results =>
      rw [List.forall_mem_cons] at hvalid
      refine .cons ?_ ((ih hvalid.2 results).imp ?_)
      · exact (h.agrees hvalid.1 r).mono fun hs => hs o List.mem_cons_self
      · exact fun a b hab => hab.mono fun hs x hx => hs x (List.mem_cons_of_mem o hx)

theorem alike_ofValid (hvalid : ∀ o ∈ offers, o.IsValid) :
    Action.Alike Request.Same (List.Forall₂ (Agrees (∀ o ∈ offers, o.IsShort)))
      (ofValid Resolution.ofNames offers) (ofValid Resolution.ofNames offers) := by
  refine (alike_ofNames _).seq ?_
  rintro results _ rfl
  refine (alike_referencePrices results).seq fun prices prices' hp => ?_
  refine (alike_limitsFor offers).seq fun c c' hc => ?_
  have hsame : Yardstick.Same ⟨prices, c.found, c.usedFixed⟩ ⟨prices', c'.found, c'.usedFixed⟩ :=
    ⟨hp, hc, hc.usedFixed⟩
  exact .log_seq (.done (forall₂_assess hsame hvalid results))

/-- A batch asks the same with answers of the same numbers, and its assessments agree. -/
theorem alike_ofOffers (offers : List Offer) :
    Action.Alike Request.Same (List.Forall₂ (Agrees (∀ o ∈ offers, o.IsShort)))
      (ofOffers Resolution.ofNames offers) (ofOffers Resolution.ofNames offers) := by
  rw [ofOffers]
  split
  · exact .done .nil
  cases hfirst : firstFault? offers with
  | some fault => exact .fail fault
  | none => exact alike_ofValid (firstFault?_eq_none_iff.1 hfirst)

/-- One offer asks the same with answers of the same numbers, and its assessments agree. -/
theorem alike_ofOffer (o : Offer) :
    Action.Alike Request.Same (Agrees o.IsShort) (ofOffer Resolution.ofNames o)
      (ofOffer Resolution.ofNames o) := by
  refine (alike_ofOffers [o]).seq fun as bs h => ?_
  cases h with
  | nil => exact .fail _
  | cons h hrest => exact .done (h.mono fun hs => List.forall_mem_singleton.2 hs)

end Assessment

end PriceSurvey
