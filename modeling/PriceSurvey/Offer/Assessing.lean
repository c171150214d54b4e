import PriceSurvey.Alias.Lookup
import PriceSurvey.Offer.LimitCache

/-!
# Assessing offers

The total of an offer is set against the reference price of its item. The ratio is rounded to six
decimals and then compared with the limits of the offer's profile. A batch makes one request for
its names, one for its reference prices and one for each profile, and each offer is judged by
itself.
-/
namespace PriceSurvey

/-! ## One offer -/

/-- Decimals that a ratio is compared at. -/
def ratioPlaces : Nat := 6

/-- Decimals that amounts and ratios are shown at. -/
def shownPlaces : Nat := 4

/-- How an offer stands to a reference price: the verdict, the ratio if there is one, and the notes
on it. -/
structure Standing where
  verdict : Verdict
  ratio : Option Decimal
  notes : List String
  deriving DecidableEq, Repr

namespace Standing

/-- No reference price, for the reason given. -/
def none (reason : String) : Standing := ⟨.noReference, .none, [reason]⟩

/-- The note on a ratio above a limit. -/
def excess (ratio limit : Decimal) (name degree : String) : String :=
  "ratio " ++ toString (ratio.round shownPlaces) ++ " > " ++ name ++ " " ++ toString limit ++
    " -- " ++ degree ++ " above ref"

def ofRatio (ratio : Decimal) (limits : Limits) : Standing :=
  if ratio ≤ limits.acceptable then ⟨.within, some ratio, []⟩
  else if limits.high < ratio then
    ⟨.above, some ratio, [excess ratio limits.high "threshold_eleve" "significantly"]⟩
  else ⟨.above, some ratio, [excess ratio limits.acceptable "threshold_acceptable" "moderately"]⟩

/-- The standing of a total, given its item and the reference price of that. -/
def ofTotal (total : Decimal) (item : Option String) (reference : Option Decimal)
    (limits : Limits) : Standing :=
  match item, reference with
  | .none, _ => none "alias UNRESOLVED -- no mercuriale match possible"
  | some item, .none => none ("item_id '" ++ item ++ "' resolved but no mercuriale data")
  | some item, some price =>
    if price.IsPositive then ofRatio ((total / price).round ratioPlaces) limits
    else
      none ("item_id '" ++ item ++ "' reference price " ++ toString price ++
        " is not positive -- ratio undefined")

end Standing

/-- What a batch of offers is judged by: the reference prices and the limits, and whether some
profile of the batch had to make do with the fixed limits. -/
structure Yardstick where
  prices : Index Decimal
  limits : Index SourcedLimits
  usedFixed : Bool

namespace Yardstick

def fixedNote : String := "fallback hardcoded -- scoring_configs empty, using 1.05/1.20"

/-- The note on generic limits for a profile that has none. -/
def genericNote (profile : String) : String :=
  "profile '" ++ profile ++ "' not configured -- " ++ genericProfile ++ " thresholds applied"

/-- The limits of a profile. Those of every profile in the batch are known. -/
def limitsOf (y : Yardstick) (profile : String) : SourcedLimits :=
  (y.limits.get? profile).getD ⟨.fixed, .fixed⟩

/-- The notes on the limits that an offer is judged by. -/
def limitNotes (y : Yardstick) (profile : String) : List String :=
  (if y.usedFixed then [fixedNote] else []) ++
    (if (y.limitsOf profile).origin = .generic ∧ profile ≠ genericProfile then
      [genericNote profile] else [])

def assess (y : Yardstick) (o : Offer) (r : Resolution) : Assessment :=
  let reference := r.item.bind y.prices.get?
  let standing := Standing.ofTotal o.total r.item reference (y.limitsOf o.profile).limits
  { name := o.name
    item := r.item
    total := o.total.round shownPlaces
    reference := reference.map (·.round shownPlaces)
    ratio := standing.ratio
    verdict := standing.verdict
    profile := o.profile
    notes := y.limitNotes o.profile ++ standing.notes
    resolution := r }

end Yardstick

/-! ## A batch of offers -/

namespace Assessment

def firstFault? (offers : List Offer) : Option Fault :=
  offers.findSome? fun o => o.fault?.map (.invalidOffer o.name)

/-- The reference prices of the items that names were resolved to. Of several prices of an item the
last one counts. -/
def referencePrices (results : List Resolution) : Action (Index Decimal) :=
  let items := (results.filterMap (·.item)).eraseDups
  if items.isEmpty then .done .empty
  else do
    let prices : List ReferencePrice ← .request (.prices items)
    return .ofPairs (prices.map fun p => (p.item, p.price))

/-- The different profiles of offers, in the order of their first appearance. -/
def profiles (offers : List Offer) : List String := (offers.map (·.profile)).eraseDups

def limitsFor (offers : List Offer) : Action LimitCache := do
  let cache ← LimitCache.empty.getAll (profiles offers)
  if cache.usedFixed then
    .log .warn .offers
      "no threshold profile configured; hardcoded 1.05/1.20 applied to the whole batch"
  return cache

def ofValid (resolver : Resolver) (offers : List Offer) : Action (List Assessment) := do
  let results ← resolver (offers.map (·.name))
  let prices ← referencePrices results
  let cache ← limitsFor offers
  let yardstick : Yardstick := ⟨prices, cache.found, cache.usedFixed⟩
  let assessments := List.zipWith yardstick.assess offers results
  let unpriced := (assessments.filter fun a => a.verdict = .noReference).length
  .log .info .offers
    ("price check: " ++ toString assessments.length ++ " offers, " ++
      toString (profiles offers).length ++ " profiles, " ++ toString unpriced ++ " without reference")
  return assessments

/-- Assesses a batch of offers: one assessment for each, in their order. An invalid offer is a fault
of the whole batch. -/
def ofOffers (resolver : Resolver) (offers : List Offer) : Action (List Assessment) :=
  if offers.isEmpty then .done []
  else
    match firstFault? offers with
    | some fault => .fail fault
    | none => ofValid resolver offers

def ofOffer (resolver : Resolver) (o : Offer) : Action Assessment := do
  match ← ofOffers resolver [o] with
  | a :: _ => return a
  | [] => .fail .noResult

end Assessment

end PriceSurvey
