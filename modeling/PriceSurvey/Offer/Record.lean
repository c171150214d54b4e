import PriceSurvey.Alias.Resolution
import PriceSurvey.Line.Record
import PriceSurvey.Decimal.Arithmetic

/-!
# Offers and their assessments

An offer names an item at a price and a quantity. Its assessment sets the total against the
reference price of the item and says where it lies by the limits of the offer's profile. It
describes; it does not rank.
-/
namespace PriceSurvey

/-- The profile that is meant if none is named, and whose limits stand in for missing ones. -/
def genericProfile : String := "GENERIC"

structure Offer where
  name : String
  unitPrice : Decimal
  quantity : Decimal := .ofInt 1
  currency : String := usualCurrency
  profile : String := genericProfile
  deriving DecidableEq, Repr

/-- What makes an offer invalid. -/
inductive OfferFault where
  | unitPrice
  | quantity
  deriving DecidableEq, Repr

def OfferFault.message : OfferFault → String
  | .unitPrice => "unit_price must be > 0"
  | .quantity => "quantity must be > 0"

namespace Offer

/-- Price and quantity have to be more than zero; the price is looked at first. -/
def fault? (o : Offer) : Option OfferFault :=
  if ¬o.unitPrice.IsPositive then some .unitPrice
  else if ¬o.quantity.IsPositive then some .quantity
  else none

/-- The price of the whole quantity. -/
def total (o : Offer) : Decimal := o.unitPrice * o.quantity

end Offer

/-- The greatest ratio to the reference price that is acceptable, and the one above which it is
called high. -/
structure Limits where
  acceptable : Decimal
  high : Decimal
  deriving DecidableEq, Repr

/-- The limits used when no profile is configured at all. -/
def Limits.fixed : Limits := ⟨⟨105, 2⟩, ⟨120, 2⟩⟩

/-- Where the limits of a profile come from. -/
inductive LimitOrigin where
  | profile
  | generic
  | fixed
  deriving DecidableEq, Repr

structure SourcedLimits where
  limits : Limits
  origin : LimitOrigin
  deriving DecidableEq, Repr

structure ReferencePrice where
  item : String
  price : Decimal
  deriving DecidableEq, Repr

/-- Where an offer lies. -/
inductive Verdict where
  | within
  | above
  | noReference
  deriving DecidableEq, Repr

/-- The verdict as it is written in records. -/
def Verdict.text : Verdict → String
  | .within => "WITHIN_REF"
  | .above => "ABOVE_REF"
  | .noReference => "NO_REF"

structure Assessment where
  name : String
  item : Option String
  total : Decimal
  reference : Option Decimal
  ratio : Option Decimal
  verdict : Verdict
  profile : String
  notes : List String
  resolution : Resolution
  deriving DecidableEq, Repr

end PriceSurvey
