import PriceSurvey.Line.Record
import PriceSurvey.Offer.Record

/-!
# Requests

Everything that the library asks from outside: the dictionary, the reference prices, the limits of
profiles, the table of evidence, and a resolver that stands in for the dictionary.
-/
namespace PriceSurvey

/-- One call for an answer. -/
inductive Request where
  /-- Entries whose name is among the names or whose key is among the keys. -/
  | entries (names keys : List String)
  /-- Reference prices of items; items without one are left out. -/
  | prices (items : List String)
  /-- The limits of a profile, if it is configured. -/
  | limits (profile : String)
  /-- Whether there is a table of evidence. -/
  | evidenceTable
  /-- Lines to be put behind the evidence, with where they are from. -/
  | append (lines : List PriceLine) (source : Option String)
  /-- Names that an outside resolver is to look up. -/
  | resolve (names : List String)
  deriving DecidableEq, Repr

/-- What a call is answered with. -/
abbrev Request.Answer : Request → Type
  | .entries _ _ => List AliasEntry
  | .prices _ => List ReferencePrice
  | .limits _ => Option Limits
  | .evidenceTable => Bool
  | .append _ _ => Nat
  | .resolve _ => List Resolution

/-- A call that only reads. -/
def Request.reads : Request → Bool
  | .append _ _ => false
  | _ => true

end PriceSurvey
