import PriceSurvey.Offer.Record
import PriceSurvey.Sql.Address

/-!
# Faults

A fault ends a call: the database gave no answer, or an offer was invalid. What the data do not hold
is no fault. An unreadable line, an unknown name, a missing price or profile is noted on the record
that it concerns.
-/
namespace PriceSurvey

/-- Why the database gave no answer. -/
inductive DatabaseFault where
  | timedOut
  | closed
  | crashed
  | noRow
  | badData (text : String)
  | refused (text : String)
  | notANumber (column : String)
  | badAddress (cause : Sql.Address.Fault)
  deriving DecidableEq, Repr

def DatabaseFault.message : DatabaseFault → String
  | .timedOut => "pool timed out while waiting for an open connection"
  | .closed => "attempted to acquire a connection on a closed pool"
  | .crashed => "attempted to communicate with a crashed background worker"
  | .noRow => "no rows returned by a query that expected to return at least one row"
  | .badData text => "encountered unexpected or invalid data: " ++ text
  | .refused text => "error returned from database: " ++ text
  | .notANumber column =>
    "error occurred while decoding column \"" ++ column ++
      "\": BigDecimal does not support NaN values"
  | .badAddress cause => "error with configuration: " ++ cause.message

/-- Why a call failed. -/
inductive Fault where
  | database (cause : DatabaseFault)
  | invalidOffer (name : String) (cause : OfferFault)
  /-- A single offer was resolved to no result at all. -/
  | noResult
  deriving DecidableEq, Repr

def Fault.message : Fault → String
  | .database cause => "database error: " ++ cause.message
  | .invalidOffer name cause => "invalid offer '" ++ name ++ "': " ++ cause.message
  | .noResult => "no result for the offer"

end PriceSurvey
