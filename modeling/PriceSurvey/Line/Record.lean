import PriceSurvey.Alias.Resolution
import PriceSurvey.Decimal.Written

/-!
# Price lines

The record of one logical line of a price list, and the problems that keep it from being complete.
A problem never stops the reading of a list: it is noted on its line.
-/
namespace PriceSurvey

/-- How much of a line could be read: all of it, some of it, or nothing. -/
inductive LineStatus where
  | complete
  | incomplete
  | unreadable
  deriving DecidableEq, Repr

/-- The status as it is written in records and rows. -/
def LineStatus.text : LineStatus → String
  | .complete => "ok"
  | .incomplete => "partial"
  | .unreadable => "unparseable"

/-- What is wrong with a line. -/
inductive LineProblem where
  | empty
  | ruler
  | badAmount (fault : Decimal.Fault)
  | noUnit
  | amountCount (found : Nat)
  | noAmounts
  deriving DecidableEq, Repr

def LineProblem.message : LineProblem → String
  | .empty => "EMPTY_LINE"
  | .ruler => "decorative or empty line"
  | .badAmount fault => "price parse error: " ++ fault.message
  | .noUnit => "unit missing"
  | .amountCount found => "found " ++ toString found ++ " price(s) but expected 3 (min/avg/max)"
  | .noAmounts => "no prices found"

/-- The currency of prices that name none. -/
def usualCurrency : String := "XOF"

/-- One logical line of a price list. `raw` is the input as it stands. -/
structure PriceLine where
  raw : String
  designation : Option String
  unit : Option String
  low : Option Decimal
  mean : Option Decimal
  high : Option Decimal
  currency : String
  status : LineStatus
  problems : List String
  resolution : Option Resolution
  deriving DecidableEq, Repr

namespace PriceLine

/-- A line of which nothing could be read. -/
def unreadable (raw : String) (problem : LineProblem) : PriceLine where
  raw
  designation := none
  unit := none
  low := none
  mean := none
  high := none
  currency := usualCurrency
  status := .unreadable
  problems := [problem.message]
  resolution := none

/-- The item that the line's designation was resolved to. -/
def item? (l : PriceLine) : Option String := l.resolution.bind (·.item)

end PriceLine

/-- Lines submitted for reading: whether they are to be kept as evidence, and where they are
from. -/
structure Submission where
  lines : List String
  persist : Bool := false
  source : Option String := none
  deriving DecidableEq, Repr

end PriceSurvey
