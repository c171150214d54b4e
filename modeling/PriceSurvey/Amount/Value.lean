import PriceSurvey.Amount.Finding
import PriceSurvey.Decimal.Written

/-!
# The value of an amount

Separators and blanks are dropped and a decimal comma is read as a point. What is left is read as a
decimal, so an amount with digits of another script than ASCII has no value.
-/
namespace PriceSurvey.Amount

open Text

/-- An amount without its separators, with a point for the decimal comma. -/
def clean (cs : List Char) : List Char :=
  (cs.filter fun c => !isBlank c && c ≠ '\'').map fun c => if c = ',' then '.' else c

/-- The value of an amount given as text. -/
def read (cs : List Char) : Except Decimal.Fault Decimal := Decimal.read (clean cs)

/-- The value of an amount. -/
def value (a : Amount) : Except Decimal.Fault Decimal := read a.text

end PriceSurvey.Amount
