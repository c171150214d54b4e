import PriceSurvey.Amount.Numeral

/-!
# Spacing between numbers

The text between two numbers joins them, parts them, may do either, or ends the series of numbers
that are read together.
-/
namespace PriceSurvey.Amount

open Text

/-- What stands between two numbers. -/
inductive Spacing where
  /-- An apostrophe: the numbers are one amount. -/
  | joining
  /-- One blank or no-break blank: a separator or the end of an amount. -/
  | either
  /-- Other white space: the end of an amount. -/
  | parting
  /-- Anything else: the end of the series. -/
  | ending
  deriving DecidableEq, Repr

/-- The spacing that a text between two numbers is. -/
def Spacing.ofText (cs : List Char) : Spacing :=
  if cs = ['\''] then .joining
  else if cs = [' '] ∨ cs = ['\u00a0'] then .either
  else if cs ≠ [] ∧ cs.all isBlank = true then .parting
  else .ending

/-- A thousands separator can stand here. -/
def Spacing.canJoin : Spacing → Bool
  | .joining | .either => true
  | _ => false

/-- Two amounts can be apart here. -/
def Spacing.canPart : Spacing → Bool
  | .either | .parting => true
  | _ => false

end PriceSurvey.Amount
