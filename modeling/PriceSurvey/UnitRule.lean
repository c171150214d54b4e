import PriceSurvey.Text.Trim

/-!
# Units

The unit of a price line is the last word before its prices, or else what follows them. A rule
bounds how long it may be and says whether it may start with a number. What follows the prices is
cut to length and taken as it is.
-/
namespace PriceSurvey

open Text

/-- Which words are units. Lengths count characters. -/
structure UnitRule where
  maxUnitLength : Nat := 20
  allowDigitFirst : Bool := false
  maxTailLength : Nat := 50
  deriving DecidableEq, Repr

namespace UnitRule

/-- A word can be a unit. -/
def admits (r : UnitRule) (word : List Char) : Bool :=
  decide (word.length ≤ r.maxUnitLength) && (r.allowDigitFirst || !word.head?.any isNumeric)

/-- The designation and the unit in the text before the prices. A single word is a designation. -/
def splitBefore (r : UnitRule) (before : List Char) : Option (List Char) × Option (List Char) :=
  match lastWord? (trim before) with
  | some (head, word) =>
    if r.admits word then (nonBlank? head, nonBlank? word) else (nonBlank? before, none)
  | none => (nonBlank? before, none)

/-- The unit in the text behind the prices. -/
def unitBehind (r : UnitRule) (after : List Char) : Option (List Char) :=
  nonBlank? ((trim after).take r.maxTailLength)

/-- The designation and the unit around the prices: what stands before them has the first say. -/
def around (r : UnitRule) (before after : List Char) : Option (List Char) × Option (List Char) :=
  let (designation, unit) := r.splitBefore before
  (designation, unit.or (r.unitBehind after))

end UnitRule

end PriceSurvey
