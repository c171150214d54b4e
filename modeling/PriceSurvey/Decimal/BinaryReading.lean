import PriceSurvey.Decimal.Binary
import PriceSurvey.Decimal.Integer

/-!
# Reading floats

A float as it stands in a variable: an optional sign, then a name in letters of either size or
digits. The digits may have a point anywhere among them, also in front or at the end, and an
exponent behind them.
-/
namespace PriceSurvey.Binary

/-- The value of ASCII digits, of which there has to be one. -/
def digitsValue? (cs : List Char) : Option Nat :=
  if !cs.isEmpty && cs.all fun c => (Integer.digit? c).isSome then some (Integer.ofDigits cs)
  else none

/-- An exponent behind its letter. -/
def exponent? (cs : List Char) : Option Int :=
  let (below, digits) := Integer.takeSign cs
  (digitsValue? digits).map (Integer.signed below)

/-- The magnitude that digits with an optional point and exponent stand for. -/
def magnitude? (negative : Bool) (cs : List Char) : Option Binary := do
  let isLetter := fun c => c = 'e' ∨ c = 'E'
  let mantissa := cs.takeWhile fun c => ¬ isLetter c
  let exponent ← match cs.dropWhile fun c => ¬ isLetter c with
    | [] => some 0
    | _ :: rest => exponent? rest
  let whole := mantissa.takeWhile (· ≠ '.')
  let places := (mantissa.dropWhile (· ≠ '.')).drop 1
  let digits ← digitsValue? (whole ++ places)
  return ofDigits negative digits (exponent - places.length)

/-- A float as text. -/
def read (cs : List Char) : Option Binary :=
  let (negative, magnitude) := Integer.takeSign cs
  let name := String.ofList (magnitude.map Char.toLower)
  if name = "inf" ∨ name = "infinity" then some (.infinite negative)
  else if name = "nan" then some .nan
  else magnitude? negative magnitude

end PriceSurvey.Binary
