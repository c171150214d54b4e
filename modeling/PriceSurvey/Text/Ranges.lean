/-!
# Sets of characters, as ranges of code points

A class of characters is a list of ranges in ascending order, so that a search can end early.
-/
namespace PriceSurvey.Text

/-- Ranges of code points, each given by its first and last member. -/
abbrev Ranges := List (Nat × Nat)

/-- The code point lies in one of the ranges. -/
def Ranges.has : Ranges → Nat → Bool
  | [], _ => false
  | (lo, hi) :: rest, n => decide (lo ≤ n) && (decide (n ≤ hi) || Ranges.has rest n)

end PriceSurvey.Text
