import PriceSurvey.Text.Trim
import PriceSurvey.Text.Lowercase
import PriceSurvey.Text.Decomposition

/-!
# Dictionary keys

Two names are taken for the same item name if their keys agree: `fold` trims a name, folds its
case, decomposes it and drops every combining mark. A decomposition can bring capitals and blanks
back, and these stay.
-/
namespace PriceSurvey.Text

/-- The key of a name: without case, accents, compatibility forms and blanks at its ends. -/
def fold (cs : List Char) : List Char :=
  (decomposeText ((trim cs).flatMap foldCase)).filter fun c => !isMark c

/-- The key of a name given as a string. -/
def foldString (s : String) : String := String.ofList (fold s.toList)

end PriceSurvey.Text
