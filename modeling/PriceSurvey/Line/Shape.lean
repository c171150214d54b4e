import PriceSurvey.Text.Trim
import PriceSurvey.Amount.Finding

/-!
# Shapes of lines

A line is blank, has a price triple, is a ruler of punctuation and symbols, or is text.
-/
namespace PriceSurvey

open Text

/-- What a line is for the lines around it. -/
inductive LineShape where
  | blank
  | priced
  | ruler
  | text
  deriving DecidableEq, Repr

/-- A line that is only drawn: punctuation and symbols with blanks between them. -/
def isRuler (cs : List Char) : Bool := !cs.isEmpty && cs.all fun c => isSign c || isBlank c

def LineShape.ofTrimmed (cs : List Char) : LineShape :=
  if cs.isEmpty then .blank
  else if (Amount.find cs).triple.isSome then .priced
  else if isRuler cs then .ruler
  else .text

def LineShape.ofLine (raw : String) : LineShape := .ofTrimmed (trim raw.toList)

end PriceSurvey
