import PriceSurvey.Amount.Value
import PriceSurvey.Line.Logical
import PriceSurvey.Line.Record
import PriceSurvey.UnitRule

/-!
# Reading price lines

A text with a price triple gives prices, designation and unit. A text with fewer amounts keeps the
first two of them. An amount without a value makes the whole line unreadable.
-/
namespace PriceSurvey

open Text

/-- The values of a price triple, the first fault first. -/
def Amount.Triple.values (t : Amount.Triple) : Except Decimal.Fault (Decimal × Decimal × Decimal) := do
  return (← t.low.value, ← t.mean.value, ← t.high.value)

namespace PriceLine

def ofTriple (rule : UnitRule) (raw : String) (text : List Char) (t : Amount.Triple) : PriceLine :=
  match t.values with
  | .error fault => unreadable raw (.badAmount fault)
  | .ok (low, mean, high) =>
    let (designation, unit) := rule.around (t.low.before text) (t.high.after text)
    { raw
      designation := designation.map String.ofList
      unit := unit.map String.ofList
      low := some low
      mean := some mean
      high := some high
      currency := usualCurrency
      status := if unit.isSome then .complete else .incomplete
      problems := if unit.isSome then [] else [LineProblem.message .noUnit]
      resolution := none }

/-- The line of a text with amounts but no triple: the first two are kept. -/
def ofAmounts (raw : String) (text : List Char) (amounts : List Amount) : PriceLine :=
  match (amounts.take 2).mapM Amount.value with
  | .error fault => unreadable raw (.badAmount fault)
  | .ok values =>
    { raw
      designation := some (String.ofList text)
      unit := none
      low := values[0]?
      mean := values[1]?
      high := none
      currency := usualCurrency
      status := .incomplete
      problems :=
        [LineProblem.message
          (if amounts.isEmpty then .noAmounts else .amountCount amounts.length)]
      resolution := none }

def ofTrimmed (rule : UnitRule) (raw : String) (text : List Char) : PriceLine :=
  if text.isEmpty then unreadable raw .empty
  else if isRuler text then unreadable raw .ruler
  else
    let found := Amount.find text
    match found.triple with
    | some t => ofTriple rule raw text t
    | none => ofAmounts raw text found.amounts

def ofText (rule : UnitRule) (raw : String) : PriceLine := ofTrimmed rule raw (trim raw.toList)

def ofLogical (rule : UnitRule) (g : LogicalLine) : PriceLine :=
  match g with
  | .blank raw => unreadable raw .empty
  | .lines block => ofTrimmed rule g.raw block.text

/-- The lines of a list, one for each logical line. -/
def readAll (rule : UnitRule) (lines : List String) : List PriceLine :=
  (LogicalLine.ofLines lines).map (ofLogical rule)

end PriceLine

end PriceSurvey
