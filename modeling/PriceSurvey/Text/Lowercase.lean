import PriceSurvey.Text.Table.Case

/-!
# Small letters of single characters

Each character is lowered alone, by its full mapping: the one character that two characters
stand for is the capital I with a dot above. Case folding adds the letters that differ only in
spelling: the sharp s is written with two s, and the final sigma is a sigma.
-/
namespace PriceSurvey.Text

/-- The small letter of a capital found in the rows. The search ends at the first row that starts
beyond the code point. -/
def smallLetter? : List CaseRow → Nat → Option Nat
  | [], _ => none
  | r :: rest, n =>
    if n < r.first then none
    else if n ≤ r.last then
      if (n - r.first) % r.step = 0 then some (r.small + (n - r.first)) else none
    else smallLetter? rest n

/-- The small form of a character. -/
def lower (c : Char) : List Char :=
  if c = '\u0130' then ['i', '\u0307']
  else match smallLetter? caseRows c.toNat with
    | some n => [Char.ofNat n]
    | none => [c]

/-- The small form in which spellings of one letter agree. -/
def foldCase (c : Char) : List Char :=
  if c = 'ß' ∨ c = 'ẞ' then ['s', 's']
  else if c = 'ς' then ['σ']
  else lower c

end PriceSurvey.Text
