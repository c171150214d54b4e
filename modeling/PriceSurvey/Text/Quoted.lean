import PriceSurvey.Text.Ranges
import PriceSurvey.Text.Table.Hidden

/-!
# Quoted text

A text shown inside quotation marks. A quotation mark, a backslash and the usual controls are
written with a backslash; a character that would not show, or would join the one before it, is
written by its code point.
-/
namespace PriceSurvey.Text

/-- The code point in hexadecimal, without leading zeros. -/
def hexDigits (n : Nat) : List Char := Nat.toDigits 16 n

/-- A character as it stands between quotation marks. -/
def quoteChar (c : Char) : List Char :=
  if c = '\x00' then ['\\', '0']
  else if c = '\t' then ['\\', 't']
  else if c = '\r' then ['\\', 'r']
  else if c = '\n' then ['\\', 'n']
  else if c = '"' then ['\\', '"']
  else if c = '\\' then ['\\', '\\']
  else if extendRanges.has c.toNat || hiddenRanges.has c.toNat then
    ['\\', 'u', '\x7b'] ++ hexDigits c.toNat ++ ['\x7d']
  else [c]

/-- The text between quotation marks. -/
def quote (s : String) : String :=
  String.ofList ('"' :: s.toList.flatMap quoteChar ++ ['"'])

end PriceSurvey.Text
