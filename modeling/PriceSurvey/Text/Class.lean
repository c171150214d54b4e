import PriceSurvey.Text.Ranges
import PriceSurvey.Text.Table.Digit
import PriceSurvey.Text.Table.Word
import PriceSurvey.Text.Table.Sign
import PriceSurvey.Text.Table.Mark
import PriceSurvey.Text.Table.Accent

/-!
# Classes of characters

The classes of characters that price lines and names are read by. Decimal digits, word characters,
punctuation and symbols are those of Unicode 16; numeric characters, letters and combining marks
are those of Unicode 17. Blanks are the same in both.
-/
namespace PriceSurvey.Text

/-- A decimal digit of any script. -/
def isDigit (c : Char) : Bool := digitRanges.has c.toNat

/-- A decimal digit, a letter-like number or any other numeric character. -/
def isNumeric (c : Char) : Bool := numericRanges.has c.toNat

/-- A character that makes up words: a letter, mark, digit, connector or join control. -/
def isWord (c : Char) : Bool := wordRanges.has c.toNat

/-- White space. The no-break space counts, the zero width space does not. -/
def blankRanges : Ranges := [
  (0x9, 0xD), (0x20, 0x20), (0x85, 0x85), (0xA0, 0xA0), (0x1680, 0x1680), (0x2000, 0x200A),
  (0x2028, 0x2029), (0x202F, 0x202F), (0x205F, 0x205F), (0x3000, 0x3000)]

def isBlank (c : Char) : Bool := blankRanges.has c.toNat

/-- A punctuation mark or a symbol. -/
def isSign (c : Char) : Bool := signRanges.has c.toNat

/-- A combining mark: an accent, a vowel sign or an enclosing mark. -/
def isMark (c : Char) : Bool := markRanges.has c.toNat

/-- Characters that join words or parts of them and are no letters: connectors and join
controls. -/
def joinRanges : Ranges := [
  (0x5F, 0x5F), (0x200C, 0x200D), (0x203F, 0x2040), (0x2054, 0x2054), (0xFE33, 0xFE34),
  (0xFE4D, 0xFE4F), (0xFF3F, 0xFF3F)]

/-- A letter, or a numeric character. -/
def isLetterOrNumber (c : Char) : Bool :=
  isNumeric c || newLetterRanges.has c.toNat ||
    (isWord c && !accentRanges.has c.toNat && !joinRanges.has c.toNat)

end PriceSurvey.Text
