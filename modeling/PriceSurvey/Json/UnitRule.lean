import PriceSurvey.Json.Decode
import PriceSurvey.UnitRule

/-!
# The JSON form of a unit rule

Every field may be left out and then has its default.
-/
namespace PriceSurvey

open Json Json.Reader

def UnitRule.toJson (r : UnitRule) : Json := .object [
  ("allow_digit_led", .bool r.allowDigitFirst),
  ("max_trailing_chars", .ofNat r.maxTailLength),
  ("max_unit_chars", .ofNat r.maxUnitLength)]

/-- A count, of 64 bits. -/
def toCount : Json → Except Json.Fault Nat := toNatWithin Integer.maxUnsigned "usize"

def UnitRule.ofJson : Json → Except Json.Fault UnitRule :=
  let r : UnitRule := {}
  (UnitRule.mk <$> defaulted "max_unit_chars" r.maxUnitLength toCount
    <*> defaulted "allow_digit_led" r.allowDigitFirst toBool
    <*> defaulted "max_trailing_chars" r.maxTailLength toCount).run "TrailingTokenPolicy"

end PriceSurvey
