import PriceSurvey.Decimal.Arithmetic

/-!
# Decimals as a database stores them

A stored decimal is a sequence of digits to the base ten thousand without zeros at either end, so
its scale is the least multiple of four that holds the number. The scale it was written at is lost.
-/
namespace PriceSurvey.Decimal

/-- The least multiple of four that is at least `n`. -/
def upToFour (n : Int) : Int := -(-n / 4 * 4)

/-- The decimal as it comes back from the database. -/
def stored (d : Decimal) : Decimal :=
  let s := d.shortest
  if s.digits = 0 then ⟨0, 0⟩ else ⟨s.digitsAt (upToFour s.scale), upToFour s.scale⟩

end PriceSurvey.Decimal
