/-!
# Decimals

A decimal is an integer of digits and a scale: `⟨digits, scale⟩` stands for digits · 10^(-scale).
The scale is part of the value that is written, so `1.5` and `1.50` are two decimals of one size.
Order and size compare the numbers, equality compares digits and scale.

Digits and scale are integers of any size. A program that keeps scales in 64 bits is assumed to stay
within them: only an exponent written close to the ends of that range, or products and quotients of
such decimals, could leave it.
-/
namespace PriceSurvey

/-! ## Powers

A larger library may have powers of its own. Those of the core library come first, so that a power
is the same whatever else a module imports.
-/

instance (priority := high) natPower : Pow Nat Nat := instPowNat

instance (priority := high) intPower : Pow Int Nat := instPowNat

/-! ## Decimals -/

/-- The number digits · 10^(-scale), with the scale that it is written at. -/
structure Decimal where
  digits : Int
  scale : Int
  deriving DecidableEq, Repr

namespace Decimal

/-- An integer, at scale zero. -/
def ofInt (n : Int) : Decimal := ⟨n, 0⟩

/-- The digits that `d` would have at the finer of its own scale and `scale`. -/
def digitsAt (d : Decimal) (scale : Int) : Int := d.digits * 10 ^ (scale - d.scale).toNat

/-- The order of the numbers, whatever their scales. -/
protected def le (a b : Decimal) : Prop := a.digitsAt b.scale ≤ b.digitsAt a.scale

/-- The strict order of the numbers. -/
protected def lt (a b : Decimal) : Prop := a.digitsAt b.scale < b.digitsAt a.scale

instance : LE Decimal := ⟨Decimal.le⟩
instance : LT Decimal := ⟨Decimal.lt⟩

instance (a b : Decimal) : Decidable (a ≤ b) :=
  inferInstanceAs (Decidable (a.digitsAt b.scale ≤ b.digitsAt a.scale))

instance (a b : Decimal) : Decidable (a < b) :=
  inferInstanceAs (Decidable (a.digitsAt b.scale < b.digitsAt a.scale))

theorem lt_iff_not_le {a b : Decimal} : a < b ↔ ¬b ≤ a := by
  change a.digitsAt b.scale < b.digitsAt a.scale ↔ ¬b.digitsAt a.scale ≤ a.digitsAt b.scale
  omega

/-- More than zero: the sign is that of the digits. -/
def IsPositive (d : Decimal) : Prop := 0 < d.digits

instance (d : Decimal) : Decidable d.IsPositive := inferInstanceAs (Decidable (0 < d.digits))

/-- The number one, at any scale. -/
def IsOne (d : Decimal) : Prop := 0 ≤ d.scale ∧ d.digits = 10 ^ d.scale.toNat

instance (d : Decimal) : Decidable d.IsOne :=
  inferInstanceAs (Decidable (0 ≤ d.scale ∧ d.digits = 10 ^ d.scale.toNat))

end Decimal

end PriceSurvey
