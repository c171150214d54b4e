import PriceSurvey.Decimal.Basic

/-!
# Product, quotient and rounding of decimals

Products are exact. A factor of one leaves the other factor in its shortest form. A quotient is
carried to at most a hundred digits and rounded half up there; a quotient that ends earlier is
exact. Rounding to decimal places takes a half away from zero.
-/
namespace PriceSurvey.Decimal

/-! ## The shortest form -/

/-- Takes the zeros off the end of the digits `n`, and one off the scale for each. -/
def stripZeros (n : Nat) (scale : Int) : Nat × Int :=
  if n ≠ 0 ∧ n % 10 = 0 then stripZeros (n / 10) (scale - 1) else (n, scale)
  termination_by n
  decreasing_by omega

/-- Gives the magnitude `n` the sign of `sign`. -/
def withSign (sign : Int) (n : Nat) : Int := if sign < 0 then -n else n

/-- The same number with no zero at the end of its digits. Zero has scale zero. -/
def shortest (d : Decimal) : Decimal :=
  if d.digits = 0 then ⟨0, 0⟩
  else
    let (n, scale) := stripZeros d.digits.natAbs d.scale
    ⟨withSign d.digits n, scale⟩

/-! ## Product -/

/-- The product. A factor of one leaves the shortest form of the other, the left one asked first. -/
protected def mul (a b : Decimal) : Decimal :=
  if a.IsOne then b.shortest
  else if b.IsOne then a.shortest
  else ⟨a.digits * b.digits, a.scale + b.scale⟩

instance : Mul Decimal := ⟨Decimal.mul⟩

/-! ## Quotient -/

/-- Digits that a quotient is carried to. -/
def quotientDigits : Nat := 100

/-- Appends zeros to `num` until it is at least `den`, one more decimal place for each. -/
def raise (num den : Nat) (scale : Int) : Nat × Int :=
  if 0 < num ∧ num < den then raise (num * 10) den (scale + 1) else (num, scale)
  termination_by den - num
  decreasing_by omega

/-- Long division: at most `places` more digits are put behind the quotient `q` with remainder `r`.
It ends early when nothing remains; else the last digit is rounded half up. -/
def longDivide (den : Nat) : Nat → Nat → Nat → Int → Nat × Int
  | 0, q, r, scale => (if r ≠ 0 ∧ den ≤ 2 * r then q + 1 else q, scale)
  | places + 1, q, r, scale =>
    if r = 0 then (q, scale)
    else longDivide den places (q * 10 + r * 10 / den) (r * 10 % den) (scale + 1)

/-- The quotient of two magnitudes, neither of them zero. -/
def divideMagnitudes (num den : Nat) (scale : Int) : Nat × Int :=
  let (num, scale) := raise num den scale
  let q := num / den
  longDivide den (quotientDigits - (Nat.toDigits 10 q).length) q (num % den) scale

/-- The quotient. Zero divided, or a number divided by one, keeps its scale; equal digits give one;
a divisor of zero gives zero. -/
protected def div (a b : Decimal) : Decimal :=
  if b.digits = 0 then ⟨0, 0⟩
  else if a.digits = 0 ∨ b.IsOne then a
  else if a.digits = b.digits then ⟨1, a.scale - b.scale⟩
  else
    let (q, scale) := divideMagnitudes a.digits.natAbs b.digits.natAbs (a.scale - b.scale)
    ⟨withSign (a.digits * b.digits) q, scale⟩

instance : Div Decimal := ⟨Decimal.div⟩

/-! ## Rounding -/

/-- At most `places` decimals: those beyond are rounded, a half away from zero. A decimal with no
more than `places` of them is left as it is. -/
def round (d : Decimal) (places : Nat) : Decimal :=
  if d.scale ≤ places then d
  else
    let unit := 10 ^ (d.scale - places).toNat
    let n := d.digits.natAbs
    let kept := if unit ≤ 2 * (n % unit) then n / unit + 1 else n / unit
    ⟨withSign d.digits kept, places⟩

end PriceSurvey.Decimal
