import PriceSurvey.Decimal.Basic

/-!
# Binary floating point numbers and their decimals

A finite number of 64 bits is a mantissa times a power of two. Everything here is exact integer
arithmetic: `nearest` rounds a quotient to the nearest number, `shortestDigits` finds the fewest
digits that read back, and `toDecimal?` gives the sixteen significant digits that a float is taken
as. A tie goes to the even neighbour throughout.
-/
namespace PriceSurvey

/-- A floating point number of 64 bits. A finite one is mantissa · 2^exponent, with a mantissa of 53
bits or with the least exponent, -1074. -/
inductive Binary where
  | nan
  | infinite (negative : Bool)
  | finite (negative : Bool) (mantissa : Nat) (exponent : Int)
  deriving DecidableEq, Repr

namespace Binary

/-- The integer nearest to a quotient, the even one of two that are as near. -/
def roundQuotient (num den : Nat) : Nat :=
  let q := num / den
  let r := 2 * (num % den)
  if den < r ∨ (r = den ∧ q % 2 = 1) then q + 1 else q

/-! ## The nearest number -/

/-- The number nearest to num / den. What would need an exponent above 971 is infinite. -/
def nearest (negative : Bool) (num den : Nat) : Binary :=
  if num = 0 then .finite negative 0 (-1074)
  else
    let guess : Int := (Nat.log2 num : Int) - Nat.log2 den
    let top := if num * 2 ^ (-guess).toNat < den * 2 ^ guess.toNat then guess - 1 else guess
    let e := max (top - 52) (-1074)
    let m := roundQuotient (num * 2 ^ (-e).toNat) (den * 2 ^ e.toNat)
    let (m, e) := if m = 0x20000000000000 then (0x10000000000000, e + 1) else (m, e)
    if 971 < e then .infinite negative else .finite negative m e

/-- The number nearest to digits · 10^exponent. What is far beyond the range is not computed. -/
def ofDigits (negative : Bool) (digits : Nat) (exponent : Int) : Binary :=
  let size := ((Nat.toDigits 10 digits).length : Int) + exponent
  if digits = 0 ∨ size < -330 then .finite negative 0 (-1074)
  else if 310 < size then .infinite negative
  else nearest negative (digits * 10 ^ exponent.toNat) (10 ^ (-exponent).toNat)

def ofInt (n : Int) : Binary := ofDigits (decide (n < 0)) n.natAbs 0

/-! ## Decimal digits -/

/-- The numerator and denominator of mantissa · 2^exponent. -/
def fraction (mantissa : Nat) (exponent : Int) : Nat × Nat :=
  (mantissa * 2 ^ exponent.toNat, 2 ^ (-exponent).toNat)

/-- The exponent of the greatest power of ten that is at most num / den, which is not zero. -/
def tenPower (num den : Nat) : Int :=
  if den ≤ num then (Nat.toDigits 10 (num / den)).length - 1
  else
    let size := (Nat.toDigits 10 (den / num)).length
    if den ≤ num * 10 ^ (size - 1) then -((size : Int) - 1) else -(size : Int)

/-- num / den as a quotient counted in units of 10^place. -/
def inUnits (num den : Nat) (place : Int) : Nat × Nat :=
  (num * 10 ^ (-place).toNat, den * 10 ^ place.toNat)

/-- The sixteen significant digits of a number and the power of ten of the last one; zero has them
too. -/
def sixteenDigits (mantissa : Nat) (exponent : Int) : Nat × Int :=
  if mantissa = 0 then (0, -15)
  else
    let (num, den) := fraction mantissa exponent
    let place := tenPower num den - 15
    let (n, d) := inUnits num den place
    let digits := roundQuotient n d
    if digits = 10000000000000000 then (1000000000000000, place + 1) else (digits, place)

/-- The decimal that a float is taken as: sixteen significant digits. Only finite numbers have
one. -/
def toDecimal? : Binary → Option Decimal
  | .finite negative m e =>
    let (digits, place) := sixteenDigits m e
    some ⟨if negative then -digits else digits, -place⟩
  | _ => none

/-- Digits on the grid of 10^place next to num / den that read back as `self`, the nearer first. -/
def readsBack? (self : Binary) (negative : Bool) (num den : Nat) (place : Int) : Option Nat :=
  let (n, d) := inUnits num den place
  let near := roundQuotient n d
  let far := if near * d ≤ n then near + 1 else near - 1
  [near, far].find? fun c => decide (ofDigits negative c place = self)

/-- The fewest digits that read back, tried on ever finer grids from `place` on, with the place of
the last digit. The fuel bounds the grids that are tried. -/
def shortestFrom (self : Binary) (negative : Bool) (num den : Nat) : Nat → Int → Nat × Int
  | 0, place => (roundQuotient (inUnits num den place).1 (inUnits num den place).2, place)
  | fuel + 1, place =>
    match readsBack? self negative num den place with
    | some c => (c, place)
    | none => shortestFrom self negative num den fuel (place - 1)

/-- The fewest digits that read back as a finite number, and the place of the last. The grid above
its first digit is tried too: the number may lie just under a power of ten. -/
def shortestDigits (negative : Bool) (mantissa : Nat) (exponent : Int) : Nat × Int :=
  if mantissa = 0 then (0, 0)
  else
    let (num, den) := fraction mantissa exponent
    shortestFrom (.finite negative mantissa exponent) negative num den 17 (tenPower num den + 1)

/-! ## Text -/

/-- A magnitude in plain notation: zeros instead of an exponent. -/
def writeDigits (digits : Nat) (place : Int) : List Char :=
  let ds := Nat.toDigits 10 digits
  if 0 ≤ place then ds ++ List.replicate place.toNat '0'
  else
    let places := (-place).toNat
    let padded := List.replicate (places + 1 - ds.length) '0' ++ ds
    padded.take (padded.length - places) ++ '.' :: padded.drop (padded.length - places)

/-- The fewest digits that read back, in plain notation. -/
def write : Binary → List Char
  | .nan => ['N', 'a', 'N']
  | .infinite negative => (if negative then ['-'] else []) ++ ['i', 'n', 'f']
  | .finite negative m e =>
    let (digits, place) := shortestDigits negative m e
    (if negative then ['-'] else []) ++ writeDigits digits place

/-- Digits with the point behind the first and the exponent of ten that it stands for. -/
def writeScientific (digits : List Char) (exponent : Int) : List Char :=
  let mantissa := match digits with
    | c :: d :: rest => c :: '.' :: d :: rest
    | cs => cs
  mantissa ++ 'e' :: (toString exponent).toList

/-- The fewest digits that read back, with a point in them, between 10^-5 and 10^16, and with an
exponent beyond. -/
def writeCompact : Binary → List Char
  | .finite negative m e =>
    let (digits, place) := shortestDigits negative m e
    let ds := Nat.toDigits 10 digits
    let exponent := ds.length + place - 1
    let body :=
      if m = 0 then ['0', '.', '0']
      else if exponent < -5 ∨ 16 ≤ exponent then writeScientific ds exponent
      else if 0 ≤ place then writeDigits digits place ++ ['.', '0']
      else writeDigits digits place
    (if negative then ['-'] else []) ++ body
  | x => x.write

/-! ## Integers near a number -/

/-- The magnitude of a finite number rounded to an integer, a half away from zero. -/
def roundMagnitude (mantissa : Nat) (exponent : Int) : Nat :=
  let (num, den) := fraction mantissa exponent
  (2 * num + den) / (2 * den)

def isZero : Binary → Bool
  | .finite _ m _ => m == 0
  | _ => false

end Binary

end PriceSurvey
