import PriceSurvey.Decimal.Basic
import PriceSurvey.Decimal.Integer
import PriceSurvey.Text.Trim

/-!
# Decimals as text

`write` gives plain notation with exactly as many decimals as the scale says, and with zeros in
place of a negative scale. `read` takes plain notation and an exponent.
-/
namespace PriceSurvey.Decimal

/-! ## Writing -/

/-- The magnitude `n` with the point put before its last `scale` digits. -/
def writeMagnitude (n : Nat) (scale : Int) : List Char :=
  let digits := Nat.toDigits 10 n
  if scale ≤ 0 then digits ++ List.replicate (-scale).toNat '0'
  else
    let places := scale.toNat
    let padded := List.replicate (places + 1 - digits.length) '0' ++ digits
    padded.take (padded.length - places) ++ '.' :: padded.drop (padded.length - places)

/-- Plain notation, with as many decimals as the scale says. -/
def write (d : Decimal) : List Char :=
  let body := writeMagnitude d.digits.natAbs d.scale
  if d.digits < 0 then '-' :: body else body

instance : ToString Decimal := ⟨fun d => String.ofList d.write⟩

/-! ## Reading -/

/-- Why a text is no decimal. -/
inductive Fault where
  | empty
  | digits (fault : IntegerFault)
  | exponent (fault : IntegerFault)
  deriving DecidableEq, Repr

def Fault.message : Fault → String
  | .empty => "Failed to parse empty string"
  | .digits f | .exponent f => f.message

/-- The exponent behind the letter e: one plus sign is dropped, and what follows may have a sign of
its own. -/
def readExponent (cs : List Char) : Except Fault Int :=
  let cs := match cs with
    | '+' :: rest => rest
    | _ => cs
  (Integer.readSigned cs).mapError .exponent

/-- The digits around the first point, and the bytes that stand behind it. -/
def joinAtPoint (cs : List Char) : List Char × Nat :=
  match cs.dropWhile (· ≠ '.') with
  | [] => (cs, 0)
  | _ :: places => (cs.takeWhile (· ≠ '.') ++ places, Text.byteLength places)

/-- Reads plain notation with an optional exponent. A fault of the exponent is named before one of
the digits. -/
def read (cs : List Char) : Except Fault Decimal := do
  let base := cs.takeWhile fun c => c ≠ 'e' ∧ c ≠ 'E'
  let exponent ← match cs.dropWhile fun c => c ≠ 'e' ∧ c ≠ 'E' with
    | [] => .ok 0
    | _ :: rest => readExponent rest
  if base.isEmpty then .error .empty
  else
    let (digits, places) := joinAtPoint base
    let n ← (Integer.read digits).mapError .digits
    return ⟨n, places - exponent⟩

end PriceSurvey.Decimal
