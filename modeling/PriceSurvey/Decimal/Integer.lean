/-!
# Integers as text

Integers of any size, written in ASCII digits that underscores may separate, and integers that
have to fit a machine word. A reader says what is wrong with a text it refuses, and the fault
found first from the left is the one it names.
-/
namespace PriceSurvey

/-- Why a text is no integer of the kind that is asked for. -/
inductive IntegerFault where
  | nothing
  | badDigit
  | tooLarge
  | tooSmall
  deriving DecidableEq, Repr

def IntegerFault.message : IntegerFault → String
  | .nothing => "cannot parse integer from empty string"
  | .badDigit => "invalid digit found in string"
  | .tooLarge => "number too large to fit in target type"
  | .tooSmall => "number too small to fit in target type"

namespace Integer

def digit? (c : Char) : Option Nat :=
  if '0' ≤ c ∧ c ≤ '9' then some (c.toNat - '0'.toNat) else none

def hexDigit? (c : Char) : Option Nat :=
  if '0' ≤ c ∧ c ≤ '9' then some (c.toNat - '0'.toNat)
  else if 'a' ≤ c ∧ c ≤ 'f' then some (c.toNat - 'a'.toNat + 10)
  else if 'A' ≤ c ∧ c ≤ 'F' then some (c.toNat - 'A'.toNat + 10)
  else none

def ofDigits (cs : List Char) : Nat := (cs.filterMap digit?).foldl (fun n d => 10 * n + d) 0

/-- Whether a minus sign is in front, and what follows a sign. -/
def takeSign : List Char → Bool × List Char
  | '-' :: rest => (true, rest)
  | '+' :: rest => (false, rest)
  | cs => (false, cs)

/-- The integer of a sign and a magnitude. -/
def signed (negative : Bool) (n : Nat) : Int := if negative then -(n : Int) else n

/-! ## Integers of any size -/

/-- Digits, the first of them no underscore, with underscores that count for nothing. -/
def readDigits (cs : List Char) : Except IntegerFault Nat :=
  match cs with
  | [] => .error .nothing
  | '_' :: _ => .error .badDigit
  | _ =>
    if cs.all fun c => c = '_' || (digit? c).isSome then .ok (ofDigits cs) else .error .badDigit

/-- An integer with at most one sign. -/
def read (cs : List Char) : Except IntegerFault Int :=
  match cs with
  | '-' :: rest => (readDigits rest).map fun n => -(n : Int)
  | '+' :: rest => (readDigits rest).map Int.ofNat
  | _ => (readDigits cs).map Int.ofNat

/-! ## Integers of a machine word -/

/-- Reads digits behind `n` while the number stays within `limit`. -/
def readWithin (limit : Nat) (beyond : IntegerFault) : Nat → List Char → Except IntegerFault Nat
  | n, [] => .ok n
  | n, c :: rest =>
    match digit? c with
    | none => .error .badDigit
    | some d => if limit < 10 * n + d then .error beyond else readWithin limit beyond (10 * n + d) rest

def maxUnsigned : Nat := 0xFFFFFFFFFFFFFFFF

/-- An unsigned integer of 64 bits, with an optional plus sign. -/
def readUnsigned (cs : List Char) : Except IntegerFault Nat :=
  match cs with
  | [] => .error .nothing
  | ['+'] => .error .badDigit
  | '+' :: rest => readWithin maxUnsigned .tooLarge 0 rest
  | _ => readWithin maxUnsigned .tooLarge 0 cs

/-- A signed integer of 64 bits, with an optional sign. -/
def readSigned (cs : List Char) : Except IntegerFault Int :=
  match cs with
  | [] => .error .nothing
  | ['+'] | ['-'] => .error .badDigit
  | '-' :: rest => (readWithin 0x8000000000000000 .tooSmall 0 rest).map fun n => -(n : Int)
  | '+' :: rest => (readWithin 0x7FFFFFFFFFFFFFFF .tooLarge 0 rest).map Int.ofNat
  | _ => (readWithin 0x7FFFFFFFFFFFFFFF .tooLarge 0 cs).map Int.ofNat

end Integer

end PriceSurvey
