import PriceSurvey.Decimal.Binary

/-!
# JSON values

A number is an integer of 64 bits, signed or unsigned, or a float. Which it is depends on how it is
written: a point, an exponent, the text `-0` and an integer beyond 64 bits make a float. The
fields of an object have different names; `Json.object` keeps the last value given for a name.
-/
namespace PriceSurvey

/-- A number of a JSON text. -/
inductive Json.Number where
  | integer (n : Int)
  | float (x : Binary)
  deriving DecidableEq, Repr

inductive Json where
  | null
  | bool (b : Bool)
  | number (n : Json.Number)
  | string (s : String)
  | array (items : List Json)
  | object (fields : List (String × Json))

namespace Json

def ofNat (n : Nat) : Json := .number (.integer n)

def ofStrings (ss : List String) : Json := .array (ss.map .string)

/-- What an optional value holds, or null. -/
def orNull (f : α → Json) : Option α → Json
  | none => .null
  | some a => f a

def field? (fields : List (String × Json)) (name : String) : Option Json :=
  (fields.find? fun f => f.1 = name).map (·.2)

/-- Puts a field in front, unless one of its name follows. -/
def addField (name : String) (value : Json) (fields : List (String × Json)) :
    List (String × Json) :=
  if fields.any fun f => f.1 = name then fields else (name, value) :: fields

end Json

end PriceSurvey
