import PriceSurvey.Json.Value
import PriceSurvey.Decimal.Written
import PriceSurvey.Decimal.Integer
import PriceSurvey.Text.Quoted

/-!
# Reading records from JSON

A record is read from an object, or from an array that holds its fields in their order. Fields
that are there are checked before a missing one is named, and the first fault found is the answer.
An optional field may be missing or null. Fields that the record does not have are passed over.
-/
namespace PriceSurvey.Json

/-! ## Faults -/

/-- Why a value is not the JSON form of what is asked for. -/
inductive Fault where
  /-- A required field is not there. -/
  | missing (field : String)
  /-- The value is of another kind than the one wanted. -/
  | mismatch (found : Json) (wanted : String)
  /-- The integer is beyond the range wanted. -/
  | range (n : Int) (wanted : String)
  /-- The array has another length than the one wanted. -/
  | length (size : Nat) (wanted : String)
  /-- The object that should name one variant has not exactly one field. -/
  | notSingle
  /-- The name is none of the known ones. -/
  | variant (given : String) (known : List String)
  /-- The text is no decimal. -/
  | decimal (fault : Decimal.Fault)

def describe : Json → String
  | .null => "null"
  | .bool true => "boolean `true`"
  | .bool false => "boolean `false`"
  | .number (.integer n) => "integer `" ++ toString n ++ "`"
  | .number (.float x) => "floating point `" ++ String.ofList x.writeCompact ++ "`"
  | .string s => "string " ++ Text.quote s
  | .array _ => "sequence"
  | .object _ => "map"

def backquote (s : String) : String := "`" ++ s ++ "`"

def Fault.message : Fault → String
  | .missing field => "missing field " ++ backquote field
  | .mismatch found wanted => "invalid type: " ++ found.describe ++ ", expected " ++ wanted
  | .range n wanted =>
    "invalid value: integer " ++ backquote (toString n) ++ ", expected " ++ wanted
  | .length size wanted => "invalid length " ++ toString size ++ ", expected " ++ wanted
  | .notSingle => "invalid value: map, expected map with a single key"
  | .variant given known =>
    "unknown variant " ++ backquote given ++ ", expected one of " ++
      ", ".intercalate (known.map backquote)
  | .decimal fault => fault.message

/-! ## Single values -/

def toText : Json → Except Fault String
  | .string s => .ok s
  | v => .error (.mismatch v "a string")

def toBool : Json → Except Fault Bool
  | .bool b => .ok b
  | v => .error (.mismatch v "a boolean")

/-- A float. An integer counts as one. -/
def toFloat : Json → Except Fault Binary
  | .number (.float x) => .ok x
  | .number (.integer n) => .ok (Binary.ofInt n)
  | v => .error (.mismatch v "f64")

/-- A natural number that is at most `limit`; `wanted` names its type. -/
def toNatWithin (limit : Nat) (wanted : String) : Json → Except Fault Nat
  | .number (.integer n) =>
    if 0 ≤ n ∧ n ≤ limit then .ok n.toNat else .error (.range n wanted)
  | v => .error (.mismatch v wanted)

/-- A decimal: plain or with an exponent as text, an integer, or a float. -/
def toDecimal : Json → Except Fault Decimal
  | .string s => (Decimal.read s.toList).mapError .decimal
  | .number (.integer n) => .ok (.ofInt n)
  | .number (.float x) =>
    match x.toDecimal? with
    | some d => .ok d
    | none => .error (.mismatch (.number (.float x)) "a number or formatted decimal string")
  | v => .error (.mismatch v "a number or formatted decimal string")

def toList (item : Json → Except Fault α) : Json → Except Fault (List α)
  | .array items => items.mapM item
  | v => .error (.mismatch v "a sequence")

def toOption (item : Json → Except Fault α) : Json → Except Fault (Option α)
  | .null => .ok none
  | v => (item v).map some

/-- The variant of a name among the known ones. -/
def namedVariant (known : List (String × α)) (name : String) : Except Fault α :=
  match known.find? fun k => k.1 = name with
  | some (_, a) => .ok a
  | none => .error (.variant name (known.map (·.1)))

/-- One of several variants, by its name; the name may also be the one field of an object, with
null for its value. -/
def toVariant (known : List (String × α)) : Json → Except Fault α
  | .string s => namedVariant known s
  | .object [(name, v)] => do
    let a ← namedVariant known name
    match v with
    | .null => return a
    | _ => .error (.mismatch v "unit")
  | .object _ => .error .notSingle
  | v => .error (.mismatch v "string or map")

/-! ## Records -/

/-- The fields that a record is read from. For an array, `tooShort` is the fault of a field that it
is too short for. -/
structure Fields where
  items : List (String × Json)
  tooShort : Option Fault

/-- How a record is read from its fields. The checks, one for each field in the order of the record,
find the faults of fields that are there; the reading itself then finds those that are missing. -/
structure Reader (α : Type) where
  checks : List (String × (Json → Except Fault Unit))
  read : Fields → Except Fault α

namespace Reader

instance : Functor Reader where
  map f r := ⟨r.checks, fun fs => (r.read fs).map f⟩

instance : Seq Reader where
  seq r s := ⟨r.checks ++ (s ()).checks, fun fs => do return (← r.read fs) (← (s ()).read fs)⟩

/-- A single field, with what stands for it if it is missing. -/
def field (name : String) (missing : Fields → Except Fault α) (item : Json → Except Fault α) :
    Reader α where
  checks := [(name, fun v => (item v).map fun _ => ())]
  read fs := ((field? fs.items name).map item).getD (missing fs)

def required (name : String) : (Json → Except Fault α) → Reader α :=
  field name fun fs => .error (fs.tooShort.getD (.missing name))

/-- A field that may be null, or missing from an object. -/
def optional (name : String) (item : Json → Except Fault α) : Reader (Option α) :=
  field name (fun fs => (fs.tooShort.map .error).getD (.ok none)) (toOption item)

/-- A field that may be missing and then has the value given. -/
def defaulted (name : String) (value : α) : (Json → Except Fault α) → Reader α :=
  field name fun _ => .ok value

/-- Checks the field of a name, if it is there. -/
def checkField (fields : List (String × Json)) (c : String × (Json → Except Fault Unit)) :
    Except Fault Unit :=
  ((field? fields c.1).map c.2).getD (.ok ())

def elements (n : Nat) : String := toString n ++ (if n = 1 then " element" else " elements")

/-- Reads the record `name`. The fields of an object are checked in the order of their names, those
of an array in the order of the record. -/
def run (r : Reader α) (name : String) : Json → Except Fault α
  | .object fields => do
    (r.checks.mergeSort fun c d => c.1 ≤ d.1).forM (checkField fields)
    r.read ⟨fields, none⟩
  | .array items => do
    let fields := (r.checks.map (·.1)).zip items
    r.checks.forM (checkField fields)
    let size := r.checks.length
    let a ← r.read ⟨fields,
      some (.length items.length ("struct " ++ name ++ " with " ++ elements size))⟩
    if size < items.length then .error (.length items.length "fewer elements in array")
    else return a
  | v => .error (.mismatch v ("struct " ++ name))

end Reader

end PriceSurvey.Json
