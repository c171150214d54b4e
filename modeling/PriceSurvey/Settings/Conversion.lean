import PriceSurvey.Decimal.Integer
import PriceSurvey.Settings.Basic
import PriceSurvey.Text.Lowercase

/-!
# From a tree to settings

A setting takes any value that can be read as one of its type: a count may be given as a truth
value, a float or a text, and a text as anything that can be written plainly. A section is a table
with fields by name, or a list with fields by place; what it leaves out has its default.
-/
namespace PriceSurvey.Settings

/-- Why there are no settings. -/
inductive Fault where
  /-- The file that has to be there is not. -/
  | noFile
  /-- The file is malformed. -/
  | malformed
  /-- The section is neither a table nor a list. -/
  | badSection (name : String)
  /-- The value in a section is none for the setting. -/
  | badValue (place field : String)
  deriving DecidableEq, Repr

namespace Value

def lowerWord (s : String) : String := String.ofList (s.toList.flatMap Text.lower)

def yesWords : List String := ["true", "on", "yes"]

def noWords : List String := ["false", "off", "no"]

/-- The value as a count that is at most `limit`. -/
def toCount? (limit : Nat) (v : Value) : Option Nat := do
  let n ← match v with
    | .bool b => some b.toNat
    | .integer n => if n < 0 then none else some n.toNat
    | .float .nan => some 0
    | .float (.infinite negative) => some (if negative then 0 else Integer.maxUnsigned)
    | .float (.finite negative m e) =>
      some (if negative then 0 else min (Binary.roundMagnitude m e) Integer.maxUnsigned)
    | .text s =>
      if yesWords.contains (lowerWord s) then some 1
      else if noWords.contains (lowerWord s) then some 0
      else (Integer.readUnsigned s.toList).toOption
    | .list _ | .table _ | .missing => none
  if n ≤ limit then some n else none

def toBool? : Value → Option Bool
  | .bool b => some b
  | .integer n => some (n != 0)
  | .float x => some !x.isZero
  | .text s =>
    if ("1" :: yesWords).contains (lowerWord s) then some true
    else if ("0" :: noWords).contains (lowerWord s) then some false
    else none
  | .list _ | .table _ | .missing => none

def toText? : Value → Option String
  | .bool b => some (toString b)
  | .integer n => some (toString n)
  | .float x => some (String.ofList x.write)
  | .text s => some s
  | .list _ | .table _ | .missing => none

end Value

/-! ## Sections -/

/-- A section as it stands in a tree. -/
structure Section where
  name : String
  value : Value

namespace Section

/-- The section of a tree. One that is not there is an empty table. -/
def ofTree (tree : Value) (name : String) : Except Fault Section :=
  match tree.get? name with
  | none => .ok ⟨name, .table []⟩
  | some (.table fields) => .ok ⟨name, .table fields⟩
  | some (.list items) => .ok ⟨name, .list items⟩
  | some _ => .error (.badSection name)

/-- A setting of the section, by its name or its place, or else its default. -/
def setting (s : Section) (place : Nat) (field : String) (read : Value → Option α)
    (default : α) : Except Fault α :=
  let given := match s.value with
    | .list items => items[place]?
    | v => v.get? field
  match given with
  | none => .ok default
  | some v =>
    match read v with
    | some a => .ok a
    | none => .error (.badValue s.name field)

end Section

/-- The greatest number of connections that can be asked for. -/
def mostConnections : Nat := 0xFFFFFFFF

def Database.ofTree (tree : Value) : Except Fault Database := do
  let s ← Section.ofTree tree "database"
  let d : Database := {}
  let count := Value.toCount? Integer.maxUnsigned
  return {
    url := ← s.setting 0 "url" Value.toText? d.url
    maxConnections := ← s.setting 1 "max_connections" (Value.toCount? mostConnections)
      d.maxConnections
    acquireTimeout := ← s.setting 2 "acquire_timeout_secs" count d.acquireTimeout
    slowStatement := ← s.setting 3 "slow_statement_secs" count d.slowStatement }

def ruleOfTree (tree : Value) : Except Fault UnitRule := do
  let s ← Section.ofTree tree "parser"
  let r : UnitRule := {}
  let count := Value.toCount? Integer.maxUnsigned
  return {
    maxUnitLength := ← s.setting 0 "max_unit_chars" count r.maxUnitLength
    allowDigitFirst := ← s.setting 1 "allow_digit_led" Value.toBool? r.allowDigitFirst
    maxTailLength := ← s.setting 2 "max_trailing_chars" count r.maxTailLength }

def Logging.ofTree (tree : Value) : Except Fault Logging := do
  let s ← Section.ofTree tree "logging"
  let l : Logging := {}
  return {
    filter := ← s.setting 0 "filter" Value.toText? l.filter
    timestampFormat := ← s.setting 1 "timestamp_format" Value.toText? l.timestampFormat }

def ofTree (tree : Value) : Except Fault Settings := do
  return {
    database := ← Database.ofTree tree
    rule := ← ruleOfTree tree
    logging := ← Logging.ofTree tree }

end PriceSurvey.Settings
