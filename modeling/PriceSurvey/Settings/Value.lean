import PriceSurvey.Decimal.Binary

/-!
# Trees of settings

A layer of settings is a tree of tables with texts, numbers and truth values at its ends. A later
layer is laid over an earlier one key by key: tables are merged, anything else takes the place of
what was there.
-/
namespace PriceSurvey.Settings

/-- A node of a layer. An item of a list is missing where only items behind it were set. -/
inductive Value where
  | missing
  | bool (b : Bool)
  | integer (n : Int)
  | float (x : Binary)
  | text (s : String)
  | list (items : List Value)
  | table (fields : List (String × Value))

namespace Value

/-- The fields of a table; anything else has none. -/
def fields : Value → List (String × Value)
  | .table fs => fs
  | _ => []

def get? (v : Value) (key : String) : Option Value := v.fields.lookup key

/-- Puts a value under a key, in its old place if there is one. What was no table becomes one. -/
def set (root : Value) (key : String) (value : Value) : Value :=
  .table <|
    if (root.get? key).isSome then
      root.fields.map fun f => if f.1 = key then (key, value) else f
    else root.fields ++ [(key, value)]

mutual

/-- Lays a value over what is under a key. -/
def overlay (root : Value) (key : String) : Value → Value
  | .table fs => root.set key (overlayAll ((root.get? key).getD (.table [])) fs)
  | v => root.set key v

/-- Lays the fields of a table over a value, one after the other. -/
def overlayAll (root : Value) : List (String × Value) → Value
  | [] => root
  | (key, v) :: rest => overlayAll (overlay root key v) rest

end

end Value

end PriceSurvey.Settings
