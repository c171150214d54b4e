import PriceSurvey.Decimal.BinaryReading
import PriceSurvey.Settings.Conversion
import PriceSurvey.Settings.Path
import PriceSurvey.Settings.Toml

/-!
# Layers of settings

Settings come in four layers, and a later one wins key by key: the defaults, the settings file, the
variables whose names start with `mercuriale__`, and last `DATABASE_URL`, which is the address of
the database as it stands. Capitals in keys and in names of variables do not count.
-/
namespace PriceSurvey.Settings

/-! ## The file -/

mutual

/-- The value with the keys of its tables in small letters. -/
def Value.lowerKeys : Value → Value
  | .table fields => .table (lowerFields fields)
  | v => v

/-- The fields with their keys in small letters, at every depth. -/
def lowerFields : List (String × Value) → List (String × Value)
  | [] => []
  | (key, v) :: rest => (Value.lowerWord key, v.lowerKeys) :: lowerFields rest

end

def fileLayer (file : String) : Except Fault (List (String × Value)) :=
  match Toml.read file with
  | some fields => .ok (lowerFields fields)
  | none => .error .malformed

/-! ## Variables -/

/-- What a variable that is a setting starts with. -/
def variableStart : List Char := "mercuriale__".toList

/-- The text with a point for every two underscores. -/
def pointed : List Char → List Char
  | '_' :: '_' :: rest => '.' :: pointed rest
  | c :: rest => c :: pointed rest
  | [] => []

/-- The key that a variable sets, if it sets one. -/
def variableKey? (name : String) : Option String :=
  let name := (Value.lowerWord name).toList
  if variableStart.isPrefixOf name then
    some (String.ofList (pointed (name.drop variableStart.length)))
  else none

/-- The value that the text of a variable stands for: a truth value, an integer or a float where it
reads as one. -/
def guess (s : String) : Value :=
  if Value.lowerWord s = "true" then .bool true
  else if Value.lowerWord s = "false" then .bool false
  else
    match Integer.readSigned s.toList with
    | .ok n => .integer n
    | .error _ =>
      match Binary.read s.toList with
      | some x => .float x
      | none => .text s

/-- The layer of the variables in an environment. -/
def variableLayer (environment : List (String × String)) : List (String × Value) :=
  environment.filterMap fun v => (variableKey? v.1).map fun key => (key, guess v.2)

/-- The layer of the variable for the address of the database. -/
def addressLayer (environment : List (String × String)) : List (String × Value) :=
  match environment.lookup "DATABASE_URL" with
  | some url => [("database.url", .text url)]
  | none => []

/-! ## All layers -/

/-- The tree that layers make, laid one over the other. -/
def treeOf (layers : List (List (String × Value))) : Value :=
  layers.foldl Value.overlayLayer (.table [])

/-- The settings that a file, if there is one, and the environment give. -/
def ofSources (file : Option String) (environment : List (String × String)) :
    Except Fault Settings := do
  let fileFields ← (file.map fileLayer).getD (.ok [])
  ofTree (treeOf [layer {}, fileFields, variableLayer environment, addressLayer environment])

/-- The settings where the file has to be there. -/
def ofFile (file : Option String) (environment : List (String × String)) : Except Fault Settings :=
  match file with
  | some text => ofSources (some text) environment
  | none => .error .noFile

end PriceSurvey.Settings
