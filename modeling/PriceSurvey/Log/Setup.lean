import PriceSurvey.Log.Filter

/-!
# Setting up the log

A filter from the environment is used if it is well formed; otherwise the one of the settings has
to be. A log is set up once for a process.
-/
namespace PriceSurvey.Log

/-- Why the log is not set up. -/
inductive SetupFault where
  | filter (cause : Filter.Fault)
  | alreadySet
  deriving DecidableEq, Repr

def SetupFault.message : SetupFault → String
  | .filter cause => "logging setup failed: " ++ cause.message
  | .alreadySet => "logging setup failed: a global default trace dispatcher has already been set"

/-- The filter to use, given the one of the environment and the one of the settings. -/
def chooseFilter (environment : Option String) (configured : String) :
    Except SetupFault String :=
  match environment.filter fun f => (Filter.check f).isOk with
  | some f => .ok f
  | none =>
    match Filter.check configured with
    | .ok _ => .ok configured
    | .error cause => .error (.filter cause)

/-- The filter that a log is set up with, unless one is set up already. -/
def setUp (isSet : Bool) (environment : Option String) (configured : String) :
    Except SetupFault String := do
  let f ← chooseFilter environment configured
  if isSet then .error .alreadySet else .ok f

end PriceSurvey.Log
