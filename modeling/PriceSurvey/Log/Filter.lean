import PriceSurvey.Decimal.Integer
import PriceSurvey.Text.Trim

/-!
# Log filters

A filter is a list of directives between commas. A directive is a level, a target, or a target
with a span in brackets, a level behind an equals sign, or both:
`target[span{field=value}]=level`. The fields of a span are in braces. Blanks in front of a
directive and behind it are passed over, but not where the directive has a level.
-/
namespace PriceSurvey.Log.Filter

open Text

/-- Why a filter is refused. -/
inductive Fault where
  | badDirective
  | badLevel
  deriving DecidableEq, Repr

def Fault.message : Fault → String
  | .badDirective => "invalid filter directive"
  | .badLevel =>
    "error parsing level filter: expected one of \"off\", \"error\", \"warn\", \"info\", " ++
      "\"debug\", \"trace\", or a number 0-5"

def levelNames : List String := ["off", "error", "warn", "info", "debug", "trace"]

/-- The text names a level. Nothing is a level too. -/
def isLevel (cs : List Char) : Bool :=
  match Integer.readUnsigned cs with
  | .ok n => decide (n ≤ 5)
  | .error _ => cs.isEmpty || levelNames.contains (String.ofList (cs.map Char.toLower))

/-- Checks the level behind an equals sign, in a directive with or without blanks around it. -/
def checkLevel (padded : Bool) (cs : List Char) : Except Fault Unit :=
  if !padded && isLevel cs then .ok () else .error .badLevel

/-- Checks what follows a span: nothing, or a level. -/
def checkBehindSpan (padded : Bool) : List Char → Except Fault Unit
  | [] => .ok ()
  | '=' :: level => checkLevel padded level
  | _ => .error .badDirective

/-- Checks the rest of a span behind its opening bracket. -/
def checkSpan (padded : Bool) (cs : List Char) : Except Fault Unit :=
  match cs.dropWhile fun c => c ≠ ']' ∧ c ≠ '\x7b' with
  | ']' :: rest => checkBehindSpan padded rest
  | '\x7b' :: '\x7d' :: _ => .error .badDirective
  | '\x7b' :: fields =>
    match fields.dropWhile (· ≠ '\x7d') with
    | _ :: ']' :: rest => checkBehindSpan padded rest
    | _ => .error .badDirective
  | _ => .error .badDirective

def startsDirective (c : Char) : Bool := isLetterOrNumber c || c = '-' || c = ':' || c = '_'

def checkDirective (cs : List Char) : Except Fault Unit :=
  let padded := decide (trim cs ≠ cs)
  match trim cs with
  | [] => .error .badDirective
  | '[' :: rest => checkSpan padded rest
  | c :: rest =>
    if startsDirective c then
      match rest.dropWhile fun c => c ≠ '=' ∧ c ≠ '[' with
      | '=' :: level => checkLevel padded level
      | '[' :: rest => checkSpan padded rest
      | _ => .ok ()
    else .error .badDirective

/-- Checks a filter. The first fault from the left is the one it is refused for. -/
def check (filter : String) : Except Fault Unit :=
  ((filter.toList.splitOn ',').filter fun d => !d.isEmpty).forM checkDirective

end PriceSurvey.Log.Filter
