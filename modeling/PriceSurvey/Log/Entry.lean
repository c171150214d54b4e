/-!
# Log entries

What the library reports while it works: at which level, from which of its parts, and a message.
Where a message names an elapsed time it holds the mark `<t>` in its place.
-/
namespace PriceSurvey.Log

/-- How grave an entry is. -/
inductive Level where
  | error
  | warn
  | info
  | debug
  deriving DecidableEq, Repr

/-- The part of the library that an entry comes from. -/
inductive Part where
  | lines
  | names
  | offers
  | evidence
  | statements
  deriving DecidableEq, Repr

structure Entry where
  level : Level
  part : Part
  message : String
  deriving DecidableEq, Repr

/-- The level, right-aligned to five characters. -/
def Level.text : Level → String
  | .error => "ERROR"
  | .warn => " WARN"
  | .info => " INFO"
  | .debug => "DEBUG"

/-- The path that a part reports under. -/
def Part.path : Part → String
  | .lines => "mercuriale_pricecheck::service::parser"
  | .names => "mercuriale_pricecheck::service::normalizer"
  | .offers => "mercuriale_pricecheck::service::price_check"
  | .evidence => "mercuriale_pricecheck::service::evidence"
  | .statements => "mercuriale_pricecheck::db::queries"

/-- The entry as one line, behind the time of its writing. -/
def Entry.line (time : String) (e : Entry) : String :=
  time ++ " " ++ e.level.text ++ " " ++ e.part.path ++ ": " ++ e.message

end PriceSurvey.Log
