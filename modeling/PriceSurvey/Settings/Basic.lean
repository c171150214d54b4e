import PriceSurvey.UnitRule
import PriceSurvey.Settings.Value

/-!
# Settings

What the program can be told: how to reach the database, which words are units, and what to log.
Every setting has a default; `Settings.layer` is the tree of all of them.
-/
namespace PriceSurvey

/-- How the database is reached. Times are in seconds. -/
structure Settings.Database where
  url : String := "postgres://localhost/mercuriale"
  maxConnections : Nat := 20
  acquireTimeout : Nat := 10
  /-- A statement that takes longer is logged as a warning. -/
  slowStatement : Nat := 5
  deriving DecidableEq, Repr

structure Settings.Logging where
  filter : String := "info"
  timestampFormat : String := "%Y-%m-%d %H:%M:%S"
  deriving DecidableEq, Repr

structure Settings where
  database : Settings.Database := {}
  rule : UnitRule := {}
  logging : Settings.Logging := {}
  deriving DecidableEq, Repr

namespace Settings

/-- The settings as a layer. -/
def layer (s : Settings) : List (String × Value) := [
  ("database", .table [
    ("url", .text s.database.url),
    ("max_connections", .integer s.database.maxConnections),
    ("acquire_timeout_secs", .integer s.database.acquireTimeout),
    ("slow_statement_secs", .integer s.database.slowStatement)]),
  ("parser", .table [
    ("max_unit_chars", .integer s.rule.maxUnitLength),
    ("allow_digit_led", .bool s.rule.allowDigitFirst),
    ("max_trailing_chars", .integer s.rule.maxTailLength)]),
  ("logging", .table [
    ("filter", .text s.logging.filter),
    ("timestamp_format", .text s.logging.timestampFormat)])]

end Settings

end PriceSurvey
