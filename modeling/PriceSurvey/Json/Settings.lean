import PriceSurvey.Json.UnitRule
import PriceSurvey.Settings.Basic

/-!
# The JSON form of settings

Every section and every setting may be left out and then has its default.
-/
namespace PriceSurvey.Settings

open Json Json.Reader

def toJson (s : Settings) : Json := .object [
  ("database", .object [
    ("acquire_timeout_secs", .ofNat s.database.acquireTimeout),
    ("max_connections", .ofNat s.database.maxConnections),
    ("slow_statement_secs", .ofNat s.database.slowStatement),
    ("url", .string s.database.url)]),
  ("logging", .object [
    ("filter", .string s.logging.filter),
    ("timestamp_format", .string s.logging.timestampFormat)]),
  ("parser", s.rule.toJson)]

def Database.ofJson : Json → Except Json.Fault Database :=
  let d : Database := {}
  let seconds := toNatWithin Integer.maxUnsigned "u64"
  (Database.mk <$> defaulted "url" d.url toText
    <*> defaulted "max_connections" d.maxConnections (toNatWithin 0xFFFFFFFF "u32")
    <*> defaulted "acquire_timeout_secs" d.acquireTimeout seconds
    <*> defaulted "slow_statement_secs" d.slowStatement seconds).run "DatabaseConfig"

def Logging.ofJson : Json → Except Json.Fault Logging :=
  let l : Logging := {}
  (Logging.mk <$> defaulted "filter" l.filter toText
    <*> defaulted "timestamp_format" l.timestampFormat toText).run "LoggingConfig"

def ofJson : Json → Except Json.Fault Settings :=
  (Settings.mk <$> defaulted "database" {} Database.ofJson <*> defaulted "parser" {} UnitRule.ofJson
    <*> defaulted "logging" {} Logging.ofJson).run "AppConfig"

end PriceSurvey.Settings
