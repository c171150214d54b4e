import PriceSurvey.Index
import PriceSurvey.Request.Action
import PriceSurvey.Text.Fold

/-!
# Looking names up

A name is looked up by the text it has without the blanks at its ends, and by its key. A name of
the dictionary counts before a key, of several entries the last one, and there is no weighing of
likeness. A batch of names makes one request, however long it is.
-/
namespace PriceSurvey

open Text

/-- A name to be looked up: as it was given, without the blanks at its ends, and its key. -/
structure Query where
  given : String
  trimmed : String
  key : String
  deriving DecidableEq, Repr

def Query.ofName (name : String) : Query where
  given := name
  trimmed := String.ofList (trim name.toList)
  key := foldString (String.ofList (trim name.toList))

/-- The two ways into the dictionary: by name and by key. -/
structure Dictionary where
  byName : Index String
  byKey : Index String

/-- The dictionary of entries. A later entry takes the place of an earlier one. -/
def Dictionary.ofEntries (entries : List AliasEntry) : Dictionary where
  byName := .ofPairs (entries.map fun e => (e.name, e.item))
  byKey := .ofPairs (entries.map fun e => (e.key, e.item))

namespace Query

/-- The outcome of a query: by name, else by key, else nothing. Blank input is not looked up. -/
def resolve (d : Dictionary) (q : Query) : Resolution :=
  if q.trimmed.isEmpty then .notFound q.given q.key (some "blank input")
  else
    match d.byName.get? q.trimmed with
    | some item => .found q.given q.key item .sameName
    | none =>
      match d.byKey.get? q.key with
      | some item => .found q.given q.key item .sameKey
      | none => .notFound q.given q.key none

/-- The different texts of a list that are not empty, in the order of their first appearance. -/
def distinct (texts : List String) : List String := (texts.filter fun t => !t.isEmpty).eraseDups

/-- The entries that queries are answered from: none is asked for if there is nothing to look up. -/
def fetch (queries : List Query) : Action (List AliasEntry) :=
  let names := distinct (queries.map (·.trimmed))
  let keys := distinct (queries.map (·.key))
  if names.isEmpty && keys.isEmpty then .done [] else .request (.entries names keys)

end Query

namespace Resolution

/-- Resolves a batch of names: one outcome for each, in their order. -/
def ofNames (names : List String) : Action (List Resolution) := do
  let queries := names.map Query.ofName
  let entries ← Query.fetch queries
  let results := queries.map (Query.resolve (.ofEntries entries))
  let count := (results.filter isFound).length
  .log .debug .names
    ("normalize_batch: " ++ toString names.length ++ " aliases, " ++ toString count ++ " resolved")
  return results

def ofName (name : String) : Action Resolution := do
  let results ← ofNames [name]
  return results.getLast?.getD (.notFound name (foldString name) none)

end Resolution

/-- What resolves the names of a batch. -/
abbrev Resolver := List String → Action (List Resolution)

/-- A resolver outside, asked by a request. -/
def Resolver.outside : Resolver := fun names => .request (.resolve names)

end PriceSurvey
