import PriceSurvey.Alias.Lookup
import PriceSurvey.Line.Reading

/-!
# Reading a list of lines and resolving its designations

The different designations of a list are resolved together, once, and each line gets the outcome
of its own designation.
-/
namespace PriceSurvey

namespace PriceLine

/-- The designation of a line that is to be resolved. -/
def wanted? (l : PriceLine) : Option String :=
  if l.status = .unreadable then none else l.designation

/-- The different designations of lines, in the order of their first appearance. -/
def designations (lines : List PriceLine) : List String :=
  ((lines.filterMap wanted?).filter fun d => !d.isEmpty).eraseDups

/-- The line with the outcome for its designation, if it has one to be resolved. -/
def annotate (found : Index Resolution) (l : PriceLine) : PriceLine :=
  match l.wanted? with
  | some d => { l with resolution := found.get? d }
  | none => l

/-- The outcomes for designations. Those beyond the end of what a resolver answers have none. -/
def resolutions (resolver : Resolver) (designations : List String) : Action (Index Resolution) :=
  if designations.isEmpty then .done .empty
  else do
    let results ← resolver designations
    return .ofPairs (designations.zip results)

/-- Reads a list of lines and resolves its designations. -/
def readBatch (rule : UnitRule) (resolver : Resolver) (lines : List String) :
    Action (List PriceLine) :=
  if lines.isEmpty then .done []
  else do
    let read := readAll rule lines
    let found ← resolutions resolver (designations read)
    let annotated := read.map (annotate found)
    let unreadable := (annotated.filter fun l => l.status = .unreadable).length
    .log .info .lines
      ("parsed " ++ toString lines.length ++ " lines into " ++ toString annotated.length ++
        " groups (" ++ toString unreadable ++ " unparseable)")
    return annotated

end PriceLine

end PriceSurvey
