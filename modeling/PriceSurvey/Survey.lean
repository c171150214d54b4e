import PriceSurvey.Line.Recording
import PriceSurvey.Line.Batch
import PriceSurvey.Offer.Assessing
import PriceSurvey.Sql.Connection

/-!
# The survey

The library at work over a connection. Reading lines and recording them is one transaction: all of
it is kept or none. Resolving names and assessing offers only read and need none.
-/
namespace PriceSurvey

open Sql

/-- A survey of prices, with its rule for units. -/
structure Survey where
  rule : UnitRule := {}

namespace Survey

/-- Ends a transaction: it is committed if all went well, and rolled back otherwise, also after a
commit that was refused. -/
def finish (o : Outcome Connection α) : Outcome Connection α :=
  match o.result with
  | .error _ => { o with state := (o.state.send .rollBack).2 }
  | .ok _ =>
    match o.state.send .commit with
    | (none, c) => { o with state := c }
    | (some cause, c) =>
      { o with result := .error (.database cause), state := (c.send .rollBack).2 }

/-- Runs an action as a transaction. -/
def transaction (a : Action α) (c : Connection) : Outcome Connection α :=
  match c.send .start with
  | (some cause, c) => ⟨.error (.database cause), c, [], []⟩
  | (none, c) => finish (a.run Connection.responder c)

/-- Reads submitted lines, and records them if that is asked for. -/
def readLines (v : Survey) (s : Submission) : Action (List PriceLine) := do
  let lines ← PriceLine.readBatch v.rule Resolution.ofNames s.lines
  if s.persist then
    let _ ← PriceLine.recordAll lines s.source
  return lines

/-- Reads submitted lines in a transaction. -/
def submit (v : Survey) (s : Submission) (c : Connection) : Outcome Connection (List PriceLine) :=
  transaction (v.readLines s) c

def resolve (names : List String) (c : Connection) : Outcome Connection (List Resolution) :=
  (Resolution.ofNames names).run Connection.responder c

def assess (offers : List Offer) (c : Connection) : Outcome Connection (List Assessment) :=
  (Assessment.ofOffers Resolution.ofNames offers).run Connection.responder c

def assessOne (o : Offer) (c : Connection) : Outcome Connection Assessment :=
  (Assessment.ofOffer Resolution.ofNames o).run Connection.responder c

end Survey

end PriceSurvey
