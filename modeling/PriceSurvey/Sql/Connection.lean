import PriceSurvey.Decimal.Stored
import PriceSurvey.Sql.Statement
import PriceSurvey.Request.Action

/-!
# A connection to a server

Every request is one statement to the server, except that lines of evidence are inserted in
statements of at most a thousand rows. The connection keeps what was sent, failed statements
included. The server answers from tables, and refuses statements of the kinds it is told to. Apart
from that any statement may fail but those that begin and undo a transaction.
-/
namespace PriceSurvey.Sql

/-! ## The server -/

/-- The kinds of statements that a server can refuse. -/
inductive Statement.Kind where
  | entries
  | prices
  | limits
  | evidenceTable
  | insert
  | commit
  deriving DecidableEq, Repr

def Statement.kind? : Statement → Option Statement.Kind
  | .start | .rollBack => none
  | .commit => some .commit
  | .selectEntries _ _ => some .entries
  | .selectPrices _ => some .prices
  | .selectLimits _ => some .limits
  | .selectEvidenceTable => some .evidenceTable
  | .insertEvidence _ => some .insert

/-- A number in a table; none is the number that is not a number. -/
abbrev Cell := Option Decimal

structure ProfileRow where
  profile : String
  acceptable : Cell
  high : Cell

/-- The tables of a server, and the messages it refuses statements with. -/
structure Server where
  entries : List AliasEntry := []
  prices : List (String × Cell) := []
  profiles : List ProfileRow := []
  evidenceTable : Bool := true
  refusing : Statement.Kind → Option String := fun _ => none

/-- What the server has against a statement. -/
def Server.refusal? (v : Server) (s : Statement) : Option DatabaseFault :=
  (s.kind?.bind v.refusing).map .refused

/-! ## The connection -/

/-- A connection to a server, with the statements sent over it. -/
structure Connection where
  server : Server
  sent : List Statement := []
  /-- What a statement fails with behind others, where the server does not refuse its kind. -/
  failing : List Statement → Statement → Option DatabaseFault := fun _ _ => none

namespace Connection

/-- What a statement fails with when it is sent next. -/
def fault? (c : Connection) (s : Statement) : Option DatabaseFault :=
  (c.server.refusal? s).or (s.kind?.bind fun _ => c.failing c.sent s)

def send (c : Connection) (s : Statement) : Option DatabaseFault × Connection :=
  (c.fault? s, { c with sent := c.sent ++ [s] })

/-- Sends a statement and reads its answer from the tables. -/
def query (c : Connection) (s : Statement) (read : Server → Except DatabaseFault α) :
    Except DatabaseFault α × Connection :=
  match c.send s with
  | (some cause, c) => (.error cause, c)
  | (none, c) => (read c.server, c)

/-- The number in a cell, as the database stores it. -/
def readCell (column : String) : Cell → Except DatabaseFault Decimal
  | some d => .ok d.stored
  | none => .error (.notANumber column)

/-- The reference prices of items, in table order. -/
def readPrices (items : List String) (v : Server) : Except DatabaseFault (List ReferencePrice) :=
  (v.prices.filter fun p => items.contains p.1).mapM fun p =>
    (readCell "ref_price" p.2).map fun price => ⟨p.1, price⟩

/-- The limits in the first row of a profile. -/
def readLimits (profile : String) (v : Server) : Except DatabaseFault (Option Limits) :=
  match v.profiles.find? fun r => r.profile = profile with
  | none => .ok none
  | some r => do
    let acceptable ← readCell "ratio_acceptable" r.acceptable
    let high ← readCell "ratio_eleve" r.high
    return some ⟨acceptable, high⟩

/-! ## Insertions -/

/-- Rows that one insertion holds at most. -/
def insertSize : Nat := 1000

/-- Cuts rows into pieces of `insertSize`, the last of which may be shorter. -/
def pieces (rows : List EvidenceRow) : List (List EvidenceRow) :=
  if rows.isEmpty then [] else rows.take insertSize :: pieces (rows.drop insertSize)
  termination_by rows.length
  decreasing_by
    rename_i h
    have : rows ≠ [] := by simpa using h
    have := List.length_pos_iff.2 this
    simp only [List.length_drop, insertSize]
    omega

/-- Inserts the pieces one after the other and gives the number of rows written; the first that is
refused ends it. -/
def insertAll (c : Connection) (written : Nat) :
    List (List EvidenceRow) → Except DatabaseFault Nat × Connection
  | [] => (.ok written, c)
  | rows :: rest =>
    match c.send (.insertEvidence rows) with
    | (some cause, c) => (.error cause, c)
    | (none, c) => c.insertAll (written + rows.length) rest

/-- Inserts lines as evidence. No lines make no statement. -/
def append (c : Connection) (lines : List PriceLine) (source : Option String) :
    Reply Connection (.append lines source) :=
  if lines.isEmpty then { result := .ok 0, state := c }
  else
    match c.insertAll 0 (pieces (lines.map fun l => ⟨l, source⟩)) with
    | (.ok written, c) =>
      { result := .ok written, state := c
        log := [⟨.info, .statements,
          "✓ evidence INSERT ok, " ++ toString written ++ " rows, took <t>"⟩] }
    | (.error cause, c) =>
      { result := .error cause, state := c
        log := [⟨.error, .statements, "✗ evidence INSERT failed after <t>"⟩] }

/-! ## Answering requests -/

/-- The reply to one statement, without an entry in the log. -/
def reply {r : Request} (answer : Except DatabaseFault r.Answer × Connection) :
    Reply Connection r := { result := answer.1, state := answer.2 }

/-- The connection as a responder. No resolver is behind it: one that is asked answers nothing. -/
def responder : Responder Connection where
  reply
    | .entries names keys, c =>
      reply (c.query (.selectEntries names keys) fun v =>
        .ok (v.entries.filter fun e => names.contains e.name || keys.contains e.key))
    | .prices items, c => reply (c.query (.selectPrices items) (readPrices items))
    | .limits profile, c => reply (c.query (.selectLimits profile) (readLimits profile))
    | .evidenceTable, c => reply (c.query .selectEvidenceTable fun v => .ok v.evidenceTable)
    | .append lines source, c => c.append lines source
    | .resolve _, c => { result := .ok [], state := c }

end Connection

end PriceSurvey.Sql
