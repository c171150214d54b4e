import PriceSurvey.Index
import PriceSurvey.Request.Action

/-!
# Tables in memory

Tables in memory answer requests in table order, and can be told to fail at requests of a kind.
Loose ones do not look at what is asked for and answer every row.
-/
namespace PriceSurvey

/-- The kinds of requests. -/
inductive Request.Kind where
  | entries
  | prices
  | limits
  | evidenceTable
  | append
  | resolve
  deriving DecidableEq, Repr

def Request.kind : Request → Request.Kind
  | .entries _ _ => .entries
  | .prices _ => .prices
  | .limits _ => .limits
  | .evidenceTable => .evidenceTable
  | .append _ _ => .append
  | .resolve _ => .resolve

/-- Tables in memory. -/
structure Memory where
  entries : List AliasEntry := []
  prices : List ReferencePrice := []
  limits : Index Limits := .empty
  evidenceTable : Bool := true
  evidence : List (PriceLine × Option String) := []
  /-- What an outside resolver answers, whatever it is asked. -/
  resolutions : List Resolution := []
  loose : Bool := false
  /-- The kinds of requests that fail. -/
  failing : Request.Kind → Option DatabaseFault := fun _ => none

namespace Memory

/-- The entries that a request for names and keys is answered with. -/
def entriesFor (m : Memory) (names keys : List String) : List AliasEntry :=
  if m.loose then m.entries
  else m.entries.filter fun e => names.contains e.name || keys.contains e.key

/-- The reference prices that a request for items is answered with. -/
def pricesFor (m : Memory) (items : List String) : List ReferencePrice :=
  if m.loose then m.prices else m.prices.filter fun p => items.contains p.item

/-- The answer to a request, and the tables after it. -/
def answer (m : Memory) : (r : Request) → r.Answer × Memory
  | .entries names keys => (m.entriesFor names keys, m)
  | .prices items => (m.pricesFor items, m)
  | .limits profile => (m.limits.get? profile, m)
  | .evidenceTable => (m.evidenceTable, m)
  | .append lines source =>
    (lines.length, { m with evidence := m.evidence ++ lines.map fun l => (l, source) })
  | .resolve _ => (m.resolutions, m)

def responder : Responder Memory where
  reply r m :=
    match m.failing r.kind with
    | some cause => { result := .error cause, state := m }
    | none => { result := .ok (m.answer r).1, state := (m.answer r).2 }

variable {m : Memory} {r : Request}

theorem reply_failing {cause : DatabaseFault} (h : m.failing r.kind = some cause) :
    responder.reply r m = { result := .error cause, state := m } := by
  simp only [responder, h]

theorem reply_answered (h : m.failing r.kind = none) :
    responder.reply r m = { result := .ok (m.answer r).1, state := (m.answer r).2 } := by
  simp only [responder, h]

end Memory

end PriceSurvey
