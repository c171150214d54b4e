import PriceSurvey.Proofs.Sql.Plan

/-!
# The ledger of a database

What the statements over a connection make of the evidence: rows are kept for good, or belong to the
open transaction until that is committed or rolled back. A statement that fails changes nothing.

Results:
* `ledger_of_neutral`: statements that neither write nor touch a transaction.
* `isControl_plan`: an action sends no statement that touches a transaction.
* `Takes.ledger`: statements inside a transaction leave it open, and if none of them fails it holds
  their rows.
-/
namespace PriceSurvey.Sql

/-- The evidence of a database: the rows that are kept for good, and those of the open transaction,
if one is open. -/
structure Ledger where
  kept : List EvidenceRow
  pending : Option (List EvidenceRow)

/-- The statement begins or ends a transaction. -/
def Statement.isControl : Statement → Bool
  | .start | .commit | .rollBack => true
  | _ => false

/-- The rows that a statement writes. -/
def Statement.written : Statement → List EvidenceRow
  | .insertEvidence rows => rows
  | _ => []

/-! ## One statement -/

namespace Ledger

/-- What becomes of the evidence with a statement that does not fail. Rows that are written outside
a transaction are kept at once. -/
def apply (l : Ledger) : Statement → Ledger
  | .start => { l with pending := some (l.pending.getD []) }
  | .commit => ⟨l.kept ++ l.pending.getD [], none⟩
  | .rollBack => ⟨l.kept, none⟩
  | .insertEvidence rows =>
    match l.pending with
    | some pending => { l with pending := some (pending ++ rows) }
    | none => { l with kept := l.kept ++ rows }
  | .selectEntries _ _ | .selectPrices _ | .selectLimits _ | .selectEvidenceTable => l

variable {s : Statement}

/-- Inside a transaction rows are put behind those of the transaction. -/
theorem apply_pending (h : s.isControl = false) (kept pending : List EvidenceRow) :
    apply ⟨kept, some pending⟩ s = ⟨kept, some (pending ++ s.written)⟩ := by
  cases s with
  | start | commit | rollBack => cases h
  | insertEvidence rows => rfl
  | selectEntries | selectPrices | selectLimits | selectEvidenceTable =>
    simp [apply, Statement.written]

theorem apply_neutral (h : s.isControl = false) (hw : s.written = []) (l : Ledger) :
    l.apply s = l := by
  obtain ⟨kept, pending⟩ := l
  cases pending with
  | some pending => rw [apply_pending h, hw, List.append_nil]
  | none =>
    cases s with
    | start | commit | rollBack => cases h
    | insertEvidence rows =>
      have hrows : rows = [] := hw
      rw [apply, hrows, List.append_nil]
    | selectEntries | selectPrices | selectLimits | selectEvidenceTable => rfl

end Ledger

/-! ## Statements over a connection -/

namespace Connection

variable {c : Connection} {s : Statement} {planned sent : List Statement}
  {fault : Option DatabaseFault} {cause : DatabaseFault}

/-- The evidence behind statements that are sent over a connection. -/
def ledger (c : Connection) (l : Ledger) : List Statement → Ledger
  | [] => l
  | s :: rest => (c.after [s]).ledger (if c.fault? s = none then l.apply s else l) rest

@[simp] theorem ledger_nil (c : Connection) (l : Ledger) : c.ledger l [] = l := rfl

theorem ledger_cons_ok (h : c.fault? s = none) (l : Ledger) (rest : List Statement) :
    c.ledger l (s :: rest) = (c.after [s]).ledger (l.apply s) rest := by
  rw [ledger, if_pos h]

theorem ledger_cons_failed (h : c.fault? s = some cause) (l : Ledger) (rest : List Statement) :
    c.ledger l (s :: rest) = (c.after [s]).ledger l rest := by
  rw [ledger, if_neg (by simp [h])]

theorem ledger_append (c : Connection) (l : Ledger) (sent sent' : List Statement) :
    c.ledger l (sent ++ sent') = (c.after sent).ledger (c.ledger l sent) sent' := by
  induction sent generalizing c l with
  | nil => simp
  | cons s rest ih =>
    rw [List.cons_append, ledger, ih, after_after]
    rfl

/-- Statements that neither write nor touch a transaction leave the evidence as it is. -/
theorem ledger_of_neutral (h : ∀ s ∈ sent, s.isControl = false ∧ s.written = []) (c : Connection)
    (l : Ledger) : c.ledger l sent = l := by
  induction sent generalizing c l with
  | nil => rfl
  | cons s rest ih =>
    rw [List.forall_mem_cons] at h
    rw [ledger, ih h.2, Ledger.apply_neutral h.1.1 h.1.2, ite_self]

/-- Statements inside a transaction leave it open. If none of them fails it holds their rows. -/
theorem Takes.ledger (ht : Takes c planned sent fault) (h : ∀ s ∈ planned, s.isControl = false)
    (kept pending : List EvidenceRow) :
    ∃ rows, c.ledger ⟨kept, some pending⟩ sent = ⟨kept, some rows⟩ ∧
      (fault = none → rows = pending ++ planned.flatMap Statement.written) := by
  induction ht generalizing pending with
  | nil => exact ⟨pending, rfl, by simp⟩
  | failed hf => exact ⟨pending, ledger_cons_failed hf _ _, fun he => nomatch he⟩
  | @cons c s rest sent fault hf ht ih =>
    rw [List.forall_mem_cons] at h
    obtain ⟨rows, hledger, hrows⟩ := ih h.2 (pending ++ s.written)
    refine ⟨rows, ?_, fun hn => ?_⟩
    · rw [ledger_cons_ok hf, Ledger.apply_pending h.1, hledger]
    · rw [hrows hn, List.flatMap_cons, List.append_assoc]

end Connection

/-! ## Requests and actions -/

/-- No request begins or ends a transaction. -/
theorem Statement.isControl_ofRequest (r : Request) :
    ∀ s ∈ Statement.ofRequest r, s.isControl = false := by
  intro s hs
  cases r with
  | entries | prices | limits | evidenceTable =>
    rw [List.mem_singleton.1 hs]
    rfl
  | append lines source =>
    obtain ⟨rows, -, rfl⟩ := List.mem_map.1 hs
    rfl
  | resolve => cases hs

theorem Statement.written_of_reads {r : Request} (h : r.reads = true) :
    ∀ s ∈ Statement.ofRequest r, s.written = [] := by
  intro s hs
  cases r with
  | entries | prices | limits | evidenceTable =>
    rw [List.mem_singleton.1 hs]
    rfl
  | append => cases h
  | resolve => cases hs

/-- An action leaves it to others to begin and end a transaction. -/
theorem isControl_plan (a : Action α) (v : Server) :
    ∀ s ∈ (a.plan v).statements, s.isControl = false := by
  induction a with
  | done x => intro s hs; cases hs
  | fail fault => intro s hs; cases hs
  | report entry next ih => exact ih
  | ask r next ih =>
    cases h : v.answer r with
    | ok answer =>
      rw [Action.plan_ask_ok v h]
      intro s hs
      rcases List.mem_append.1 hs with hs | hs
      · exact Statement.isControl_ofRequest r s hs
      · exact ih answer s hs
    | error cause =>
      rw [Action.plan_ask_error v h]
      exact Statement.isControl_ofRequest r

end PriceSurvey.Sql
