import PriceSurvey.Proofs.Request.Run
import PriceSurvey.Proofs.Sql.Insertion

/-!
# Plans of actions

On a server whose tables stay as they are an action has a plan: the statements that it sends as long
as none of them fails, and what it comes to if none does. Over a connection the statements of the
plan are sent one after the other until one fails, and then this failure is what the action comes
to.

Results:
* `takes_reply`, `run_takes_plan`: one request, and an action, over a connection.
* `plan_seq`: the plan of a step behind another one.
* `state_of_reads`: an action that only reads sends one statement for each of its requests.
-/
namespace PriceSurvey

open Sql

variable {α β : Type}

namespace Sql

/-- The statements that a request is put in. -/
def Statement.ofRequest : Request → List Statement
  | .entries names keys => [.selectEntries names keys]
  | .prices items => [.selectPrices items]
  | .limits profile => [.selectLimits profile]
  | .evidenceTable => [.selectEvidenceTable]
  | .append lines source =>
    (Connection.pieces (lines.map fun l => ⟨l, source⟩)).map .insertEvidence
  | .resolve _ => []

/-- What the tables of a server have for a request. -/
def Server.answer (v : Server) : (r : Request) → Except DatabaseFault r.Answer
  | .entries names keys =>
    .ok (v.entries.filter fun e => names.contains e.name || keys.contains e.key)
  | .prices items => Connection.readPrices items v
  | .limits profile => Connection.readLimits profile v
  | .evidenceTable => .ok v.evidenceTable
  | .append lines _ => .ok lines.length
  | .resolve _ => .ok []

namespace Connection

variable {c : Connection} {s : Statement} {planned planned' sent sent' : List Statement}
  {fault : Option DatabaseFault} {cause : DatabaseFault}

/-! ## Statements one after the other -/

/-- The connection behind further statements. -/
def after (c : Connection) (sent : List Statement) : Connection :=
  { c with sent := c.sent ++ sent }

@[simp] theorem after_nil (c : Connection) : c.after [] = c := by
  simp [after]

@[simp] theorem after_after (c : Connection) (sent sent' : List Statement) :
    (c.after sent).after sent' = c.after (sent ++ sent') := by
  simp [after]

@[simp] theorem server_after (c : Connection) (sent : List Statement) :
    (c.after sent).server = c.server := rfl

theorem send_eq (c : Connection) (s : Statement) : c.send s = (c.fault? s, c.after [s]) := rfl

/-- Planned statements are sent one after the other until one fails. -/
inductive Takes :
    Connection → List Statement → List Statement → Option DatabaseFault → Prop
  | nil {c : Connection} : Takes c [] [] none
  | failed {c : Connection} {s : Statement} {rest : List Statement} {cause : DatabaseFault}
      (h : c.fault? s = some cause) : Takes c (s :: rest) [s] (some cause)
  | cons {c : Connection} {s : Statement} {rest sent : List Statement}
      {fault : Option DatabaseFault} (h : c.fault? s = none)
      (ht : Takes (c.after [s]) rest sent fault) : Takes c (s :: rest) (s :: sent) fault

namespace Takes

theorem sent_eq (h : Takes c planned sent none) : sent = planned := by
  generalize hf : (none : Option DatabaseFault) = fault at h
  induction h with
  | nil => rfl
  | failed => cases hf
  | cons h ht ih => rw [ih hf]

/-- What is planned behind statements that did not fail goes on behind them. -/
theorem append (h : Takes c planned sent none)
    (h' : Takes (c.after sent) planned' sent' fault) :
    Takes c (planned ++ planned') (sent ++ sent') fault := by
  generalize hf : (none : Option DatabaseFault) = first at h
  induction h with
  | nil => simpa using h'
  | failed => cases hf
  | cons h ht ih => exact .cons h (ih (by simpa using h') hf)

/-- What is planned behind a failure is left out. -/
theorem append_failed (h : Takes c planned sent (some cause)) (planned' : List Statement) :
    Takes c (planned ++ planned') sent (some cause) := by
  generalize hf : some cause = first at h ⊢
  induction h with
  | nil => cases hf
  | failed h => exact .failed h
  | cons h ht ih => exact .cons h (ih hf)

end Takes

/-- One statement is sent, whether it fails or not. -/
theorem takes_one (c : Connection) (s : Statement) : Takes c [s] [s] (c.fault? s) := by
  cases h : c.fault? s with
  | some cause => exact .failed h
  | none => exact .cons h .nil

/-- Nothing fails over the connection, whatever was sent before. -/
def IsSound (c : Connection) : Prop := ∀ sent s, (c.after sent).fault? s = none

theorem IsSound.after (h : c.IsSound) (sent : List Statement) : (c.after sent).IsSound := by
  intro sent' s
  rw [after_after]
  exact h _ s

theorem IsSound.fault?_eq (h : c.IsSound) (s : Statement) : c.fault? s = none := by
  have hs := h [] s
  rwa [after_nil] at hs

/-- Over a connection on which nothing fails all statements are sent. -/
theorem Takes.of_sound (h : Takes c planned sent fault) (hsound : c.IsSound) :
    fault = none ∧ sent = planned := by
  have hnone : fault = none := by
    induction h with
    | nil => rfl
    | failed hf => exact nomatch (hsound.fault?_eq _).symm.trans hf
    | cons hf ht ih => exact ih (hsound.after _)
  subst hnone
  exact ⟨rfl, h.sent_eq⟩

/-! ## One request -/

/-- A failure, or else an answer. -/
def failedOr (fault : Option DatabaseFault) (answer : Except DatabaseFault α) :
    Except DatabaseFault α :=
  fault.elim answer .error

theorem query_eq (c : Connection) (s : Statement) (read : Server → Except DatabaseFault α) :
    c.query s read = (failedOr (c.fault? s) (read c.server), c.after [s]) := by
  rw [query, send_eq]
  cases c.fault? s <;> rfl

/-- Rows are inserted piece by piece, until an insertion fails. -/
theorem takes_insertAll (c : Connection) (written : Nat) (rows : List (List EvidenceRow)) :
    ∃ sent fault, Takes c (rows.map .insertEvidence) sent fault ∧
      c.insertAll written rows =
        (failedOr fault (.ok (written + (rows.map List.length).sum)), c.after sent) := by
  induction rows generalizing c written with
  | nil => exact ⟨[], none, .nil, by simp [insertAll, failedOr]⟩
  | cons piece rest ih =>
    rw [insertAll, send_eq]
    cases h : c.fault? (.insertEvidence piece) with
    | some cause => exact ⟨_, _, .failed h, rfl⟩
    | none =>
      obtain ⟨sent, fault, ht, he⟩ := ih (c.after [.insertEvidence piece]) (written + piece.length)
      refine ⟨_, fault, .cons h ht, ?_⟩
      simpa [Nat.add_assoc] using he

/-- A request is put in its statements, which are sent until one fails. If none does the answer is
that of the tables. -/
theorem takes_reply (r : Request) (c : Connection) :
    ∃ sent fault, Takes c (Statement.ofRequest r) sent fault ∧
      (responder.reply r c).state = c.after sent ∧
      (responder.reply r c).result = failedOr fault (c.server.answer r) := by
  cases r with
  | entries | prices | limits | evidenceTable =>
    exact ⟨_, _, takes_one c _, congrArg Prod.snd (query_eq ..), congrArg Prod.fst (query_eq ..)⟩
  | resolve names => exact ⟨[], none, .nil, (after_nil c).symm, rfl⟩
  | append lines source =>
    change ∃ sent fault, _ ∧ (c.append lines source).state = _ ∧ (c.append lines source).result = _
    rw [append]
    split
    case isTrue h =>
      rw [List.isEmpty_iff] at h
      subst h
      have hnone : Takes c (Statement.ofRequest (.append [] source)) [] none := by
        simpa [Statement.ofRequest, pieces_nil] using .nil
      exact ⟨[], none, hnone, (after_nil c).symm, rfl⟩
    case isFalse h =>
      obtain ⟨sent, fault, ht, he⟩ := takes_insertAll c 0 (pieces (lines.map fun l => ⟨l, source⟩))
      refine ⟨sent, fault, ht, ?_⟩
      rw [sum_length_pieces] at he
      rw [he]
      cases fault <;> simp [failedOr, Server.answer]

end Connection

end Sql

/-! ## Actions -/

open Sql.Connection

/-- The statements of an action on which none of them fails, and what it comes to then. -/
structure Plan (α : Type) where
  statements : List Statement
  result : Except Fault α

/-- A plan behind statements. -/
def Plan.behind (front : List Statement) (p : Plan α) : Plan α :=
  { p with statements := front ++ p.statements }

@[simp] theorem Plan.behind_mk (front statements : List Statement) (result : Except Fault α) :
    Plan.behind front ⟨statements, result⟩ = ⟨front ++ statements, result⟩ := rfl

@[simp] theorem Plan.behind_statements (front : List Statement) (p : Plan α) :
    (p.behind front).statements = front ++ p.statements := rfl

@[simp] theorem Plan.behind_result (front : List Statement) (p : Plan α) :
    (p.behind front).result = p.result := rfl

@[simp] theorem Plan.behind_behind (front next : List Statement) (p : Plan α) :
    (p.behind next).behind front = p.behind (front ++ next) := by
  simp [behind]

namespace Action

/-- The plan of an action on a server. -/
def plan (v : Server) : Action α → Plan α
  | .done a => ⟨[], .ok a⟩
  | .fail fault => ⟨[], .error fault⟩
  | .report _ next => plan v next
  | .ask r next =>
    match v.answer r with
    | .ok answer => (plan v (next answer)).behind (Statement.ofRequest r)
    | .error cause => ⟨Statement.ofRequest r, .error (.database cause)⟩

variable (v : Server)

@[simp] theorem plan_done (a : α) : (done a).plan v = ⟨[], .ok a⟩ := rfl

@[simp] theorem plan_pure (a : α) : (pure a : Action α).plan v = ⟨[], .ok a⟩ := rfl

theorem plan_ask_ok {r : Request} {answer : r.Answer} (h : v.answer r = .ok answer)
    (next : r.Answer → Action α) :
    (ask r next).plan v = ((next answer).plan v).behind (Statement.ofRequest r) := by
  simp only [plan, h]

theorem plan_ask_error {r : Request} {cause : DatabaseFault} (h : v.answer r = .error cause)
    (next : r.Answer → Action α) :
    (ask r next).plan v = ⟨Statement.ofRequest r, .error (.database cause)⟩ := by
  simp only [plan, h]

theorem plan_request {r : Request} {answer : r.Answer} (h : v.answer r = .ok answer) :
    (request r).plan v = ⟨Statement.ofRequest r, .ok answer⟩ := by
  simp [request, plan_ask_ok v h]

@[simp] theorem plan_log_seq (level : Log.Level) (part : Log.Part) (message : String)
    (f : Unit → Action β) : (log level part message >>= f).plan v = (f ()).plan v := rfl

/-- The plan of a step behind another one that has a result. -/
theorem plan_seq {a : Action α} {x : α} (h : (a.plan v).result = .ok x) (f : α → Action β) :
    (a >>= f).plan v = ((f x).plan v).behind (a.plan v).statements := by
  change (a.bind f).plan v = _
  induction a with
  | done y =>
    cases h
    rfl
  | fail fault => cases h
  | report entry next ih => exact ih h
  | ask r next ih =>
    rw [Action.bind]
    cases hr : v.answer r with
    | ok answer =>
      rw [plan_ask_ok v hr] at h ⊢
      rw [plan_ask_ok v hr, ih answer h, Plan.behind_behind, Plan.behind_statements]
    | error cause =>
      rw [plan_ask_error v hr] at h
      cases h

theorem plan_seq_of_eq {a : Action α} {statements : List Statement} {x : α}
    (h : a.plan v = ⟨statements, .ok x⟩) (f : α → Action β) :
    (a >>= f).plan v = ((f x).plan v).behind statements := by
  rw [plan_seq v (by rw [h]), h]

/-- Over a connection an action sends the statements of its plan until one fails. If none does it
comes to what the plan says. -/
theorem run_takes_plan (a : Action α) (c : Connection) :
    ∃ sent fault, Takes c (a.plan c.server).statements sent fault ∧
      (a.run responder c).state = c.after sent ∧
      (a.run responder c).result = fault.elim (a.plan c.server).result (.error <| .database ·) := by
  induction a generalizing c with
  | done x => exact ⟨[], none, .nil, (after_nil c).symm, rfl⟩
  | fail fault => exact ⟨[], none, .nil, (after_nil c).symm, rfl⟩
  | report entry next ih => exact ih c
  | ask r next ih =>
    obtain ⟨sent, fault, ht, hstate, hresult⟩ := takes_reply r c
    rw [run]
    cases fault with
    | some cause =>
      -- A statement fails, and nothing is sent behind it.
      have herror : (responder.reply r c).result = .error cause := hresult
      rw [herror]
      refine ⟨sent, some cause, ?_, hstate, rfl⟩
      cases ha : c.server.answer r with
      | ok answer => exact plan_ask_ok c.server ha next ▸ ht.append_failed _
      | error cause' => exact plan_ask_error c.server ha next ▸ ht
    | none =>
      have hanswer : (responder.reply r c).result = c.server.answer r := hresult
      rw [hanswer]
      cases ha : c.server.answer r with
      | ok answer =>
        obtain ⟨sent', fault, ht', hstate', hresult'⟩ := ih answer (responder.reply r c).state
        rw [hstate] at ht' hstate' hresult'
        rw [plan_ask_ok c.server ha next]
        refine ⟨sent ++ sent', fault, ht.append ht', ?_, ?_⟩
        · simpa [hstate] using hstate'
        · simpa [hstate] using hresult'
      | error cause' =>
        rw [plan_ask_error c.server ha next]
        exact ⟨sent, none, ht, hstate, rfl⟩

/-! ## Reading only -/

/-- A request that only reads is one statement at most, which is sent whether it fails or not. -/
theorem state_reply_of_reads {r : Request} (h : r.reads = true) (c : Connection) :
    (responder.reply r c).state = c.after (Statement.ofRequest r) := by
  cases r with
  | entries | prices | limits | evidenceTable => exact congrArg Prod.snd (query_eq ..)
  | resolve names => exact (after_nil c).symm
  | append => cases h

/-- An action that only reads sends the statements of its requests and no others. -/
theorem state_of_reads (a : Action α) {c : Connection}
    (h : ∀ r ∈ (a.run responder c).requests, r.reads = true) :
    (a.run responder c).state =
      c.after ((a.run responder c).requests.flatMap Statement.ofRequest) := by
  induction a generalizing c with
  | done x => exact (after_nil c).symm
  | fail fault => exact (after_nil c).symm
  | report entry next ih => exact ih h
  | ask r next ih =>
    rw [run] at h ⊢
    cases hr : (responder.reply r c).result with
    | error cause =>
      simp only [hr, List.mem_singleton, forall_eq] at h
      simpa [hr] using state_reply_of_reads h c
    | ok answer =>
      simp only [hr, Outcome.behind_requests, List.cons_append, List.nil_append,
        List.forall_mem_cons] at h
      have hstate := state_reply_of_reads h.1 c
      rw [hstate] at h
      simpa [hr, hstate] using ih answer h.2

end Action

end PriceSurvey
