import PriceSurvey.Fault
import PriceSurvey.Log.Entry
import PriceSurvey.Request.Basic

/-!
# Actions

An action is what the library does without knowing who answers it: it asks, goes on with the answer,
reports, and ends with a value or a fault. A responder gives it a meaning. The meaning keeps the
requests in their order, so that what was asked can be spoken about.

* `run_bind`: an action behind another one goes on where that one ended.
-/
namespace PriceSurvey

/-- What is asked and reported, up to a value or a fault. -/
inductive Action (α : Type) where
  | done (value : α)
  | fail (fault : Fault)
  | report (entry : Log.Entry) (next : Action α)
  | ask (r : Request) (next : r.Answer → Action α)

namespace Action

/-- One action behind another. -/
protected def bind : Action α → (α → Action β) → Action β
  | .done a, f => f a
  | .fail fault, _ => .fail fault
  | .report entry next, f => .report entry (next.bind f)
  | .ask r next, f => .ask r fun answer => (next answer).bind f

instance : Monad Action where
  pure := .done
  bind := Action.bind

def request (r : Request) : Action r.Answer := .ask r .done

def log (level : Log.Level) (part : Log.Part) (message : String) : Action Unit :=
  .report ⟨level, part, message⟩ (.done ())

end Action

/-! ## Responders -/

/-- What a responder makes of one request. -/
structure Reply (S : Type) (r : Request) where
  result : Except DatabaseFault r.Answer
  state : S
  log : List Log.Entry := []

/-- What answers requests, with states in `S`. -/
structure Responder (S : Type) where
  reply : (r : Request) → S → Reply S r

/-- What an action came to: its result, the state of the responder, and what was asked and reported
on the way. -/
structure Outcome (S α : Type) where
  result : Except Fault α
  state : S
  requests : List Request
  log : List Log.Entry

namespace Outcome

/-- An outcome that goes on from an earlier one. -/
def behind (requests : List Request) (log : List Log.Entry) (o : Outcome S α) : Outcome S α :=
  { o with requests := requests ++ o.requests, log := log ++ o.log }

/-- Goes on with the value of an outcome, if it has one. -/
def follow (o : Outcome S α) (f : α → S → Outcome S β) : Outcome S β :=
  match o.result with
  | .ok a => (f a o.state).behind o.requests o.log
  | .error fault => ⟨.error fault, o.state, o.requests, o.log⟩

end Outcome

namespace Action

/-- Runs an action with a responder, from a state of it. -/
def run (responder : Responder S) : Action α → S → Outcome S α
  | .done a, s => ⟨.ok a, s, [], []⟩
  | .fail fault, s => ⟨.error fault, s, [], []⟩
  | .report entry next, s => (run responder next s).behind [] [entry]
  | .ask r next, s =>
    let reply := responder.reply r s
    match reply.result with
    | .ok answer => (run responder (next answer) reply.state).behind [r] reply.log
    | .error cause => ⟨.error (.database cause), reply.state, [r], reply.log⟩

theorem follow_behind (o : Outcome S α) (rs : List Request) (es : List Log.Entry)
    (f : α → S → Outcome S β) : (o.behind rs es).follow f = (o.follow f).behind rs es := by
  cases h : o.result <;> simp [Outcome.follow, Outcome.behind, h]

theorem run_bind (responder : Responder S) (a : Action α) (f : α → Action β) (s : S) :
    (a.bind f).run responder s = (a.run responder s).follow fun v s => (f v).run responder s := by
  induction a generalizing s with
  | done v => simp [Action.bind, run, Outcome.follow, Outcome.behind]
  | fail fault => simp [Action.bind, run, Outcome.follow]
  | report entry next ih => simp [Action.bind, run, follow_behind, ih]
  | ask r next ih =>
    simp only [Action.bind, run]
    cases (responder.reply r s).result with
    | ok answer => simp [follow_behind, ih]
    | error cause => simp [Outcome.follow]

end Action

end PriceSurvey
