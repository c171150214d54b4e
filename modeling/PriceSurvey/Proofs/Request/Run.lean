import PriceSurvey.Request.Action

/-!
# Runs of actions

The run of an action is put together from the runs of its steps: one that succeeds hands its value
and the state on, and what it asked stands before what the next one asks; a fault ends the run.

* `run_seq`: a step behind another one.
* `run_request`: one request, answered or refused.
* `run_quiet`: a last step that neither asks nor fails. `run_report` is the case of a log entry.
-/
namespace PriceSurvey

variable {S α β : Type}

namespace Outcome

@[simp] theorem behind_result (rs : List Request) (es : List Log.Entry) (o : Outcome S α) :
    (o.behind rs es).result = o.result := rfl

@[simp] theorem behind_state (rs : List Request) (es : List Log.Entry) (o : Outcome S α) :
    (o.behind rs es).state = o.state := rfl

@[simp] theorem behind_requests (rs : List Request) (es : List Log.Entry) (o : Outcome S α) :
    (o.behind rs es).requests = rs ++ o.requests := rfl

theorem follow_ok {o : Outcome S α} {a : α} (h : o.result = .ok a) (f : α → S → Outcome S β) :
    o.follow f = (f a o.state).behind o.requests o.log := by
  rw [follow, h]

theorem follow_error {o : Outcome S α} {fault : Fault} (h : o.result = .error fault)
    (f : α → S → Outcome S β) : o.follow f = ⟨.error fault, o.state, o.requests, o.log⟩ := by
  rw [follow, h]

end Outcome

namespace Action

variable (responder : Responder S) (s : S)

@[simp] theorem run_done (a : α) : (done a).run responder s = ⟨.ok a, s, [], []⟩ := rfl

@[simp] theorem run_pure (a : α) : (pure a : Action α).run responder s = ⟨.ok a, s, [], []⟩ := rfl

@[simp] theorem run_seq (a : Action α) (f : α → Action β) :
    (a >>= f).run responder s = (a.run responder s).follow fun v s => (f v).run responder s :=
  run_bind responder a f s

@[simp] theorem run_log (level : Log.Level) (part : Log.Part) (message : String) :
    (log level part message).run responder s = ⟨.ok (), s, [], [⟨level, part, message⟩]⟩ := rfl

theorem run_request (r : Request) :
    (request r).run responder s =
      { result := (responder.reply r s).result.mapError .database
        state := (responder.reply r s).state
        requests := [r]
        log := (responder.reply r s).log } := by
  rw [request, run]
  cases (responder.reply r s).result with
  | ok answer =>
    -- Behind the answer nothing is logged.
    simp only [Outcome.behind, run_done, List.append_nil]
    rfl
  | error cause => rfl

/-- A step that neither asks nor fails: it changes the value and nothing else. -/
theorem run_quiet (a : Action α) {f : α → Action β} {g : α → β}
    (hf : ∀ x s, ∃ log, (f x).run responder s = ⟨.ok (g x), s, [], log⟩) :
    ((a >>= f).run responder s).result = (a.run responder s).result.map g ∧
      ((a >>= f).run responder s).state = (a.run responder s).state ∧
      ((a >>= f).run responder s).requests = (a.run responder s).requests := by
  rw [run_seq]
  cases h : (a.run responder s).result with
  | ok x =>
    obtain ⟨log, hx⟩ := hf x (a.run responder s).state
    simp [Outcome.follow_ok h, hx, Except.map]
  | error fault => simp [Outcome.follow_error h, Except.map]

/-- An action that reports at its end: the report changes neither the requests nor the state. -/
theorem run_report (a : Action α) (level : Log.Level) (part : Log.Part) (message : α → String)
    (g : α → β) :
    let o := (a >>= fun x => log level part (message x) >>= fun _ => pure (g x)).run responder s
    o.result = (a.run responder s).result.map g ∧ o.state = (a.run responder s).state ∧
      o.requests = (a.run responder s).requests :=
  run_quiet responder s a fun x s =>
    ⟨[⟨level, part, message x⟩], by simp [Outcome.follow, Outcome.behind]⟩

end Action

end PriceSurvey
