import PriceSurvey.Proofs.Request.Run

/-!
# Requests and what they were answered

A run leaves its requests, each with the answer that it got. A store that changes and fails as it
likes shows in the answers only, so what an action does with any store can be said about them.

Results:
* `map_request_exchanges`: the exchanges are those of the requests of the run.
* `seq_cases`: the exchanges of a step behind another one.
* `refused_last`: a request that is refused is the last one, and its cause is the fault of the run.
* `exists_reply`: what every reply keeps up holds wherever a request of the run is answered.
-/
namespace PriceSurvey

variable {S α β : Type}

/-- A request and what it was answered with. -/
structure Exchange where
  request : Request
  result : Except DatabaseFault request.Answer

/-- A request that got no answer. -/
def Exchange.IsRefused (x : Exchange) : Prop := ∃ cause, x.result = .error cause

instance (x : Exchange) : Decidable x.IsRefused :=
  match h : x.result with
  | .ok _ => .isFalse fun ⟨_, he⟩ => nomatch h.symm.trans he
  | .error cause => .isTrue ⟨cause, h⟩

namespace Action

/-- The exchanges of a run, in their order. -/
def exchanges (responder : Responder S) : Action α → S → List Exchange
  | .done _, _ => []
  | .fail _, _ => []
  | .report _ next, s => exchanges responder next s
  | .ask r next, s =>
    ⟨r, (responder.reply r s).result⟩ ::
      match (responder.reply r s).result with
      | .ok answer => exchanges responder (next answer) (responder.reply r s).state
      | .error _ => []

variable (responder : Responder S) (s : S)

/-! ## One request -/

section Ask

variable {responder} {s} {r : Request} (next : r.Answer → Action α)

theorem run_ask_ok {answer : r.Answer} (h : (responder.reply r s).result = .ok answer) :
    (ask r next).run responder s =
      ((next answer).run responder (responder.reply r s).state).behind [r]
        (responder.reply r s).log := by
  simp only [run, h]

theorem run_ask_error {cause : DatabaseFault} (h : (responder.reply r s).result = .error cause) :
    (ask r next).run responder s =
      ⟨.error (.database cause), (responder.reply r s).state, [r], (responder.reply r s).log⟩ := by
  simp only [run, h]

theorem exchanges_ask_ok {answer : r.Answer} (h : (responder.reply r s).result = .ok answer) :
    (ask r next).exchanges responder s =
      ⟨r, .ok answer⟩ :: (next answer).exchanges responder (responder.reply r s).state := by
  simp only [exchanges, h]

theorem exchanges_ask_error {cause : DatabaseFault}
    (h : (responder.reply r s).result = .error cause) :
    (ask r next).exchanges responder s = [⟨r, .error cause⟩] := by
  simp only [exchanges, h]

end Ask

/-! ## Runs and their exchanges -/

@[simp] theorem exchanges_done (a : α) : (done a).exchanges responder s = [] := rfl

@[simp] theorem exchanges_pure (a : α) : (pure a : Action α).exchanges responder s = [] := rfl

/-- A report is no exchange. -/
@[simp] theorem exchanges_log_seq (level : Log.Level) (part : Log.Part) (message : String)
    (f : Unit → Action β) :
    (log level part message >>= f).exchanges responder s = (f ()).exchanges responder s := rfl

theorem map_request_exchanges (a : Action α) :
    (a.exchanges responder s).map (·.request) = (a.run responder s).requests := by
  induction a generalizing s with
  | done v => rfl
  | fail fault => rfl
  | report entry next ih => exact ih s
  | ask r next ih =>
    cases h : (responder.reply r s).result with
    | ok answer =>
      rw [exchanges_ask_ok next h, run_ask_ok next h, List.map_cons, ih]
      rfl
    | error cause =>
      rw [exchanges_ask_error next h, run_ask_error next h]
      rfl

theorem exchanges_seq_ok {a : Action α} {v : α} (h : (a.run responder s).result = .ok v)
    (f : α → Action β) : (a >>= f).exchanges responder s =
      a.exchanges responder s ++ (f v).exchanges responder (a.run responder s).state := by
  change (a.bind f).exchanges responder s = _
  induction a generalizing s with
  | done w =>
    cases h
    rfl
  | fail fault => cases h
  | report entry next ih => exact ih s h
  | ask r next ih =>
    rw [Action.bind]
    cases hr : (responder.reply r s).result with
    | ok answer =>
      rw [run_ask_ok next hr] at h ⊢
      rw [exchanges_ask_ok _ hr, exchanges_ask_ok next hr, ih answer _ h]
      rfl
    | error cause =>
      rw [run_ask_error next hr] at h
      cases h

theorem exchanges_seq_error {a : Action α} {fault : Fault}
    (h : (a.run responder s).result = .error fault) (f : α → Action β) :
    (a >>= f).exchanges responder s = a.exchanges responder s := by
  change (a.bind f).exchanges responder s = _
  induction a generalizing s with
  | done w => cases h
  | fail cause => rfl
  | report entry next ih => exact ih s h
  | ask r next ih =>
    rw [Action.bind]
    cases hr : (responder.reply r s).result with
    | ok answer =>
      rw [run_ask_ok next hr] at h
      rw [exchanges_ask_ok _ hr, exchanges_ask_ok next hr, ih answer _ h]
    | error cause => rw [exchanges_ask_error _ hr, exchanges_ask_error next hr]

/-- A step behind another one is not reached, or goes on from where that one ended. -/
theorem seq_cases (a : Action α) (f : α → Action β) :
    (∃ fault, (a.run responder s).result = .error fault ∧
      ((a >>= f).run responder s).result = .error fault ∧
      (a >>= f).exchanges responder s = a.exchanges responder s) ∨
    ∃ v, (a.run responder s).result = .ok v ∧
      ((a >>= f).run responder s).result =
        ((f v).run responder (a.run responder s).state).result ∧
      (a >>= f).exchanges responder s =
        a.exchanges responder s ++ (f v).exchanges responder (a.run responder s).state := by
  cases h : (a.run responder s).result with
  | error fault =>
    refine .inl ⟨fault, rfl, ?_, exchanges_seq_error responder s h f⟩
    rw [run_seq, Outcome.follow_error h]
  | ok v =>
    refine .inr ⟨v, rfl, ?_, exchanges_seq_ok responder s h f⟩
    rw [run_seq, Outcome.follow_ok h, Outcome.behind_result]

/-- A request that is refused ends the run with its cause. -/
theorem refused_last (a : Action α) {front behind : List Exchange} {x : Exchange}
    {cause : DatabaseFault} (h : a.exchanges responder s = front ++ x :: behind)
    (hx : x.result = .error cause) :
    behind = [] ∧ (a.run responder s).result = .error (.database cause) := by
  induction a generalizing s front with
  | done v => simp at h
  | fail fault => simp [exchanges] at h
  | report entry next ih => exact ih s h
  | ask r next ih =>
    cases hr : (responder.reply r s).result with
    | error cause' =>
      rw [exchanges_ask_error next hr] at h
      obtain ⟨rfl, rfl, rfl⟩ : front = [] ∧ x = ⟨r, .error cause'⟩ ∧ behind = [] := by
        cases front <;> simp_all
      cases hx
      exact ⟨rfl, by rw [run_ask_error next hr]⟩
    | ok answer =>
      rw [exchanges_ask_ok next hr] at h
      rw [run_ask_ok next hr, Outcome.behind_result]
      cases front with
      | nil =>
        obtain ⟨rfl, -⟩ := List.cons.inj h
        cases hx
      | cons y front => exact ih answer _ (List.cons.inj h).2

/-- What every reply keeps up holds wherever a request of the run is answered. -/
theorem exists_reply {P : S → Prop} (hstep : ∀ r s, P s → P (responder.reply r s).state)
    (a : Action α) (hs : P s) {x : Exchange} (hx : x ∈ a.exchanges responder s) :
    ∃ s', P s' ∧ x.result = (responder.reply x.request s').result := by
  induction a generalizing s with
  | done v => cases hx
  | fail fault => cases hx
  | report entry next ih => exact ih s hs hx
  | ask r next ih =>
    cases hr : (responder.reply r s).result with
    | error cause =>
      rw [exchanges_ask_error next hr, List.mem_singleton] at hx
      subst hx
      exact ⟨s, hs, hr.symm⟩
    | ok answer =>
      rw [exchanges_ask_ok next hr, List.mem_cons] at hx
      rcases hx with rfl | hx
      · exact ⟨s, hs, hr.symm⟩
      · exact ih answer _ (hstep r s hs) hx

end Action

end PriceSurvey
