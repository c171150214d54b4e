import PriceSurvey.Proofs.Offer.Assessed

/-!
# A cache over many visits

A visit is a get with its effects in their order: it looks into the cache, asks the store, and
writes into the cache. What it has written stays there if a later request fails. A get writes only
when it has all its answers, so a visit that fails leaves no trace, and a visit is a get on a cache
that is handed on from one to the next.

Results:
* `Visit.run_get`: a visit comes to what a get comes to; a failed one leaves the cache as it was.
* `visits_keep`: what every get keeps up holds of the cache after any visits.
* `run_after_answer`: what was answered once is answered for ever, and without a request.
* `usedFixed_visits`: the fixed limits are used once a visit has answered them.
* `visits_coherent`: what holds over visits of any number, whatever the store does between them.
-/
namespace PriceSurvey

/-- A get with its effects, one after the other: it looks a profile up in the cache, asks the store
for its limits, writes limits into the cache, and ends with limits. -/
inductive Visit where
  | done (l : SourcedLimits)
  | look (profile : String) (next : Option SourcedLimits → Visit)
  | ask (profile : String) (next : Option Limits → Visit)
  | write (profile : String) (l : SourcedLimits) (next : Visit)

namespace Visit

variable {S : Type}

/-- Runs a visit on a cache and a store. What was written stays, also if the visit fails. -/
def run (responder : Responder S) : Visit → LimitCache × S → Outcome (LimitCache × S) SourcedLimits
  | .done l, state => ⟨.ok l, state, [], []⟩
  | .look p next, (c, s) => run responder (next (c.found.get? p)) (c, s)
  | .write p l next, (c, s) => run responder next (c.keep p l, s)
  | .ask p next, (c, s) =>
    match (responder.reply (.limits p) s).result with
    | .ok answer =>
      (run responder (next answer) (c, (responder.reply (.limits p) s).state)).behind
        [.limits p] (responder.reply (.limits p) s).log
    | .error cause =>
      ⟨.error (.database cause), (c, (responder.reply (.limits p) s).state), [.limits p],
        (responder.reply (.limits p) s).log⟩

/-- Writes limits and ends with them. -/
def keep (p : String) (l : SourcedLimits) : Visit := .write p l (.done l)

/-- The limits of the generic profile, and on with them. -/
def generic (next : SourcedLimits → Visit) : Visit :=
  .look genericProfile fun
    | some l => next l
    | none => .ask genericProfile fun answer =>
      .write genericProfile (LimitCache.genericLimits answer)
        (next (LimitCache.genericLimits answer))

/-- A get of a profile. -/
def get (p : String) : Visit :=
  .look p fun
    | some l => .done l
    | none => .ask p fun
      | some l => keep p ⟨l, if p = genericProfile then .generic else .profile⟩
      | none => if p = genericProfile then keep p ⟨.fixed, .fixed⟩ else generic (keep p)

/-- The cache behind a get: the one that it answers, or the one that it was called on. -/
def cacheAfter (c : LimitCache) : Except Fault (SourcedLimits × LimitCache) → LimitCache
  | .ok (_, c') => c'
  | .error _ => c

/-- What a get on a cache comes to, as what a visit comes to. -/
def ofGet (c : LimitCache) (o : Outcome S (SourcedLimits × LimitCache)) :
    Outcome (LimitCache × S) SourcedLimits :=
  ⟨o.result.map (·.1), (cacheAfter c o.result, o.state), o.requests, o.log⟩

section Run

variable (responder : Responder S) (c : LimitCache) (s : S) {p : String}

theorem run_ask_ok {answer : Option Limits} (next : Option Limits → Visit)
    (h : (responder.reply (.limits p) s).result = .ok answer) :
    (ask p next).run responder (c, s) =
      ((next answer).run responder (c, (responder.reply (.limits p) s).state)).behind [.limits p]
        (responder.reply (.limits p) s).log := by
  simp only [run, h]

theorem run_ask_error {cause : DatabaseFault} (next : Option Limits → Visit)
    (h : (responder.reply (.limits p) s).result = .error cause) :
    (ask p next).run responder (c, s) =
      ⟨.error (.database cause), (c, (responder.reply (.limits p) s).state), [.limits p],
        (responder.reply (.limits p) s).log⟩ := by
  simp only [run, h]

theorem run_generic (p : String) :
    (generic (keep p)).run responder (c, s) =
      ofGet c ((c.getGeneric >>= fun x => pure (x.1, x.2.keep p x.1)).run responder s) := by
  rw [generic, run]
  cases hg : c.found.get? genericProfile with
  | some l =>
    rw [LimitCache.getGeneric_found hg]
    rfl
  | none =>
    rw [LimitCache.getGeneric_missing hg]
    change _ = ofGet c ((Action.ask _ _).run responder s)
    cases hr : (responder.reply (.limits genericProfile) s).result with
    | error cause =>
      rw [run_ask_error responder c s _ hr, Action.run_ask_error _ hr]
      rfl
    | ok answer =>
      rw [run_ask_ok responder c s _ hr, Action.run_ask_ok _ hr]
      rfl

/-- A visit comes to what a get comes to. If that fails the cache is as it was. -/
theorem run_get (p : String) :
    (get p).run responder (c, s) = ofGet c ((c.get p).run responder s) := by
  rw [get, run]
  cases hc : c.found.get? p with
  | some l =>
    rw [LimitCache.get_found hc]
    rfl
  | none =>
    by_cases hp : p = genericProfile
    · subst hp
      rw [LimitCache.get_generic, LimitCache.getGeneric_missing hc]
      cases hr : (responder.reply (.limits genericProfile) s).result with
      | error cause =>
        rw [run_ask_error responder c s _ hr, Action.run_ask_error _ hr]
        rfl
      | ok answer =>
        rw [run_ask_ok responder c s _ hr, Action.run_ask_ok _ hr]
        cases answer <;> rfl
    rw [LimitCache.get_missing hp hc]
    cases hr : (responder.reply (.limits p) s).result with
    | error cause =>
      rw [run_ask_error responder c s _ hr, Action.run_ask_error _ hr]
      rfl
    | ok answer =>
      rw [run_ask_ok responder c s _ hr, Action.run_ask_ok _ hr]
      simp only [if_neg hp]
      cases answer with
      | some l => rfl
      | none =>
        rw [run_generic]
        rfl

/-- A visit fails and leaves the cache as it was, or it is a get that is answered. -/
theorem got (p : String) :
    let o := (get p).run responder (c, s);
    (∃ fault, o.result = .error fault ∧ o.state.1 = c) ∨
      ∃ l xs, o.result = .ok l ∧ LimitCache.Got c p xs (.ok (l, o.state.1)) := by
  intro o
  have hg := LimitCache.got_get responder s c p
  have ho : o = ofGet c ((c.get p).run responder s) := run_get responder c s p
  rw [ho, ofGet]
  cases hr : ((c.get p).run responder s).result with
  | error fault => exact .inl ⟨fault, rfl, rfl⟩
  | ok answer =>
    rw [hr] at hg
    exact .inr ⟨answer.1, _, rfl, hg⟩

theorem cache_of_error {fault : Fault}
    (h : ((get p).run responder (c, s)).result = .error fault) :
    ((get p).run responder (c, s)).state.1 = c := by
  rcases got responder c s p with ⟨_, -, hsame⟩ | ⟨l, xs, hl, -⟩
  · exact hsame
  · exact nomatch h.symm.trans hl

theorem kept_of_ok {l : SourcedLimits} (h : ((get p).run responder (c, s)).result = .ok l) :
    ((get p).run responder (c, s)).state.1.found.get? p = some l := by
  rcases got responder c s p with ⟨_, hr, -⟩ | ⟨l', xs, hr, hg⟩
  · exact nomatch h.symm.trans hr
  · cases h.symm.trans hr
    exact hg.kept

/-- What is in the cache is answered from it. -/
theorem run_found {l : SourcedLimits} (h : c.found.get? p = some l) :
    (get p).run responder (c, s) = ⟨.ok l, (c, s), [], []⟩ := by
  rw [run_get, LimitCache.get_found h]
  rfl

end Run

end Visit

namespace LimitCache

variable {S : Type} (responder : Responder S)

/-- The cache after visits to profiles, one after the other. Each of them meets the store in a state
of its own. -/
def visits (c : LimitCache) (calls : List (String × S)) : LimitCache :=
  calls.foldl (fun c call => ((Visit.get call.1).run responder (c, call.2)).state.1) c

@[simp] theorem visits_nil (c : LimitCache) : visits responder c [] = c := rfl

theorem visits_cons (c : LimitCache) (p : String) (s : S) (calls : List (String × S)) :
    visits responder c ((p, s) :: calls) =
      visits responder ((Visit.get p).run responder (c, s)).state.1 calls := rfl

theorem visits_append (c : LimitCache) (calls later : List (String × S)) :
    visits responder c (calls ++ later) = visits responder (visits responder c calls) later :=
  List.foldl_append

/-- What every get keeps up holds after visits if it held before them. -/
theorem visits_keep {P : LimitCache → Prop}
    (hstep : ∀ {c p xs l c'}, Got c p xs (.ok (l, c')) → P c → P c') {c : LimitCache} (hc : P c)
    (calls : List (String × S)) : P (visits responder c calls) := by
  induction calls generalizing c with
  | nil => exact hc
  | cons call calls ih =>
    obtain ⟨p, s⟩ := call
    rw [visits_cons]
    rcases Visit.got responder c s p with ⟨fault, -, hsame⟩ | ⟨l, xs, -, hg⟩
    · rw [hsame]
      exact ih hc
    · exact ih (hstep hg hc)

theorem coherent_visits (calls : List (String × S)) : Coherent (visits responder .empty calls) :=
  visits_keep responder (fun hg => hg.coherent) coherent_empty calls

theorem grows_visits {c : LimitCache} {p : String} {l : SourcedLimits}
    (h : c.found.get? p = some l) (calls : List (String × S)) :
    (visits responder c calls).found.get? p = some l :=
  visits_keep responder (P := fun c => c.found.get? p = some l) (fun hg => hg.grows) h calls

/-- What a visit was answered with is answered after all later visits, too, and nothing is asked. -/
theorem run_after_answer {c : LimitCache} {p : String} {s : S} {l : SourcedLimits}
    (h : ((Visit.get p).run responder (c, s)).result = .ok l) (later : List (String × S)) (s' : S) :
    let c' := visits responder c ((p, s) :: later);
    (Visit.get p).run responder (c', s') = ⟨.ok l, (c', s'), [], []⟩ := by
  refine Visit.run_found responder _ s' ?_
  rw [visits_cons]
  exact grows_visits responder (Visit.kept_of_ok responder c s h) later

/-- Some visit in a row is answered with the fixed limits. -/
def AnswersFixed (c : LimitCache) (calls : List (String × S)) : Prop :=
  ∃ before p s later l, calls = before ++ (p, s) :: later ∧
    ((Visit.get p).run responder (visits responder c before, s)).result = .ok l ∧
    l.origin = .fixed

theorem answersFixed_cons (c : LimitCache) (p : String) (s : S) (calls : List (String × S)) :
    AnswersFixed responder c ((p, s) :: calls) ↔
      (∃ l, ((Visit.get p).run responder (c, s)).result = .ok l ∧ l.origin = .fixed) ∨
        AnswersFixed responder ((Visit.get p).run responder (c, s)).state.1 calls := by
  constructor
  · rintro ⟨before, q, s', later, l, he, hl, hfixed⟩
    cases before with
    | nil =>
      cases he
      exact .inl ⟨l, hl, hfixed⟩
    | cons call before =>
      cases he
      exact .inr ⟨before, q, s', later, l, rfl, hl, hfixed⟩
  · rintro (⟨l, hl, hfixed⟩ | ⟨before, q, s', later, l, rfl, hl, hfixed⟩)
    · exact ⟨[], p, s, calls, l, rfl, hl, hfixed⟩
    · exact ⟨(p, s) :: before, q, s', later, l, rfl, hl, hfixed⟩

theorem usedFixed_visit (c : LimitCache) (p : String) (s : S) :
    ((Visit.get p).run responder (c, s)).state.1.usedFixed = true ↔ c.usedFixed = true ∨
      ∃ l, ((Visit.get p).run responder (c, s)).result = .ok l ∧ l.origin = .fixed := by
  rcases Visit.got responder c s p with ⟨fault, hr, hsame⟩ | ⟨l, xs, hr, hg⟩
  · simp [hr, hsame]
  · simp [hr, hg.usedFixed_iff, or_comm]

/-- The fixed limits are used exactly if they were before, or a visit has answered them. -/
theorem usedFixed_visits (c : LimitCache) (calls : List (String × S)) :
    (visits responder c calls).usedFixed = true ↔
      c.usedFixed = true ∨ AnswersFixed responder c calls := by
  induction calls generalizing c with
  | nil => simp [AnswersFixed]
  | cons call calls ih =>
    obtain ⟨p, s⟩ := call
    rw [visits_cons, ih, usedFixed_visit, answersFixed_cons, or_assoc]

/-- Whatever the store does between visits and within them: a visit is a get, and one that fails
leaves the cache as it was; what was answered once is answered for ever, and without a request;
limits that are not a profile's own are those of the generic profile, so generic and fixed ones are
never in one cache, nor noted in one batch; and the fixed ones are used exactly if some visit was
answered with them, from then on. -/
theorem visits_coherent (responder : Responder S) (calls : List (String × S)) :
    let c := visits responder .empty calls;
    (∀ p s,
      let g := (c.get p).run responder s
      let o := (Visit.get p).run responder (c, s);
      o.result = g.result.map (·.1) ∧ o.state.2 = g.state ∧ o.requests = g.requests ∧
      (∀ l c', g.result = .ok (l, c') → o.state.1 = c') ∧
      (∀ fault, o.result = .error fault → o.state.1 = c) ∧
      ∀ l, o.result = .ok l → ∀ later s',
        let c' := visits responder .empty (calls ++ (p, s) :: later);
        (Visit.get p).run responder (c', s') = ⟨.ok l, (c', s'), [], []⟩) ∧
    (∀ p l, c.found.get? p = some l → l.origin ≠ .profile →
      c.found.get? genericProfile = some l) ∧
    (∀ p q l m, c.found.get? p = some l → c.found.get? q = some m →
      ¬(l.origin = .generic ∧ m.origin = .fixed)) ∧
    (∀ resolver offers s as,
      ((Assessment.ofOffers resolver offers).run responder s).result = .ok as →
      ∀ a ∈ as, ∀ b ∈ as, ∀ p,
        ¬(Yardstick.fixedNote ∈ a.notes ∧ Yardstick.genericNote p ∈ b.notes)) ∧
    (c.usedFixed = true ↔ ∃ before p s later l, calls = before ++ (p, s) :: later ∧
      ((Visit.get p).run responder (visits responder .empty before, s)).result = .ok l ∧
      l.origin = .fixed) ∧
    (c.usedFixed = true →
      ∀ later, (visits responder .empty (calls ++ later)).usedFixed = true) := by
  intro c
  have hc : Coherent c := coherent_visits responder calls
  refine ⟨fun p s => ?visit, hc, fun p q l m hl hm => hc.not_generic_and_fixed hl hm,
    fun resolver offers s as h a ha b hb p =>
      Assessment.not_fixedNote_and_genericNote h ha hb p, ?used, fun h later => ?still⟩
  case visit =>
    intro g o
    have ho : o = Visit.ofGet c g := Visit.run_get responder c s p
    refine ⟨by rw [ho]; rfl, by rw [ho]; rfl, by rw [ho]; rfl, fun l c' hg => ?_,
      fun fault h => Visit.cache_of_error responder c s h, fun l h later s' => ?_⟩
    · rw [ho, Visit.ofGet, hg]
      rfl
    · rw [visits_append]
      exact run_after_answer responder h later s'
  case used =>
    have hused := usedFixed_visits responder .empty calls
    simpa [AnswersFixed] using hused
  case still =>
    rw [visits_append, usedFixed_visits]
    exact .inl h

end LimitCache

end PriceSurvey
