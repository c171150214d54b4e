import PriceSurvey.Proofs.Request.Run

/-!
# Actions that are alike

Two actions are alike if they ask the same lookups in the same order, as long as the answers to them
are related, and end in related values or in the same fault. Then two responders whose answers are
related lead them alike: with the same requests, to related results.

Results:
* `Alike.seq`: steps behind steps.
* `Alike.run`: alike actions over responders that answer alike.
-/
namespace PriceSurvey

variable {S T α β γ δ ε : Type}

/-- A request that looks something up. -/
def Request.isLookup : Request → Bool
  | .entries _ _ | .prices _ | .limits _ => true
  | _ => false

theorem Request.reads_of_isLookup {r : Request} (h : r.isLookup = true) : r.reads = true := by
  cases r with
  | append => cases h
  | entries | prices | limits | evidenceTable | resolve => rfl

/-- The same fault, or related values. -/
inductive SameResult (R : α → β → Prop) : Except ε α → Except ε β → Prop
  | ok {a : α} {b : β} (h : R a b) : SameResult R (.ok a) (.ok b)
  | error (fault : ε) : SameResult R (.error fault) (.error fault)

namespace Action

variable {Same : (r : Request) → r.Answer → r.Answer → Prop}

/-- Actions that ask the same lookups and end in related values, or in the same fault, whichever
related answers they get. What they report does not count. -/
inductive Alike (Same : (r : Request) → r.Answer → r.Answer → Prop) (R : α → β → Prop) :
    Action α → Action β → Prop
  | done {a : α} {b : β} (h : R a b) : Alike Same R (.done a) (.done b)
  | fail (fault : Fault) : Alike Same R (.fail fault) (.fail fault)
  | report {e e' : Log.Entry} {x : Action α} {y : Action β} (h : Alike Same R x y) :
    Alike Same R (.report e x) (.report e' y)
  | ask {r : Request} {next : r.Answer → Action α} {next' : r.Answer → Action β}
    (hr : r.isLookup = true) (h : ∀ a b, Same r a b → Alike Same R (next a) (next' b)) :
    Alike Same R (.ask r next) (.ask r next')

namespace Alike

variable {R : α → β → Prop} {Q : γ → δ → Prop} {x : Action α} {y : Action β}

/-- Steps that are alike behind steps that are alike. -/
theorem seq (h : Alike Same R x y) {f : α → Action γ} {g : β → Action δ}
    (hf : ∀ a b, R a b → Alike Same Q (f a) (g b)) : Alike Same Q (x >>= f) (y >>= g) := by
  change Alike Same Q (x.bind f) (y.bind g)
  induction h with
  | done h => exact hf _ _ h
  | fail fault => exact .fail fault
  | report h ih => exact .report ih
  | ask hr h ih => exact .ask hr fun a b hab => ih a b hab

theorem request {r : Request} (hr : r.isLookup = true) :
    Alike Same (Same r) (request r) (request r) :=
  .ask hr fun _ _ hab => .done hab

/-- What is reported may differ. -/
theorem log_seq {level : Log.Level} {part : Log.Part} {message message' : String}
    {f : Unit → Action α} {g : Unit → Action β} (h : Alike Same R (f ()) (g ())) :
    Alike Same R (log level part message >>= f) (log level part message' >>= g) :=
  .report h

end Alike

/-! ## Runs -/

/-- Responders that answer lookups alike in related states, and stay in related states. -/
structure AnswersAlike (Same : (r : Request) → r.Answer → r.Answer → Prop)
    (ρ : Responder S) (σ : Responder T) (Rel : S → T → Prop) : Prop where
  result : ∀ r s t, r.isLookup = true → Rel s t →
    SameResult (Same r) (ρ.reply r s).result (σ.reply r t).result
  state : ∀ r s t, r.isLookup = true → Rel s t → Rel (ρ.reply r s).state (σ.reply r t).state

/-- Over responders that answer alike, actions that are alike ask the same lookups, and come to
related values or to the same fault. -/
theorem Alike.run {R : α → β → Prop} {x : Action α} {y : Action β} {ρ : Responder S}
    {σ : Responder T} {Rel : S → T → Prop} {s : S} {t : T} (h : Alike Same R x y)
    (hanswers : AnswersAlike Same ρ σ Rel) (hs : Rel s t) :
    (x.run ρ s).requests = (y.run σ t).requests ∧
      (∀ r ∈ (x.run ρ s).requests, r.isLookup = true) ∧
      SameResult R (x.run ρ s).result (y.run σ t).result := by
  induction h generalizing s t with
  | done h => exact ⟨rfl, by simp, .ok h⟩
  | fail fault => exact ⟨rfl, by simp [Action.run], .error fault⟩
  | report h ih => exact ih hs
  | @ask r next next' hr h ih =>
    have hresult := hanswers.result r s t hr hs
    have hstate := hanswers.state r s t hr hs
    rw [Action.run, Action.run]
    generalize hρ : (ρ.reply r s).result = answer at hresult
    generalize hσ : (σ.reply r t).result = answer' at hresult
    cases hresult with
    | error cause => exact ⟨rfl, by simpa using hr, .error _⟩
    | ok hab =>
      obtain ⟨hrequests, hlookups, hsame⟩ := ih _ _ hab hstate
      refine ⟨?_, ?_, hsame⟩
      · simpa using hrequests
      · simpa [hr] using hlookups

end Action

end PriceSurvey
