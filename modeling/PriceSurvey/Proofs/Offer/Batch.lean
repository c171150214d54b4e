import PriceSurvey.Proofs.Alias.Lookup
import PriceSurvey.Proofs.Distinct
import PriceSurvey.Proofs.Offer.LimitCalls
import PriceSurvey.Proofs.Offer.Standing

/-!
# Batches of offers

A batch of valid offers resolves its names, and then it asks for the prices of their items and for
the limits of its profiles. What it can do behind its resolver is said once, in `Judged`. An invalid
offer keeps the whole batch from asking anything.

Results:
* `judged_ofValid`: what a batch exchanges behind its resolver, and what it comes to.
* `Judged.answered`: a batch that is answered has its assessments.
* `ofOffers_requests`: all that a batch asks, on any store.
-/
namespace PriceSurvey

variable {S : Type}

/-- Price and quantity are more than zero. -/
def Offer.IsValid (o : Offer) : Prop := o.unitPrice.IsPositive ∧ o.quantity.IsPositive

instance (o : Offer) : Decidable o.IsValid :=
  inferInstanceAs (Decidable (o.unitPrice.IsPositive ∧ o.quantity.IsPositive))

theorem Offer.fault?_of_isValid {o : Offer} (h : o.IsValid) : o.fault? = none :=
  fault?_eq_none_iff.2 h

/-- The price is looked at first. -/
theorem Offer.fault?_of_not_isValid {o : Offer} (h : ¬o.IsValid) :
    o.fault? = some (if o.unitPrice.IsPositive then .quantity else .unitPrice) := by
  unfold fault?
  by_cases hp : o.unitPrice.IsPositive
  · have hq : ¬o.quantity.IsPositive := fun hq => h ⟨hp, hq⟩
    simp [hp, hq]
  · simp [hp]

namespace Assessment

variable {offers : List Offer} {results : List Resolution} {xs ys : List Exchange} {fault : Fault}

/-! ## Invalid offers -/

theorem firstFault?_eq_none_iff : firstFault? offers = none ↔ ∀ o ∈ offers, o.IsValid := by
  rw [firstFault?, List.findSome?_eq_none_iff]
  simp only [Option.map_eq_none_iff, Offer.fault?_eq_none_iff]
  rfl

/-- The fault of a list is that of its first invalid offer. -/
theorem firstFault?_append {front : List Offer} {o : Offer} (hf : ∀ x ∈ front, x.IsValid)
    (ho : ¬o.IsValid) (rest : List Offer) : firstFault? (front ++ o :: rest) =
      some (.invalidOffer o.name (if o.unitPrice.IsPositive then .quantity else .unitPrice)) := by
  have hfront : front.findSome? (fun x => x.fault?.map (Fault.invalidOffer x.name)) = none :=
    firstFault?_eq_none_iff.2 hf
  rw [firstFault?, List.findSome?_append, hfront, List.findSome?_cons,
    Offer.fault?_of_not_isValid ho]
  rfl

variable (resolver : Resolver)

/-- A batch with an invalid offer ends with the fault of the first one. -/
theorem ofOffers_invalid {front : List Offer} {o : Offer} (hf : ∀ x ∈ front, x.IsValid)
    (ho : ¬o.IsValid) (rest : List Offer) : ofOffers resolver (front ++ o :: rest) =
      .fail (.invalidOffer o.name (if o.unitPrice.IsPositive then .quantity else .unitPrice)) := by
  rw [ofOffers, if_neg (by simp), firstFault?_append hf ho]

theorem ofOffers_valid (hne : offers ≠ []) (h : ∀ o ∈ offers, o.IsValid) :
    ofOffers resolver offers = ofValid resolver offers := by
  rw [ofOffers, if_neg (by simpa using hne), firstFault?_eq_none_iff.2 h]

/-! ## Prices -/

/-- The different items that names were resolved to, in the order of their first appearance. -/
def itemsOf (results : List Resolution) : List String := (results.filterMap (·.item)).eraseDups

/-- The prices that an exchange brought. -/
def pricesOf : Exchange → List ReferencePrice
  | ⟨.prices _, .ok rows⟩ => rows
  | _ => []

/-- The price of an item among rows: the last one. -/
def lastPrice? (rows : List ReferencePrice) (item : String) : Option Decimal :=
  ((rows.filter fun p => p.item = item).getLast?).map (·.price)

/-- What a request for prices can exchange with the store, and what it comes to. -/
inductive Priced (results : List Resolution) :
    List Exchange → Except Fault (Index Decimal) → Prop
  | none (h : itemsOf results = []) : Priced results [] (.ok .empty)
  | refused {cause : DatabaseFault} (h : itemsOf results ≠ []) :
      Priced results [⟨.prices (itemsOf results), .error cause⟩] (.error (.database cause))
  | answered {rows : List ReferencePrice} (h : itemsOf results ≠ []) :
      Priced results [⟨.prices (itemsOf results), .ok rows⟩]
        (.ok (.ofPairs (rows.map fun p => (p.item, p.price))))

theorem priced_referencePrices (responder : Responder S) (s : S) (results : List Resolution) :
    Priced results ((referencePrices results).exchanges responder s)
      ((referencePrices results).run responder s).result := by
  have heq : referencePrices results =
      if (itemsOf results).isEmpty then .done .empty
      else .ask (.prices (itemsOf results)) fun rows =>
        .done (.ofPairs (rows.map fun p => (p.item, p.price))) := rfl
  rw [heq]
  split
  case isTrue h => exact .none (List.isEmpty_iff.1 h)
  case isFalse h =>
    have hne : itemsOf results ≠ [] := fun he => h (List.isEmpty_iff.2 he)
    cases hr : (responder.reply (.prices (itemsOf results)) s).result with
    | error cause =>
      rw [Action.exchanges_ask_error _ hr, Action.run_ask_error _ hr]
      exact .refused hne
    | ok rows =>
      rw [Action.exchanges_ask_ok _ hr, Action.run_ask_ok _ hr]
      exact .answered hne

namespace Priced

variable {res : Except Fault (Index Decimal)} {prices : Index Decimal}

theorem map_request (h : Priced results xs res) :
    xs.map (·.request) = if itemsOf results = [] then [] else [.prices (itemsOf results)] := by
  cases h with
  | none h => rw [if_pos h, List.map_nil]
  | refused h | answered h => rw [if_neg h, List.map_singleton]

theorem exists_refused (h : Priced results xs (.error fault)) : ∃ x ∈ xs, x.IsRefused := by
  cases h
  simp [Exchange.IsRefused]

/-- The prices are those of the last rows. -/
theorem get?_eq (h : Priced results xs (.ok prices)) (item : String) :
    prices.get? item = lastPrice? (xs.flatMap pricesOf) item := by
  cases h with
  | none => rfl
  | answered =>
    rw [Index.get?_ofPairs_map]
    simp [lastPrice?, pricesOf]

end Priced

/-! ## Behind the resolver -/

/-- What a batch of valid offers can exchange with the store once its names are resolved, first for
prices and then for limits, and what it comes to. -/
inductive Judged (offers : List Offer) (results : List Resolution) :
    List Exchange → List Exchange → Except Fault (List Assessment) → Prop
  | unpriced {xs : List Exchange} {fault : Fault} (hp : Priced results xs (.error fault)) :
      Judged offers results xs [] (.error fault)
  | unlimited {xs ys : List Exchange} {prices : Index Decimal} {fault : Fault}
      (hp : Priced results xs (.ok prices))
      (hl : LimitCache.Filled .empty (profiles offers) ys (.error fault)) :
      Judged offers results xs ys (.error fault)
  | done {xs ys : List Exchange} {prices : Index Decimal} {cache : LimitCache}
      (hp : Priced results xs (.ok prices))
      (hl : LimitCache.Filled .empty (profiles offers) ys (.ok cache)) :
      Judged offers results xs ys
        (.ok (List.zipWith (Yardstick.assess ⟨prices, cache.found, cache.usedFixed⟩)
          offers results))

theorem filled_limitsFor (responder : Responder S) (s : S) (offers : List Offer) :
    LimitCache.Filled .empty (profiles offers) ((limitsFor offers).exchanges responder s)
      ((limitsFor offers).run responder s).result := by
  have hf := LimitCache.filled_getAll responder s .empty (profiles offers)
  rw [limitsFor]
  cases hres : ((LimitCache.empty.getAll (profiles offers)).run responder s).result with
  | error fault =>
    rw [Action.exchanges_seq_error responder s hres, Action.run_seq, Outcome.follow_error hres]
    rwa [hres] at hf
  | ok cache =>
    rw [Action.exchanges_seq_ok responder s hres, Action.run_seq, Outcome.follow_ok hres]
    rw [hres] at hf
    cases hu : cache.usedFixed <;> simpa [hu, Outcome.follow, Outcome.behind] using hf

theorem judged_ofValid {resolver : Resolver} {responder : Responder S} {s : S}
    (h : ((resolver (offers.map (·.name))).run responder s).result = .ok results) :
    ∃ xs ys, (ofValid resolver offers).exchanges responder s =
        (resolver (offers.map (·.name))).exchanges responder s ++ (xs ++ ys) ∧
      Judged offers results xs ys ((ofValid resolver offers).run responder s).result := by
  rw [ofValid, Action.exchanges_seq_ok responder s h, Action.run_seq, Outcome.follow_ok h,
    Outcome.behind_result]
  generalize ((resolver (offers.map (·.name))).run responder s).state = s
  have hp := priced_referencePrices responder s results
  cases hpr : ((referencePrices results).run responder s).result with
  | error fault =>
    rw [hpr] at hp
    rw [Action.exchanges_seq_error responder s hpr, Action.run_seq, Outcome.follow_error hpr]
    exact ⟨_, [], by rw [List.append_nil], .unpriced hp⟩
  | ok prices =>
    rw [hpr] at hp
    rw [Action.exchanges_seq_ok responder s hpr, Action.run_seq, Outcome.follow_ok hpr,
      Outcome.behind_result]
    generalize ((referencePrices results).run responder s).state = s'
    have hl := filled_limitsFor responder s' offers
    cases hlr : ((limitsFor offers).run responder s').result with
    | error fault =>
      rw [hlr] at hl
      rw [Action.exchanges_seq_error responder s' hlr, Action.run_seq, Outcome.follow_error hlr]
      exact ⟨_, _, rfl, .unlimited hp hl⟩
    | ok cache =>
      rw [hlr] at hl
      rw [Action.exchanges_seq_ok responder s' hlr, Action.run_seq, Outcome.follow_ok hlr,
        Outcome.behind_result]
      refine ⟨_, _, ?_, .done hp hl⟩
      rw [Action.exchanges_log_seq, Action.exchanges_pure, List.append_nil]

namespace Judged

variable {res : Except Fault (List Assessment)}

theorem map_request_prices (h : Judged offers results xs ys res) :
    xs.map (·.request) = if itemsOf results = [] then [] else [.prices (itemsOf results)] := by
  cases h with
  | unpriced hp | unlimited hp | done hp => exact hp.map_request

/-- A batch that is answered all its requests has its assessments. -/
theorem answered (h : Judged offers results xs ys res) (hr : ∀ x ∈ xs ++ ys, ¬x.IsRefused) :
    ∃ prices cache, Priced results xs (.ok prices) ∧
      LimitCache.Filled .empty (profiles offers) ys (.ok cache) ∧
      res = .ok (List.zipWith (Yardstick.assess ⟨prices, cache.found, cache.usedFixed⟩)
        offers results) := by
  cases h with
  | unpriced hp =>
    obtain ⟨x, hx, hrefused⟩ := hp.exists_refused
    exact absurd hrefused (hr x (List.mem_append_left _ hx))
  | unlimited hp hl =>
    obtain ⟨x, hx, hrefused⟩ := hl.exists_refused
    exact absurd hrefused (hr x (List.mem_append_right _ hx))
  | done hp hl => exact ⟨_, _, hp, hl, rfl⟩

theorem filled (h : Judged offers results xs ys res) :
    ys = [] ∨ ∃ res, LimitCache.Filled .empty (profiles offers) ys res := by
  cases h with
  | unpriced => exact .inl rfl
  | unlimited hp hl | done hp hl => exact .inr ⟨_, hl⟩

theorem nodup (h : Judged offers results xs ys res) : (ys.map (·.request)).Nodup := by
  rcases h.filled with rfl | ⟨_, hl⟩
  · exact List.nodup_nil
  · exact hl.nodup

end Judged

theorem isDistinctOf_profiles (offers : List Offer) :
    IsDistinctOf (offers.map (·.profile)) (profiles offers) :=
  isDistinctOf_eraseDups _

theorem asksUpTo_profiles {res : Except Fault LimitCache}
    (h : LimitCache.Filled .empty (profiles offers) ys res) :
    LimitCache.AsksUpTo ys res
      (LimitCache.askedOrder (LimitCache.answeredLimits ys) (profiles offers)) :=
  h.asksUpTo (LimitCache.told_answeredLimits h.nodup) rfl (fun _ _ => rfl)
    (isDistinctOf_profiles offers).nodup

/-! ## All that is asked -/

theorem Judged.request_eq {res : Except Fault (List Assessment)}
    (h : Judged offers results xs ys res) : ∀ x ∈ xs ++ ys,
      (∃ items, x.request = .prices items) ∨ ∃ profile, x.request = .limits profile := by
  intro x hx
  rcases List.mem_append.1 hx with hx | hx
  · have hmem := List.mem_map_of_mem (f := (·.request)) hx
    rw [h.map_request_prices] at hmem
    split at hmem
    · cases hmem
    · exact .inl ⟨_, List.mem_singleton.1 hmem⟩
  · rcases h.filled with rfl | ⟨_, hl⟩
    · cases hx
    · exact .inr (hl.request_eq x hx)

theorem Judged.reads {res : Except Fault (List Assessment)} (h : Judged offers results xs ys res) :
    ∀ x ∈ xs ++ ys, x.request.reads = true := by
  intro x hx
  rcases h.request_eq x hx with ⟨items, he⟩ | ⟨profile, he⟩ <;> rw [he] <;> rfl

theorem itemsOf_eq_nil : itemsOf results = [] ↔ ∀ r ∈ results, r.item = none := by
  rw [List.eq_nil_iff_forall_not_mem]
  simp only [itemsOf, List.mem_eraseDups, List.mem_filterMap, Option.eq_none_iff_forall_ne_some]
  exact ⟨fun h r hr i hi => h i ⟨r, hr, hi⟩, fun h i ⟨r, hr, hi⟩ => h r hr i hi⟩

/-- A resolver of the library reads only. -/
theorem reads_resolver (responder : Responder S) (s : S) (names : List String)
    (h : resolver = .outside ∨ resolver = Resolution.ofNames) :
    ∀ x ∈ (resolver names).exchanges responder s, x.request.reads = true := by
  intro x hx
  have hmem := List.mem_map_of_mem (f := (·.request)) hx
  rw [Action.map_request_exchanges] at hmem
  rcases h with rfl | rfl
  · rw [Resolver.outside, Action.run_request, List.mem_singleton] at hmem
    rw [hmem]
    rfl
  · rw [(Resolution.run_ofNames responder s names).2.2, Query.fetch] at hmem
    split at hmem
    · cases hmem
    · rw [Action.run_request, List.mem_singleton] at hmem
      rw [hmem]
      rfl

/-- A batch asks nothing, or stops where its resolver fails, or goes on behind it. -/
theorem ofOffers_cases (offers : List Offer) (responder : Responder S) (s : S) :
    let told := (resolver (offers.map (·.name))).exchanges responder s
    let result := ((ofOffers resolver offers).run responder s).result
    let asked := (ofOffers resolver offers).exchanges responder s;
    (asked = [] ∧ result = .ok []) ∨ (asked = [] ∧ ∃ fault, result = .error fault) ∨
    (asked = told ∧ ∃ fault, result = .error fault) ∨
    ∃ results xs ys, asked = told ++ (xs ++ ys) ∧ Judged offers results xs ys result := by
  intro told result asked
  by_cases hne : offers = []
  · subst hne
    exact .inl ⟨rfl, rfl⟩
  have hempty : ¬offers.isEmpty := by simpa using hne
  simp only [result, asked, ofOffers, if_neg hempty]
  cases firstFault? offers with
  | some fault => exact .inr (.inl ⟨rfl, fault, rfl⟩)
  | none =>
    cases h : ((resolver (offers.map (·.name))).run responder s).result with
    | error fault =>
      refine .inr (.inr (.inl ⟨Action.exchanges_seq_error responder s h _, fault, ?_⟩))
      rw [ofValid, Action.run_seq, Outcome.follow_error h]
    | ok results =>
      obtain ⟨xs, ys, hasked, hj⟩ := judged_ofValid h
      exact .inr (.inr (.inr ⟨results, xs, ys, hasked, hj⟩))

/-- A batch asks what its resolver asks, and apart from that it reads only. -/
theorem reads_ofOffers (responder : Responder S) (s : S) :
    ∀ x ∈ (ofOffers resolver offers).exchanges responder s,
      x ∈ (resolver (offers.map (·.name))).exchanges responder s ∨ x.request.reads = true := by
  intro x hx
  rcases ofOffers_cases resolver offers responder s with
    ⟨hasked, -⟩ | ⟨hasked, -⟩ | ⟨hasked, -⟩ | ⟨results, xs, ys, hasked, hj⟩ <;> rw [hasked] at hx
  · cases hx
  · cases hx
  · exact .inl hx
  · exact (List.mem_append.1 hx).imp_right (hj.reads x)

/-- A batch without offers, or with an invalid one, asks nothing. Another one resolves its names,
once, asks for the prices of the items, if there are any, and for the limits of its profiles, none
of them twice. The first request that is refused is the last one, and its cause is the fault of the
batch. Nothing is written. -/
theorem ofOffers_requests (resolver : Resolver) (responder : Responder S) (s : S)
    (offers : List Offer) :
    let call := (resolver (offers.map (·.name))).run responder s
    let told := (resolver (offers.map (·.name))).exchanges responder s
    let o := (ofOffers resolver offers).run responder s
    let asked := (ofOffers resolver offers).exchanges responder s;
    asked.map (·.request) = o.requests ∧
    (offers = [] → asked = [] ∧ o.result = .ok []) ∧
    (∀ front x rest, offers = front ++ x :: rest → (∀ y ∈ front, y.IsValid) → ¬x.IsValid →
      asked = [] ∧ o.result = .error
        (.invalidOffer x.name (if x.unitPrice.IsPositive then .quantity else .unitPrice))) ∧
    (offers ≠ [] → (∀ x ∈ offers, x.IsValid) →
      (resolver = .outside → told.map (·.request) = [.resolve (offers.map (·.name))]) ∧
      (∀ fault, call.result = .error fault → asked = told ∧ o.result = .error fault) ∧
      ∀ results, call.result = .ok results → ∃ items codes priced limited,
        let order := LimitCache.askedOrder (LimitCache.answeredLimits limited) codes;
        IsDistinctOf (results.filterMap (·.item)) items ∧
        IsDistinctOf (offers.map (·.profile)) codes ∧
        asked = told ++ (priced ++ limited) ∧
        (items = [] ↔ ∀ r ∈ results, r.item = none) ∧
        priced.map (·.request) = (if items = [] then [] else [.prices items]) ∧
        (limited.map (·.request)).Nodup ∧
        limited.map (·.request) <+: order.map .limits ∧
        ((∀ x ∈ priced ++ limited, ¬x.IsRefused) →
          limited.map (·.request) = order.map .limits ∧ ∃ as, o.result = .ok as)) ∧
    (∀ front x behind cause, asked = front ++ x :: behind → x.result = .error cause →
      behind = [] ∧ o.result = .error (.database cause)) ∧
    (∀ x ∈ asked, x ∈ told ∨ x.request.reads = true) ∧
    (resolver = .outside ∨ resolver = Resolution.ofNames →
      ∀ x ∈ told, x.request.reads = true) := by
  intro call told o asked
  refine ⟨Action.map_request_exchanges responder s _, ?empty, ?invalid, ?valid,
    fun _ _ _ _ => Action.refused_last responder s _, reads_ofOffers resolver responder s,
    reads_resolver resolver responder s _⟩
  case empty =>
    rintro rfl
    exact ⟨rfl, rfl⟩
  case invalid =>
    rintro front x rest rfl hf hx
    have hofs := ofOffers_invalid resolver hf hx rest
    simp only [asked, o, hofs]
    exact ⟨rfl, rfl⟩
  case valid =>
    intro hne hv
    have hofs := ofOffers_valid resolver hne hv
    refine ⟨?_, fun fault hfault => ?_, fun results hresults => ?_⟩
    · rintro rfl
      exact (Action.map_request_exchanges responder s _).trans
        (congrArg Outcome.requests (Action.run_request responder s _))
    · simp only [asked, o, hofs, ofValid]
      rw [Action.exchanges_seq_error responder s hfault, Action.run_seq,
        Outcome.follow_error hfault]
      exact ⟨rfl, rfl⟩
    · obtain ⟨priced, limited, hasked, hj⟩ := judged_ofValid hresults
      rw [← hofs] at hasked hj
      refine ⟨itemsOf results, profiles offers, priced, limited, isDistinctOf_eraseDups _,
        isDistinctOf_profiles offers, hasked, itemsOf_eq_nil, hj.map_request_prices, hj.nodup, ?_,
        fun hr => ?_⟩
      · rcases hj.filled with rfl | ⟨_, hl⟩
        · exact List.nil_prefix
        · exact (asksUpTo_profiles hl).upTo
      · obtain ⟨prices, cache, -, hl, hok⟩ := hj.answered hr
        exact ⟨(asksUpTo_profiles hl).complete cache rfl, _, hok⟩

end Assessment

end PriceSurvey
