import PriceSurvey.Proofs.Offer.Batch
import PriceSurvey.Request.Memory

/-!
# What a batch of offers is told

A batch that is answered has one assessment for each offer that has an outcome for its name, in the
order of the offers. It rests on the last price of the item among the answered rows and on the
limits that were answered for the profile, and it says so.

Results:
* `isAssessed_assess`: one offer, by the answers.
* `ofOffers_assessed`: a batch, by the answers.
-/
namespace PriceSurvey.Assessment

open LimitCache Standing

variable {S : Type} {offers : List Offer} {results : List Resolution} {xs ys : List Exchange}
  {prices : Index Decimal} {cache : LimitCache} {configured : String → Option Limits}
  {o : Offer} {r : Resolution}

/-! ## One offer -/

/-- The notes on the limits of an offer in a batch: the fixed ones are noted on every offer if some
profile of the batch has to make do with them, the generic ones where they stand in. -/
def limitNotes (configured : String → Option Limits) (offers : List Offer) (profile : String) :
    List String :=
  (if ∃ x ∈ offers, (limitsBy configured x.profile).origin = .fixed then [Yardstick.fixedNote]
    else []) ++
  (if profile ≠ genericProfile ∧ (limitsBy configured profile).origin = .generic then
    [Yardstick.genericNote profile] else [])

/-- `a` is the assessment of an offer of a batch with an outcome for its name, by rows of prices and
limits of profiles. -/
structure IsAssessed (rows : List ReferencePrice) (configured : String → Option Limits)
    (offers : List Offer) (o : Offer) (r : Resolution) (a : Assessment) : Prop where
  name : a.name = o.name
  profile : a.profile = o.profile
  resolution : a.resolution = r
  item : a.item = r.item
  total : a.total = o.total.round shownPlaces
  reference : a.reference = (r.item.bind (lastPrice? rows)).map (·.round shownPlaces)
  judged : ∃ reasons, a.notes = limitNotes configured offers o.profile ++ reasons ∧
    IsJudged o.total r.item (r.item.bind (lastPrice? rows)) (limitsBy configured o.profile).limits
      ⟨a.verdict, a.ratio, reasons⟩

namespace IsAssessed

variable {rows : List ReferencePrice} {a : Assessment}

/-- The fixed limits are noted exactly if some profile of the batch has to make do with them. -/
theorem fixedNote_mem_iff (h : IsAssessed rows configured offers o r a) :
    Yardstick.fixedNote ∈ a.notes ↔
      ∃ x ∈ offers, (limitsBy configured x.profile).origin = .fixed := by
  obtain ⟨reasons, hnotes, hj⟩ := h.judged
  have hreason : Yardstick.fixedNote ∉ reasons := hj.fixedNote_notMem
  have hgeneric := fixedNote_ne_genericNote o.profile
  rw [hnotes, limitNotes, List.mem_append, List.mem_append]
  split_ifs <;> simp_all

/-- Generic limits are noted only where they stand in. -/
theorem origin_of_genericNote_mem (h : IsAssessed rows configured offers o r a) {profile : String}
    (hmem : Yardstick.genericNote profile ∈ a.notes) :
    (limitsBy configured o.profile).origin = .generic := by
  obtain ⟨reasons, hnotes, hj⟩ := h.judged
  have hreason : Yardstick.genericNote profile ∉ reasons := hj.genericNote_notMem profile
  have hfixed := (fixedNote_ne_genericNote profile).symm
  rw [hnotes, limitNotes, List.mem_append, List.mem_append] at hmem
  split_ifs at hmem <;> simp_all

end IsAssessed

theorem limitsOf_eq (hl : Filled .empty (profiles offers) ys (.ok cache)) (ht : Told ys configured)
    (ho : o ∈ offers) (prices : Index Decimal) (used : Bool) :
    Yardstick.limitsOf ⟨prices, cache.found, used⟩ o.profile = limitsBy configured o.profile := by
  have hmem : o.profile ∈ profiles offers :=
    ((isDistinctOf_profiles offers).mem_iff _).2 (List.mem_map_of_mem ho)
  rw [Yardstick.limitsOf, hl.get?_eq ht (agrees_empty _) hmem, Option.getD_some]

theorem usedFixed_iff (hl : Filled .empty (profiles offers) ys (.ok cache))
    (ht : Told ys configured) :
    cache.usedFixed = true ↔ ∃ x ∈ offers, (limitsBy configured x.profile).origin = .fixed := by
  rw [hl.usedFixed_iff ht (agrees_empty _), usedFixed_empty]
  simp [(isDistinctOf_profiles offers).mem_iff]

theorem limitNotes_eq (hl : Filled .empty (profiles offers) ys (.ok cache))
    (ht : Told ys configured) (ho : o ∈ offers) (prices : Index Decimal) :
    Yardstick.limitNotes ⟨prices, cache.found, cache.usedFixed⟩ o.profile =
      limitNotes configured offers o.profile := by
  rw [Yardstick.limitNotes, limitsOf_eq hl ht ho, limitNotes]
  simp only [usedFixed_iff hl ht, and_comm]

/-- Against its answers a batch assesses each of its offers. -/
theorem isAssessed_assess (hp : Priced results xs (.ok prices))
    (hl : Filled .empty (profiles offers) ys (.ok cache)) (ht : Told ys configured)
    (ho : o ∈ offers) (r : Resolution) :
    IsAssessed (xs.flatMap pricesOf) configured offers o r
      (Yardstick.assess ⟨prices, cache.found, cache.usedFixed⟩ o r) := by
  have hprice : r.item.bind prices.get? = r.item.bind (lastPrice? (xs.flatMap pricesOf)) := by
    congr 1
    exact funext hp.get?_eq
  have hlimits := limitsOf_eq hl ht ho prices cache.usedFixed
  have hnotes := limitNotes_eq hl ht ho prices
  refine ⟨rfl, rfl, rfl, rfl, rfl, ?_, _, congrArg (· ++ _) hnotes, ?_⟩
  · rw [← hprice]
    rfl
  · rw [← hprice, ← hlimits]
    exact isJudged_ofTotal _ _ _ _

/-! ## A batch -/

theorem flatMap_pricesOf (hl : Filled .empty (profiles offers) ys (.ok cache)) :
    ys.flatMap pricesOf = [] := by
  rw [List.flatMap_eq_nil_iff]
  rintro ⟨request, result⟩ hx
  obtain ⟨q, rfl⟩ := hl.request_eq _ hx
  rfl

theorem answeredLimits_append (hp : Priced results xs (.ok prices)) (ys : List Exchange)
    (profile : String) : answeredLimits (xs ++ ys) profile = answeredLimits ys profile := by
  cases hp with
  | none => rfl
  | answered =>
    rw [answeredLimits, List.singleton_append, List.findSome?_cons]
    rfl

/-- A batch of valid offers whose names are resolved and whose requests are answered has an
assessment for each offer that has an outcome, and each is the one by the answers. -/
theorem ofOffers_assessed {resolver : Resolver} {responder : Responder S} {s : S}
    (hvalid : ∀ o ∈ offers, o.IsValid)
    (hresolved : ((resolver (offers.map (·.name))).run responder s).result = .ok results)
    (hanswered : ∀ x ∈ (ofOffers resolver offers).exchanges responder s, ¬x.IsRefused) :
    ∃ told as,
      (offers ≠ [] → (ofOffers resolver offers).exchanges responder s =
        (resolver (offers.map (·.name))).exchanges responder s ++ told) ∧
      ((ofOffers resolver offers).run responder s).result = .ok as ∧
      as.length = min offers.length results.length ∧
      (∀ (k : Nat) (o : Offer) (r : Resolution), offers[k]? = some o → results[k]? = some r →
        ∃ a, as[k]? = some a ∧
          IsAssessed (told.flatMap pricesOf) (answeredLimits told) offers o r a) ∧
      ∀ i j p, unresolvedNote ≠ unpricedNote i ∧ unresolvedNote ≠ notPositiveNote j p ∧
        unpricedNote i ≠ notPositiveNote j p := by
  by_cases hne : offers = []
  · subst hne
    exact ⟨[], [], fun h => absurd rfl h, rfl, by simp, by simp, reasons_differ⟩
  have hofs := ofOffers_valid resolver hne hvalid
  obtain ⟨xs, ys, hasked, hj⟩ := judged_ofValid hresolved
  rw [← hofs] at hasked hj
  rw [hasked] at hanswered
  obtain ⟨prices, cache, hp, hl, hok⟩ := hj.answered fun x hx =>
    hanswered x (List.mem_append_right _ hx)
  have hrows : (xs ++ ys).flatMap pricesOf = xs.flatMap pricesOf := by
    rw [List.flatMap_append, flatMap_pricesOf hl, List.append_nil]
  have hlimits : answeredLimits (xs ++ ys) = answeredLimits ys :=
    funext (answeredLimits_append hp ys)
  refine ⟨xs ++ ys, _, fun _ => hasked, hok, List.length_zipWith, fun k o r ho hr => ?_,
    reasons_differ⟩
  refine ⟨_, by rw [List.getElem?_zipWith, ho, hr], ?_⟩
  rw [hrows, hlimits]
  exact isAssessed_assess hp hl (told_answeredLimits hl.nodup) (List.mem_of_getElem? ho) r

/-- Whatever a batch comes to, its assessments rest on one table of limits. -/
theorem exists_isAssessed {resolver : Resolver} {responder : Responder S} {s : S}
    {as : List Assessment} (h : ((ofOffers resolver offers).run responder s).result = .ok as) :
    ∃ rows configured, ∀ a ∈ as, ∃ o r, IsAssessed rows configured offers o r a := by
  rcases ofOffers_cases resolver offers responder s with
    ⟨-, hr⟩ | ⟨-, fault, hr⟩ | ⟨-, fault, hr⟩ | ⟨results, xs, ys, -, hj⟩
  · rw [hr] at h
    cases h
    exact ⟨[], fun _ => none, by simp⟩
  · exact nomatch hr.symm.trans h
  · exact nomatch hr.symm.trans h
  · rw [h] at hj
    cases hj with
    | done hp hl =>
      refine ⟨xs.flatMap pricesOf, answeredLimits ys, fun a ha => ?_⟩
      obtain ⟨k, hk⟩ := List.mem_iff_getElem?.1 ha
      obtain ⟨o, r, ho, -, rfl⟩ := List.getElem?_zipWith_eq_some.1 hk
      exact ⟨o, r, isAssessed_assess hp hl (told_answeredLimits hl.nodup)
        (List.mem_of_getElem? ho) r⟩

/-- No batch says both that the fixed limits are used and that generic ones stand in. -/
theorem not_fixedNote_and_genericNote {resolver : Resolver} {responder : Responder S} {s : S}
    {as : List Assessment} (h : ((ofOffers resolver offers).run responder s).result = .ok as)
    {a b : Assessment} (ha : a ∈ as) (hb : b ∈ as) (profile : String) :
    ¬(Yardstick.fixedNote ∈ a.notes ∧ Yardstick.genericNote profile ∈ b.notes) := by
  rintro ⟨hfixed, hgeneric⟩
  obtain ⟨rows, configured, hall⟩ := exists_isAssessed h
  obtain ⟨o, r, hoa⟩ := hall a ha
  obtain ⟨o', r', hob⟩ := hall b hb
  obtain ⟨x, -, hx⟩ := hoa.fixedNote_mem_iff.1 hfixed
  exact generic_of_origin_generic (hob.origin_of_genericNote_mem hgeneric)
    (generic_of_origin_fixed hx)

/-- A store with a price of nought, and an outside resolver that knows of three names. -/
def depot : Memory where
  prices := [⟨"X1", ⟨90, 0⟩⟩, ⟨"X2", ⟨0, 0⟩⟩, ⟨"X1", ⟨100, 0⟩⟩]
  limits := .ofPairs [(genericProfile, .fixed)]
  resolutions := [.found "Ciment" "ciment" "X1" .sameName, .found "Sable" "sable" "X2" .sameName,
    .notFound "Brique" "brique" none]

/-- Four offers, one of them under a profile that is not configured. -/
def depotOffers : List Offer :=
  [{ name := "Ciment", unitPrice := ⟨105, 0⟩ },
    { name := "Sable", unitPrice := ⟨20, 0⟩, profile := "TRAVAUX" },
    { name := "Brique", unitPrice := ⟨1, 0⟩ }, { name := "Gravier", unitPrice := ⟨1, 0⟩ }]

/-- The offer without an outcome gets no assessment. The second one is told that its limits are the
generic ones and that its reference price is nought. -/
theorem ofOffers_assessed_depot :
    (∀ o ∈ depotOffers, o.IsValid) ∧
      ((Resolver.outside (depotOffers.map (·.name))).run Memory.responder depot).result =
        .ok depot.resolutions ∧
      (∀ x ∈ (ofOffers .outside depotOffers).exchanges Memory.responder depot, ¬x.IsRefused) ∧
      ∃ as a, ((ofOffers .outside depotOffers).run Memory.responder depot).result = .ok as ∧
        as.length = 3 ∧ as[1]? = some a ∧ a.verdict = .noReference ∧
        a.notes = [Yardstick.genericNote "TRAVAUX", notPositiveNote "X2" ⟨0, 0⟩] := by
  have hvalid : ∀ o ∈ depotOffers, o.IsValid := by decide
  have hresolved :
      ((Resolver.outside (depotOffers.map (·.name))).run Memory.responder depot).result =
        .ok depot.resolutions := by decide +kernel
  have hanswered : ∀ x ∈ (ofOffers .outside depotOffers).exchanges Memory.responder depot,
      ¬x.IsRefused := by decide +kernel
  obtain ⟨told, as, hasked, hok, hlength, hall, -⟩ :=
    ofOffers_assessed hvalid hresolved hanswered
  obtain ⟨a, ha, h⟩ := hall 1 _ _ rfl rfl
  refine ⟨hvalid, hresolved, hanswered, as, a, hok, hlength, ha, ?_⟩
  have htold : told = [⟨.prices ["X1", "X2"], .ok depot.prices⟩,
      ⟨.limits genericProfile, .ok (some .fixed)⟩, ⟨.limits "TRAVAUX", .ok none⟩] :=
    List.append_cancel_left ((hasked (by decide)).symm.trans rfl)
  subst htold
  obtain ⟨reasons, hnotes, hj⟩ := h.judged
  have hreason : reasons = [notPositiveNote "X2" ⟨0, 0⟩] :=
    hj.notPositive "X2" ⟨0, 0⟩ rfl (by decide +kernel) (by decide)
  refine ⟨hj.noReference_iff.2 (.inr (.inr ⟨⟨0, 0⟩, by decide +kernel, by decide⟩)), ?_⟩
  rw [hnotes, hreason]
  decide +kernel

end PriceSurvey.Assessment
