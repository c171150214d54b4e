import PriceSurvey.Offer.LimitCache
import PriceSurvey.Proofs.Request.Exchange

/-!
# What a cache of limits holds

All that a get can do is said once, in `Got`: it finds the limits, or asks for those of the profile
and, if there are none, for the generic ones. What one get keeps up, a series of gets keeps up.

Results:
* `got_get`, `filled_getAll`: a get, and a series of gets, on any store.
* `Got.coherent`: limits that are not a profile's own are those of the generic profile.
* `Got.kept`, `Got.grows`: what a get answers stays in the cache.
* `Filled.get?_eq`: behind a series the cache holds what the store has on each profile.
-/
namespace PriceSurvey

/-- The limits of a profile by what is configured: its own, else those of the generic profile, else
the fixed ones. -/
def limitsBy (configured : String → Option Limits) (profile : String) : SourcedLimits :=
  match configured profile with
  | some l => ⟨l, if profile = genericProfile then .generic else .profile⟩
  | none => LimitCache.genericLimits (configured genericProfile)

namespace LimitCache

variable {S : Type} {c c' : LimitCache} {p q : String} {l m : SourcedLimits} {ps : List String}
  {xs : List Exchange} {fault : Fault} {configured : String → Option Limits}

/-! ## One entry -/

@[simp] theorem get?_empty (p : String) : empty.found.get? p = none := rfl

theorem get?_keep (c : LimitCache) (p q : String) (l : SourcedLimits) :
    (c.keep p l).found.get? q = if q = p then some l else c.found.get? q :=
  Index.get?_insert _ _ _ _

@[simp] theorem get?_keep_self (c : LimitCache) (p : String) (l : SourcedLimits) :
    (c.keep p l).found.get? p = some l := by
  rw [get?_keep, if_pos rfl]

theorem get?_keep_of_ne (h : q ≠ p) (c : LimitCache) (l : SourcedLimits) :
    (c.keep p l).found.get? q = c.found.get? q := by
  rw [get?_keep, if_neg h]

@[simp] theorem usedFixed_empty : empty.usedFixed = false := rfl

theorem usedFixed_keep (h : c.found.get? p = none) (l : SourcedLimits) :
    (c.keep p l).usedFixed = true ↔ l.origin = .fixed ∨ c.usedFixed = true := by
  simp [usedFixed, keep, Index.values_insert h]

theorem usedFixed_of_get? (h : c.found.get? p = some l) (hl : l.origin = .fixed) :
    c.usedFixed = true := by
  obtain ⟨front, behind, he, -⟩ := List.lookup_eq_some_iff.1 h
  simp [usedFixed, Index.values, he, hl]

/-! ## One get -/

/-- What a get of a profile on a cache can exchange with the store, and what it comes to. -/
inductive Got (c : LimitCache) (p : String) :
    List Exchange → Except Fault (SourcedLimits × LimitCache) → Prop
  | found {l : SourcedLimits} (h : c.found.get? p = some l) : Got c p [] (.ok (l, c))
  | refused {cause : DatabaseFault} (h : c.found.get? p = none) :
      Got c p [⟨.limits p, .error cause⟩] (.error (.database cause))
  | generic {answer : Option Limits} (hp : p = genericProfile) (h : c.found.get? p = none) :
      Got c p [⟨.limits p, .ok answer⟩]
        (.ok (genericLimits answer, c.keep p (genericLimits answer)))
  | own {l : Limits} (hp : p ≠ genericProfile) (h : c.found.get? p = none) :
      Got c p [⟨.limits p, .ok (some l)⟩] (.ok (⟨l, .profile⟩, c.keep p ⟨l, .profile⟩))
  | standIn {l : SourcedLimits} (hp : p ≠ genericProfile) (h : c.found.get? p = none)
      (hg : c.found.get? genericProfile = some l) :
      Got c p [⟨.limits p, .ok none⟩] (.ok (l, c.keep p l))
  | genericRefused {cause : DatabaseFault} (hp : p ≠ genericProfile) (h : c.found.get? p = none)
      (hg : c.found.get? genericProfile = none) :
      Got c p [⟨.limits p, .ok none⟩, ⟨.limits genericProfile, .error cause⟩]
        (.error (.database cause))
  | genericAsked {answer : Option Limits} (hp : p ≠ genericProfile) (h : c.found.get? p = none)
      (hg : c.found.get? genericProfile = none) :
      Got c p [⟨.limits p, .ok none⟩, ⟨.limits genericProfile, .ok answer⟩]
        (.ok (genericLimits answer,
          (c.keep genericProfile (genericLimits answer)).keep p (genericLimits answer)))

theorem getGeneric_found (h : c.found.get? genericProfile = some l) :
    c.getGeneric = .done (l, c) := by
  rw [getGeneric, h]

theorem getGeneric_missing (h : c.found.get? genericProfile = none) :
    c.getGeneric = .ask (.limits genericProfile) fun answer =>
      .done (genericLimits answer, c.keep genericProfile (genericLimits answer)) := by
  rw [getGeneric, h]
  rfl

theorem get_generic (c : LimitCache) : c.get genericProfile = c.getGeneric := if_pos rfl

theorem get_found (h : c.found.get? p = some l) : c.get p = .done (l, c) := by
  rw [get]
  split
  case isTrue hp => exact getGeneric_found (hp ▸ h)
  case isFalse => rw [h]

theorem get_missing (hp : p ≠ genericProfile) (h : c.found.get? p = none) :
    c.get p = .ask (.limits p) fun
      | some l => .done (⟨l, .profile⟩, c.keep p ⟨l, .profile⟩)
      | none => c.getGeneric >>= fun x => pure (x.1, x.2.keep p x.1) := by
  rw [get, if_neg hp, h]
  exact congrArg (Action.ask _) (funext fun answer => by cases answer <;> rfl)

/-- A get does one of these, whatever the store answers. -/
theorem got_get (responder : Responder S) (s : S) (c : LimitCache) (p : String) :
    Got c p ((c.get p).exchanges responder s) ((c.get p).run responder s).result := by
  cases hc : c.found.get? p with
  | some l =>
    rw [get_found hc]
    exact .found hc
  | none =>
    by_cases hp : p = genericProfile
    · subst hp
      rw [get_generic, getGeneric_missing hc]
      cases hr : (responder.reply (.limits genericProfile) s).result with
      | error cause =>
        rw [Action.exchanges_ask_error _ hr, Action.run_ask_error _ hr]
        exact .refused hc
      | ok answer =>
        rw [Action.exchanges_ask_ok _ hr, Action.run_ask_ok _ hr]
        exact .generic rfl hc
    rw [get_missing hp hc]
    cases hr : (responder.reply (.limits p) s).result with
    | error cause =>
      rw [Action.exchanges_ask_error _ hr, Action.run_ask_error _ hr]
      exact .refused hc
    | ok answer =>
      rw [Action.exchanges_ask_ok _ hr, Action.run_ask_ok _ hr, Outcome.behind_result]
      cases answer with
      | some l => exact .own hp hc
      | none =>
        generalize (responder.reply (.limits p) s).state = s'
        cases hg : c.found.get? genericProfile with
        | some l =>
          rw [getGeneric_found hg]
          exact .standIn hp hc hg
        | none =>
          -- The second request has a fate of its own.
          rw [getGeneric_missing hg]
          change Got c p (_ :: (Action.ask _ _).exchanges responder s')
            ((Action.ask _ _).run responder s').result
          cases hr : (responder.reply (.limits genericProfile) s').result with
          | error cause =>
            rw [Action.exchanges_ask_error _ hr, Action.run_ask_error _ hr]
            exact .genericRefused hp hc hg
          | ok answer =>
            rw [Action.exchanges_ask_ok _ hr, Action.run_ask_ok _ hr]
            exact .genericAsked hp hc hg

/-! ## What one get keeps up -/

/-- Limits in the cache that are not a profile's own are the limits of the generic profile in it. -/
def Coherent (c : LimitCache) : Prop :=
  ∀ p l, c.found.get? p = some l → l.origin ≠ .profile → c.found.get? genericProfile = some l

theorem coherent_empty : Coherent empty := fun _ _ h => nomatch h

/-- So generic limits and fixed ones are not in one cache. -/
theorem Coherent.not_generic_and_fixed (hc : Coherent c) (hl : c.found.get? p = some l)
    (hm : c.found.get? q = some m) : ¬(l.origin = .generic ∧ m.origin = .fixed) := by
  rintro ⟨hgeneric, hfixed⟩
  have hgl := hc p l hl (by simp [hgeneric])
  have hgm := hc q m hm (by simp [hfixed])
  obtain rfl : l = m := Option.some.inj (hgl.symm.trans hgm)
  exact nomatch hgeneric.symm.trans hfixed

theorem Coherent.keep_own (hc : Coherent c) (hp : p ≠ genericProfile) (hl : l.origin = .profile) :
    Coherent (c.keep p l) := by
  intro q m hq hm
  rw [get?_keep] at hq
  split at hq
  · cases hq
    exact absurd hl hm
  · rw [get?_keep_of_ne hp.symm]
    exact hc q m hq hm

theorem Coherent.keep_standIn (hc : Coherent c) (hp : p ≠ genericProfile)
    (hg : c.found.get? genericProfile = some l) : Coherent (c.keep p l) := by
  intro q m hq hm
  rw [get?_keep] at hq
  rw [get?_keep_of_ne hp.symm]
  split at hq
  · cases hq
    exact hg
  · exact hc q m hq hm

theorem Coherent.keep_generic (hc : Coherent c) (hg : c.found.get? genericProfile = none)
    (l : SourcedLimits) : Coherent (c.keep genericProfile l) := by
  intro q m hq hm
  rw [get?_keep] at hq
  split at hq
  · cases hq
    exact get?_keep_self c genericProfile l
  · have hno := hc q m hq hm
    rw [hg] at hno
    cases hno

namespace Got

theorem coherent (h : Got c p xs (.ok (l, c'))) (hc : Coherent c) : Coherent c' := by
  cases h with
  | found h => exact hc
  | generic hp h =>
    subst hp
    exact hc.keep_generic h _
  | own hp h => exact hc.keep_own hp rfl
  | standIn hp h hg => exact hc.keep_standIn hp hg
  | genericAsked hp h hg => exact (hc.keep_generic hg _).keep_standIn hp (get?_keep_self c _ _)

/-- What a get answers is in the cache from then on. -/
theorem kept (h : Got c p xs (.ok (l, c'))) : c'.found.get? p = some l := by
  cases h with
  | found h => exact h
  | generic | own | standIn | genericAsked => exact get?_keep_self _ _ _

/-- What is in the cache stays there. -/
theorem grows (h : Got c p xs (.ok (l, c'))) (hq : c.found.get? q = some m) :
    c'.found.get? q = some m := by
  have hne (r : String) (hr : c.found.get? r = none) : q ≠ r := by
    rintro rfl
    rw [hr] at hq
    cases hq
  cases h with
  | found => exact hq
  | generic _ h | own _ h | standIn _ h => rwa [get?_keep_of_ne (hne p h)]
  | genericAsked _ h hg => rwa [get?_keep_of_ne (hne p h), get?_keep_of_ne (hne _ hg)]

/-- The fixed limits are used once a get has answered them. -/
theorem usedFixed_iff (h : Got c p xs (.ok (l, c'))) :
    c'.usedFixed = true ↔ l.origin = .fixed ∨ c.usedFixed = true := by
  cases h with
  | found h => exact ⟨.inr, fun hu => hu.elim (usedFixed_of_get? h) id⟩
  | generic _ h | own _ h | standIn _ h => exact usedFixed_keep h _
  | genericAsked hp h hg =>
    rw [usedFixed_keep (by rwa [get?_keep_of_ne hp]), usedFixed_keep hg, or_self_left]

/-- A get fails only if a request is refused. -/
theorem exists_refused (h : Got c p xs (.error fault)) : ∃ x ∈ xs, x.IsRefused := by
  cases h <;> simp [Exchange.IsRefused]

theorem request_eq {res : Except Fault (SourcedLimits × LimitCache)} (h : Got c p xs res) :
    ∀ x ∈ xs, ∃ q, x.request = .limits q := by
  cases h <;> simp

end Got

/-! ## A series of gets -/

/-- What a series of gets can exchange with the store, and what it comes to. -/
inductive Filled : LimitCache → List String → List Exchange → Except Fault LimitCache → Prop
  | nil {c : LimitCache} : Filled c [] [] (.ok c)
  | cut {c : LimitCache} {p : String} {ps : List String} {xs : List Exchange} {fault : Fault}
      (hg : Got c p xs (.error fault)) : Filled c (p :: ps) xs (.error fault)
  | cons {c c' : LimitCache} {p : String} {ps : List String} {l : SourcedLimits}
      {xs ys : List Exchange} {res : Except Fault LimitCache} (hg : Got c p xs (.ok (l, c')))
      (hf : Filled c' ps ys res) : Filled c (p :: ps) (xs ++ ys) res

theorem filled_getAll (responder : Responder S) (s : S) (c : LimitCache) (ps : List String) :
    Filled c ps ((c.getAll ps).exchanges responder s) ((c.getAll ps).run responder s).result := by
  induction ps generalizing c s with
  | nil => exact .nil
  | cons p ps ih =>
    rw [getAll]
    have hg := got_get responder s c p
    rcases Action.seq_cases responder s (c.get p) (fun x => x.2.getAll ps) with
      ⟨fault, hres, hrun, hxs⟩ | ⟨⟨l, c'⟩, hres, hrun, hxs⟩
    · rw [hrun, hxs]
      rw [hres] at hg
      exact .cut hg
    · rw [hrun, hxs]
      rw [hres] at hg
      exact .cons hg (ih _ c')

/-- The successful answers among exchanges are those of a table of limits. -/
def Told (xs : List Exchange) (configured : String → Option Limits) : Prop :=
  ∀ q answer, (⟨.limits q, .ok answer⟩ : Exchange) ∈ xs → configured q = answer

/-- All limits in a cache are those by a table. -/
def Agrees (configured : String → Option Limits) (c : LimitCache) : Prop :=
  ∀ p l, c.found.get? p = some l → l = limitsBy configured p

theorem agrees_empty (configured : String → Option Limits) : Agrees configured empty :=
  fun _ _ h => nomatch h

theorem Agrees.keep (hc : Agrees configured c) (hl : l = limitsBy configured p) :
    Agrees configured (c.keep p l) := by
  intro q m hq
  rw [get?_keep] at hq
  split at hq
  case isTrue he =>
    cases hq
    rw [he, hl]
  case isFalse => exact hc q m hq

theorem limitsBy_generic (configured : String → Option Limits) :
    limitsBy configured genericProfile = genericLimits (configured genericProfile) := by
  rw [limitsBy]
  cases configured genericProfile <;> simp [genericLimits]

theorem limitsBy_own {l : Limits} (hp : p ≠ genericProfile) (h : configured p = some l) :
    limitsBy configured p = ⟨l, .profile⟩ := by
  rw [limitsBy, h]
  simp [hp]

theorem limitsBy_standIn (h : configured p = none) :
    limitsBy configured p = limitsBy configured genericProfile := by
  rw [limitsBy_generic, limitsBy, h]

/-- The fixed limits are used only where the generic profile has none. -/
theorem generic_of_origin_fixed (h : (limitsBy configured p).origin = .fixed) :
    configured genericProfile = none := by
  rw [limitsBy] at h
  split at h
  · split at h <;> cases h
  · cases hg : configured genericProfile with
    | none => rfl
    | some l =>
      rw [hg] at h
      cases h

/-- Generic limits are those of the generic profile. -/
theorem generic_of_origin_generic (h : (limitsBy configured p).origin = .generic) :
    configured genericProfile ≠ none := by
  intro hg
  rw [limitsBy] at h
  split at h
  case h_1 l hl =>
    split at h
    case isTrue hp =>
      rw [hp, hg] at hl
      cases hl
    case isFalse => cases h
  case h_2 =>
    rw [hg] at h
    cases h

theorem Got.agrees (h : Got c p xs (.ok (l, c'))) (ht : Told xs configured)
    (hc : Agrees configured c) : Agrees configured c' := by
  cases h with
  | found => exact hc
  | @generic answer hp h =>
    have hanswer := ht p answer (by simp)
    refine hc.keep ?_
    rw [hp, limitsBy_generic, ← hp, hanswer]
  | @own l hp h => exact hc.keep (limitsBy_own hp (ht p (some l) (by simp))).symm
  | standIn hp h hg =>
    refine hc.keep ?_
    rw [limitsBy_standIn (ht p none (by simp))]
    exact hc _ _ hg
  | @genericAsked answer hp h hg =>
    have hgeneric : genericLimits answer = limitsBy configured genericProfile := by
      rw [limitsBy_generic, ht genericProfile answer (by simp)]
    refine (hc.keep hgeneric).keep ?_
    rw [limitsBy_standIn (ht p none (by simp)), hgeneric]

theorem Told.mono {ys : List Exchange} (h : Told xs configured) (hs : ys ⊆ xs) :
    Told ys configured :=
  fun q answer hmem => h q answer (hs hmem)

namespace Filled

/-- What every get keeps up, a series of gets keeps up. -/
theorem keeps {P : LimitCache → Prop} (h : Filled c ps xs (.ok c'))
    (hstep : ∀ {c p ys l c'}, Got c p ys (.ok (l, c')) → ys ⊆ xs → P c → P c') (hc : P c) :
    P c' := by
  induction ps generalizing c xs with
  | nil =>
    cases h
    exact hc
  | cons p ps ih =>
    cases h with
    | cons hg hf =>
      exact ih hf (fun hg' hs => hstep hg' (List.subset_append_of_subset_right _ hs))
        (hstep hg (List.subset_append_left _ _) hc)

theorem grows (h : Filled c ps xs (.ok c')) (hq : c.found.get? q = some m) :
    c'.found.get? q = some m :=
  h.keeps (P := fun c => c.found.get? q = some m) (fun hg _ => hg.grows) hq

theorem agrees (h : Filled c ps xs (.ok c')) (ht : Told xs configured)
    (hc : Agrees configured c) : Agrees configured c' :=
  h.keeps (fun hg hs => hg.agrees (ht.mono hs)) hc

theorem exists_get? (h : Filled c ps xs (.ok c')) (hp : p ∈ ps) :
    ∃ l, c'.found.get? p = some l := by
  induction ps generalizing c xs with
  | nil => cases hp
  | cons q ps ih =>
    cases h with
    | cons hg hf =>
      rcases List.mem_cons.1 hp with rfl | hp
      · exact ⟨_, hf.grows hg.kept⟩
      · exact ih hf hp

/-- Behind a series of gets the cache holds the limits of each profile, by what the store has. -/
theorem get?_eq (h : Filled c ps xs (.ok c')) (ht : Told xs configured)
    (hc : Agrees configured c) (hp : p ∈ ps) :
    c'.found.get? p = some (limitsBy configured p) := by
  obtain ⟨l, hl⟩ := h.exists_get? hp
  rw [hl, h.agrees ht hc p l hl]

theorem usedFixed_iff (h : Filled c ps xs (.ok c')) (ht : Told xs configured)
    (hc : Agrees configured c) : c'.usedFixed = true ↔
      c.usedFixed = true ∨ ∃ p ∈ ps, (limitsBy configured p).origin = .fixed := by
  induction ps generalizing c xs with
  | nil =>
    cases h
    simp
  | cons p ps ih =>
    cases h with
    | @cons _ c₁ _ _ l ys zs _ hg hf =>
      have hc₁ : Agrees configured c₁ := hg.agrees (ht.mono (List.subset_append_left _ _)) hc
      have hl : l = limitsBy configured p := hc₁ p l hg.kept
      rw [ih hf (ht.mono (List.subset_append_right _ _)) hc₁, hg.usedFixed_iff, hl, or_assoc,
        or_left_comm]
      simp only [List.mem_cons, exists_eq_or_imp]

theorem exists_refused (h : Filled c ps xs (.error fault)) : ∃ x ∈ xs, x.IsRefused := by
  induction ps generalizing c xs with
  | nil => cases h
  | cons p ps ih =>
    cases h with
    | cut hg => exact hg.exists_refused
    | cons hg hf =>
      obtain ⟨x, hx, hr⟩ := ih hf
      exact ⟨x, List.mem_append_right _ hx, hr⟩

theorem request_eq {res : Except Fault LimitCache} (h : Filled c ps xs res) :
    ∀ x ∈ xs, ∃ q, x.request = .limits q := by
  induction h with
  | nil => simp
  | cut hg => exact hg.request_eq
  | cons hg hf ih =>
    intro x hx
    exact (List.mem_append.1 hx).elim (hg.request_eq x) (ih x)

end Filled

end LimitCache

end PriceSurvey
