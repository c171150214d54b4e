import PriceSurvey.Proofs.Offer.Independence

/-!
# When the fixed limits are used

The fixed limits are there for a store in which no profile is configured. A batch takes them as soon
as the generic profile is missing and one of its own profiles is missing too, whatever else is
configured, and then every offer of the batch is told that nothing is configured.

Results:
* `origin_limitsBy_eq_fixed_iff`: which profiles have to make do with the fixed limits.
* `ofOffers_fixed_iff`: when a batch judges by them, and when it says so.
* `ofOffers_fixed_beside_profile`: a batch that does, on a store with a profile.
-/
namespace PriceSurvey

open LimitCache

variable {S : Type} {responder : Responder S} {Stays : S → Prop}
  {configured : String → Option Limits} {s : S}

/-- Tables in memory have one table of limits, whichever requests fail. -/
theorem Memory.isConfigured (m : Memory) :
    IsConfigured m.limits.get? Memory.responder m.Keeps where
  limits := by
    intro profile m' answer hm h
    cases hf : m'.failing .limits with
    | some cause =>
      rw [reply_failing (r := .limits profile) hf] at h
      cases h
    | none =>
      rw [reply_answered (r := .limits profile) hf] at h
      obtain ⟨evidence, rfl⟩ := hm
      exact Except.ok.inj h
  stays := fun _ _ hm => hm.reply

/-- Just those profiles have the fixed limits that are not configured, where the generic one is not
configured either. -/
theorem LimitCache.origin_limitsBy_eq_fixed_iff {profile : String} :
    (limitsBy configured profile).origin = .fixed ↔
      configured genericProfile = none ∧ configured profile = none := by
  constructor
  · intro h
    have hgeneric := generic_of_origin_fixed h
    refine ⟨hgeneric, ?_⟩
    cases hp : configured profile with
    | none => rfl
    | some l =>
      have hne : profile ≠ genericProfile := by
        rintro rfl
        exact nomatch hgeneric.symm.trans hp
      rw [limitsBy_own hne hp] at h
      cases h
  · rintro ⟨hgeneric, hp⟩
    rw [limitsBy_standIn hp, limitsBy_generic, hgeneric]
    rfl

namespace Assessment

open Yardstick

variable {offers : List Offer} {resolver : Resolver} {as : List Assessment}

/-- On a store whose limits stay the same, a batch that succeeds judges each offer by the limits of
its profile. Those are the fixed ones exactly if neither this profile nor the generic one is
configured, and the note on them stands on every offer of the batch exactly if some offer of it is
judged by them. -/
theorem ofOffers_fixed_iff (h : IsConfigured configured responder Stays) (hs : Stays s)
    (hrun : ((ofOffers resolver offers).run responder s).result = .ok as) :
    ∃ (y : Yardstick) (results : List Resolution), as = List.zipWith y.assess offers results ∧
      (∀ o ∈ offers, y.limitsOf o.profile = limitsBy configured o.profile ∧
        ((y.limitsOf o.profile).origin = .fixed ↔
          configured genericProfile = none ∧ configured o.profile = none)) ∧
      ∀ a ∈ as, fixedNote ∈ a.notes ↔
        configured genericProfile = none ∧ ∃ o ∈ offers, configured o.profile = none := by
  rcases ofOffers_cases resolver offers responder s with
    ⟨-, hr⟩ | ⟨-, fault, hr⟩ | ⟨-, fault, hr⟩ | ⟨results, xs, ys, hasked, hj⟩
  · -- Without an assessment any yardstick with the right limits will do.
    rw [hr] at hrun
    cases hrun
    refine ⟨ofTables [] configured offers, [], (List.zipWith_nil_right ..).symm, fun o ho => ?_,
      by simp⟩
    rw [limitsOf_ofTables ho]
    exact ⟨rfl, origin_limitsBy_eq_fixed_iff⟩
  · exact nomatch hr.symm.trans hrun
  · exact nomatch hr.symm.trans hrun
  · rw [hrun] at hj
    cases hj with
    | done hp hl =>
      have hys : ys ⊆ (ofOffers resolver offers).exchanges responder s := by
        rw [hasked]
        exact fun x hx => List.mem_append_right _ (List.mem_append_right _ hx)
      have ht : Told ys configured := h.told hs hys
      refine ⟨_, results, rfl, fun o ho => ?_, fun a ha => ?_⟩
      · rw [limitsOf_eq hl ht ho]
        exact ⟨rfl, origin_limitsBy_eq_fixed_iff⟩
      · obtain ⟨k, hk⟩ := List.mem_iff_getElem?.1 ha
        obtain ⟨o, r, -, -, rfl⟩ := List.getElem?_zipWith_eq_some.1 hk
        rw [fixedNote_mem_assess, Assessment.usedFixed_iff hl ht]
        simp only [origin_limitsBy_eq_fixed_iff]
        exact ⟨fun ⟨x, hx, hg, hn⟩ => ⟨hg, x, hx, hn⟩, fun ⟨hg, x, hx, hn⟩ => ⟨x, hx, hg, hn⟩⟩

/-- A store with limits for one profile and none for the generic one. -/
def sawmill : Memory where
  entries := [⟨"Madrier", "madrier", "X1"⟩]
  prices := [⟨"X1", ⟨100, 0⟩⟩]
  limits := .ofPairs [("TRAVAUX", ⟨⟨110, 2⟩, ⟨130, 2⟩⟩)]

/-- An offer within the limits of the profile that is configured. -/
def timber : Offer := { name := "Madrier", unitPrice := ⟨108, 0⟩, profile := "TRAVAUX" }

/-- An offer under a profile that is not configured. -/
def unknownWare (profile : String) : Offer := { name := "Latte", unitPrice := ⟨1, 0⟩, profile }

/-- Together with it the first offer is told that no profile is configured. -/
theorem ofOffers_fixed_iff_sawmill :
    IsConfigured sawmill.limits.get? Memory.responder sawmill.Keeps ∧ sawmill.Keeps sawmill ∧
      ∃ as y results, ((ofOffers Resolution.ofNames [timber, unknownWare "MEUBLES"]).run
          Memory.responder sawmill).result = .ok as ∧
        as = List.zipWith (Yardstick.assess y) [timber, unknownWare "MEUBLES"] results ∧
        (y.limitsOf "TRAVAUX").origin ≠ .fixed ∧ (y.limitsOf "MEUBLES").origin = .fixed ∧
        ∀ a ∈ as, fixedNote ∈ a.notes := by
  have hconfigured := sawmill.isConfigured
  have hkeeps : sawmill.Keeps sawmill := ⟨_, rfl⟩
  have hsucceeds : ((ofOffers Resolution.ofNames [timber, unknownWare "MEUBLES"]).run
      Memory.responder sawmill).result.toBool = true := by decide +kernel
  cases hrun : ((ofOffers Resolution.ofNames [timber, unknownWare "MEUBLES"]).run
      Memory.responder sawmill).result with
  | error fault =>
    rw [hrun] at hsucceeds
    cases hsucceeds
  | ok as =>
    obtain ⟨y, results, has, hlimits, hnotes⟩ := ofOffers_fixed_iff hconfigured hkeeps hrun
    have hown := (hlimits timber (by simp)).2
    have hfixed := (hlimits (unknownWare "MEUBLES") (by simp)).2
    refine ⟨hconfigured, hkeeps, as, y, results, rfl, has, fun h => ?_,
      hfixed.2 (by decide +kernel), fun a ha => (hnotes a ha).2 (by decide +kernel)⟩
    exact absurd (hown.1 h) (by decide +kernel)

/-- A batch on a store with a profile: the offer under that profile is within its limits, and like
the other one it is told that no profile is configured. -/
theorem ofOffers_fixed_beside_profile :
    sawmill.limits.get? "TRAVAUX" ≠ none ∧ (∀ o ∈ [timber, unknownWare "MEUBLES"], o.IsValid) ∧
      ((ofOffers Resolution.ofNames [timber, unknownWare "MEUBLES"]).run Memory.responder
          sawmill).result.map (fun as => as.map fun a => (a.verdict, a.notes)) =
        .ok [(.within, [fixedNote]), (.noReference, [fixedNote, Standing.unresolvedNote])] := by
  refine ⟨by decide +kernel, by decide, by decide +kernel⟩

end Assessment

end PriceSurvey
