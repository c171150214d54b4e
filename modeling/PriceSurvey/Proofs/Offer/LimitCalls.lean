import Mathlib.Data.List.Nodup
import PriceSurvey.Proofs.Offer.Limits

/-!
# Which limits are asked for

A cache asks for no profile twice. For different profiles the order of the requests is known, as far
as the store answers them: that of the profiles, but for the generic one, which is asked for as soon
as a profile has no limits of its own.

Results:
* `Filled.nodup`: no profile is asked for twice.
* `Filled.asksUpTo`: the requests of a series of gets, up to the one that is refused.
* `told_answeredLimits`: so what the store has on a profile can be read off the exchanges.
-/
namespace PriceSurvey

namespace LimitCache

variable {c c' : LimitCache} {p q : String} {l : SourcedLimits} {ps : List String}
  {xs ys : List Exchange} {configured : String → Option Limits}

/-! ## No profile twice -/

namespace Got

variable {res : Except Fault (SourcedLimits × LimitCache)}

/-- What is asked for is not in the cache. -/
theorem get?_eq_none (h : Got c p xs res) (hq : .limits q ∈ xs.map (·.request)) :
    c.found.get? q = none := by
  cases h with
  | found => simp at hq
  | refused h | generic _ h | own _ h | standIn _ h =>
    obtain rfl : q = p := by simpa using hq
    exact h
  | genericRefused _ h hg | genericAsked _ h hg =>
    obtain rfl | rfl : q = p ∨ q = genericProfile := by simpa using hq
    · exact h
    · exact hg

/-- What was asked for and answered is in the cache. -/
theorem get?_ne_none (h : Got c p xs (.ok (l, c'))) (hq : .limits q ∈ xs.map (·.request)) :
    c'.found.get? q ≠ none := by
  cases h with
  | found => simp at hq
  | generic | own | standIn =>
    obtain rfl : q = p := by simpa using hq
    simp
  | genericAsked hp =>
    obtain rfl | rfl : q = p ∨ q = genericProfile := by simpa using hq
    · simp
    · rw [get?_keep_of_ne hp.symm]
      simp

theorem nodup (h : Got c p xs res) : (xs.map (·.request)).Nodup := by
  cases h with
  | found | refused | generic | own | standIn => simp
  | genericRefused hp | genericAsked hp => simpa using hp

end Got

namespace Filled

variable {res : Except Fault LimitCache}

theorem get?_eq_none (h : Filled c ps xs res) (hq : .limits q ∈ xs.map (·.request)) :
    c.found.get? q = none := by
  induction h with
  | nil => simp at hq
  | cut hg => exact hg.get?_eq_none hq
  | cons hg hf ih =>
    rw [List.map_append, List.mem_append] at hq
    rcases hq with hq | hq
    · exact hg.get?_eq_none hq
    · -- The cache has only grown by the get in between.
      rw [Option.eq_none_iff_forall_ne_some]
      intro m hm
      have hnone := ih hq
      rw [hg.grows hm] at hnone
      cases hnone

theorem nodup (h : Filled c ps xs res) : (xs.map (·.request)).Nodup := by
  induction h with
  | nil => simp
  | cut hg => exact hg.nodup
  | cons hg hf ih =>
    rw [List.map_append, List.nodup_append]
    refine ⟨hg.nodup, ih, ?_⟩
    rintro r hr _ hr' rfl
    obtain ⟨x, hx, rfl⟩ := List.mem_map.1 hr
    obtain ⟨q, hq⟩ := hg.request_eq x hx
    rw [hq] at hr hr'
    exact hg.get?_ne_none hr (hf.get?_eq_none hr')

end Filled

/-! ## Reading the answers -/

/-- What an exchange says of the limits of a profile. -/
def limitsOf? (p : String) : Exchange → Option Limits
  | ⟨.limits q, .ok answer⟩ => if q = p then answer else none
  | _ => none

/-- The limits that a profile was answered with. -/
def answeredLimits (xs : List Exchange) (p : String) : Option Limits :=
  xs.findSome? (limitsOf? p)

theorem limitsOf?_answer (p : String) (answer : Option Limits) :
    limitsOf? p ⟨.limits p, .ok answer⟩ = answer := by
  simp [limitsOf?]

theorem request_of_limitsOf? {x : Exchange} {l : Limits} (h : limitsOf? p x = some l) :
    x.request = .limits p := by
  unfold limitsOf? at h
  split at h
  · split at h
    · next he => rw [he]
    · cases h
  · cases h

theorem told_answeredLimits (h : (xs.map (·.request)).Nodup) : Told xs (answeredLimits xs) := by
  intro q answer hmem
  cases he : answeredLimits xs q with
  | none =>
    have hnone := List.findSome?_eq_none_iff.1 he _ hmem
    rwa [limitsOf?_answer, eq_comm] at hnone
  | some l =>
    obtain ⟨x, hx, hl⟩ := List.exists_of_findSome?_eq_some he
    have hsame := List.inj_on_of_nodup_map h hx hmem (request_of_limitsOf? hl)
    rw [hsame, limitsOf?_answer] at hl
    exact hl.symm

/-! ## The order of the requests -/

/-- Different profiles in the order in which they are asked for. Behind the first profile that has
no limits the generic one is asked for, unless that came before, and it is not asked for again. -/
def askedOrder (configured : String → Option Limits) : List String → List String
  | [] => []
  | p :: ps =>
    if p = genericProfile then p :: ps
    else if (configured p).isSome then p :: askedOrder configured ps
    else p :: genericProfile :: ps.filter (· ≠ genericProfile)

/-- Exchanges of requests for the limits of profiles, one after the other: of all of them if there
is a result, and else of the first ones. -/
structure AsksUpTo (xs : List Exchange) (res : Except Fault LimitCache) (ps : List String) :
    Prop where
  upTo : xs.map (·.request) <+: ps.map .limits
  complete : ∀ c, res = .ok c → xs.map (·.request) = ps.map .limits

theorem AsksUpTo.nil (res : Except Fault LimitCache) : AsksUpTo [] res [] := ⟨by simp, by simp⟩

theorem AsksUpTo.cut (fault : Fault) (p : String) (ps : List String)
    (result : Except DatabaseFault (Option Limits)) :
    AsksUpTo [⟨.limits p, result⟩] (.error fault) (p :: ps) :=
  ⟨by simp, by simp⟩

theorem AsksUpTo.cons {res : Except Fault LimitCache} (h : AsksUpTo xs res ps) (p : String)
    (result : Except DatabaseFault (Option Limits)) :
    AsksUpTo (⟨.limits p, result⟩ :: xs) res (p :: ps) where
  upTo := List.prefix_cons_inj _ |>.2 h.upTo
  complete c hc := by rw [List.map_cons, List.map_cons, h.complete c hc]

namespace Filled

variable {res : Except Fault LimitCache}

/-- Once the generic profile is in the cache, each other profile is asked for in its turn. -/
theorem asksUpTo_others (h : Filled c ps xs res) (hg : c.found.get? genericProfile = some l)
    (hnew : ∀ p ∈ ps, p ≠ genericProfile → c.found.get? p = none) (hn : ps.Nodup) :
    AsksUpTo xs res (ps.filter (· ≠ genericProfile)) := by
  induction h with
  | nil => exact .nil _
  | @cut c p ps xs fault hgot =>
    cases hgot with
    | refused h =>
      have hp : p ≠ genericProfile := by
        rintro rfl
        exact nomatch hg.symm.trans h
      rw [List.filter_cons_of_pos (by simpa using hp)]
      exact .cut _ _ _ _
    | genericRefused _ _ hno => exact nomatch hg.symm.trans hno
  | @cons c c' p ps _ xs ys res hgot hf ih =>
    obtain ⟨hpn, hps⟩ := List.nodup_cons.1 hn
    have hrest : ∀ q ∈ ps, q ≠ genericProfile → c.found.get? q = none := fun q hq =>
      hnew q (List.mem_cons_of_mem _ hq)
    cases hgot with
    | found h =>
      have hp : p = genericProfile := by
        by_contra hp
        exact nomatch h.symm.trans (hnew p List.mem_cons_self hp)
      rw [List.filter_cons_of_neg (by simpa using hp)]
      exact ih hg hrest hps
    | generic hp h =>
      rw [hp, hg] at h
      cases h
    | own hp | standIn hp =>
      rw [List.filter_cons_of_pos (by simpa using hp)]
      refine (ih ?_ (fun q hq hqg => ?_) hps).cons p _
      · rwa [get?_keep_of_ne hp.symm]
      · rw [get?_keep_of_ne (ne_of_mem_of_not_mem hq hpn)]
        exact hrest q hq hqg
    | genericAsked _ _ hno => exact nomatch hg.symm.trans hno

/-- Different profiles are asked for in their order, with the generic one behind the first of them
that has no limits. -/
theorem asksUpTo (h : Filled c ps xs res) (ht : Told xs configured)
    (hg : c.found.get? genericProfile = none) (hnew : ∀ p ∈ ps, c.found.get? p = none)
    (hn : ps.Nodup) : AsksUpTo xs res (askedOrder configured ps) := by
  induction h with
  | nil => exact .nil _
  | @cut c p ps xs fault hgot =>
    rw [askedOrder]
    cases hgot with
    | refused =>
      split_ifs <;> exact .cut _ _ _ _
    | genericRefused hp =>
      have hnone := ht p none (by simp)
      rw [if_neg hp, if_neg (by simp [hnone])]
      exact .cons (.cut _ _ _ _) p _
  | @cons c c' p ps _ xs ys res hgot hf ih =>
    obtain ⟨hpn, hps⟩ := List.nodup_cons.1 hn
    have hrest : ∀ q ∈ ps, c.found.get? q = none := fun q hq => hnew q (List.mem_cons_of_mem _ hq)
    have hstill (l : SourcedLimits) : ∀ q ∈ ps, (c.keep p l).found.get? q = none := by
      intro q hq
      rw [get?_keep_of_ne (ne_of_mem_of_not_mem hq hpn)]
      exact hrest q hq
    rw [askedOrder]
    cases hgot with
    | found h => exact nomatch h.symm.trans (hnew p List.mem_cons_self)
    | generic hp h =>
      -- The generic profile comes in its own turn, so the others are the rest.
      subst hp
      have hothers : ps.filter (· ≠ genericProfile) = ps := by
        rw [List.filter_eq_self]
        intro q hq
        simpa using ne_of_mem_of_not_mem hq hpn
      have hrun := hf.asksUpTo_others (get?_keep_self _ _ _) (fun q hq _ => hstill _ q hq) hps
      rw [hothers] at hrun
      rw [if_pos rfl]
      exact hrun.cons _ _
    | @own l hp =>
      have hsome := ht p (some l) (by simp)
      rw [if_neg hp, if_pos (by simp [hsome])]
      refine (ih (ht.mono (List.subset_append_right _ _)) ?_ (hstill _) hps).cons p _
      rwa [get?_keep_of_ne (Ne.symm hp)]
    | standIn _ _ hno => exact nomatch hg.symm.trans hno
    | @genericAsked answer hp =>
      have hnone := ht p none (by simp)
      rw [if_neg hp, if_neg (by simp [hnone])]
      refine .cons (.cons (hf.asksUpTo_others (l := genericLimits answer) ?_ ?_ hps) _ _) p _
      · rw [get?_keep_of_ne hp.symm, get?_keep_self]
      · intro q hq hqg
        rw [get?_keep_of_ne (ne_of_mem_of_not_mem hq hpn), get?_keep_of_ne hqg]
        exact hrest q hq

end Filled

end LimitCache

end PriceSurvey
