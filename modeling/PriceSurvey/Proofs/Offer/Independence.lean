import PriceSurvey.Proofs.Alias.Independence
import PriceSurvey.Proofs.Offer.Assessed

/-!
# Offers assessed together and alone

A batch asks for the items and the profiles of all its offers, and in another order than each offer
would by itself. A store that does not change tells it the same about each of them, so an offer has
the assessment that it has alone. Only the note on the fixed limits comes from the whole batch.

Results:
* `result_ofOffers`, `result_ofOffer`: what a batch and an offer come to, by the tables of a store.
* `assess_congr`: what an assessment takes from a yardstick.
* `ofOffers_eq_ofOffer`: a batch, by what each of its offers comes to alone.
-/
namespace PriceSurvey

open LimitCache

variable {S : Type} {responder : Responder S} {Stays : S → Prop} {rows : List ReferencePrice}
  {configured : String → Option Limits} {s : S}

/-- In the states of `Stays` a request for limits is answered from one table, if it is answered. -/
structure IsConfigured (configured : String → Option Limits) (responder : Responder S)
    (Stays : S → Prop) : Prop where
  limits : ∀ profile s answer, Stays s →
    (responder.reply (.limits profile) s).result = .ok answer → configured profile = answer
  stays : ∀ r s, Stays s → Stays (responder.reply r s).state

/-- A store that neither fails nor changes in the states of `Stays`, as far as prices and limits are
asked for: it answers from a table of prices, in the order of that, and from one of limits. -/
structure Steady (rows : List ReferencePrice) (configured : String → Option Limits)
    (responder : Responder S) (Stays : S → Prop) : Prop where
  prices : ∀ items s, Stays s → (responder.reply (.prices items) s).result =
    .ok (rows.filter fun p => p.item ∈ items)
  limits : ∀ profile s, Stays s →
    (responder.reply (.limits profile) s).result = .ok (configured profile)
  stays : ∀ r s, Stays s → Stays (responder.reply r s).state

/-- `m'` is `m` but for the evidence. -/
def Memory.Keeps (m m' : Memory) : Prop := ∃ evidence, m' = { m with evidence }

/-- A request changes nothing in tables in memory but the evidence, whether it fails or not. -/
theorem Memory.Keeps.reply {m m' : Memory} (h : m.Keeps m') {r : Request} :
    m.Keeps (Memory.responder.reply r m').state := by
  cases hf : m'.failing r.kind with
  | some cause =>
    rw [reply_failing hf]
    exact h
  | none =>
    rw [reply_answered hf]
    obtain ⟨evidence, rfl⟩ := h
    cases r <;> simp [Keeps, answer]

/-- Tables in memory are steady: a request changes nothing in them but the evidence. -/
theorem Memory.steady {m : Memory} (hl : m.loose = false) (hf : ∀ k, m.failing k = none) :
    Steady m.prices m.limits.get? Memory.responder m.Keeps where
  prices := by
    rintro items _ ⟨evidence, rfl⟩
    simp [Memory.responder, hf, Memory.answer, Memory.pricesFor, hl]
  limits := by
    rintro profile _ ⟨evidence, rfl⟩
    simp [Memory.responder, hf, Memory.answer]
  stays := fun _ _ hm => hm.reply

/-- From tables in memory whose entries have keys, names are resolved one by one. -/
theorem Memory.Keeps.result_ofNames {m m' : Memory} (h : m.Keeps m') (hl : m.loose = false)
    (hf : m.failing .entries = none) (hkeys : ∀ e ∈ m.entries, e.key ≠ "") (names : List String) :
    ((Resolution.ofNames names).run Memory.responder m').result =
      .ok (names.map (Resolution.alone m.entries)) := by
  obtain ⟨evidence, rfl⟩ := h
  have hanswers : AnswersFrom m.entries Memory.responder { m with evidence } :=
    Memory.answersFrom hl hf
  exact Resolution.result_ofNames_keyed hkeys hanswers names

/-! ## What a steady store tells -/

theorem IsConfigured.told (h : IsConfigured configured responder Stays) (hs : Stays s)
    {a : Action α} {xs : List Exchange} (hxs : xs ⊆ a.exchanges responder s) :
    Told xs configured := by
  intro profile answer hmem
  obtain ⟨s', hs', hresult⟩ := Action.exists_reply responder s h.stays a hs (hxs hmem)
  exact h.limits profile s' answer hs' hresult.symm

namespace Steady

variable (h : Steady rows configured responder Stays) {a : Action α} {xs : List Exchange}

include h

theorem isConfigured : IsConfigured configured responder Stays where
  limits := fun profile s _ hs hr => Except.ok.inj ((h.limits profile s hs).symm.trans hr)
  stays := h.stays

theorem rows_eq (hs : Stays s) {items : List String} {answer : List ReferencePrice}
    (hmem : ⟨.prices items, .ok answer⟩ ∈ a.exchanges responder s) :
    answer = rows.filter fun p => p.item ∈ items := by
  obtain ⟨s', hs', hresult⟩ := Action.exists_reply responder s h.stays a hs hmem
  exact Except.ok.inj (hresult.trans (h.prices items s' hs'))

theorem not_isRefused (hs : Stays s) {x : Exchange} (hx : x ∈ a.exchanges responder s)
    (hr : (∃ items, x.request = .prices items) ∨ ∃ profile, x.request = .limits profile) :
    ¬x.IsRefused := by
  rintro ⟨cause, hcause⟩
  obtain ⟨s', hs', hresult⟩ := Action.exists_reply responder s h.stays a hs hx
  rw [hcause] at hresult
  obtain ⟨request, result⟩ := x
  rcases hr with ⟨items, rfl⟩ | ⟨profile, rfl⟩
  · exact nomatch hresult.trans (h.prices items s' hs')
  · exact nomatch hresult.trans (h.limits profile s' hs')

end Steady

/-! ## The yardstick of a steady store -/

namespace Yardstick

/-- The yardstick of a batch by tables of prices and limits. It has the prices of all items. -/
def ofTables (rows : List ReferencePrice) (configured : String → Option Limits)
    (offers : List Offer) : Yardstick where
  prices := .ofPairs (rows.map fun p => (p.item, p.price))
  limits := .ofPairs (offers.map fun o => (o.profile, limitsBy configured o.profile))
  usedFixed := decide (∃ o ∈ offers, (limitsBy configured o.profile).origin = .fixed)

variable {offers : List Offer} {o : Offer}

theorem get?_prices_ofTables (item : String) :
    (ofTables rows configured offers).prices.get? item = Assessment.lastPrice? rows item :=
  Index.get?_ofPairs_map _ _ rows item

theorem limitsOf_ofTables (ho : o ∈ offers) :
    (ofTables rows configured offers).limitsOf o.profile = limitsBy configured o.profile := by
  rw [limitsOf, ofTables, Index.get?_ofPairs_map]
  have hmem : o ∈ offers.filter fun x => x.profile = o.profile := List.mem_filter.2 ⟨ho, by simp⟩
  obtain ⟨x, hx⟩ : ∃ x, (offers.filter fun x => x.profile = o.profile).getLast? = some x :=
    ⟨_, List.getLast?_eq_some_getLast (List.ne_nil_of_mem hmem)⟩
  have hprofile : x.profile = o.profile := by
    simpa using (List.mem_filter.1 (List.mem_of_getLast? hx)).2
  rw [hx, Option.map_some, Option.getD_some, hprofile]

/-! ## What an assessment takes from a yardstick -/

/-- Notes behind the one on the fixed limits, if that is given. -/
def ledBy (noted : Prop) [Decidable noted] (notes : List String) : List String :=
  if noted then fixedNote :: notes else notes

theorem ledBy_congr {p q : Prop} [Decidable p] [Decidable q] (h : p ↔ q) (notes : List String) :
    ledBy p notes = ledBy q notes := by
  simp only [ledBy, h]

/-- The notes on an offer that come from its own limits and its own standing. -/
def ownNotes (y : Yardstick) (o : Offer) (r : Resolution) : List String :=
  (if (y.limitsOf o.profile).origin = .generic ∧ o.profile ≠ genericProfile then
    [genericNote o.profile] else []) ++
  (Standing.ofTotal o.total r.item (r.item.bind y.prices.get?) (y.limitsOf o.profile).limits).notes

variable (y : Yardstick) (r : Resolution)

theorem notes_assess : (y.assess o r).notes = ledBy (y.usedFixed = true) (y.ownNotes o r) := by
  rw [ledBy, ownNotes, assess, limitNotes, List.append_assoc]
  cases y.usedFixed <;> rfl

theorem fixedNote_notMem_ownNotes (o : Offer) : fixedNote ∉ y.ownNotes o r := by
  have hgeneric := Standing.fixedNote_ne_genericNote o.profile
  have hreason := (Standing.isJudged_ofTotal o.total r.item (r.item.bind y.prices.get?)
    (y.limitsOf o.profile).limits).fixedNote_notMem
  rw [ownNotes, List.mem_append]
  split_ifs <;> simp_all

theorem fixedNote_mem_assess : fixedNote ∈ (y.assess o r).notes ↔ y.usedFixed = true := by
  have hown := fixedNote_notMem_ownNotes y r o
  rw [notes_assess, ledBy]
  split_ifs <;> simp_all

/-- Yardsticks with one price and one pair of limits for an offer differ in one note on it. -/
theorem assess_congr {y y' : Yardstick}
    (hprice : r.item.bind y.prices.get? = r.item.bind y'.prices.get?)
    (hlimits : y.limitsOf o.profile = y'.limitsOf o.profile) :
    y'.assess o r =
      { y.assess o r with notes := ledBy (y'.usedFixed = true) (y.ownNotes o r) } := by
  have hown : y.ownNotes o r = y'.ownNotes o r := by
    rw [ownNotes, ownNotes, hprice, hlimits]
  rw [hown, ← notes_assess]
  simp only [assess, hprice, hlimits]

end Yardstick

/-! ## A batch and its offers -/

namespace Assessment

open Yardstick

variable {offers : List Offer} {o : Offer} {results : List Resolution} {r : Resolution}
  {xs : List Exchange} {prices : Index Decimal} {resolver : Resolver}
  {resolve : String → Resolution}

/-- The rows of the items that are asked for have the last row of each of them. -/
theorem lastPrice?_filter {items : List String} {item : String} (h : item ∈ items)
    (rows : List ReferencePrice) :
    lastPrice? (rows.filter fun p => p.item ∈ items) item = lastPrice? rows item := by
  rw [lastPrice?, List.filter_filter, lastPrice?]
  congr 2
  refine List.filter_congr fun p _ => ?_
  by_cases hp : p.item = item <;> simp [hp, h]

theorem mem_itemsOf {item : String} :
    item ∈ itemsOf results ↔ ∃ r ∈ results, r.item = some item := by
  rw [itemsOf, List.mem_eraseDups, List.mem_filterMap]

/-- A steady store tells the price of an item, whatever other items are asked for with it. -/
theorem Priced.get?_steady (hp : Priced results xs (.ok prices))
    (h : Steady rows configured responder Stays) (hs : Stays s) {a : Action α}
    (hxs : xs ⊆ a.exchanges responder s) (hr : r ∈ results) :
    r.item.bind prices.get? = r.item.bind (lastPrice? rows) := by
  cases hi : r.item with
  | none => rfl
  | some item =>
    -- The item is among those asked for, so the answer has all its rows.
    have hmem : item ∈ itemsOf results := mem_itemsOf.2 ⟨r, hr, hi⟩
    rw [Option.bind_some, Option.bind_some, hp.get?_eq]
    cases hp with
    | none hnone =>
      rw [hnone] at hmem
      cases hmem
    | answered =>
      rw [List.flatMap_singleton, pricesOf, h.rows_eq hs (hxs (List.mem_singleton.2 rfl)),
        lastPrice?_filter hmem]

/-- With a steady store behind it, a batch of valid offers is assessed by the tables of that. -/
theorem result_ofOffers (h : Steady rows configured responder Stays)
    (hvalid : ∀ o ∈ offers, o.IsValid) (hs : Stays s)
    (hresolved : ((resolver (offers.map (·.name))).run responder s).result =
      .ok ((offers.map (·.name)).map resolve)) :
    ((ofOffers resolver offers).run responder s).result =
      .ok (offers.map fun o => (ofTables rows configured offers).assess o (resolve o.name)) := by
  by_cases hne : offers = []
  · subst hne
    rfl
  rw [ofOffers_valid resolver hne hvalid]
  obtain ⟨xs, ys, hasked, hj⟩ := judged_ofValid hresolved
  have hsub : xs ++ ys ⊆ (ofValid resolver offers).exchanges responder s := by
    rw [hasked]
    exact List.subset_append_right _ _
  obtain ⟨hxs, hys⟩ := List.append_subset.1 hsub
  obtain ⟨prices, cache, hp, hl, hok⟩ := hj.answered fun x hx =>
    h.not_isRefused hs (hsub hx) (hj.request_eq x hx)
  have ht : Told ys configured := h.isConfigured.told hs hys
  rw [hok, List.map_map, List.zipWith_map_right, List.zipWith_self]
  refine congrArg Except.ok (List.map_congr_left fun o ho => ?_)
  -- What the batch has found out agrees with the tables on each of its offers, and on no others.
  have hresult : resolve o.name ∈ (offers.map (·.name)).map resolve :=
    List.mem_map_of_mem (List.mem_map_of_mem ho)
  have hprice : (resolve o.name).item.bind (ofTables rows configured offers).prices.get? =
      (resolve o.name).item.bind prices.get? := by
    rw [hp.get?_steady h hs hxs hresult]
    exact congrArg _ (funext get?_prices_ofTables)
  have hlimits : (ofTables rows configured offers).limitsOf o.profile =
      Yardstick.limitsOf ⟨prices, cache.found, cache.usedFixed⟩ o.profile := by
    rw [limitsOf_ofTables ho, limitsOf_eq hl ht ho]
  have hused : cache.usedFixed = (ofTables rows configured offers).usedFixed := by
    rw [Bool.eq_iff_iff, usedFixed_iff hl ht, ofTables, decide_eq_true_iff]
  rw [Function.comp_apply, assess_congr _ hprice hlimits]
  simp only [hused, ← notes_assess]

/-- One offer is assessed as a batch of its own. -/
theorem result_ofOffer (h : Steady rows configured responder Stays) (hvalid : o.IsValid)
    (hs : Stays s) (hresolved : ((resolver [o.name]).run responder s).result =
      .ok [resolve o.name]) :
    ((ofOffer resolver o).run responder s).result =
      .ok ((ofTables rows configured [o]).assess o (resolve o.name)) := by
  have hone := result_ofOffers h (List.forall_mem_singleton.2 hvalid) hs hresolved
  rw [ofOffer, Action.run_seq, Outcome.follow_ok hone]
  rfl

/-- `b` is `a` but for the note on the fixed limits. That one stands in front of the other notes, if
at all, and in `b` it does exactly if `noted`. -/
def AgreesBut (noted : Prop) [Decidable noted] (a b : Assessment) : Prop :=
  ∃ rest, fixedNote ∉ rest ∧ a.notes = ledBy (fixedNote ∈ a.notes) rest ∧
    b = { a with notes := ledBy noted rest }

/-- By tables, an offer has the assessment that it has alone but for the note on the fixed limits,
which it has from the batch. -/
theorem agreesBut_ofTables (rows : List ReferencePrice) (configured : String → Option Limits)
    (ho : o ∈ offers) (r : Resolution) :
    AgreesBut ((ofTables rows configured offers).usedFixed = true)
      ((ofTables rows configured [o]).assess o r)
      ((ofTables rows configured offers).assess o r) := by
  refine ⟨_, fixedNote_notMem_ownNotes _ r o, ?_, assess_congr r rfl ?_⟩
  · rw [notes_assess]
    exact ledBy_congr (by rw [← notes_assess, fixedNote_mem_assess]) _
  · rw [limitsOf_ofTables ho, limitsOf_ofTables (List.mem_singleton.2 rfl)]

/-- The note that an offer has from the batch is the one that some offer of the batch has alone. -/
theorem usedFixed_ofTables : (ofTables rows configured offers).usedFixed = true ↔
    ∃ a ∈ offers.map fun o => (ofTables rows configured [o]).assess o (resolve o.name),
      fixedNote ∈ a.notes := by
  simp [fixedNote_mem_assess, ofTables]

/-- With a store that does not change and a resolver that answers each name by itself, every offer
of a batch of valid offers has the assessment that it has alone, in every field. Only the note on
the fixed limits is that of the batch: it stands in front of the notes of every offer exactly if
some offer of the batch has it alone. -/
theorem ofOffers_eq_ofOffer (h : Steady rows configured responder Stays)
    (hresolver : ∀ names s, Stays s →
      ((resolver names).run responder s).result = .ok (names.map resolve))
    (hvalid : ∀ o ∈ offers, o.IsValid) (hs : Stays s) :
    ∃ together alone, ((ofOffers resolver offers).run responder s).result = .ok together ∧
      List.Forall₂ (fun o a => ∀ s', Stays s' →
        ((ofOffer resolver o).run responder s').result = .ok a) offers alone ∧
      List.Forall₂ (AgreesBut (∃ a ∈ alone, fixedNote ∈ a.notes)) alone together := by
  refine ⟨_, offers.map fun o => (ofTables rows configured [o]).assess o (resolve o.name),
    result_ofOffers h hvalid hs (hresolver _ s hs), ?alone, ?same⟩
  case alone =>
    rw [List.forall₂_map_right_iff, List.forall₂_same]
    exact fun o ho s' hs' => result_ofOffer h (hvalid o ho) hs' (hresolver [o.name] s' hs')
  case same =>
    rw [List.forall₂_map_left_iff, List.forall₂_map_right_iff, List.forall₂_same]
    intro o ho
    obtain ⟨rest, hrest, hnotes, heq⟩ := agreesBut_ofTables rows configured ho (resolve o.name)
    exact ⟨rest, hrest, hnotes, by rw [heq, ledBy_congr usedFixed_ofTables]⟩

/-- A store that has limits for one profile and none for the generic one. -/
def quarry : Memory where
  entries := [⟨"Ciment", "ciment", "X1"⟩, ⟨"Sable", "sable", "X2"⟩]
  prices := [⟨"X1", ⟨100, 0⟩⟩, ⟨"X2", ⟨20, 0⟩⟩]
  limits := .ofPairs [("TRAVAUX", .fixed)]

/-- An offer under the profile that has limits. -/
def cement : Offer := { name := "Ciment", unitPrice := ⟨105, 0⟩, profile := "TRAVAUX" }

/-- An offer under the generic profile. -/
def sand : Offer := { name := "Sable", unitPrice := ⟨20, 0⟩ }

/-- Alone the first of two offers has no note. With the second one it has the note of that. -/
theorem ofOffers_eq_ofOffer_quarry :
    Steady quarry.prices quarry.limits.get? Memory.responder quarry.Keeps ∧
      (∀ names m, quarry.Keeps m → ((Resolution.ofNames names).run Memory.responder m).result =
        .ok (names.map (Resolution.alone quarry.entries))) ∧
      (∀ o ∈ [cement, sand], o.IsValid) ∧ quarry.Keeps quarry ∧
      ∃ a b, ((ofOffer Resolution.ofNames cement).run Memory.responder quarry).result = .ok a ∧
        ((ofOffer Resolution.ofNames sand).run Memory.responder quarry).result = .ok b ∧
        a.notes = [] ∧ b.notes = [fixedNote] ∧
        ((ofOffers Resolution.ofNames [cement, sand]).run Memory.responder quarry).result =
          .ok [{ a with notes := [fixedNote] }, b] := by
  have hsteady : Steady quarry.prices quarry.limits.get? Memory.responder quarry.Keeps :=
    Memory.steady rfl fun _ => rfl
  have hresolver : ∀ names m, quarry.Keeps m →
      ((Resolution.ofNames names).run Memory.responder m).result =
        .ok (names.map (Resolution.alone quarry.entries)) := by
    intro names m hm
    exact hm.result_ofNames rfl rfl (by decide) names
  have hvalid : ∀ o ∈ [cement, sand], o.IsValid := by decide
  have hkeeps : quarry.Keeps quarry := ⟨_, rfl⟩
  obtain ⟨together, alone, hrun, halone, hsame⟩ :=
    ofOffers_eq_ofOffer hsteady hresolver hvalid hkeeps
  simp only [List.forall₂_cons_left_iff, List.forall₂_nil_left_iff] at halone
  obtain ⟨a, _, ha, ⟨b, _, hb, rfl, rfl⟩, rfl⟩ := halone
  have ha := ha quarry hkeeps
  have hb := hb quarry hkeeps
  have hnotes : ((ofOffer Resolution.ofNames cement).run Memory.responder quarry).result.map
      (·.notes) = .ok [] := by decide +kernel
  have hnotes' : ((ofOffer Resolution.ofNames sand).run Memory.responder quarry).result.map
      (·.notes) = .ok [fixedNote] := by decide +kernel
  rw [ha] at hnotes
  rw [hb] at hnotes'
  have hnotes : a.notes = [] := Except.ok.inj hnotes
  have hnotes' : b.notes = [fixedNote] := Except.ok.inj hnotes'
  refine ⟨hsteady, hresolver, hvalid, hkeeps, a, b, ha, hb, hnotes, hnotes', ?_⟩
  simp only [List.forall₂_cons_left_iff, List.forall₂_nil_left_iff] at hsame
  obtain ⟨_, _, ⟨rest, -, hrest, rfl⟩, ⟨_, _, ⟨rest', -, hrest', rfl⟩, rfl, rfl⟩, rfl⟩ := hsame
  obtain rfl : rest = [] := by simpa [ledBy, hnotes] using hrest.symm
  obtain rfl : rest' = [] := by simpa [ledBy, hnotes'] using hrest'.symm
  have hled : ledBy (∃ x ∈ [a, b], fixedNote ∈ x.notes) [] = [fixedNote] :=
    if_pos ⟨b, by simp, by simp [hnotes']⟩
  have hsand : { b with notes := [fixedNote] } = b := by rw [← hnotes']
  rw [hrun, hled, hsand]

end Assessment

end PriceSurvey
