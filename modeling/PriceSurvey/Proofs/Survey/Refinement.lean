import PriceSurvey.Proofs.Offer.Alike
import PriceSurvey.Proofs.Sql.Plan
import PriceSurvey.Request.Memory
import PriceSurvey.Survey

/-!
# The connection and tables in memory

What the library looks up over a connection is what it looks up in tables in memory with the same
rows: one SELECT for each request, with the texts of the request as its parameters, and nothing
else. The answers differ in the scales of their numbers and in nothing that an assessment goes by.

Results:
* `answersAlike`: a server and its rows in memory answer alike.
* `refines_of_alike`: actions over a connection and in memory.
* `refines_inMemory`: names and offers over a connection and in memory.
-/
namespace PriceSurvey

open Sql Connection

variable {α : Type} {v : Server} {c : Connection}

/-! ## The rows of a server in memory -/

/-- Where a server refuses statements of a kind, the requests fail that are put in them. -/
def Request.Kind.statementKind? : Request.Kind → Option Statement.Kind
  | .entries => some .entries
  | .prices => some .prices
  | .limits => some .limits
  | .evidenceTable => some .evidenceTable
  | .append => some .insert
  | .resolve => none

namespace Sql

/-- The number in a cell. Zero stands for the number that is not a number. -/
def Cell.number (cell : Cell) : Decimal := cell.getD ⟨0, 0⟩

/-- The limits in a row of the table of profiles. -/
def ProfileRow.limits (r : ProfileRow) : Limits := ⟨r.acceptable.number, r.high.number⟩

namespace Server

/-- Tables in memory with the rows of a server, which fail where the server refuses. -/
def inMemory (v : Server) : Memory where
  entries := v.entries
  prices := v.prices.map fun p => ⟨p.1, p.2.number⟩
  limits := .ofPairs (v.profiles.map fun r => (r.profile, r.limits))
  evidenceTable := v.evidenceTable
  failing k := (k.statementKind?.bind v.refusing).map .refused

/-- Every cell of the tables holds a number, and no profile has two rows. -/
structure IsProper (v : Server) : Prop where
  prices : ∀ p ∈ v.prices, p.2 ≠ none
  profiles : ∀ r ∈ v.profiles, r.acceptable ≠ none ∧ r.high ≠ none
  unique : (v.profiles.map (·.profile)).Nodup

end Server

/-! ## Answers -/

theorem readCell_number {cell : Cell} (h : cell ≠ none) (column : String) :
    readCell column cell = .ok cell.number.stored := by
  obtain ⟨d, rfl⟩ := Option.ne_none_iff_exists'.1 h
  rfl

theorem mapM_ok {ε α β : Type} {f : α → Except ε β} {g : α → β} {xs : List α}
    (h : ∀ x ∈ xs, f x = .ok (g x)) : xs.mapM f = .ok (xs.map g) := by
  induction xs with
  | nil => rfl
  | cons x rest ih =>
    rw [List.forall_mem_cons] at h
    rw [List.mapM_cons, h.1, ih h.2]
    rfl

/-- Prices that are numbers are read, each as it is stored. -/
theorem readPrices_eq (h : ∀ p ∈ v.prices, p.2 ≠ none) (items : List String) :
    readPrices items v = .ok ((v.prices.filter fun p => items.contains p.1).map fun p =>
      ⟨p.1, p.2.number.stored⟩) := by
  refine mapM_ok fun p hp => ?_
  rw [readCell_number (h p (List.mem_filter.1 hp).1)]
  rfl

theorem answer_prices_same (h : ∀ p ∈ v.prices, p.2 ≠ none) (items : List String) :
    ∃ read, v.answer (.prices items) = .ok read ∧
      List.Forall₂ ReferencePrice.Same (v.inMemory.answer (.prices items)).1 read := by
  refine ⟨_, readPrices_eq h items, ?_⟩
  change List.Forall₂ _ ((v.prices.map _).filter _) _
  rw [List.filter_map, List.forall₂_map_left_iff, List.forall₂_map_right_iff, Function.comp_def,
    List.forall₂_same]
  exact fun p _ => ⟨rfl, (Decimal.toRat_stored _).symm⟩

/-- The one row of a profile is read, each of its limits as it is stored. -/
theorem answer_limits_same (h : v.IsProper) (profile : String) :
    ∃ read, v.answer (.limits profile) = .ok read ∧
      Option.Rel Limits.Same (v.inMemory.answer (.limits profile)).1 read := by
  have hkeys : ((v.profiles.map fun r => (r.profile, r.limits)).map (·.1)).Nodup := by
    rw [List.map_map]
    exact h.unique
  have hindex {l : Limits} :
      (Index.ofPairs (v.profiles.map fun r => (r.profile, r.limits))).get? profile = some l ↔
        (profile, l) ∈ v.profiles.map fun r => (r.profile, r.limits) :=
    Index.get?_ofPairs_of_nodup hkeys
  change ∃ read, readLimits profile v = .ok read ∧
    Option.Rel Limits.Same (Index.get? (.ofPairs (v.profiles.map fun r => (r.profile, r.limits)))
      profile) read
  rw [readLimits]
  cases hfind : v.profiles.find? fun r => r.profile = profile with
  | none =>
    refine ⟨none, rfl, ?_⟩
    have hnone : Index.get? (.ofPairs (v.profiles.map fun r => (r.profile, r.limits))) profile =
        none := by
      rw [Option.eq_none_iff_forall_ne_some]
      intro l hl
      obtain ⟨r, hr, he⟩ := List.mem_map.1 (hindex.1 hl)
      cases he
      simpa using List.find?_eq_none.1 hfind r hr
    rw [hnone]
    exact .none
  | some r =>
    have hr := List.mem_of_find?_eq_some hfind
    have hprofile : r.profile = profile := by simpa using List.find?_some hfind
    have hsome : Index.get? (.ofPairs (v.profiles.map fun r => (r.profile, r.limits))) profile =
        some r.limits := hindex.2 (hprofile ▸ List.mem_map_of_mem hr)
    have hcells := h.profiles r hr
    rw [hsome]
    simp only [readCell_number hcells.1, readCell_number hcells.2]
    exact ⟨_, rfl, .some ⟨(Decimal.toRat_stored _).symm, (Decimal.toRat_stored _).symm⟩⟩

theorem answer_same (h : v.IsProper) {r : Request} (hr : r.isLookup = true) :
    ∃ read, v.answer r = .ok read ∧ Request.Same r (v.inMemory.answer r).1 read := by
  cases r with
  | entries names keys => exact ⟨_, rfl, rfl⟩
  | prices items => exact answer_prices_same h.prices items
  | limits profile => exact answer_limits_same h profile
  | evidenceTable => cases hr
  | append => cases hr
  | resolve => cases hr

/-! ## Replies -/

/-- Over the connection to a server that refuses statements by their kind a lookup is one statement.
It fails where the rows in memory fail, and is else answered from the tables. -/
theorem result_reply_lookup {r : Request} (hr : r.isLookup = true) (sent : List Statement) :
    (responder.reply r { server := v, sent }).result =
      failedOr (v.inMemory.failing r.kind) (v.answer r) := by
  have hfault (t : Statement) :
      Connection.fault? { server := v, sent } t = (t.kind?.bind v.refusing).map .refused := by
    rw [fault?, Server.refusal?]
    cases t.kind? <;> simp
  cases r with
  | entries names keys => exact (congrArg Prod.fst (query_eq ..)).trans (by rw [hfault]; rfl)
  | prices items => exact (congrArg Prod.fst (query_eq ..)).trans (by rw [hfault]; rfl)
  | limits profile => exact (congrArg Prod.fst (query_eq ..)).trans (by rw [hfault]; rfl)
  | evidenceTable => cases hr
  | append => cases hr
  | resolve => cases hr

/-- A lookup leaves tables in memory as they are. -/
theorem state_answer_lookup {r : Request} (hr : r.isLookup = true) (m : Memory) :
    (m.answer r).2 = m := by
  cases r with
  | entries | prices | limits => rfl
  | evidenceTable | append | resolve => cases hr

/-- The connection to a server, whatever was sent over it, and the rows of the server in memory. -/
def Stands (v : Server) (m : Memory) (c : Connection) : Prop :=
  m = v.inMemory ∧ ∃ sent, c = { server := v, sent }

theorem answersAlike (h : v.IsProper) :
    Action.AnswersAlike Request.Same Memory.responder responder (Stands v) where
  result := by
    rintro r _ _ hr ⟨rfl, sent, rfl⟩
    rw [result_reply_lookup hr]
    cases hf : v.inMemory.failing r.kind with
    | some cause =>
      rw [Memory.reply_failing hf]
      exact .error cause
    | none =>
      obtain ⟨read, hread, hsame⟩ := answer_same h hr
      rw [Memory.reply_answered hf, hread]
      exact .ok hsame
  state := by
    rintro r _ _ hr ⟨rfl, sent, rfl⟩
    refine ⟨?_, sent ++ Statement.ofRequest r, ?_⟩
    · cases hf : v.inMemory.failing r.kind with
      | some cause => rw [Memory.reply_failing hf]
      | none =>
        rw [Memory.reply_answered hf]
        exact state_answer_lookup hr _
    · rw [Action.state_reply_of_reads (Request.reads_of_isLookup hr)]
      rfl

/-! ## Lookups and their statements -/

end Sql

/-- The texts that a request looks up, as parameters. -/
def Request.keys : Request → List Param
  | .entries names keys => [.texts names, .texts keys]
  | .prices items => [.texts items]
  | .limits profile => [.text profile]
  | .evidenceTable | .append _ _ | .resolve _ => []

/-- The statement is the one that looks up what a request asks for, by the keys of the request. It
neither writes nor touches a transaction. -/
structure IsLookupOf (r : Request) (t : Statement) : Prop where
  statement : Statement.ofRequest r = [t]
  text : "SELECT ".toList <+: t.text.toList
  params : t.params = r.keys

theorem prefix_append {front : List Char} {s : String} (h : front <+: s.toList) (s' : String) :
    front <+: (s ++ s').toList := by
  rw [String.toList_append]
  exact h.trans (List.prefix_append _ _)

theorem exists_isLookupOf {r : Request} (hr : r.isLookup = true) :
    ∃ t, Statement.ofRequest r = [t] ∧ IsLookupOf r t := by
  -- The texts are put together from several pieces, and the first one says it.
  cases r with
  | entries names keys =>
    refine ⟨_, rfl, rfl, prefix_append ?_ _, rfl⟩
    decide +kernel
  | prices items =>
    refine ⟨_, rfl, rfl, prefix_append (prefix_append (prefix_append ?_ _) _) _, rfl⟩
    decide +kernel
  | limits profile =>
    refine ⟨_, rfl, rfl, prefix_append (prefix_append ?_ _) _, rfl⟩
    decide +kernel
  | evidenceTable => cases hr
  | append => cases hr
  | resolve => cases hr

theorem forall₂_isLookupOf {requests : List Request} (h : ∀ r ∈ requests, r.isLookup = true) :
    List.Forall₂ IsLookupOf requests (requests.flatMap Statement.ofRequest) := by
  induction requests with
  | nil => exact .nil
  | cons r rest ih =>
    rw [List.forall_mem_cons] at h
    obtain ⟨t, ht, hlookup⟩ := exists_isLookupOf h.1
    rw [List.flatMap_cons, ht]
    exact .cons hlookup (ih h.2)

/-! ## Refinement -/

/-- What came of a call over a connection is what came of it in memory: the requests were put in one
statement each and nothing else was sent, and the results are related or the same fault. -/
structure Refines (R : α → α → Prop) (c : Connection) (o : Outcome Connection α)
    (m : Outcome Memory α) : Prop where
  sent : ∃ statements, o.state = c.after statements ∧
    List.Forall₂ IsLookupOf m.requests statements
  result : SameResult R m.result o.result

theorem refines_of_alike (h : v.IsProper) {R : α → α → Prop} {a : Action α}
    (ha : Action.Alike Request.Same R a a) (sent : List Statement) :
    Refines R { server := v, sent } (a.run responder { server := v, sent })
      (a.run Memory.responder v.inMemory) := by
  obtain ⟨hrequests, hlookups, hresult⟩ :=
    ha.run (answersAlike h) (⟨rfl, sent, rfl⟩ : Stands v v.inMemory { server := v, sent })
  refine ⟨⟨_, Action.state_of_reads a ?_, ?_⟩, hresult⟩
  · rw [← hrequests]
    exact fun r hr => Request.reads_of_isLookup (hlookups r hr)
  · rw [← hrequests]
    exact forall₂_isLookupOf hlookups

/-- On a server whose tables hold numbers and have one row for each profile, names are resolved and
offers assessed as in memory with the rows of the server, whichever kinds of statements the server
refuses. The resolutions are the same. Assessments agree in names, resolutions, totals and reference
prices, and where prices and quantities have forty digits at most also in verdicts and ratios. -/
theorem Survey.refines_inMemory (v : Server) (h : v.IsProper) (sent : List Statement) :
    let c : Connection := { server := v, sent }
    (∀ names, Refines Eq c (Survey.resolve names c)
      ((Resolution.ofNames names).run Memory.responder v.inMemory)) ∧
    (∀ offers, Refines (List.Forall₂ (Assessment.Agrees (∀ o ∈ offers, o.IsShort))) c
      (Survey.assess offers c)
      ((Assessment.ofOffers Resolution.ofNames offers).run Memory.responder v.inMemory)) ∧
    ∀ o, Refines (Assessment.Agrees o.IsShort) c (Survey.assessOne o c)
      ((Assessment.ofOffer Resolution.ofNames o).run Memory.responder v.inMemory) :=
  ⟨fun names => refines_of_alike h (alike_ofNames names) sent,
    fun offers => refines_of_alike h (Assessment.alike_ofOffers offers) sent,
    fun o => refines_of_alike h (Assessment.alike_ofOffer o) sent⟩

/-- A server with one item, the price of which is written with a decimal. -/
def market : Server where
  entries := [⟨"Riz", "riz", "X1"⟩]
  prices := [("X1", some ⟨1000, 1⟩)]
  profiles := [⟨genericProfile, some ⟨1050, 3⟩, some ⟨120, 2⟩⟩]

/-- An offer for the item, a tenth above its price. -/
def rice : Offer := { name := "Riz", unitPrice := ⟨110, 0⟩ }

/-- Over the connection and in memory, the offer takes three lookups and is above the limit. -/
theorem Survey.refines_inMemory_market : market.IsProper ∧ ∃ a b statements,
    (Survey.assessOne rice { server := market }).result = .ok a ∧
      ((Assessment.ofOffer Resolution.ofNames rice).run Memory.responder market.inMemory).result =
        .ok b ∧
      (Survey.assessOne rice { server := market }).state =
        Connection.after { server := market } statements ∧
      statements.length = 3 ∧ a.verdict = .above ∧ b.verdict = .above := by
  have hproper : market.IsProper := ⟨by decide, by decide, by decide⟩
  obtain ⟨⟨statements, hstate, hlookups⟩, hresult⟩ :=
    (Survey.refines_inMemory market hproper []).2.2 rice
  have hcount : statements.length = 3 := by
    rw [← hlookups.length_eq]
    decide +kernel
  have habove : ((Assessment.ofOffer Resolution.ofNames rice).run Memory.responder
      market.inMemory).result.map (·.verdict) = .ok .above := by decide +kernel
  generalize ((Assessment.ofOffer Resolution.ofNames rice).run Memory.responder
    market.inMemory).result = inMemory at hresult habove
  generalize (Survey.assessOne rice { server := market }).result = connected at hresult
  cases hresult with
  | error fault => cases habove
  | @ok b a hagrees =>
    have hb : b.verdict = .above := Except.ok.inj habove
    exact ⟨hproper, a, b, statements, rfl, rfl, hstate, hcount,
      (hagrees.verdict (by decide +kernel)).symm.trans hb, hb⟩

end PriceSurvey
