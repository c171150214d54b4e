import Mathlib.Data.List.Forall2
import PriceSurvey.Alias.Lookup
import PriceSurvey.Proofs.Distinct
import PriceSurvey.Proofs.Request.Run

/-!
# What becomes of names

However many names are resolved together, the dictionary is asked once, for the different texts
and the different keys among them, and not at all if every name is blank. Each name is resolved by
the entries of the answer alone: by the last one with its text, else by the last one with its key.

Results:
* `resolve_cases`: the four ways a query can end.
* `fetch_blank`, `fetch_request`: when the dictionary is asked, and for what.
* `ofNames_outcomes`: the outcomes of a list of names, and what was asked for them.
-/
namespace PriceSurvey

open Text

variable {S : Type}

/-! ## The last entry -/

/-- The last of the entries with a field of this text. -/
def lastWith? (field : AliasEntry → String) (text : String) (entries : List AliasEntry) :
    Option AliasEntry :=
  (entries.filter fun e => field e = text).getLast?

theorem lastWith?_eq_none {field : AliasEntry → String} {text : String}
    {entries : List AliasEntry} :
    lastWith? field text entries = none ↔ ∀ e ∈ entries, field e ≠ text := by
  rw [lastWith?, List.getLast?_eq_none_iff, List.filter_eq_nil_iff]
  simp

namespace Dictionary

theorem byName_ofEntries (entries : List AliasEntry) (t : String) :
    (ofEntries entries).byName.get? t = (lastWith? (·.name) t entries).map (·.item) :=
  Index.get?_ofPairs_map _ _ entries t

theorem byKey_ofEntries (entries : List AliasEntry) (k : String) :
    (ofEntries entries).byKey.get? k = (lastWith? (·.key) k entries).map (·.item) :=
  Index.get?_ofPairs_map _ _ entries k

end Dictionary

/-! ## One name -/

/-- A name without the blanks at its ends. -/
def trimmedName (name : String) : String := String.ofList (trim name.toList)

/-- `r` is what becomes of a name when the dictionary answers with `entries`. -/
structure IsResolved (entries : List AliasEntry) (name : String) (r : Resolution) : Prop where
  input : r.input = name
  key : r.key = foldString (trimmedName name)
  blank : trimmedName name = "" → r.basis = .noMatch ∧ r.note = some "blank input"
  sameName : trimmedName name ≠ "" → ∀ e ∈ lastWith? (·.name) (trimmedName name) entries,
    r.basis = .sameName ∧ r.item = some e.item
  sameKey : trimmedName name ≠ "" → (∀ e ∈ entries, e.name ≠ trimmedName name) →
    ∀ e ∈ lastWith? (·.key) (foldString (trimmedName name)) entries,
      r.basis = .sameKey ∧ r.item = some e.item
  noMatch : trimmedName name ≠ "" →
    (∀ e ∈ entries, e.name ≠ trimmedName name ∧ e.key ≠ foldString (trimmedName name)) →
      r.basis = .noMatch
  no_note : trimmedName name ≠ "" → r.note = none
  item_iff : r.item = none ↔ r.basis = .noMatch
  score_iff : r.basis = .noMatch ↔ r.score = Binary.ofInt 0

namespace Query

variable (entries : List AliasEntry) (q : Query)

/-- A blank query is not looked up. Another one is resolved by name, else by key, else not. -/
theorem resolve_cases :
    (q.trimmed = "" ∧
      q.resolve (.ofEntries entries) = .notFound q.given q.key (some "blank input")) ∨
    (q.trimmed ≠ "" ∧ ∃ e, lastWith? (·.name) q.trimmed entries = some e ∧
      q.resolve (.ofEntries entries) = .found q.given q.key e.item .sameName) ∨
    (q.trimmed ≠ "" ∧ lastWith? (·.name) q.trimmed entries = none ∧
      ∃ e, lastWith? (·.key) q.key entries = some e ∧
        q.resolve (.ofEntries entries) = .found q.given q.key e.item .sameKey) ∨
    (q.trimmed ≠ "" ∧ lastWith? (·.name) q.trimmed entries = none ∧
      lastWith? (·.key) q.key entries = none ∧
      q.resolve (.ofEntries entries) = .notFound q.given q.key none) := by
  rw [resolve, Dictionary.byName_ofEntries, Dictionary.byKey_ofEntries]
  by_cases hblank : q.trimmed = ""
  · exact .inl ⟨hblank, by simp [hblank]⟩
  · rw [if_neg (by simpa using hblank)]
    cases lastWith? (·.name) q.trimmed entries with
    | some e => exact .inr (.inl ⟨hblank, e, rfl, rfl⟩)
    | none =>
      cases lastWith? (·.key) q.key entries with
      | some e => exact .inr (.inr (.inl ⟨hblank, rfl, e, rfl, rfl⟩))
      | none => exact .inr (.inr (.inr ⟨hblank, rfl, rfl, rfl⟩))

theorem given_ofName (name : String) : (ofName name).given = name := rfl

theorem trimmed_ofName (name : String) : (ofName name).trimmed = trimmedName name := rfl

theorem key_ofName (name : String) : (ofName name).key = foldString (trimmedName name) := rfl

theorem isResolved_resolve (name : String) :
    IsResolved entries name ((ofName name).resolve (.ofEntries entries)) := by
  have hname : Basis.score .sameName ≠ Binary.ofInt 0 := by decide
  have hkey : Basis.score .sameKey ≠ Binary.ofInt 0 := by decide
  have hcases := resolve_cases entries (ofName name)
  simp only [given_ofName, trimmed_ofName, key_ofName] at hcases
  obtain ⟨hblank, hr⟩ | ⟨hblank, e, he, hr⟩ | ⟨hblank, hn, e, he, hr⟩ | ⟨hblank, hn, hk, hr⟩ :=
    hcases
  · rw [hr]
    constructor <;> simp [hblank, Resolution.notFound, Basis.score]
  · rw [hr]
    have hnot : ¬∀ e ∈ entries, e.name ≠ trimmedName name := fun h => by
      simp [lastWith?_eq_none.2 h] at he
    constructor
    case sameKey => exact fun _ h => absurd h hnot
    case noMatch => exact fun _ h => absurd (fun e he => (h e he).1) hnot
    all_goals simp [hblank, he, hname, Resolution.found]
  · rw [hr]
    have hnot : ¬∀ e ∈ entries, e.key ≠ foldString (trimmedName name) := fun h => by
      simp [lastWith?_eq_none.2 h] at he
    constructor
    case noMatch => exact fun _ h => absurd (fun e he => (h e he).2) hnot
    all_goals simp [hblank, hn, he, hkey, Resolution.found]
  · rw [hr]
    constructor <;> simp [hblank, hn, hk, Resolution.notFound, Basis.score]

/-! ## What is asked -/

theorem key_ofName_blank {name : String} (h : (ofName name).trimmed = "") :
    (ofName name).key = "" := by
  have hkey : (ofName name).key = foldString (ofName name).trimmed := rfl
  rw [hkey, h]
  decide +kernel

theorem keys_blank {names : List String} (h : ∀ q ∈ names.map ofName, q.trimmed = "") :
    ∀ q ∈ names.map ofName, q.key = "" := by
  intro q hq
  obtain ⟨name, hname, rfl⟩ := List.mem_map.1 hq
  exact key_ofName_blank (h _ hq)

theorem isDistinctOf_distinct (texts : List String) :
    IsDistinctOf (texts.filter fun t => t ≠ "") (distinct texts) := by
  have hfilter : (texts.filter fun t => !t.isEmpty) = texts.filter fun t => t ≠ "" :=
    List.filter_congr fun t _ => by rw [Bool.eq_iff_iff]; simp
  rw [distinct, hfilter]
  exact isDistinctOf_eraseDups _

theorem distinct_eq_nil {texts : List String} : distinct texts = [] ↔ ∀ t ∈ texts, t = "" := by
  rw [List.eq_nil_iff_forall_not_mem]
  simp [(isDistinctOf_distinct texts).mem_iff]

/-- Nothing is asked for queries that are all blank. -/
theorem fetch_blank {queries : List Query} (ht : ∀ q ∈ queries, q.trimmed = "")
    (hk : ∀ q ∈ queries, q.key = "") : fetch queries = .done [] := by
  have htexts : distinct (queries.map (·.trimmed)) = [] := distinct_eq_nil.2 (by simpa using ht)
  have hkeys : distinct (queries.map (·.key)) = [] := distinct_eq_nil.2 (by simpa using hk)
  simp [fetch, htexts, hkeys]

/-- One request serves all queries if one of them is not blank. -/
theorem fetch_request {queries : List Query} (h : ∃ q ∈ queries, q.trimmed ≠ "") :
    fetch queries = .request
      (.entries (distinct (queries.map (·.trimmed))) (distinct (queries.map (·.key)))) := by
  have htexts : distinct (queries.map (·.trimmed)) ≠ [] := by
    rw [Ne, distinct_eq_nil]
    simpa using h
  simp [fetch, htexts]

end Query

/-! ## A list of names -/

namespace Resolution

variable (responder : Responder S) (s : S) (names : List String)

/-- A list of names is resolved by what is fetched for it. -/
theorem run_ofNames :
    let queries := names.map Query.ofName
    let fetched := (Query.fetch queries).run responder s
    let o := (ofNames names).run responder s
    o.result =
        fetched.result.map (fun entries => queries.map (Query.resolve (.ofEntries entries))) ∧
      o.state = fetched.state ∧ o.requests = fetched.requests :=
  Action.run_report responder s _ _ _ _ _

theorem forall₂_resolve (entries : List AliasEntry) :
    List.Forall₂ (IsResolved entries) names
      ((names.map Query.ofName).map (Query.resolve (.ofEntries entries))) := by
  rw [List.forall₂_map_right_iff, List.forall₂_map_right_iff, List.forall₂_same]
  exact fun name _ => Query.isResolved_resolve entries name

theorem input_resolve (entries : List AliasEntry) :
    ((names.map Query.ofName).map (Query.resolve (.ofEntries entries))).map (·.input) = names := by
  rw [List.map_map, List.map_map]
  refine (List.map_congr_left fun name _ => ?_).trans (List.map_id names)
  exact (Query.isResolved_resolve entries name).input

/-- Names have outcomes, each under its name, unless the dictionary gives no answer. -/
theorem result_ofNames_cases :
    (∃ results, ((ofNames names).run responder s).result = .ok results ∧
      results.map (·.input) = names) ∨
    ∃ texts keys cause, (responder.reply (.entries texts keys) s).result = .error cause ∧
      ((ofNames names).run responder s).result = .error (.database cause) := by
  rw [(run_ofNames responder s names).1]
  by_cases hasked : ∃ q ∈ names.map Query.ofName, q.trimmed ≠ ""
  · rw [Query.fetch_request hasked, Action.run_request]
    cases hr : (responder.reply (.entries _ _) s).result with
    | ok entries => exact .inl ⟨_, rfl, input_resolve names entries⟩
    | error cause => exact .inr ⟨_, _, cause, hr, rfl⟩
  · have hblank : ∀ q ∈ names.map Query.ofName, q.trimmed = "" := by simpa using hasked
    rw [Query.fetch_blank hblank (Query.keys_blank hblank)]
    exact .inl ⟨_, rfl, input_resolve names []⟩

/-- The outcomes of a list of names, one for each. The dictionary is asked once if some name is not
blank, and never otherwise. -/
theorem ofNames_outcomes :
    ∃ texts keys,
      IsDistinctOf ((names.map trimmedName).filter fun t => t ≠ "") texts ∧
      IsDistinctOf ((names.map fun name => foldString (trimmedName name)).filter fun k => k ≠ "")
        keys ∧
      let o := (ofNames names).run responder s;
      ((∀ name ∈ names, trimmedName name = "") → o.requests = [] ∧
        ∃ results, o.result = .ok results ∧ List.Forall₂ (IsResolved []) names results) ∧
      ((∃ name ∈ names, trimmedName name ≠ "") → o.requests = [.entries texts keys] ∧
        (∀ cause, (responder.reply (.entries texts keys) s).result = .error cause →
          o.result = .error (.database cause)) ∧
        ∀ entries, (responder.reply (.entries texts keys) s).result = .ok entries →
          ∃ results, o.result = .ok results ∧
            List.Forall₂ (IsResolved entries) names results) := by
  obtain ⟨hresult, -, hrequests⟩ := run_ofNames responder s names
  have htexts := Query.isDistinctOf_distinct ((names.map Query.ofName).map (·.trimmed))
  have hkeys := Query.isDistinctOf_distinct ((names.map Query.ofName).map (·.key))
  have htrimmed : (names.map Query.ofName).map (·.trimmed) = names.map trimmedName :=
    List.map_map
  have hfolded : (names.map Query.ofName).map (·.key) =
      names.map fun name => foldString (trimmedName name) := List.map_map
  rw [htrimmed] at htexts
  rw [hfolded] at hkeys
  refine ⟨_, _, htexts, hkeys, fun hblank => ?_, fun hasked => ?_⟩
  · have hqueries : ∀ q ∈ names.map Query.ofName, q.trimmed = "" := List.forall_mem_map.2 hblank
    rw [Query.fetch_blank hqueries (Query.keys_blank hqueries)] at hresult hrequests
    exact ⟨hrequests, _, hresult, forall₂_resolve names []⟩
  · obtain ⟨name, hname, hne⟩ := hasked
    have hquery : ∃ q ∈ names.map Query.ofName, q.trimmed ≠ "" :=
      ⟨Query.ofName name, List.mem_map_of_mem hname, hne⟩
    rw [Query.fetch_request hquery, Action.run_request, htrimmed, hfolded] at hresult hrequests
    refine ⟨hrequests, fun cause hc => ?_, fun entries he => ⟨_, ?_, forall₂_resolve names entries⟩⟩
    · rw [hc] at hresult
      exact hresult
    · rw [he] at hresult
      exact hresult

end Resolution

end PriceSurvey
