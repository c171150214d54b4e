import Mathlib.Data.List.Basic
import PriceSurvey.Proofs.Alias.Independence

/-!
# The order of entries and of names

Of several entries with one name the last one counts, so the order of the entries can matter only
if they stand for different items. In an unambiguous table they do not, and then it does not matter
in which order the entries of an answer come. The order of the names, and how often each of them
comes, does not matter behind any table: the same entries are asked for, and each name is resolved
by them alone.

Results:
* `item_lastWith?`: in an unambiguous list, what the last entry stands for, without its place.
* `result_ofNames_perm`: two answers with the same entries in different orders.
* `asked_congr`: what is asked for depends on which names there are, and on nothing else.
* `ofNames_any_order`: names have the same outcomes, in whatever order entries and names come.
-/
namespace PriceSurvey

variable {S S' : Type} {responder : Responder S} {responder' : Responder S'} {s : S} {s' : S'}
  {table : List AliasEntry}

/-! ## The order of entries -/

/-- Entries with the same name stand for the same item, and so do entries with the same key. -/
structure IsUnambiguous (table : List AliasEntry) : Prop where
  name : ∀ e ∈ table, ∀ e' ∈ table, e.name = e'.name → e.item = e'.item
  key : ∀ e ∈ table, ∀ e' ∈ table, e.key = e'.key → e.item = e'.item

/-- Two responders answer requests for entries with the same entries of a table, each in an order of
its own. -/
def AnswerInAnyOrder (table : List AliasEntry) (responder : Responder S) (s : S)
    (responder' : Responder S') (s' : S') : Prop :=
  ∀ texts keys, ∃ rows rows', (responder.reply (.entries texts keys) s).result = .ok rows ∧
    (responder'.reply (.entries texts keys) s').result = .ok rows' ∧
    rows.Perm rows' ∧ ∀ e ∈ rows, e ∈ table

/-- A table and the same table in another order, behind two responders. -/
theorem AnswersFrom.inAnyOrder {table' : List AliasEntry} (h : AnswersFrom table responder s)
    (h' : AnswersFrom table' responder' s') (hp : table.Perm table') :
    AnswerInAnyOrder table responder s responder' s' := fun texts keys =>
  ⟨_, _, h texts keys, h' texts keys, hp.filter _, fun _ he => (List.mem_filter.1 he).1⟩

theorem IsUnambiguous.of_subset {rows : List AliasEntry} (h : IsUnambiguous table)
    (hsub : ∀ e ∈ rows, e ∈ table) : IsUnambiguous rows where
  name e he e' he' := h.name e (hsub e he) e' (hsub e' he')
  key e he e' he' := h.key e (hsub e he) e' (hsub e' he')

section LastEntry

variable {field : AliasEntry → String} {text : String} {rows rows' : List AliasEntry}

/-- If entries with one text stand for one item, the last entry stands for what any of them does. -/
theorem item_lastWith? (h : ∀ e ∈ rows, ∀ e' ∈ rows, field e = field e' → e.item = e'.item)
    {item : String} :
    (lastWith? field text rows).map (·.item) = some item ↔
      ∃ e ∈ rows, field e = text ∧ e.item = item := by
  have hmem : ∀ e, lastWith? field text rows = some e → e ∈ rows ∧ field e = text := by
    intro e he
    simpa using List.mem_of_getLast? he
  constructor
  · intro hlast
    obtain ⟨e, he, hitem⟩ := Option.map_eq_some_iff.1 hlast
    exact ⟨e, (hmem e he).1, (hmem e he).2, hitem⟩
  · rintro ⟨e, he, htext, rfl⟩
    cases hlast : lastWith? field text rows with
    | none => exact absurd htext (lastWith?_eq_none.1 hlast e he)
    | some e' =>
      obtain ⟨he', htext'⟩ := hmem e' hlast
      rw [Option.map_some, h e' he' e he (htext'.trans htext.symm)]

theorem item_lastWith?_perm (h : ∀ e ∈ rows, ∀ e' ∈ rows, field e = field e' → e.item = e'.item)
    (hp : rows.Perm rows') :
    (lastWith? field text rows).map (·.item) = (lastWith? field text rows').map (·.item) := by
  have h' : ∀ e ∈ rows', ∀ e' ∈ rows', field e = field e' → e.item = e'.item :=
    fun e he e' he' => h e (hp.mem_iff.2 he) e' (hp.mem_iff.2 he')
  refine Option.ext fun item => ?_
  rw [item_lastWith? h, item_lastWith? h']
  simp only [hp.mem_iff]

end LastEntry

/-- A query is resolved by unambiguous entries in any order. -/
theorem Query.resolve_perm {rows rows' : List AliasEntry} (h : IsUnambiguous rows)
    (hp : rows.Perm rows') (q : Query) :
    q.resolve (.ofEntries rows) = q.resolve (.ofEntries rows') := by
  simp only [resolve, Dictionary.byName_ofEntries, Dictionary.byKey_ofEntries,
    item_lastWith?_perm h.name hp, item_lastWith?_perm h.key hp]

namespace Resolution

/-- Behind an unambiguous table names have the same outcomes, in whatever order entries come. -/
theorem result_ofNames_perm (h : IsUnambiguous table)
    (ha : AnswerInAnyOrder table responder s responder' s') (names : List String) :
    ∃ results, ((ofNames names).run responder s).result = .ok results ∧
      ((ofNames names).run responder' s').result = .ok results := by
  rw [(run_ofNames responder s names).1, (run_ofNames responder' s' names).1]
  by_cases hasked : ∃ q ∈ names.map Query.ofName, q.trimmed ≠ ""
  · obtain ⟨rows, rows', hr, hr', hp, hsub⟩ :=
      ha (Query.distinct ((names.map Query.ofName).map (·.trimmed)))
        (Query.distinct ((names.map Query.ofName).map (·.key)))
    rw [Query.fetch_request hasked, Action.run_request, Action.run_request, hr, hr']
    refine ⟨_, rfl, ?_⟩
    have hsame := Query.resolve_perm (h.of_subset hsub) hp
    simp only [Except.mapError, Except.map, funext hsame]
  · have hblank : ∀ q ∈ names.map Query.ofName, q.trimmed = "" := by simpa using hasked
    rw [Query.fetch_blank hblank (Query.keys_blank hblank)]
    exact ⟨_, rfl, rfl⟩

end Resolution

/-! ## The order of names -/

/-- The members of a list at these places. -/
def picked {α : Type} (places : List Nat) (xs : List α) : List α := places.filterMap (xs[·]?)

theorem picked_map {α β : Type} (f : α → β) (places : List Nat) (xs : List α) :
    picked places (xs.map f) = (picked places xs).map f := by
  simp [picked, List.map_filterMap]

/-- A list of members of another one is picked from that. -/
theorem exists_picked {xs ys : List String} (h : ∀ y ∈ ys, y ∈ xs) :
    ∃ places, picked places xs = ys := by
  refine ⟨ys.map xs.idxOf, ?_⟩
  rw [picked, List.filterMap_map]
  induction ys with
  | nil => rfl
  | cons y ys ih =>
    have hy : xs[xs.idxOf y]? = some y := List.getElem?_idxOf (h y List.mem_cons_self)
    have hrest := ih fun z hz => h z (List.mem_cons_of_mem _ hz)
    rw [List.filterMap_cons_some (by simpa using hy), hrest]

/-- What is asked for depends on which names there are, and on nothing else. -/
theorem Query.asked_congr {names names' : List String} (h : ∀ name, name ∈ names' ↔ name ∈ names) :
    asked table (names'.map ofName) = asked table (names.map ofName) := by
  refine List.filter_congr fun e _ => ?_
  rw [decide_eq_decide]
  simp only [mem_distinct, List.mem_map, h]

namespace Resolution

/-- Names have the same outcomes in any order. Behind two responders that answer from an unambiguous
table, each in an order of its own, they have the same outcomes. And if the same names come in
another order, or more or less often than before, then so do their outcomes. -/
theorem ofNames_any_order (names : List String) :
    (IsUnambiguous table → AnswerInAnyOrder table responder s responder' s' →
      ∃ results, ((ofNames names).run responder s).result = .ok results ∧
        ((ofNames names).run responder' s').result = .ok results) ∧
    (AnswersFrom table responder s → AnswersFrom table responder' s' →
      ∃ results, ((ofNames names).run responder s).result = .ok results ∧
        results.map (·.input) = names ∧
        ∀ names', (∀ name, name ∈ names' ↔ name ∈ names) →
          (∃ places, picked places names = names') ∧
          ∀ places, picked places names = names' →
            ((ofNames names').run responder' s').result = .ok (picked places results)) := by
  refine ⟨fun h ha => result_ofNames_perm h ha names, fun h h' => ?_⟩
  refine ⟨_, result_ofNames h names, input_resolve names _, fun names' hsame =>
    ⟨exists_picked fun name hname => (hsame name).1 hname, ?_⟩⟩
  rintro places rfl
  rw [result_ofNames h', Query.asked_congr hsame, picked_map, picked_map]

/-- Two entries with one key, for one item. -/
def rice : Memory where
  entries := [⟨"Riz", "riz", "X1"⟩, ⟨"RIZ", "riz", "X1"⟩, ⟨"Sel fin", "sel fin", "X2"⟩]

/-- The same entries from the last to the first, and the names turned around, one of them twice. -/
theorem ofNames_any_order_rice :
    let turned : Memory := { rice with entries := rice.entries.reverse }
    IsUnambiguous rice.entries ∧
      AnswerInAnyOrder rice.entries Memory.responder rice Memory.responder turned ∧
      AnswersFrom rice.entries Memory.responder rice ∧
      (∃ results, ((ofNames ["riz ", "SEL FIN"]).run Memory.responder rice).result = .ok results ∧
        ((ofNames ["riz ", "SEL FIN"]).run Memory.responder turned).result = .ok results) ∧
      ∃ riz sel, ((ofNames ["riz ", "SEL FIN"]).run Memory.responder rice).result =
          .ok [riz, sel] ∧
        ((ofNames ["SEL FIN", "riz ", "SEL FIN"]).run Memory.responder rice).result =
          .ok [sel, riz, sel] := by
  intro turned
  have h : IsUnambiguous rice.entries := ⟨by decide, by decide⟩
  have hrice : AnswersFrom rice.entries Memory.responder rice := Memory.answersFrom rfl rfl
  have hturned : AnswersFrom turned.entries Memory.responder turned := Memory.answersFrom rfl rfl
  have ha := hrice.inAnyOrder hturned (List.reverse_perm _).symm
  obtain ⟨results, hresults, hinput, hpicked⟩ :=
    (ofNames_any_order ["riz ", "SEL FIN"]).2 hrice hrice
  have hnames := (hpicked ["SEL FIN", "riz ", "SEL FIN"] (by simp [or_comm])).2 [1, 0, 1] rfl
  obtain ⟨riz, sel, rfl⟩ : ∃ riz sel, results = [riz, sel] :=
    List.length_eq_two.1 (by simpa using congrArg List.length hinput)
  exact ⟨h, ha, hrice, (ofNames_any_order _).1 h ha, riz, sel, hresults, hnames⟩

end Resolution

end PriceSurvey
