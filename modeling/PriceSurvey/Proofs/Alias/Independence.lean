import PriceSurvey.Proofs.Alias.Lookup
import PriceSurvey.Request.Memory

/-!
# Names resolved together and alone

A table answers a request with the entries that it names, so a name sees the same entries whether
it is resolved alone or with others, as far as they bear its text or its key. An empty key is not
asked for, but it is looked up: a name without a key is taken for the item of an entry without a
key that *another* name drew in.

Results:
* `resolve_asked_iff`: a query resolved among others, by what the whole table has on it.
* `ofNames_eq_ofName_iff`: a name has the outcome that it has alone, unless it is mistaken.
* `result_ofNames_keyed`: with a key in every entry, names are resolved one by one.
* `ofNames_mistaken`: two marks without letters, of which the second takes the item of the first.
-/
namespace PriceSurvey

variable {S : Type} {responder : Responder S} {s s' : S} {table : List AliasEntry}

/-- In a state, requests for entries are answered from a table: the entries with one of the texts or
one of the keys, in the order of the table. -/
def AnswersFrom (table : List AliasEntry) (responder : Responder S) (s : S) : Prop :=
  ∀ texts keys, (responder.reply (.entries texts keys) s).result =
    .ok (table.filter fun e => e.name ∈ texts ∨ e.key ∈ keys)

theorem Memory.answersFrom {m : Memory} (hl : m.loose = false) (hf : m.failing .entries = none) :
    AnswersFrom m.entries Memory.responder m := by
  intro texts keys
  simp [Memory.responder, Request.kind, hf, Memory.answer, Memory.entriesFor, hl]

theorem lastWith?_filter {field : AliasEntry → String} {text : String} {p : AliasEntry → Bool}
    (h : ∀ e, field e = text → p e) (table : List AliasEntry) :
    lastWith? field text (table.filter p) = lastWith? field text table := by
  rw [lastWith?, List.filter_filter, lastWith?]
  congr 1
  refine List.filter_congr fun e _ => ?_
  by_cases he : field e = text
  · simp [he, h e he]
  · simp [he]

namespace Query

/-- The entries of a table that queries are answered with. -/
def asked (table : List AliasEntry) (queries : List Query) : List AliasEntry :=
  table.filter fun e =>
    e.name ∈ distinct (queries.map (·.trimmed)) ∨ e.key ∈ distinct (queries.map (·.key))

variable {queries : List Query} {q : Query}

theorem mem_distinct {texts : List String} {t : String} :
    t ∈ distinct texts ↔ t ∈ texts ∧ t ≠ "" := by
  simp [(isDistinctOf_distinct texts).mem_iff]

/-- Some query draws in an entry without a key. -/
def Draws (table : List AliasEntry) (queries : List Query) : Prop :=
  ∃ e ∈ table, e.key = "" ∧ ∃ q ∈ queries, q.trimmed ≠ "" ∧ e.name = q.trimmed

instance (table : List AliasEntry) (queries : List Query) : Decidable (Draws table queries) :=
  inferInstanceAs (Decidable (∃ e ∈ table, _))

theorem lastWith?_name_asked (table : List AliasEntry) (hq : q ∈ queries) (hne : q.trimmed ≠ "") :
    lastWith? (·.name) q.trimmed (asked table queries) = lastWith? (·.name) q.trimmed table := by
  refine lastWith?_filter (fun e he => ?_) table
  have hmem := mem_distinct.2 ⟨List.mem_map_of_mem (f := (·.trimmed)) hq, hne⟩
  simp [he, hmem]

theorem lastWith?_key_asked (table : List AliasEntry) (hq : q ∈ queries) (hne : q.key ≠ "") :
    lastWith? (·.key) q.key (asked table queries) = lastWith? (·.key) q.key table := by
  refine lastWith?_filter (fun e he => ?_) table
  have hmem := mem_distinct.2 ⟨List.mem_map_of_mem (f := (·.key)) hq, hne⟩
  simp [he, hmem]

/-- An empty key is found exactly if some query draws in an entry without a key. -/
theorem lastWith?_no_key :
    lastWith? (·.key) "" (asked table queries) = none ↔ ¬Draws table queries := by
  rw [lastWith?_eq_none]
  constructor
  · rintro h ⟨e, he, hkey, q, hq, hne, hname⟩
    refine h e (List.mem_filter.2 ⟨he, ?_⟩) hkey
    have hmem := mem_distinct.2 ⟨List.mem_map_of_mem (f := (·.trimmed)) hq, hne⟩
    simp [hname, hmem]
  · intro h e he hkey
    obtain ⟨he, hasked⟩ := List.mem_filter.1 he
    rcases of_decide_eq_true hasked with hname | hkey'
    · obtain ⟨hmem, hne⟩ := mem_distinct.1 hname
      obtain ⟨q, hq, hqe⟩ := List.mem_map.1 hmem
      exact h ⟨e, he, hkey, q, hq, hqe ▸ hne, hqe.symm⟩
    · exact (mem_distinct.1 hkey').2 hkey

/-- A query without a key and without an entry of its own, in front of an entry without a key that
some query draws in. -/
@[mk_iff]
structure IsMistaken (table : List AliasEntry) (queries : List Query) (q : Query) : Prop where
  not_blank : q.trimmed ≠ ""
  no_key : q.key = ""
  no_entry : ∀ e ∈ table, e.name ≠ q.trimmed
  draws : Draws table queries

instance (table : List AliasEntry) (queries : List Query) (q : Query) :
    Decidable (IsMistaken table queries q) :=
  decidable_of_iff' _ (isMistaken_iff table queries q)

/-- What a query comes to depends on the entry with its text, and if there is none on the entry with
its key. -/
theorem resolve_congr {entries entries' : List AliasEntry}
    (hname : lastWith? (·.name) q.trimmed entries = lastWith? (·.name) q.trimmed entries')
    (hkey : lastWith? (·.name) q.trimmed entries = none →
      lastWith? (·.key) q.key entries = lastWith? (·.key) q.key entries') :
    q.resolve (.ofEntries entries) = q.resolve (.ofEntries entries') := by
  simp only [resolve, Dictionary.byName_ofEntries, Dictionary.byKey_ofEntries, ← hname]
  cases hn : lastWith? (·.name) q.trimmed entries with
  | some e => rfl
  | none => rw [hkey hn]

theorem item_resolve_eq_none {entries : List AliasEntry} (hblank : q.trimmed ≠ "")
    (hname : lastWith? (·.name) q.trimmed entries = none) :
    (q.resolve (.ofEntries entries)).item = none ↔ lastWith? (·.key) q.key entries = none := by
  rw [resolve, if_neg (by simpa using hblank), Dictionary.byName_ofEntries,
    Dictionary.byKey_ofEntries, hname]
  cases lastWith? (·.key) q.key entries <;> simp [Resolution.found, Resolution.notFound]

/-- A query is resolved among others as it is alone, unless it is mistaken. -/
theorem resolve_asked_iff (hq : q ∈ queries) :
    q.resolve (.ofEntries (asked table queries)) = q.resolve (.ofEntries (asked table [q])) ↔
      ¬IsMistaken table queries q := by
  by_cases hblank : q.trimmed = ""
  · exact iff_of_true (by simp [resolve, hblank]) fun h => h.not_blank hblank
  have hbatch := lastWith?_name_asked table hq hblank
  have halone := lastWith?_name_asked table (List.mem_singleton.2 rfl) hblank
  by_cases hkey : q.key = ""
  · by_cases hentry : ∀ e ∈ table, e.name ≠ q.trimmed
    · have hnone := lastWith?_eq_none.2 hentry
      rw [hnone] at hbatch halone
      -- Alone, nothing is drawn in: no entry has the text, and an empty key is not asked for.
      have hundrawn : lastWith? (·.key) q.key (asked table [q]) = none := by
        rw [hkey, lastWith?_no_key]
        rintro ⟨e, he, -, q', hq', -, hname⟩
        obtain rfl := List.mem_singleton.1 hq'
        exact hentry e he hname
      constructor
      · intro he hm
        have hitem := (item_resolve_eq_none hblank halone).2 hundrawn
        rw [← he, item_resolve_eq_none hblank hbatch, hkey, lastWith?_no_key] at hitem
        exact hitem hm.draws
      · intro h
        refine resolve_congr (hbatch.trans halone.symm) fun _ => ?_
        rw [hundrawn, hkey, lastWith?_no_key]
        exact fun hd => h ⟨hblank, hkey, hentry, hd⟩
    · refine iff_of_true (resolve_congr (hbatch.trans halone.symm) fun hn => ?_) fun h =>
        hentry h.no_entry
      exact absurd (lastWith?_eq_none.1 (hbatch ▸ hn)) hentry
  · refine iff_of_true (resolve_congr (hbatch.trans halone.symm) fun _ => ?_) fun h =>
      hkey h.no_key
    rw [lastWith?_key_asked table hq hkey,
      lastWith?_key_asked table (List.mem_singleton.2 rfl) hkey]

end Query

namespace Resolution

/-- What becomes of names when requests are answered from a table. -/
theorem result_ofNames (h : AnswersFrom table responder s) (names : List String) :
    ((ofNames names).run responder s).result =
      .ok ((names.map Query.ofName).map
        (Query.resolve (.ofEntries (Query.asked table (names.map Query.ofName))))) := by
  rw [(run_ofNames responder s names).1]
  by_cases hasked : ∃ q ∈ names.map Query.ofName, q.trimmed ≠ ""
  · rw [Query.fetch_request hasked, Action.run_request, h]
    rfl
  · have hblank : ∀ q ∈ names.map Query.ofName, q.trimmed = "" := by simpa using hasked
    have hkeys := Query.keys_blank hblank
    have hnone : Query.asked table (names.map Query.ofName) = [] := by
      rw [Query.asked, Query.distinct_eq_nil.2 (by simpa using hblank),
        Query.distinct_eq_nil.2 (by simpa using hkeys)]
      simp
    rw [Query.fetch_blank hblank hkeys, hnone]
    rfl

/-- One name is resolved as a list of one. -/
theorem result_ofName (h : AnswersFrom table responder s) (name : String) :
    ((ofName name).run responder s).result =
      .ok ((Query.ofName name).resolve (.ofEntries (Query.asked table [Query.ofName name]))) := by
  have hone := result_ofNames h [name]
  rw [ofName, Action.run_seq, Outcome.follow_ok hone]
  simp only [Outcome.behind_result, Action.run_pure, List.map_cons, List.map_nil,
    List.getLast?_singleton, Option.getD_some]

/-- What a name comes to by itself, by a table. -/
def alone (table : List AliasEntry) (name : String) : Resolution :=
  (Query.ofName name).resolve (.ofEntries (Query.asked table [Query.ofName name]))

/-- With a table behind them in which every entry has a key, names are resolved one by one. -/
theorem result_ofNames_keyed (hkeys : ∀ e ∈ table, e.key ≠ "")
    (h : AnswersFrom table responder s) (names : List String) :
    ((ofNames names).run responder s).result = .ok (names.map (alone table)) := by
  rw [result_ofNames h, List.map_map]
  refine congrArg Except.ok (List.map_congr_left fun name hname => ?_)
  refine (Query.resolve_asked_iff (List.mem_map_of_mem hname)).2 fun hm => ?_
  obtain ⟨e, he, hkey, -⟩ := hm.draws
  exact hkeys e he hkey

/-- With a table behind them, names resolved together have outcomes one for each, in their order,
and each is the outcome that the name has alone, exactly if the name is not mistaken. -/
theorem ofNames_eq_ofName_iff (h : AnswersFrom table responder s)
    (h' : AnswersFrom table responder s') (names : List String) :
    ∃ results, ((ofNames names).run responder s).result = .ok results ∧
      List.Forall₂ (fun name r => ∃ alone, ((ofName name).run responder s').result = .ok alone ∧
        (r = alone ↔ ¬Query.IsMistaken table (names.map Query.ofName) (Query.ofName name)))
        names results := by
  refine ⟨_, result_ofNames h names, ?_⟩
  rw [List.map_map, List.forall₂_map_right_iff, List.forall₂_same]
  intro name hname
  refine ⟨_, result_ofName h' name, ?_⟩
  rw [Function.comp_apply]
  exact Query.resolve_asked_iff (List.mem_map_of_mem hname)

/-- A table with an entry that has no key: its name is a mark without a letter. -/
def marks : Memory where
  entries := [⟨"\u0301", "", "X1"⟩, ⟨"Riz", "riz", "X2"⟩]

/-- Of three names two have the outcomes that they have alone, and the mark that is not in the table
has another one. -/
theorem ofNames_eq_ofName_marks :
    AnswersFrom marks.entries Memory.responder marks ∧
      ∃ riz acute circumflex alone,
        ((ofNames [" RIZ", "\u0301", "\u0302"]).run Memory.responder marks).result =
          .ok [riz, acute, circumflex] ∧
        ((ofName " RIZ").run Memory.responder marks).result = .ok riz ∧
        ((ofName "\u0301").run Memory.responder marks).result = .ok acute ∧
        ((ofName "\u0302").run Memory.responder marks).result = .ok alone ∧ circumflex ≠ alone := by
  have h : AnswersFrom marks.entries Memory.responder marks := Memory.answersFrom rfl rfl
  obtain ⟨results, hr, hall⟩ := ofNames_eq_ofName_iff h h [" RIZ", "\u0301", "\u0302"]
  simp only [List.forall₂_cons_left_iff, List.forall₂_nil_left_iff] at hall
  obtain ⟨riz, _, ⟨riz', h₁, e₁⟩, ⟨acute, _, ⟨acute', h₂, e₂⟩, ⟨circumflex, _, ⟨alone, h₃, e₃⟩, rfl,
    rfl⟩, rfl⟩, rfl⟩ := hall
  rw [← e₁.2 (by decide +kernel)] at h₁
  rw [← e₂.2 (by decide +kernel)] at h₂
  have hmistaken : circumflex ≠ alone := fun he => e₃.1 he (by decide +kernel)
  exact ⟨h, riz, acute, circumflex, alone, hr, h₁, h₂, h₃, hmistaken⟩

/-- Two marks without letters: resolved behind the first, the second takes its item. -/
theorem ofNames_mistaken :
    AnswersFrom marks.entries Memory.responder marks ∧
      ((ofNames ["\u0301", "\u0302"]).run Memory.responder marks).result =
        .ok [.found "\u0301" "" "X1" .sameName, .found "\u0302" "" "X1" .sameKey] ∧
      ((ofName "\u0302").run Memory.responder marks).result = .ok (.notFound "\u0302" "" none) :=
  ⟨Memory.answersFrom rfl rfl, by decide +kernel⟩

end Resolution

end PriceSurvey
