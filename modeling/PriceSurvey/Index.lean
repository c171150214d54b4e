/-!
# Indexes by text

A finite map from texts to values. A value put under a key takes the place of the one before it.

* `get?_insert`: what is put in is found, and nothing else changes.
* `values_insert`: a value under a new key comes in front of the others.
* `get?_ofPairs`: of several pairs with one key the last one counts.
* `get?_ofPairs_map`: the same for the records that the pairs are taken from.
-/
namespace PriceSurvey

/-- A finite map from texts, as pairs of key and value. -/
structure Index (α : Type) where
  entries : List (String × α)

namespace Index

def empty : Index α := ⟨[]⟩

def get? (ix : Index α) (key : String) : Option α := ix.entries.lookup key

/-- Puts a value under a key, in place of one that is there. -/
def insert (ix : Index α) (key : String) (value : α) : Index α :=
  ⟨(key, value) :: ix.entries.filter fun e => e.1 != key⟩

/-- Takes the value under a key out. -/
def erase (ix : Index α) (key : String) : Index α := ⟨ix.entries.filter fun e => e.1 != key⟩

/-- The map of pairs put in one after the other. -/
def ofPairs (pairs : List (String × α)) : Index α :=
  pairs.foldl (fun ix p => ix.insert p.1 p.2) empty

def values (ix : Index α) : List α := ix.entries.map (·.2)

@[simp] theorem get?_empty (key : String) : (empty : Index α).get? key = none := rfl

theorem lookup_filter_ne {entries : List (String × α)} {key other : String} (h : other ≠ key) :
    (entries.filter fun e => e.1 != key).lookup other = entries.lookup other := by
  induction entries with
  | nil => rfl
  | cons e rest ih =>
    obtain ⟨k, v⟩ := e
    by_cases hk : k = key
    · subst hk
      simp [List.lookup_cons, ih, beq_eq_false_iff_ne.2 h]
    · simp [hk, List.lookup_cons, ih]

theorem get?_insert (ix : Index α) (key other : String) (value : α) :
    (ix.insert key value).get? other = if other = key then some value else ix.get? other := by
  by_cases h : other = key
  · simp [get?, insert, h]
  · simp [get?, insert, h, List.lookup_cons, beq_eq_false_iff_ne.2 h, lookup_filter_ne h]

theorem values_insert {ix : Index α} {key : String} (h : ix.get? key = none) (value : α) :
    (ix.insert key value).values = value :: ix.values := by
  have hfilter : (ix.entries.filter fun e => e.1 != key) = ix.entries := by
    rw [List.filter_eq_self]
    intro e he
    rw [bne_iff_ne, ne_comm, ← bne_iff_ne]
    exact List.lookup_eq_none_iff.1 h e he
  simp [insert, values, hfilter]

theorem get?_ofPairs (pairs : List (String × α)) (key : String) :
    (ofPairs pairs).get? key = pairs.reverse.lookup key := by
  rw [ofPairs, ← List.foldr_reverse]
  induction pairs.reverse with
  | nil => rfl
  | cons p rest ih =>
    rw [List.foldr_cons, get?_insert, ih, List.lookup_cons]
    by_cases h : key = p.1
    · simp [h]
    · simp [h, beq_eq_false_iff_ne.2 h]

theorem get?_ofPairs_map (key : β → String) (value : β → α) (records : List β) (k : String) :
    (ofPairs (records.map fun r => (key r, value r))).get? k =
      (records.filter fun r => key r = k).getLast?.map value := by
  rw [get?_ofPairs, List.getLast?_filter, ← List.map_reverse]
  induction records.reverse with
  | nil => rfl
  | cons r rest ih =>
    rw [List.map_cons, List.lookup_cons, List.find?_cons, ih]
    by_cases h : key r = k
    · simp [h]
    · simp [h, beq_eq_false_iff_ne.2 (Ne.symm h)]

end Index

end PriceSurvey
