import Mathlib.Data.List.Basic
import Mathlib.Data.List.Induction
import Mathlib.Data.List.Nodup
import PriceSurvey.Index

/-!
# Different texts in their order

What is looked up for a list is looked up once: the different texts of the list, each where it
appears first.

* `isDistinctOf_eraseDups`: erasing duplicates leaves exactly these.
* `IsDistinctOf.nodup`: none of them comes twice.
* `get?_zip`: the results for them are found under the key that stands at their place.
-/
namespace PriceSurvey

/-- `keys` are the different texts among `texts`, in the order of their first appearance. -/
structure IsDistinctOf (texts keys : List String) : Prop where
  mem_iff : ∀ t, t ∈ keys ↔ t ∈ texts
  ordered : keys.Pairwise fun a b => texts.idxOf a < texts.idxOf b

theorem IsDistinctOf.nodup {texts keys : List String} (h : IsDistinctOf texts keys) :
    keys.Nodup :=
  h.ordered.imp fun hlt he => by simp [he] at hlt

/-- A further text is new, and comes last, or changes nothing. -/
theorem eraseDups_concat (texts : List String) (t : String) :
    (texts ++ [t]).eraseDups = if t ∈ texts then texts.eraseDups else texts.eraseDups ++ [t] := by
  rw [List.eraseDups_append]
  by_cases h : t ∈ texts <;> simp [List.removeAll, List.eraseDups_cons, h]

theorem isDistinctOf_eraseDups (texts : List String) : IsDistinctOf texts texts.eraseDups := by
  refine ⟨fun t => List.mem_eraseDups, ?_⟩
  induction texts using List.reverseRecOn with
  | nil => simp
  | append_singleton texts t ih =>
    have hold : ∀ a, a ∈ texts → (texts ++ [t]).idxOf a = texts.idxOf a := fun a ha =>
      List.idxOf_append_of_mem ha
    have hkept : texts.eraseDups.Pairwise
        fun a b => (texts ++ [t]).idxOf a < (texts ++ [t]).idxOf b := by
      refine ih.imp_of_mem fun {a b} ha hb hlt => ?_
      rwa [hold a (List.mem_eraseDups.1 ha), hold b (List.mem_eraseDups.1 hb)]
    rw [eraseDups_concat]
    by_cases h : t ∈ texts
    · rwa [if_pos h]
    · rw [if_neg h, List.pairwise_append]
      refine ⟨hkept, List.pairwise_singleton _ _, fun a ha b hb => ?_⟩
      obtain rfl := List.mem_singleton.1 hb
      have ha := List.mem_eraseDups.1 ha
      rw [hold a ha, List.idxOf_append_of_notMem h]
      have := List.idxOf_lt_length_of_mem ha
      omega

/-! ## Values by key -/

namespace Index

variable {α : Type} {key : String} {value : α}

theorem get?_ofPairs_of_nodup {pairs : List (String × α)} (hn : (pairs.map (·.1)).Nodup) :
    (ofPairs pairs).get? key = some value ↔ (key, value) ∈ pairs := by
  rw [get?_ofPairs, List.lookup_eq_some_iff]
  constructor
  · rintro ⟨front, behind, he, -⟩
    rw [← List.mem_reverse, he]
    simp
  · intro h
    obtain ⟨front, behind, he⟩ := List.append_of_mem (List.mem_reverse.2 h)
    refine ⟨front, behind, he, fun p hp => ?_⟩
    rw [← List.nodup_reverse, ← List.map_reverse, he, List.map_append, List.nodup_append] at hn
    have hne : p.1 ≠ key := hn.2.2 p.1 (List.mem_map_of_mem hp) key (by simp)
    simpa using hne.symm

/-- Keys and values are put together place by place, as far as there are both. -/
theorem get?_zip {keys : List String} (hn : keys.Nodup) (values : List α) :
    (ofPairs (keys.zip values)).get? key = some value ↔
      ∃ k : Nat, keys[k]? = some key ∧ values[k]? = some value := by
  have hkeys : ((keys.zip values).map (·.1)).Nodup := by
    rw [List.zip_eq_zip_take_min, List.map_fst_zip (by simp)]
    exact hn.sublist (List.take_sublist _ _)
  rw [get?_ofPairs_of_nodup hkeys, List.mem_iff_getElem?]
  simp only [List.getElem?_zip_eq_some]

end Index

end PriceSurvey
