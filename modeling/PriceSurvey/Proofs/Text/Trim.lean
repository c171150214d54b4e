import Mathlib.Data.List.Basic
import PriceSurvey.Proofs.Text.Class
import PriceSurvey.Text.Trim

/-!
# Trimmed texts and their parts

Results:
* `isTrimmed_append`, `IsTrimmed.append`, `isTrimmed_intercalate`: texts made of trimmed texts are
  trimmed.
* `trim_append`: blanks behind a trimmed text are trimmed off.
* `head?_trim`: a text that starts with no blank still starts so when it is trimmed.
* `lastWord?_append`, `lastWord?_eq_some_iff`: the last word of a text is found behind its last
  blank.
-/
namespace PriceSurvey.Text

instance (cs : List Char) : Decidable (IsTrimmed cs) := inferInstanceAs (Decidable (_ ∧ _))

theorem nonBlank?_eq_some {cs d : List Char} (h : nonBlank? cs = some d) :
    d ≠ [] ∧ IsTrimmed d := by
  unfold nonBlank? at h
  split at h
  · cases h
  · next c rest he =>
    cases h
    exact ⟨List.cons_ne_nil c rest, he ▸ isTrimmed_trim cs⟩

theorem nonBlank?_eq {cs d : List Char} (h : trim cs = d) (hne : d ≠ []) :
    nonBlank? cs = some d := by
  obtain ⟨c, rest, rfl⟩ := List.exists_cons_of_ne_nil hne
  rw [nonBlank?, h]

/-- Trimmed texts with anything between them are a trimmed text. -/
theorem IsTrimmed.append {s t : List Char} (hs : IsTrimmed s) (hne : s ≠ []) (ht : IsTrimmed t)
    (hne' : t ≠ []) (between : List Char) : IsTrimmed (s ++ between ++ t) := by
  obtain ⟨c, s, rfl⟩ := List.exists_cons_of_ne_nil hne
  constructor
  · intro d hd
    exact hs.1 d (by simpa using hd)
  · intro d hd
    rw [List.getLast?_append_of_ne_nil _ hne'] at hd
    exact ht.2 d hd

theorem isTrimmed_append {s t : List Char} (hs : IsTrimmed s) (ht : IsTrimmed t) :
    IsTrimmed (s ++ t) := by
  by_cases hs' : s = []
  · simpa [hs'] using ht
  by_cases ht' : t = []
  · simpa [ht'] using hs
  simpa using hs.append hs' ht ht' []

theorem isTrimmed_intercalate {ts : List (List Char)} (h : ∀ t ∈ ts, t ≠ [] ∧ IsTrimmed t)
    (between : List Char) : IsTrimmed (between.intercalate ts) := by
  induction ts with
  | nil => simp [IsTrimmed]
  | cons t ts ih =>
    obtain ⟨hne, ht⟩ := h t List.mem_cons_self
    cases ts with
    | nil => simpa using ht
    | cons t' ts =>
      have hne' := (h t' (by simp)).1
      have hrest := ih fun u hu => h u (List.mem_cons_of_mem _ hu)
      rw [List.intercalate_cons_cons]
      refine ht.append hne hrest ?_ between
      cases ts <;> simp [List.intercalate_cons_cons, hne']

theorem isTrimmed_of_not_blank {cs : List Char} (h : ∀ c ∈ cs, isBlank c = false) :
    IsTrimmed cs :=
  ⟨fun c hc => h c (List.mem_of_mem_head? hc), fun c hc => h c (List.mem_of_mem_getLast? hc)⟩

theorem mem_of_mem_trim {cs : List Char} {c : Char} (h : c ∈ trim cs) : c ∈ cs := by
  rw [trim, trimEnd, List.mem_reverse] at h
  have hend := (List.dropWhile_sublist _).mem h
  exact (List.dropWhile_sublist _).mem (List.mem_reverse.1 hend)

theorem trim_append {cs bs : List Char} (h : IsTrimmed cs) (hne : cs ≠ [])
    (hb : ∀ c ∈ bs, isBlank c = true) : trim (cs ++ bs) = cs := by
  obtain ⟨c, rest, rfl⟩ := List.exists_cons_of_ne_nil hne
  have hc : isBlank c = false := h.1 c rfl
  have hrev : ∀ d ∈ bs.reverse, isBlank d = true := fun d hd => hb d (List.mem_reverse.1 hd)
  have hself : trimEnd (c :: rest) = c :: rest := trimEnd_eq_self h.2
  rw [trim, List.cons_append, List.dropWhile_cons_of_neg (by simp [hc]), ← List.cons_append,
    trimEnd, List.reverse_append, List.dropWhile_append_of_pos hrev]
  exact hself

theorem lastWord?_append {word : List Char} (h : ∀ c ∈ word, isBlank c = false)
    (head : List Char) {b : Char} (hb : isBlank b = true) :
    lastWord? (head ++ b :: word) = some (head, word) := by
  have hword : ∀ c ∈ word.reverse, (!isBlank c) = true := fun c hc => by
    simp [h c (List.mem_reverse.1 hc)]
  have hrev : (head ++ b :: word).reverse = word.reverse ++ b :: head.reverse := by simp
  rw [lastWord?, hrev, List.dropWhile_append_of_pos hword, List.takeWhile_append_of_pos hword]
  simp [hb]

/-- The last word has no blank in it, and one stands before it. -/
theorem lastWord?_eq_some_iff {cs head word : List Char} :
    lastWord? cs = some (head, word) ↔
      ∃ b, isBlank b = true ∧ cs = head ++ b :: word ∧ ∀ c ∈ word, isBlank c = false := by
  constructor
  · intro h
    obtain ⟨b, hb, hcs⟩ := lastWord?_eq_some h
    refine ⟨b, hb, hcs, fun c hc => ?_⟩
    rw [lastWord?] at h
    split at h
    · cases h
    · simp only [Option.some.injEq, Prod.mk.injEq] at h
      obtain ⟨-, rfl⟩ := h
      simpa using List.all_eq_true.1 (List.all_takeWhile (l := cs.reverse)) c (List.mem_reverse.1 hc)
  · rintro ⟨b, hb, rfl, hword⟩
    exact lastWord?_append hword head hb

theorem head?_trim {cs : List Char} (h : ∀ c ∈ cs.head?, isBlank c = false) :
    (trim cs).head? = cs.head? := by
  cases cs with
  | nil => rfl
  | cons c rest =>
    have hc : isBlank c = false := h c rfl
    have hdrop : (c :: rest).dropWhile isBlank = c :: rest := by simp [hc]
    obtain ⟨bs, hbs, hblank⟩ := trimEnd_eq (c :: rest)
    rw [trim, hdrop]
    cases hend : trimEnd (c :: rest) with
    | nil =>
      rw [hend, List.nil_append] at hbs
      rw [hblank c (hbs ▸ List.mem_cons_self)] at hc
      cases hc
    | cons d more =>
      rw [hend, List.cons_append] at hbs
      rw [(List.cons.inj hbs).1]
      rfl

end PriceSurvey.Text
