import Mathlib.Data.List.TakeWhile
import PriceSurvey.Proofs.Text.Trim

/-!
# Words

The words of a text are what stands between its blanks, as long as there is anything. A blank keeps
what stands before it apart from what follows it, so the words of a text are those on its left and
then those on its right. A trimmed text with a blank in it has words on both sides of the blank:
that is why its last word is not its only one.

Results:
* `exists_blanks_trim`: trimming takes blanks off both ends and nothing else.
* `words_append_gap`: blanks between two texts keep their words apart.
* `lastWord?_trimmed_iff`: a trimmed text is split exactly if it has several words, and before the
  last of them.
* `IsTrimmed.exists_gap`: what stands before the last word is a trimmed text with blanks behind it.
-/
namespace PriceSurvey.Text

/-! ## Blanks at the ends -/

/-- A text is its trimmed form with blanks before and behind it. -/
theorem exists_blanks_trim (cs : List Char) : ∃ front back, (∀ c ∈ front, isBlank c = true) ∧
    (∀ c ∈ back, isBlank c = true) ∧ cs = front ++ trim cs ++ back := by
  obtain ⟨back, hback, hblank⟩ := trimEnd_eq (cs.dropWhile isBlank)
  refine ⟨cs.takeWhile isBlank, back, fun c hc => ?_, hblank, ?_⟩
  · exact List.all_eq_true.1 List.all_takeWhile c hc
  · calc cs = cs.takeWhile isBlank ++ cs.dropWhile isBlank :=
          List.takeWhile_append_dropWhile.symm
      _ = cs.takeWhile isBlank ++ (trim cs ++ back) := congrArg _ hback
      _ = cs.takeWhile isBlank ++ trim cs ++ back := (List.append_assoc ..).symm

theorem nonBlank?_eq_none_iff {cs : List Char} : nonBlank? cs = none ↔ trim cs = [] := by
  unfold nonBlank?
  split <;> simp [*]

/-! ## The words of a text -/

/-- The words of a text: what stands between its blanks, without the empty parts. -/
def words (cs : List Char) : List (List Char) := (cs.splitOnP isBlank).filter (!·.isEmpty)

theorem words_append_cons (cs rest : List Char) {b : Char} (hb : isBlank b = true) :
    words (cs ++ b :: rest) = words cs ++ words rest := by
  unfold words
  rw [List.splitOnP_append_cons cs rest hb, List.filter_append]

theorem words_blanks_append {front : List Char} (h : ∀ c ∈ front, isBlank c = true)
    (cs : List Char) : words (front ++ cs) = words cs := by
  induction front with
  | nil => rfl
  | cons b front ih =>
    have hb := words_append_cons [] (front ++ cs) (h b List.mem_cons_self)
    exact hb.trans (ih fun c hc => h c (List.mem_cons_of_mem b hc))

/-- Blanks between two texts keep their words apart. -/
theorem words_append_gap (cs rest : List Char) {gap : List Char} (hne : gap ≠ [])
    (h : ∀ c ∈ gap, isBlank c = true) : words (cs ++ gap ++ rest) = words cs ++ words rest := by
  obtain ⟨b, more, rfl⟩ := List.exists_cons_of_ne_nil hne
  rw [List.append_assoc, List.cons_append, words_append_cons _ _ (h b List.mem_cons_self),
    words_blanks_append fun c hc => h c (List.mem_cons_of_mem b hc)]

/-- A text without blanks is one word. -/
theorem words_eq_singleton {word : List Char} (hne : word ≠ [])
    (h : ∀ c ∈ word, isBlank c = false) : words word = [word] := by
  unfold words
  rw [List.splitOnP_eq_singleton h]
  simp [hne]

theorem words_ne_nil {c : Char} (hc : isBlank c = false) (cs : List Char) :
    words (c :: cs) ≠ [] := by
  obtain ⟨part, parts, hparts⟩ := List.exists_cons_of_ne_nil (List.splitOnP_ne_nil isBlank cs)
  unfold words
  rw [List.splitOnP_cons_eq_if_modifyHead, hc, hparts]
  simp

/-! ## The last word -/

theorem not_blank_of_lastWord?_eq_none {cs : List Char} (h : lastWord? cs = none) :
    ∀ c ∈ cs, isBlank c = false := by
  unfold lastWord? at h
  split at h
  · next hdrop =>
    intro c hc
    have := List.dropWhile_eq_nil_iff.1 hdrop c (List.mem_reverse.2 hc)
    simpa using this
  · cases h

namespace IsTrimmed

variable {head word : List Char} {b : Char}

/-- Something stands on both sides of a blank in a trimmed text. -/
theorem sides_ne_nil (h : IsTrimmed (head ++ b :: word)) (hb : isBlank b = true) :
    head ≠ [] ∧ word ≠ [] := by
  constructor
  · rintro rfl
    have := h.1 b rfl
    simp [hb] at this
  · rintro rfl
    have := h.2 b (by simp)
    simp [hb] at this

theorem exists_cons_head (h : IsTrimmed (head ++ b :: word)) (hb : isBlank b = true) :
    ∃ c rest, head = c :: rest ∧ isBlank c = false := by
  obtain ⟨c, rest, rfl⟩ := List.exists_cons_of_ne_nil (h.sides_ne_nil hb).1
  exact ⟨c, rest, rfl, h.1 c rfl⟩

/-- What stands before a blank in a trimmed text is a trimmed text and further blanks. -/
theorem exists_gap (h : IsTrimmed (head ++ b :: word)) (hb : isBlank b = true) :
    trim head ≠ [] ∧ ∃ gap, gap ≠ [] ∧ (∀ c ∈ gap, isBlank c = true) ∧
      head ++ b :: word = trim head ++ gap ++ word := by
  obtain ⟨c, rest, hhead, hc⟩ := h.exists_cons_head hb
  have hfirst : (trim head).head? = some c := by
    rw [hhead, head?_trim (by simpa using hc), List.head?_cons]
  obtain ⟨front, back, hfront, hback, heq⟩ := exists_blanks_trim head
  -- The text starts with no blank, so there is none to take off there.
  have hnone : front = [] := by
    cases front with
    | nil => rfl
    | cons d front =>
      have hd : d = c := by simpa using (congrArg List.head? (heq.symm.trans hhead))
      rw [← hd, hfront d List.mem_cons_self] at hc
      cases hc
  refine ⟨fun hnil => by simp [hnil] at hfirst, back ++ [b], by simp, fun d hd => ?_, ?_⟩
  · rcases List.mem_append.1 hd with hd | hd
    · exact hback d hd
    · rwa [List.mem_singleton.1 hd]
  · rw [hnone, List.nil_append] at heq
    calc head ++ b :: word = (trim head ++ back) ++ b :: word := by rw [← heq]
      _ = trim head ++ (back ++ [b]) ++ word := by simp

/-- Before the last word of a trimmed text stand all the others, and there are some. -/
theorem words_eq (h : IsTrimmed (head ++ b :: word)) (hb : isBlank b = true)
    (hword : ∀ c ∈ word, isBlank c = false) :
    words (head ++ b :: word) = words head ++ [word] ∧ words head ≠ [] := by
  obtain ⟨c, rest, hhead, hc⟩ := h.exists_cons_head hb
  constructor
  · rw [words_append_cons _ _ hb, words_eq_singleton (h.sides_ne_nil hb).2 hword]
  · rw [hhead]
    exact words_ne_nil hc rest

end IsTrimmed

theorem length_words_of_not_blank {cs : List Char} (h : ∀ c ∈ cs, isBlank c = false) :
    (words cs).length ≤ 1 := by
  cases cs with
  | nil => decide
  | cons c rest =>
    rw [words_eq_singleton (List.cons_ne_nil c rest) h]
    exact Nat.le_refl 1

/-- A trimmed text is split exactly if it has several words, and before the last of them. -/
theorem lastWord?_trimmed_iff {cs word : List Char} (h : IsTrimmed cs) :
    (∃ head, lastWord? cs = some (head, word)) ↔
      2 ≤ (words cs).length ∧ (words cs).getLast? = some word := by
  cases hsplit : lastWord? cs with
  | none =>
    have hlength := length_words_of_not_blank (not_blank_of_lastWord?_eq_none hsplit)
    constructor
    · rintro ⟨head, hnot⟩
      cases hnot
    · rintro ⟨hseveral, -⟩
      omega
  | some parts =>
    obtain ⟨head, last⟩ := parts
    obtain ⟨b, hb, rfl, hlast⟩ := lastWord?_eq_some_iff.1 hsplit
    obtain ⟨hwords, hothers⟩ := h.words_eq hb hlast
    have hseveral : 2 ≤ (words head ++ [last]).length := by
      have := List.length_pos_of_ne_nil hothers
      simp only [List.length_append, List.length_singleton]
      omega
    rw [hwords, List.getLast?_concat]
    simpa using fun _ => hseveral

end PriceSurvey.Text
