import PriceSurvey.Text.Class

/-!
# Trimming and splitting at blanks

* `trim_idem`: a trimmed text stays as it is.
* `lastWord?_eq_some`: a text split before its last word is put together again by the blank
  between the parts.
-/
namespace PriceSurvey.Text

/-- The text without the blanks at its end. -/
def trimEnd (cs : List Char) : List Char := (cs.reverse.dropWhile isBlank).reverse

/-- The text without the blanks at either end. -/
def trim (cs : List Char) : List Char := trimEnd (cs.dropWhile isBlank)

/-- The trimmed text, unless nothing is left of it. -/
def nonBlank? (cs : List Char) : Option (List Char) :=
  match trim cs with
  | [] => none
  | c :: rest => some (c :: rest)

/-- Splits at the last blank: what stands before that blank, and what follows it. A text without
blanks is not split. -/
def lastWord? (cs : List Char) : Option (List Char × List Char) :=
  match cs.reverse.dropWhile (fun c => !isBlank c) with
  | [] => none
  | _ :: head => some (head.reverse, (cs.reverse.takeWhile fun c => !isBlank c).reverse)

/-- Bytes that the text takes in UTF-8. -/
def byteLength : List Char → Nat
  | [] => 0
  | c :: cs => c.utf8Size + byteLength cs

@[simp] theorem byteLength_nil : byteLength [] = 0 := rfl

@[simp] theorem byteLength_append (a b : List Char) :
    byteLength (a ++ b) = byteLength a + byteLength b := by
  induction a with
  | nil => simp
  | cons c a ih => simp [byteLength, ih, Nat.add_assoc]

theorem trimEnd_eq (cs : List Char) : ∃ bs, cs = trimEnd cs ++ bs ∧ ∀ c ∈ bs, isBlank c = true := by
  refine ⟨(cs.reverse.takeWhile isBlank).reverse, ?_, ?_⟩
  · rw [trimEnd, ← List.reverse_append, List.takeWhile_append_dropWhile, List.reverse_reverse]
  · intro c hc
    exact List.all_eq_true.1 (List.all_takeWhile (l := cs.reverse) (p := isBlank)) c
      (List.mem_reverse.1 hc)

/-! ## Trimmed texts -/

/-- No blank stands at either end. -/
def IsTrimmed (cs : List Char) : Prop :=
  (∀ c ∈ cs.head?, isBlank c = false) ∧ ∀ c ∈ cs.getLast?, isBlank c = false

theorem head?_dropWhile_isBlank (cs : List Char) :
    ∀ c ∈ (cs.dropWhile isBlank).head?, isBlank c = false := by
  induction cs with
  | nil => simp
  | cons d rest ih =>
    by_cases h : isBlank d = true
    · simpa [h] using ih
    · simp [h]

theorem trimEnd_eq_self {cs : List Char} (h : ∀ c ∈ cs.getLast?, isBlank c = false) :
    trimEnd cs = cs := by
  cases hr : cs.reverse with
  | nil => simp [trimEnd, List.reverse_eq_nil_iff.1 hr]
  | cons d rest =>
    have hd : isBlank d = false := h d (by simp [← List.head?_reverse, hr])
    rw [trimEnd, hr, List.dropWhile_cons, if_neg (by simp [hd]), ← hr, List.reverse_reverse]

theorem isTrimmed_trim (cs : List Char) : IsTrimmed (trim cs) := by
  constructor
  · intro c hc
    obtain ⟨bs, hbs, _⟩ := trimEnd_eq (cs.dropWhile isBlank)
    have hhead := head?_dropWhile_isBlank cs c
    rw [hbs] at hhead
    exact hhead (by rw [List.head?_append]; simp [trim] at hc; simp [hc])
  · intro c hc
    rw [trim, trimEnd, List.getLast?_reverse] at hc
    exact head?_dropWhile_isBlank _ c hc

theorem trim_eq_self {cs : List Char} (h : IsTrimmed cs) : trim cs = cs := by
  have hd : cs.dropWhile isBlank = cs := by
    cases cs with
    | nil => rfl
    | cons d rest => simp [h.1 d (by simp)]
  rw [trim, hd, trimEnd_eq_self h.2]

theorem trim_idem (cs : List Char) : trim (trim cs) = trim cs := trim_eq_self (isTrimmed_trim cs)

/-! ## The last word -/

theorem lastWord?_eq_some {cs head word : List Char} (h : lastWord? cs = some (head, word)) :
    ∃ b, isBlank b = true ∧ cs = head ++ b :: word := by
  rw [lastWord?] at h
  split at h
  · cases h
  · next b front hb =>
    simp only [Option.some.injEq, Prod.mk.injEq] at h
    obtain ⟨rfl, rfl⟩ := h
    refine ⟨b, ?_, ?_⟩
    · have := List.head?_dropWhile_not (fun c => !isBlank c) cs.reverse
      simpa [hb] using this
    · have hcs : _ ++ cs.reverse.dropWhile (fun c => !isBlank c) = cs.reverse :=
        List.takeWhile_append_dropWhile
      rw [hb] at hcs
      simpa using (congrArg List.reverse hcs).symm

end PriceSurvey.Text
