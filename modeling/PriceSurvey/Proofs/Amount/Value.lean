import PriceSurvey.Amount.Value
import PriceSurvey.Proofs.Amount.Finding
import PriceSurvey.Proofs.Decimal.Reading

/-!
# The value of an amount

Without its separators an amount is digits with at most one point among them, so it has a value
exactly if its digits are ASCII digits.

Results:
* `value_eq`: the value is the decimal of all the digits, its scale the number of decimals.
* `value_eq_error_iff`: the one fault there is, and when it arises.
-/
namespace PriceSurvey.Amount

open Text

/-! ## Digits -/

/-- The digits before the decimal mark. -/
def whole (a : Amount) : List Char := a.numerals.flatMap Numeral.whole

/-- The digits behind the decimal mark. -/
def decimals (a : Amount) : List Char := a.last.tail.tail

/-- All the digits in order. -/
def digits (a : Amount) : List Char := a.whole ++ a.decimals

theorem last_mem_numerals (a : Amount) : a.last ∈ a.numerals := by
  rw [numerals_eq]; simp

theorem whole_ne_nil {a : Amount} (h : a.IsProper) : a.whole ≠ [] := by
  have hhead := (h.numeral a.head List.mem_cons_self).whole_ne_nil
  simp [whole, numerals, hhead]

theorem isDigit_of_mem_whole {a : Amount} (h : a.IsProper) : ∀ c ∈ a.whole, isDigit c = true := by
  intro c hc
  obtain ⟨t, ht, hc⟩ := List.mem_flatMap.1 hc
  exact (h.numeral t ht).whole c hc

theorem isDigit_of_mem_decimals {a : Amount} (h : a.IsProper) :
    ∀ c ∈ a.decimals, isDigit c = true := by
  intro c hc
  rw [decimals] at hc
  rcases (h.numeral a.last a.last_mem_numerals).tail with ht | ⟨mark, ds, ht, -, -, -, hd⟩
  · rw [ht] at hc; cases hc
  · rw [ht] at hc; exact hd c hc

/-! ## Without separators -/

theorem clean_append (s t : List Char) : clean (s ++ t) = clean s ++ clean t := by simp [clean]

theorem clean_digits {cs : List Char} (h : ∀ c ∈ cs, isDigit c = true) : clean cs = cs := by
  have hkeep : ∀ c ∈ cs, (!isBlank c && decide (c ≠ '\'')) = true := fun c hc => by
    simp [isBlank_of_isDigit (h c hc), ne_of_isDigit (h c hc) (show isDigit '\'' = false by decide)]
  have hsame : ∀ c ∈ cs, (if c = ',' then '.' else c) = c := fun c hc =>
    if_neg (ne_of_isDigit (h c hc) (by decide))
  rw [clean, List.filter_eq_self.2 hkeep]
  exact (List.map_congr_left hsame).trans (List.map_id' _)

theorem Spacing.eq_of_canJoin {gap : List Char} (h : (Spacing.ofText gap).canJoin = true) :
    gap = ['\''] ∨ gap = [' '] ∨ gap = ['\u00a0'] := by
  simp only [Spacing.ofText] at h
  split at h
  · next h1 => exact Or.inl h1
  · split at h
    · next h1 => exact Or.inr h1
    · split at h <;> cases h

theorem clean_separator {gap : List Char} (h : (Spacing.ofText gap).canJoin = true) :
    clean gap = [] := by
  rcases Spacing.eq_of_canJoin h with rfl | rfl | rfl <;> decide

/-- What is left of a decimal tail: a point and the digits. -/
def pointed : List Char → List Char
  | [] => []
  | _ :: places => '.' :: places

theorem clean_numeral {t : Numeral} (h : t.IsProper) : clean t.text = t.whole ++ pointed t.tail := by
  rw [Numeral.text, clean_append, clean_digits h.whole]
  rcases h.tail with ht | ⟨mark, ds, ht, hm, -, -, hd⟩
  · rw [ht]; rfl
  · have hmark : clean [mark] = ['.'] := by rcases hm with rfl | rfl <;> decide
    rw [ht, ← List.singleton_append, clean_append, hmark, clean_digits hd]
    rfl

/-- If only the last of some numbers has decimals, its decimals are behind all their digits. -/
theorem flatMap_pointed {ts : List Numeral} (h : ∀ t ∈ ts, t.tail = []) (last : Numeral) :
    (ts ++ [last]).flatMap (fun t => t.whole ++ pointed t.tail) =
      (ts ++ [last]).flatMap Numeral.whole ++ pointed last.tail := by
  induction ts with
  | nil => simp
  | cons t ts ih =>
    have ht : pointed t.tail = [] := by rw [h t List.mem_cons_self]; rfl
    rw [List.cons_append, List.flatMap_cons, ih fun u hu => h u (List.mem_cons_of_mem _ hu), ht]
    simp

theorem clean_text {a : Amount} (h : a.IsProper) : clean a.text = a.whole ++ pointed a.last.tail := by
  have hgroups : ∀ gs : List (List Char × Numeral), (∀ g ∈ gs, g ∈ a.groups) →
      clean (gs.flatMap fun g => g.1 ++ g.2.text) =
        (gs.map (·.2)).flatMap fun t => t.whole ++ pointed t.tail := by
    intro gs
    induction gs with
    | nil => intro _; rfl
    | cons g gs ih =>
      intro hm
      have hg := hm g List.mem_cons_self
      have hproper := h.numeral g.2 (List.mem_cons_of_mem _ (List.mem_map_of_mem (f := (·.2)) hg))
      rw [List.flatMap_cons, List.map_cons, List.flatMap_cons, clean_append, clean_append,
        clean_separator (h.grouped.gap g hg), clean_numeral hproper,
        ih fun g' hg' => hm g' (List.mem_cons_of_mem _ hg')]
      rfl
  have hall : clean a.text = a.numerals.flatMap fun t => t.whole ++ pointed t.tail := by
    have htext : a.text = a.head.text ++ a.groups.flatMap fun g => g.1 ++ g.2.text := rfl
    rw [htext, clean_append, clean_numeral (h.numeral a.head List.mem_cons_self),
      hgroups a.groups fun _ hg => hg]
    rfl
  rw [hall, whole, numerals_eq, flatMap_pointed h.grouped.decimal]

/-! ## The value -/

/-- The value is the decimal of all the digits, at the scale of the decimals. -/
theorem value_eq {a : Amount} (h : a.IsProper) :
    a.value =
      if a.digits.all isAsciiDigit then .ok ⟨Integer.ofDigits a.digits, a.decimals.length⟩
      else .error (.digits .badDigit) := by
  rw [value, read, clean_text h]
  cases ht : a.last.tail with
  | nil =>
    have hd : a.decimals = [] := by rw [decimals, ht]; rfl
    rw [digits, hd, pointed, List.append_nil,
      Decimal.read_digits (whole_ne_nil h) (isDigit_of_mem_whole h)]
    rfl
  | cons mark places =>
    have hd : a.decimals = places := by rw [decimals, ht]; rfl
    rw [digits, hd, pointed, Decimal.read_digits_point (whole_ne_nil h) (isDigit_of_mem_whole h)
      (hd ▸ isDigit_of_mem_decimals h)]

/-! ## When there is none -/

theorem mem_clean {c : Char} (hc : isDigit c = true) {cs : List Char} : c ∈ clean cs ↔ c ∈ cs := by
  simp only [clean, List.mem_map, List.mem_filter]
  constructor
  · rintro ⟨d, ⟨hd, -⟩, rfl⟩
    by_cases hcomma : d = ','
    · rw [if_pos hcomma] at hc
      exact absurd hc (by decide)
    · rwa [if_neg hcomma]
  · intro h
    refine ⟨c, ⟨h, ?_⟩, if_neg (ne_of_isDigit hc (by decide))⟩
    simp [isBlank_of_isDigit hc, ne_of_isDigit hc (show isDigit '\'' = false by decide)]

/-- The digits of an amount are the digits in its text. -/
theorem mem_digits {a : Amount} (h : a.IsProper) {c : Char} :
    c ∈ a.digits ↔ c ∈ a.text ∧ isDigit c = true := by
  have hdigit : c ∈ a.digits → isDigit c = true := fun hc =>
    (List.mem_append.1 hc).elim (isDigit_of_mem_whole h c) (isDigit_of_mem_decimals h c)
  have htail : isDigit c = true → (c ∈ pointed a.last.tail ↔ c ∈ a.decimals) := by
    intro hc
    rw [decimals]
    cases a.last.tail with
    | nil => exact Iff.rfl
    | cons mark places => simp [pointed, ne_of_isDigit hc (show isDigit '.' = false by decide)]
  constructor
  · intro hc
    refine ⟨(mem_clean (hdigit hc)).1 ?_, hdigit hc⟩
    rw [clean_text h, List.mem_append, htail (hdigit hc), ← List.mem_append]
    exact hc
  · rintro ⟨hc, hd⟩
    rw [← mem_clean hd, clean_text h, List.mem_append, htail hd, ← List.mem_append] at hc
    exact hc

/-- The one fault of an amount is a digit of another script than ASCII. -/
theorem value_eq_error_iff {a : Amount} (h : a.IsProper) {fault : Decimal.Fault} :
    a.value = .error fault ↔
      fault = .digits .badDigit ∧ ∃ c ∈ a.text, isDigit c = true ∧ 128 ≤ c.toNat := by
  have hall : (∃ c ∈ a.text, isDigit c = true ∧ 128 ≤ c.toNat) ↔
      ¬a.digits.all isAsciiDigit = true := by
    rw [List.all_eq_true]
    constructor
    · rintro ⟨c, hc, hd, hlt⟩ hascii
      have := hascii c ((mem_digits h).2 ⟨hc, hd⟩)
      simp only [isAsciiDigit, Bool.and_eq_true, decide_eq_true_eq] at this
      omega
    · intro hn
      simp only [not_forall] at hn
      obtain ⟨c, hc, hn⟩ := hn
      obtain ⟨ht, hd⟩ := (mem_digits h).1 hc
      refine ⟨c, ht, hd, ?_⟩
      simpa [isAsciiDigit, hd] using hn
  rw [hall, value_eq h]
  split
  · next hd => simp [hd]
  · next hd =>
    rw [Except.error.injEq, eq_comm]
    exact (and_iff_left hd).symm

end PriceSurvey.Amount
