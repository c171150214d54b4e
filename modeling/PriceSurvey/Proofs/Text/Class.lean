import PriceSurvey.Decimal.Integer
import PriceSurvey.Text.Class

/-!
# Classes that share no character

Two classes given by ranges share no character if no range of one meets a range of the other, which
can be computed. Digits, blanks, signs and word characters are told apart that way. A class lies
within another one if each of its ranges lies within one of the other's.

* `isBlank_of_isDigit`, `isSign_of_isDigit`, `isWord_of_isBlank`: classes without a common
  character.
* `isWord_of_isDigit`: a class within another.
* `isAsciiDigit_iff`: the decimal digits below 128 are those with a value.
-/
namespace PriceSurvey.Text

/-! ## Ranges -/

theorem Ranges.exists_of_has {r : Ranges} {n : Nat} (h : r.has n = true) :
    ∃ p ∈ r, p.1 ≤ n ∧ n ≤ p.2 := by
  induction r with
  | nil => cases h
  | cons p rest ih =>
    simp only [has, Bool.and_eq_true, Bool.or_eq_true, decide_eq_true_eq] at h
    obtain ⟨h1, h2 | h2⟩ := h
    · exact ⟨p, List.mem_cons_self, h1, h2⟩
    · obtain ⟨q, hq, h3⟩ := ih h2
      exact ⟨q, List.mem_cons_of_mem _ hq, h3⟩

/-- No range of one meets a range of the other, seen by going along both at once. -/
def Ranges.apart : Ranges → Ranges → Bool
  | [], _ => true
  | _, [] => true
  | (lo, hi) :: r, (lo', hi') :: s =>
    if hi < lo' then Ranges.apart r ((lo', hi') :: s)
    else decide (hi' < lo) && Ranges.apart ((lo, hi) :: r) s
  termination_by r s => r.length + s.length

theorem Ranges.has_eq_false {r s : Ranges} (h : r.apart s = true) {n : Nat} (hn : r.has n = true) :
    s.has n = false := by
  fun_induction Ranges.apart r s with
  | case1 => cases hn
  | case2 => rfl
  | case3 lo hi r lo' hi' s hlt ih =>
    simp only [has, Bool.and_eq_true, Bool.or_eq_true, decide_eq_true_eq] at hn
    obtain ⟨h1, h2 | h2⟩ := hn
    · have : ¬lo' ≤ n := by omega
      simp [has, this]
    · exact ih h h2
  | case4 lo hi r lo' hi' s hlt ih =>
    simp only [Bool.and_eq_true, decide_eq_true_eq] at h
    have hle : lo ≤ n := by
      simp only [has, Bool.and_eq_true, decide_eq_true_eq] at hn
      exact hn.1
    have : ¬n ≤ hi' := by omega
    simp [has, this, ih h.2 hn]

/-- Every range of the one lies within a range of the other, seen by going along both at once. -/
def Ranges.within : Ranges → Ranges → Bool
  | [], _ => true
  | _ :: _, [] => false
  | (lo, hi) :: r, (lo', hi') :: s =>
    if hi' < lo then decide (lo' ≤ lo) && Ranges.within ((lo, hi) :: r) s
    else decide (lo' ≤ lo ∧ hi ≤ hi') && Ranges.within r ((lo', hi') :: s)
  termination_by r s => r.length + s.length

theorem Ranges.has_of_within {r s : Ranges} (h : r.within s = true) {n : Nat}
    (hn : r.has n = true) : s.has n = true := by
  fun_induction Ranges.within r s with
  | case1 => cases hn
  | case2 => cases h
  | case3 lo hi r lo' hi' s hlt ih =>
    simp only [Bool.and_eq_true, decide_eq_true_eq] at h
    have hle : lo ≤ n := by
      simp only [has, Bool.and_eq_true, decide_eq_true_eq] at hn
      exact hn.1
    simp only [has, Bool.and_eq_true, Bool.or_eq_true, decide_eq_true_eq]
    exact ⟨Nat.le_trans h.1 hle, Or.inr (ih h.2 hn)⟩
  | case4 lo hi r lo' hi' s hlt ih =>
    simp only [Bool.and_eq_true, decide_eq_true_eq] at h
    obtain ⟨hends, hrest⟩ := h
    simp only [has, Bool.and_eq_true, Bool.or_eq_true, decide_eq_true_eq] at hn
    obtain ⟨h1, h2 | h2⟩ := hn
    · have hin : lo' ≤ n ∧ n ≤ hi' := by omega
      simp [has, hin]
    · exact ih hrest h2

/-! ## Going along a text

Whether all characters of a text have a property, or one of them, is seen from the text. That must
come before the search through all the characters there are.
-/

instance (priority := high) decidableForallMemText (cs : List Char) (p : Char → Prop)
    [DecidablePred p] : Decidable (∀ c ∈ cs, p c) := List.decidableBAll p cs

instance (priority := high) decidableExistsMemText (cs : List Char) (p : Char → Prop)
    [DecidablePred p] : Decidable (∃ c ∈ cs, p c) := List.decidableBEx p cs

instance (priority := high) decidableForallMemFirst (c? : Option Char) (p : Char → Prop)
    [DecidablePred p] : Decidable (∀ c ∈ c?, p c) := Option.decidableForallMem c?

/-! ## Digits, blanks, signs and marks -/

theorem isBlank_of_isDigit {c : Char} (h : isDigit c = true) : isBlank c = false :=
  Ranges.has_eq_false (r := digitRanges) (by decide +kernel) h

theorem isSign_of_isDigit {c : Char} (h : isDigit c = true) : isSign c = false :=
  Ranges.has_eq_false (r := digitRanges) (by decide +kernel) h

theorem isWord_of_isBlank {c : Char} (h : isBlank c = true) : isWord c = false :=
  Ranges.has_eq_false (r := blankRanges) (by decide +kernel) h

theorem isBlank_of_isMark {c : Char} (h : isMark c = true) : isBlank c = false :=
  Ranges.has_eq_false (r := markRanges) (by decide +kernel) h

theorem isDigit_of_isBlank {c : Char} (h : isBlank c = true) : isDigit c = false := by
  cases hd : isDigit c with
  | false => rfl
  | true => rw [isBlank_of_isDigit hd] at h; cases h

theorem isWord_of_isDigit {c : Char} (h : isDigit c = true) : isWord c = true :=
  Ranges.has_of_within (r := digitRanges) (by decide +kernel) h

theorem isDigit_of_not_isWord {c : Char} (h : isWord c = false) : isDigit c = false := by
  cases hd : isDigit c with
  | false => rfl
  | true => rw [isWord_of_isDigit hd] at h; cases h

/-- A digit is none of the characters that are no digit. -/
theorem ne_of_isDigit {c d : Char} (h : isDigit c = true) (hd : isDigit d = false) : c ≠ d := by
  rintro rfl; rw [h] at hd; cases hd

/-! ## ASCII digits -/

/-- A decimal digit of ASCII. -/
def isAsciiDigit (c : Char) : Bool := isDigit c && decide (c.toNat < 128)

theorem isDigit_of_isAsciiDigit {c : Char} (h : isAsciiDigit c = true) : isDigit c = true := by
  simp only [isAsciiDigit, Bool.and_eq_true] at h
  exact h.1

/-- The digits with a value are those of ASCII. -/
theorem isAsciiDigit_iff {c : Char} : isAsciiDigit c = true ↔ (Integer.digit? c).isSome = true := by
  have hsome : (Integer.digit? c).isSome = true ↔ 0x30 ≤ c.toNat ∧ c.toNat ≤ 0x39 := by
    have hle : '0' ≤ c ∧ c ≤ '9' ↔ 0x30 ≤ c.toNat ∧ c.toNat ≤ 0x39 := by
      simp only [Char.le_def, UInt32.le_iff_toNat_le]; rfl
    rw [← hle, Integer.digit?]
    split <;> simp_all
  rw [hsome, isAsciiDigit, Bool.and_eq_true, decide_eq_true_eq]
  constructor
  · rintro ⟨hd, hlt⟩
    obtain ⟨p, hp, h1, h2⟩ := Ranges.exists_of_has hd
    have hrange : ∀ p ∈ digitRanges, p = (0x30, 0x39) ∨ 128 ≤ p.1 := by decide +kernel
    rcases hrange p hp with rfl | h
    · exact ⟨h1, h2⟩
    · omega
  · rintro ⟨h1, h2⟩
    refine ⟨?_, by omega⟩
    simp [isDigit, digitRanges, Ranges.has, h1, h2]

end PriceSurvey.Text
