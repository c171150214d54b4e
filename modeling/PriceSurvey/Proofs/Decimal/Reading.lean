import Mathlib.Data.List.TakeWhile
import PriceSurvey.Decimal.Written
import PriceSurvey.Proofs.Text.Class

/-!
# Reading decimals written in digits

Digits with a point among them are a decimal exactly if all of them are ASCII digits.

Results:
* `Integer.read_digits`: what decimal digits of any script are as an integer.
* `joinAtPoint_of_no_point`, `joinAtPoint_point`: the digits without the point among them.
* `read_digits`, `read_digits_point`: what they are as a decimal, without and with a point.
-/
namespace PriceSurvey

open Text

/-! ## Integers -/

theorem Integer.digit?_of_isAsciiDigit {c : Char} (h : isAsciiDigit c = true) :
    digit? c = some (c.toNat - '0'.toNat) := by
  have hsome := isAsciiDigit_iff.1 h
  rw [digit?] at hsome ⊢
  split at hsome
  · next hle => rw [if_pos hle]
  · cases hsome

theorem Integer.filterMap_digit? {cs : List Char} (h : ∀ c ∈ cs, isAsciiDigit c = true) :
    cs.filterMap digit? = cs.map fun c => c.toNat - '0'.toNat := by
  induction cs with
  | nil => rfl
  | cons c cs ih =>
    rw [List.filterMap_cons, digit?_of_isAsciiDigit (h c List.mem_cons_self),
      ih fun d hd => h d (List.mem_cons_of_mem _ hd), List.map_cons]

theorem Integer.readDigits_digits {cs : List Char} (hne : cs ≠ [])
    (h : ∀ c ∈ cs, isDigit c = true) :
    readDigits cs =
      if cs.all isAsciiDigit then .ok (ofDigits cs) else .error .badDigit := by
  obtain ⟨c, cs, rfl⟩ := List.exists_cons_of_ne_nil hne
  have hc : c ≠ '_' := ne_of_isDigit (h c List.mem_cons_self) (by decide)
  have hall : ((c :: cs).all fun d => decide (d = '_') || (digit? d).isSome) =
      (c :: cs).all isAsciiDigit := by
    rw [Bool.eq_iff_iff, List.all_eq_true, List.all_eq_true]
    refine forall₂_congr fun d hd => ?_
    have hd' : d ≠ '_' := ne_of_isDigit (h d hd) (by decide)
    simp [hd', isAsciiDigit_iff]
  rw [readDigits]
  · simp only [← hall]
  · exact fun h => hne h
  · rintro rest he
    cases he; exact hc rfl

/-- Digits have no sign. -/
theorem Integer.read_digits {cs : List Char} (hne : cs ≠ []) (h : ∀ c ∈ cs, isDigit c = true) :
    read cs = if cs.all isAsciiDigit then .ok (ofDigits cs : Int) else .error .badDigit := by
  obtain ⟨c, cs', rfl⟩ := List.exists_cons_of_ne_nil hne
  have hminus : c ≠ '-' := ne_of_isDigit (h c List.mem_cons_self) (by decide)
  have hplus : c ≠ '+' := ne_of_isDigit (h c List.mem_cons_self) (by decide)
  rw [read, readDigits_digits hne h]
  · split <;> rfl
  · rintro rest he
    cases he; exact hminus rfl
  · rintro rest he
    cases he; exact hplus rfl

/-! ## Decimals -/

namespace Decimal

/-- A text without the letter of an exponent is its own base. -/
theorem read_of_no_exponent {cs : List Char} (hne : cs ≠ [])
    (h : ∀ c ∈ cs, c ≠ 'e' ∧ c ≠ 'E') :
    read cs = (do
      let n ← (Integer.read (joinAtPoint cs).1).mapError Fault.digits
      return ⟨n, ((joinAtPoint cs).2 : Int) - 0⟩) := by
  have htake : cs.takeWhile (fun c => decide (c ≠ 'e' ∧ c ≠ 'E')) = cs :=
    List.takeWhile_eq_self_iff.2 fun c hc => decide_eq_true (h c hc)
  have hdrop : cs.dropWhile (fun c => decide (c ≠ 'e' ∧ c ≠ 'E')) = [] :=
    List.dropWhile_eq_nil_iff.2 fun c hc => decide_eq_true (h c hc)
  rw [read, htake, hdrop]
  simp [hne, bind, Except.bind]

/-- Without a point, everything is digits. -/
theorem joinAtPoint_of_no_point {cs : List Char} (h : ∀ c ∈ cs, c ≠ '.') :
    joinAtPoint cs = (cs, 0) := by
  have hdrop : cs.dropWhile (· ≠ '.') = [] :=
    List.dropWhile_eq_nil_iff.2 fun c hc => decide_eq_true (h c hc)
  rw [joinAtPoint, hdrop]

/-- The first point is taken out, and what stands behind it is counted. -/
theorem joinAtPoint_point {whole : List Char} (h : ∀ c ∈ whole, c ≠ '.') (places : List Char) :
    joinAtPoint (whole ++ '.' :: places) = (whole ++ places, byteLength places) := by
  have hstop : ∀ c ∈ whole, decide (c ≠ '.') = true := fun c hc => decide_eq_true (h c hc)
  rw [joinAtPoint, List.dropWhile_append_of_pos hstop, List.takeWhile_append_of_pos hstop]
  simp

theorem read_digits {cs : List Char} (hne : cs ≠ []) (h : ∀ c ∈ cs, isDigit c = true) :
    read cs =
      if cs.all isAsciiDigit then .ok ⟨Integer.ofDigits cs, 0⟩
      else .error (.digits .badDigit) := by
  rw [read_of_no_exponent hne fun c hc => ⟨ne_of_isDigit (h c hc) (by decide),
    ne_of_isDigit (h c hc) (by decide)⟩,
    joinAtPoint_of_no_point fun c hc => ne_of_isDigit (h c hc) (by decide),
    Integer.read_digits hne h]
  split <;> rfl

theorem utf8Size_of_isAsciiDigit {c : Char} (h : isAsciiDigit c = true) : c.utf8Size = 1 := by
  simp only [isAsciiDigit, Bool.and_eq_true, decide_eq_true_eq] at h
  have hle : c.val.toNat ≤ 127 := by have := h.2; simp only [Char.toNat] at this; omega
  rw [Char.utf8Size, if_pos (UInt32.le_iff_toNat_le.2 hle)]

theorem byteLength_of_isAsciiDigit {cs : List Char} (h : ∀ c ∈ cs, isAsciiDigit c = true) :
    byteLength cs = cs.length := by
  induction cs with
  | nil => rfl
  | cons c cs ih =>
    have hc := utf8Size_of_isAsciiDigit (h c List.mem_cons_self)
    rw [byteLength, hc, ih fun d hd => h d (List.mem_cons_of_mem _ hd), List.length_cons,
      Nat.add_comm]

theorem read_digits_point {whole places : List Char} (hne : whole ≠ [])
    (hw : ∀ c ∈ whole, isDigit c = true) (hp : ∀ c ∈ places, isDigit c = true) :
    read (whole ++ '.' :: places) =
      if (whole ++ places).all isAsciiDigit then
        .ok ⟨Integer.ofDigits (whole ++ places), places.length⟩
      else .error (.digits .badDigit) := by
  have hall : ∀ c ∈ whole ++ places, isDigit c = true := fun c hc =>
    (List.mem_append.1 hc).elim (hw c) (hp c)
  have hpoint := joinAtPoint_point (fun c hc => ne_of_isDigit (hw c hc) (by decide)) places
  have hexp : ∀ c ∈ whole ++ '.' :: places, c ≠ 'e' ∧ c ≠ 'E' := by
    intro c hc
    rcases List.mem_append.1 hc with hc | hc
    · exact ⟨ne_of_isDigit (hw c hc) (by decide), ne_of_isDigit (hw c hc) (by decide)⟩
    · rcases List.mem_cons.1 hc with rfl | hc
      · decide
      · exact ⟨ne_of_isDigit (hp c hc) (by decide), ne_of_isDigit (hp c hc) (by decide)⟩
  rw [read_of_no_exponent (by simp) hexp, hpoint, Integer.read_digits (by simp [hne]) hall]
  split
  · next hascii =>
    -- A digit of ASCII takes one byte, so the scale counts the places.
    have hplaces : byteLength places = places.length := byteLength_of_isAsciiDigit fun c hc =>
      List.all_eq_true.1 hascii c (List.mem_append_right _ hc)
    simp [hplaces, Except.mapError, bind, Except.bind, pure, Except.pure]
  · rfl

end Decimal

end PriceSurvey
