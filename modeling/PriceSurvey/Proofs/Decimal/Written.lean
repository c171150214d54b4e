import PriceSurvey.Proofs.Decimal.Number
import PriceSurvey.Proofs.Decimal.Reading

/-!
# Decimals read back from plain notation

Plain notation keeps digits and scale, up to a negative scale: there the zeros that it writes become
digits, and the number stays what it is.

Results:
* `joinAtPoint_writeMagnitude`, `ofDigits_writtenDigits`: the digits that are written.
* `read_write`: what plain notation is read back as.
* `plain_of_nonneg`, `toRat_plain`: when that is the decimal itself, and that it is its number.
-/
namespace PriceSurvey

open Text

/-! ## Digits of a number -/

theorem isAsciiDigit_of_isDigit {c : Char} (h : c.isDigit = true) : isAsciiDigit c = true := by
  have hrange : '0' ≤ c ∧ c ≤ '9' := by simpa [Char.isDigit, Char.le_def] using h
  rw [isAsciiDigit_iff, Integer.digit?, if_pos hrange]
  rfl

theorem isAsciiDigit_of_mem_toDigits {n : Nat} {c : Char} (h : c ∈ Nat.toDigits 10 n) :
    isAsciiDigit c = true :=
  isAsciiDigit_of_isDigit (Nat.isDigit_of_mem_toDigits (by decide) (by decide) h)

/-- The number that ASCII digits make, digit by digit. -/
theorem Integer.ofDigits_eq_ofDigitChars {cs : List Char} (h : ∀ c ∈ cs, isAsciiDigit c = true) :
    ofDigits cs = Nat.ofDigitChars 10 cs 0 := by
  rw [ofDigits, filterMap_digit? h, List.foldl_map, Nat.ofDigitChars_eq_foldl]

theorem Integer.read_minus {cs : List Char} (hne : cs ≠ [])
    (h : ∀ c ∈ cs, isAsciiDigit c = true) : read ('-' :: cs) = .ok (-(ofDigits cs : Int)) := by
  rw [read, readDigits_digits hne fun c hc => isDigit_of_isAsciiDigit (h c hc),
    if_pos (List.all_eq_true.2 h)]
  rfl

namespace Decimal

/-! ## The digits that are written -/

/-- The digits of plain notation, without its point: those of the number, with zeros in front for
the places that it does not reach, and zeros behind for a negative scale. -/
def writtenDigits (n : Nat) (scale : Int) : List Char :=
  List.replicate (scale.toNat + 1 - (Nat.toDigits 10 n).length) '0' ++ Nat.toDigits 10 n ++
    List.replicate (-scale).toNat '0'

theorem writtenDigits_ne_nil (n : Nat) (scale : Int) : writtenDigits n scale ≠ [] := by
  simp [writtenDigits, Nat.toDigits_ne_nil]

theorem isAsciiDigit_of_mem_writtenDigits {n : Nat} {scale : Int} {c : Char}
    (h : c ∈ writtenDigits n scale) : isAsciiDigit c = true := by
  have hzero : isAsciiDigit '0' = true := by decide +kernel
  rcases List.mem_append.1 h with h | h
  · rcases List.mem_append.1 h with h | h
    · rwa [List.eq_of_mem_replicate h]
    · exact isAsciiDigit_of_mem_toDigits h
  · rwa [List.eq_of_mem_replicate h]

theorem ofDigits_writtenDigits (n : Nat) (scale : Int) :
    Integer.ofDigits (writtenDigits n scale) = n * 10 ^ (-scale).toNat := by
  rw [Integer.ofDigits_eq_ofDigitChars fun c hc => isAsciiDigit_of_mem_writtenDigits hc,
    writtenDigits, Nat.ofDigitChars_append, Nat.ofDigitChars_append,
    Nat.ofDigitChars_replicate_zero, Nat.ofDigitChars_replicate_zero, Nat.mul_zero,
    Nat.ofDigitChars_ten_toDigits, Nat.mul_comm]

/-- The point stands before the last `scale` of these digits, and nowhere for a negative scale. -/
theorem writeMagnitude_eq (n : Nat) (scale : Int) :
    writeMagnitude n scale =
      if scale ≤ 0 then writtenDigits n scale
      else (writtenDigits n scale).take ((writtenDigits n scale).length - scale.toNat) ++
        '.' :: (writtenDigits n scale).drop ((writtenDigits n scale).length - scale.toNat) := by
  have hlen : 0 < (Nat.toDigits 10 n).length := List.length_pos_iff.2 Nat.toDigits_ne_nil
  unfold writeMagnitude writtenDigits
  split
  case isTrue h =>
    have hzeros : scale.toNat + 1 - (Nat.toDigits 10 n).length = 0 := by omega
    simp [hzeros]
  case isFalse h =>
    have hzeros : (-scale).toNat = 0 := by omega
    simp [hzeros]

theorem joinAtPoint_writeMagnitude (n : Nat) (scale : Int) :
    joinAtPoint (writeMagnitude n scale) = (writtenDigits n scale, scale.toNat) := by
  have hpoint {c : Char} (hc : c ∈ writtenDigits n scale) : c ≠ '.' :=
    ne_of_isDigit (isDigit_of_isAsciiDigit (isAsciiDigit_of_mem_writtenDigits hc)) (by decide)
  rw [writeMagnitude_eq]
  split
  case isTrue h =>
    rw [joinAtPoint_of_no_point fun c hc => hpoint hc, Int.toNat_of_nonpos h]
  case isFalse h =>
    -- The zeros in front make sure that there are digits enough behind the point.
    have hlen : scale.toNat ≤ (writtenDigits n scale).length := by
      simp only [writtenDigits, List.length_append, List.length_replicate]
      omega
    rw [joinAtPoint_point fun c hc => hpoint (List.mem_of_mem_take hc), List.take_append_drop,
      byteLength_of_isAsciiDigit fun c hc =>
        isAsciiDigit_of_mem_writtenDigits (List.mem_of_mem_drop hc), List.length_drop]
    congr 1
    omega

theorem mem_writeMagnitude {n : Nat} {scale : Int} {c : Char} (h : c ∈ writeMagnitude n scale) :
    c = '.' ∨ isAsciiDigit c = true := by
  rw [writeMagnitude_eq] at h
  split at h
  · exact .inr (isAsciiDigit_of_mem_writtenDigits h)
  · rcases List.mem_append.1 h with h | h
    · exact .inr (isAsciiDigit_of_mem_writtenDigits (List.mem_of_mem_take h))
    · rcases List.mem_cons.1 h with h | h
      · exact .inl h
      · exact .inr (isAsciiDigit_of_mem_writtenDigits (List.mem_of_mem_drop h))

/-! ## Reading what is written -/

/-- The decimal of plain notation: a negative scale has become zeros. -/
def plain (d : Decimal) : Decimal := ⟨d.digits * 10 ^ (-d.scale).toNat, max d.scale 0⟩

theorem plain_of_nonneg {d : Decimal} (h : 0 ≤ d.scale) : d.plain = d := by
  have hzero : (-d.scale).toNat = 0 := by omega
  rw [plain, hzero, pow_zero, mul_one, max_eq_left h]

theorem toRat_plain (d : Decimal) : d.plain.toRat = d.toRat := by
  rw [plain, toRat, toRat]
  push_cast
  rw [← zpow_natCast, mul_assoc, ← ten_zpow_add]
  congr 2
  omega

/-- What is read from a text without an exponent, if its digits are an integer. -/
theorem read_of_joinAtPoint {cs ds : List Char} {places : Nat} {n : Int} (hne : cs ≠ [])
    (hexp : ∀ c ∈ cs, c ≠ 'e' ∧ c ≠ 'E') (hpoint : joinAtPoint cs = (ds, places))
    (hdigits : Integer.read ds = .ok n) : read cs = .ok ⟨n, places⟩ := by
  rw [read_of_no_exponent hne hexp, hpoint, hdigits, Int.sub_zero]
  rfl

/-- A sign in front goes with the digits. -/
theorem joinAtPoint_cons {c : Char} (h : c ≠ '.') (cs : List Char) :
    joinAtPoint (c :: cs) = (c :: (joinAtPoint cs).1, (joinAtPoint cs).2) := by
  have hdrop : (c :: cs).dropWhile (· ≠ '.') = cs.dropWhile (· ≠ '.') :=
    List.dropWhile_cons_of_pos (decide_eq_true h)
  have htake : (c :: cs).takeWhile (· ≠ '.') = c :: cs.takeWhile (· ≠ '.') :=
    List.takeWhile_cons_of_pos (decide_eq_true h)
  rw [joinAtPoint, joinAtPoint, hdrop, htake]
  split <;> rfl

theorem writeMagnitude_ne_nil (n : Nat) (scale : Int) : writeMagnitude n scale ≠ [] := by
  intro hnil
  have hpoint := joinAtPoint_writeMagnitude n scale
  rw [hnil] at hpoint
  exact writtenDigits_ne_nil n scale (Prod.ext_iff.1 hpoint).1.symm

theorem no_exponent_writeMagnitude {n : Nat} {scale : Int} :
    ∀ c ∈ writeMagnitude n scale, c ≠ 'e' ∧ c ≠ 'E' := by
  intro c hc
  rcases mem_writeMagnitude hc with rfl | hc
  · decide
  · have hdigit := isDigit_of_isAsciiDigit hc
    exact ⟨ne_of_isDigit hdigit (by decide), ne_of_isDigit hdigit (by decide)⟩

/-- Plain notation is read back as it is written. -/
theorem read_write (d : Decimal) : read d.write = .ok d.plain := by
  have hne := writtenDigits_ne_nil d.digits.natAbs d.scale
  have hall : ∀ c ∈ writtenDigits d.digits.natAbs d.scale, isAsciiDigit c = true :=
    fun c hc => isAsciiDigit_of_mem_writtenDigits hc
  have hpoint := joinAtPoint_writeMagnitude d.digits.natAbs d.scale
  rw [write, plain, ← Int.toNat_eq_max]
  split
  case isTrue h =>
    have hminus := joinAtPoint_cons (c := '-') (by decide) (writeMagnitude d.digits.natAbs d.scale)
    rw [hpoint] at hminus
    rw [read_of_joinAtPoint (List.cons_ne_nil _ _)
      (List.forall_mem_cons.2 ⟨by decide, no_exponent_writeMagnitude⟩) hminus
      (Integer.read_minus hne hall), ofDigits_writtenDigits]
    push_cast
    rw [abs_of_neg h, neg_mul, neg_neg]
  case isFalse h =>
    have hdigits := Integer.read_digits hne fun c hc => isDigit_of_isAsciiDigit (hall c hc)
    rw [if_pos (List.all_eq_true.2 hall)] at hdigits
    rw [read_of_joinAtPoint (writeMagnitude_ne_nil _ _) no_exponent_writeMagnitude hpoint hdigits,
      ofDigits_writtenDigits]
    push_cast
    rw [abs_of_nonneg (not_lt.1 h)]

end Decimal

end PriceSurvey
