import Mathlib.Data.List.Basic
import PriceSurvey.Decimal.Basic
import PriceSurvey.Proofs.Text.Class
import PriceSurvey.Text.Decomposition

/-!
# Decompositions are final

The parts that characters are decomposed into are not decomposed any further, and putting marks in
order moves nothing but marks. The first is a fact about the tables: no character that is replaced
is among the parts. Both are thousands of code points in no order, so they are compared as the bits
of two numbers.

Results:
* `Ranges.testBit_bits`: ranges as bits.
* `decompose_of_mem_decompose`: a part is its own decomposition.
* `filter_orderMarks`: without its marks, a text is the same in any order of them.
-/
namespace PriceSurvey.Text

/-! ## Code points as bits -/

/-- The code points of the ranges, each as one bit. The ranges need no order. -/
def Ranges.bits : Ranges → Nat
  | [] => 0
  | (lo, hi) :: rest => (2 ^ (hi + 1 - lo) - 1) <<< lo ||| Ranges.bits rest

theorem Ranges.testBit_bits {r : Ranges} {n : Nat} :
    r.bits.testBit n = true ↔ ∃ p ∈ r, p.1 ≤ n ∧ n ≤ p.2 := by
  induction r with
  | nil => simp [bits]
  | cons p rest ih =>
    obtain ⟨lo, hi⟩ := p
    have hrange : (lo ≤ n ∧ n - lo < hi + 1 - lo) ↔ (lo ≤ n ∧ n ≤ hi) := by omega
    simp only [bits, Nat.testBit_or, Nat.testBit_shiftLeft, Nat.testBit_two_pow_sub_one,
      Bool.or_eq_true, Bool.and_eq_true, decide_eq_true_eq, ge_iff_le, hrange, ih, List.mem_cons,
      exists_eq_or_imp]

/-- The code points of several lists of ranges. A table stays a list of its own here, since the
evaluation goes as deep as the longest list. -/
def bitsOfAll (rs : List Ranges) : Nat := rs.foldr (fun r all => r.bits ||| all) 0

theorem testBit_bitsOfAll {rs : List Ranges} {n : Nat} :
    (bitsOfAll rs).testBit n = true ↔ ∃ r ∈ rs, ∃ p ∈ r, p.1 ≤ n ∧ n ≤ p.2 := by
  induction rs with
  | nil => simp [bitsOfAll]
  | cons r rs ih =>
    rw [bitsOfAll, List.foldr_cons, Nat.testBit_or, Bool.or_eq_true, Ranges.testBit_bits,
      ← bitsOfAll, ih]
    simp

theorem testBit_eq_false_of_and {a b n : Nat} (h : a &&& b = 0) (hb : b.testBit n = true) :
    a.testBit n = false := by
  have hand := congrArg (Nat.testBit · n) h
  simpa [hb] using hand

/-! ## What is replaced, and by what -/

/-- The tables of decompositions that follow no rule. -/
def packedTables : List (List Nat) :=
  [packedLatin, packedGeneral, packedEast, packedForm, packedIdeograph]

/-- The characters with a decomposition: Hangul syllables, styled characters, and those with a
row. -/
def replaced : Nat :=
  bitsOfAll <| [(0xAC00, 0xD7A3)] :: styledRuns.map (fun r => (r.first, r.last)) ::
    packedTables.map fun t => t.map fun n => ((unpackRow n).1, (unpackRow n).1)

/-- The code points that decompositions consist of. -/
def parts : Nat :=
  bitsOfAll <| [(0x1100, 0x11C2)] ::
    styledRuns.map (fun r => (r.plain, r.plain + (r.last - r.first))) ::
    packedTables.map fun t => t.flatMap fun n => (unpackRow n).2.map fun p => (p, p)

theorem testBit_replaced {n : Nat} :
    replaced.testBit n = true ↔ (0xAC00 ≤ n ∧ n ≤ 0xD7A3) ∨
      (∃ r ∈ styledRuns, r.first ≤ n ∧ n ≤ r.last) ∨
        ∃ t ∈ packedTables, ∃ k ∈ t, (unpackRow k).1 = n := by
  simp [replaced, testBit_bitsOfAll, ← Nat.le_antisymm_iff]

theorem testBit_parts {n : Nat} :
    parts.testBit n = true ↔ (0x1100 ≤ n ∧ n ≤ 0x11C2) ∨
      (∃ r ∈ styledRuns, r.plain ≤ n ∧ n ≤ r.plain + (r.last - r.first)) ∨
        ∃ t ∈ packedTables, ∃ k ∈ t, n ∈ (unpackRow k).2 := by
  simp [parts, testBit_bitsOfAll, ← Nat.le_antisymm_iff]

theorem replaced_and_parts : replaced &&& parts = 0 := by decide +kernel

/-- All parts are characters. -/
theorem parts_valid : parts >>> 0x110000 = 0 ∧ Ranges.bits [(0xD800, 0xDFFF)] &&& parts = 0 := by
  decide +kernel

theorem toNat_ofNat {n : Nat} (h : n.isValidChar) : (Char.ofNat n).toNat = n := by
  rw [Char.ofNat, dif_pos h]
  rfl

theorem toNat_ofNat_part {n : Nat} (h : parts.testBit n = true) : (Char.ofNat n).toNat = n := by
  have hlt : n < 0x110000 := by
    refine Nat.lt_of_not_le fun hge => ?_
    have hbeyond := congrArg (Nat.testBit · (n - 0x110000)) parts_valid.1
    rw [Nat.testBit_shiftRight, Nat.add_sub_cancel' hge, h, Nat.zero_testBit] at hbeyond
    cases hbeyond
  have hsurrogate := testBit_eq_false_of_and parts_valid.2 h
  rw [Bool.eq_false_iff, ne_eq, Ranges.testBit_bits] at hsurrogate
  simp only [List.mem_singleton, exists_eq_left] at hsurrogate
  refine toNat_ofNat ?_
  unfold Nat.isValidChar
  omega

/-! ## Decomposing one character -/

theorem mem_of_hangulLetters? {n p : Nat} {ps : List Nat} (h : hangulLetters? n = some ps)
    (hp : p ∈ ps) : 0x1100 ≤ p ∧ p ≤ 0x11C2 := by
  unfold hangulLetters? at h
  split at h
  · cases h
  · next hn =>
    obtain rfl := Option.some.inj h
    split at hp <;> simp at hp <;> omega

theorem mem_of_findPlain? {rs : List StyledRun} {n m : Nat} (h : findPlain? rs n = some m) :
    ∃ r ∈ rs, (r.first ≤ n ∧ n ≤ r.last) ∧ m = r.plain + (n - r.first) := by
  induction rs with
  | nil => cases h
  | cons r rs ih =>
    unfold findPlain? at h
    split at h
    · cases h
    · split at h
      · exact ⟨r, List.mem_cons_self, by omega, (Option.some.inj h).symm⟩
      · obtain ⟨s, hs, hfound⟩ := ih h
        exact ⟨s, List.mem_cons_of_mem _ hs, hfound⟩

theorem mem_of_findRow? {rows : List (Nat × List Nat)} {n : Nat} {ps : List Nat}
    (h : findRow? rows n = some ps) : (n, ps) ∈ rows := by
  induction rows with
  | nil => cases h
  | cons row rows ih =>
    obtain ⟨c, qs⟩ := row
    unfold findRow? at h
    split at h
    · cases h
    · split at h
      · next he => cases h; rw [he]; exact List.mem_cons_self
      · exact List.mem_cons_of_mem _ (ih h)

theorem exists_packed_of_findRow? {n : Nat} {ps : List Nat}
    (h : findRow? decompositionRows n = some ps) :
    ∃ t ∈ packedTables, ∃ k ∈ t, unpackRow k = (n, ps) := by
  have hrows : decompositionRows = packedTables.flatten.map unpackRow := by
    simp [decompositionRows, packedTables]
  have hmem := mem_of_findRow? h
  rw [hrows] at hmem
  obtain ⟨k, hk, he⟩ := List.mem_map.1 hmem
  obtain ⟨t, ht, hkt⟩ := List.mem_flatten.1 hk
  exact ⟨t, ht, k, hkt, he⟩

theorem decompose_eq_self {c : Char} (h : replaced.testBit c.toNat = false) :
    decompose c = [c] := by
  rw [Bool.eq_false_iff, ne_eq, testBit_replaced] at h
  have hhangul : hangulLetters? c.toNat = none := by
    unfold hangulLetters?
    refine if_pos (Decidable.byContradiction fun hn => h (Or.inl ?_))
    omega
  have hplain : findPlain? styledRuns c.toNat = none := by
    cases hm : findPlain? styledRuns c.toNat with
    | none => rfl
    | some m =>
      obtain ⟨r, hr, hin, -⟩ := mem_of_findPlain? hm
      exact absurd (Or.inr (Or.inl ⟨r, hr, hin⟩)) h
  have hrow : findRow? decompositionRows c.toNat = none := by
    cases hps : findRow? decompositionRows c.toNat with
    | none => rfl
    | some ps =>
      obtain ⟨t, ht, k, hk, he⟩ := exists_packed_of_findRow? hps
      exact absurd (Or.inr (Or.inr ⟨t, ht, k, hk, by rw [he]⟩)) h
  rw [decompose, hhangul, hplain, hrow]

/-- What a character is decomposed into is the character alone, or parts. -/
theorem decompose_cases (c : Char) :
    decompose c = [c] ∨ ∀ d ∈ decompose c, parts.testBit d.toNat = true := by
  have hchars : ∀ ps : List Nat, (∀ p ∈ ps, parts.testBit p = true) →
      ∀ d ∈ ps.map Char.ofNat, parts.testBit d.toNat = true := by
    intro ps hps d hd
    obtain ⟨p, hp, rfl⟩ := List.mem_map.1 hd
    rw [toNat_ofNat_part (hps p hp)]
    exact hps p hp
  unfold decompose
  split
  · next ps h =>
    exact Or.inr (hchars ps fun p hp => testBit_parts.2 (Or.inl (mem_of_hangulLetters? h hp)))
  · split
    · next m h =>
      obtain ⟨r, hr, hin, rfl⟩ := mem_of_findPlain? h
      refine Or.inr (hchars [_] fun p hp => testBit_parts.2 (Or.inr (Or.inl ⟨r, hr, ?_⟩)))
      rw [List.mem_singleton.1 hp]
      omega
    · split
      · next ps h =>
        obtain ⟨t, ht, k, hk, he⟩ := exists_packed_of_findRow? h
        refine Or.inr (hchars ps fun p hp => testBit_parts.2 (Or.inr (Or.inr ⟨t, ht, k, hk, ?_⟩)))
        rw [he]
        exact hp
      · exact Or.inl rfl

/-- A part of a decomposition is its own decomposition. -/
theorem decompose_of_mem_decompose {c d : Char} (h : d ∈ decompose c) : decompose d = [d] := by
  rcases decompose_cases c with hself | hparts
  · rw [hself, List.mem_singleton] at h
    rw [h, hself]
  · exact decompose_eq_self (testBit_eq_false_of_and replaced_and_parts (hparts d h))

/-! ## The order of marks -/

/-- The characters of the rows, as ranges. -/
def classRanges (rows : List ClassRow) : Ranges := rows.map fun r => (r.first, r.last)

theorem has_of_findRank {rows : List ClassRow} {n : Nat} (h : findRank rows n ≠ 0) :
    (classRanges rows).has n = true := by
  induction rows with
  | nil => exact absurd rfl h
  | cons r rows ih =>
    unfold findRank at h
    simp only [classRanges, List.map_cons, Ranges.has, Bool.and_eq_true, Bool.or_eq_true,
      decide_eq_true_eq]
    split at h
    · exact absurd rfl h
    · next hfirst =>
      refine ⟨Nat.le_of_not_lt hfirst, ?_⟩
      split at h
      · next hlast => exact Or.inl hlast
      · exact Or.inr (ih h)

/-- Only marks have a combining class. -/
theorem combiningRank_of_not_isMark {c : Char} (h : isMark c = false) : combiningRank c = 0 := by
  refine Decidable.byContradiction fun hne => ?_
  have hwithin : (classRanges classRows).within markRanges = true := by decide +kernel
  rw [isMark, Ranges.has_of_within hwithin (has_of_findRank hne)] at h
  cases h

theorem insertMark_of_not_isMark {c : Char} (h : isMark c = false) (cs : List Char) :
    insertMark c cs = c :: cs := by
  cases cs with
  | nil => rfl
  | cons d rest => simp [insertMark, combiningRank_of_not_isMark h]

theorem filter_insertMark (c : Char) (cs : List Char) :
    (insertMark c cs).filter (fun d => !isMark d) = (c :: cs).filter fun d => !isMark d := by
  cases hc : isMark c with
  | false => rw [insertMark_of_not_isMark hc]
  | true =>
    induction cs with
    | nil => rfl
    | cons d rest ih =>
      unfold insertMark
      split
      · rw [List.filter_cons, ih]
        simp [List.filter_cons, hc]
      · rfl

/-- Putting the marks in order leaves everything else as it is. -/
theorem filter_orderMarks (cs : List Char) :
    (orderMarks cs).filter (fun c => !isMark c) = cs.filter fun c => !isMark c := by
  induction cs with
  | nil => rfl
  | cons c rest ih =>
    rw [orderMarks, filter_insertMark, List.filter_cons, List.filter_cons, ih]

end PriceSurvey.Text
