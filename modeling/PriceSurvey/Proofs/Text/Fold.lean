import PriceSurvey.Proofs.Text.Decomposition
import PriceSurvey.Proofs.Text.Trim
import PriceSurvey.Text.Fold

/-!
# Keys of keys

A key is made character by character from the trimmed name, and each of its characters is its own
decomposition and no mark. What a decomposition can bring back are capitals and blanks. So the key
of a key is that key without the blanks at its ends and in small letters, and it stays as it is.

Results:
* `fold_eq_flatMap`: a key, character by character.
* `fold_fold`: the key of a key.
* `foldString_foldString`: when a key is its own key.
* `foldString_numero`: a key that is not.
-/
namespace PriceSurvey.Text

/-! ## Capitals -/

/-- The capitals of a row, each with its small letter. -/
def CaseRow.pairs (r : CaseRow) : List (Nat × Nat) :=
  (List.range ((r.last - r.first) / r.step + 1)).map fun i =>
    (r.first + r.step * i, r.small + r.step * i)

/-- The characters that fold to one other letter, each with that letter. The capital sharp s has a
row, but it folds to two letters. -/
def letterPairs : List (Nat × Nat) :=
  (0x3C2, 0x3C3) :: (caseRows.flatMap CaseRow.pairs).filter fun p => p.1 ≠ 0x1E9E

/-- The characters that fold to two letters. -/
def doubled : List Char := ['ß', 'ẞ', '\u0130']

/-- The characters that fold to something else. -/
def capitals : Nat :=
  bitsOfAll [doubled.map fun c => (c.toNat, c.toNat), letterPairs.map fun p => (p.1, p.1)]

theorem mem_pairs_of_smallLetter? {rows : List CaseRow} {n m : Nat}
    (h : smallLetter? rows n = some m) : (n, m) ∈ rows.flatMap CaseRow.pairs := by
  induction rows with
  | nil => cases h
  | cons r rows ih =>
    rw [List.flatMap_cons, List.mem_append]
    unfold smallLetter? at h
    split at h
    · cases h
    · split at h
      · next hfirst hlast =>
        split at h
        · next hstep =>
          have hdiv := Nat.div_add_mod (n - r.first) r.step
          have hle : (n - r.first) / r.step ≤ (r.last - r.first) / r.step :=
            Nat.div_le_div_right (by omega)
          refine Or.inl (List.mem_map.2 ⟨(n - r.first) / r.step, List.mem_range.2 (by omega), ?_⟩)
          rw [← Option.some.inj h]
          ext <;> simp only <;> omega
        · cases h
      · exact Or.inr (ih h)

/-- Small letters are characters, no capitals, no marks and no blanks, and only those of capitals
that are replaced are replaced. -/
theorem letterPairs_small : ∀ p ∈ letterPairs, p.2.isValidChar ∧ capitals.testBit p.2 = false ∧
    markRanges.bits.testBit p.2 = false ∧ blankRanges.bits.testBit p.2 = false ∧
      (replaced.testBit p.1 = false → replaced.testBit p.2 = false) := by decide +kernel

theorem foldCase_cases (c : Char) :
    foldCase c = [c] ∨ (∃ e, (c.toNat, e.toNat) ∈ letterPairs ∧ foldCase c = [e]) ∨
      c ∈ doubled := by
  have hpair : ∀ m, (c.toNat, m) ∈ letterPairs →
      ∃ e, (c.toNat, e.toNat) ∈ letterPairs ∧ [Char.ofNat m] = [e] := by
    intro m hm
    exact ⟨Char.ofNat m, by rwa [toNat_ofNat (letterPairs_small _ hm).1], rfl⟩
  unfold foldCase
  split
  · next h => exact Or.inr (Or.inr (by rcases h with rfl | rfl <;> decide))
  · next hsharp =>
    split
    · next h => exact Or.inr (Or.inl (hpair 0x3C3 (by rw [h]; exact List.mem_cons_self)))
    · unfold lower
      split
      · next h => exact Or.inr (Or.inr (by rw [h]; decide))
      · split
        · next m h =>
          refine Or.inr (Or.inl (hpair m (List.mem_cons_of_mem _ (List.mem_filter.2 ⟨?_, ?_⟩))))
          · exact mem_pairs_of_smallLetter? h
          · have hne : c.toNat ≠ 'ẞ'.toNat := fun he => hsharp (Or.inr (Char.toNat_inj.1 he))
            simpa using hne
        · exact Or.inl rfl

theorem testBit_capitals {n : Nat} :
    capitals.testBit n = true ↔ (∃ c ∈ doubled, c.toNat = n) ∨ ∃ p ∈ letterPairs, p.1 = n := by
  simp [capitals, testBit_bitsOfAll, ← Nat.le_antisymm_iff]

theorem foldCase_eq_self {c : Char} (h : capitals.testBit c.toNat = false) : foldCase c = [c] := by
  rw [Bool.eq_false_iff, ne_eq, testBit_capitals] at h
  rcases foldCase_cases c with hself | ⟨e, hm, -⟩ | hdoubled
  · exact hself
  · exact absurd (Or.inr ⟨_, hm, rfl⟩) h
  · exact absurd (Or.inl ⟨c, hdoubled, rfl⟩) h

theorem not_doubled_of_part : ∀ c ∈ doubled, parts.testBit c.toNat = false := by decide +kernel

theorem foldCase_of_mem_foldCase {c d : Char} (h : d ∈ foldCase c) : foldCase d = [d] := by
  rcases foldCase_cases c with hself | ⟨e, hm, he⟩ | hdoubled
  · rw [hself, List.mem_singleton] at h
    rw [h, hself]
  · rw [he, List.mem_singleton] at h
    rw [h]
    exact foldCase_eq_self (letterPairs_small _ hm).2.1
  · have hsmall : ∀ c ∈ doubled, ∀ d ∈ foldCase c, foldCase d = [d] := by decide +kernel
    exact hsmall c hdoubled d h

/-! ## Keys, character by character -/

/-- What a character of a name makes of the key. -/
def keyPart (c : Char) : List Char := ((foldCase c).flatMap decompose).filter fun d => !isMark d

theorem fold_eq_flatMap (cs : List Char) : fold cs = (trim cs).flatMap keyPart := by
  rw [fold, decomposeText, filter_orderMarks, List.flatMap_assoc, List.filter_flatMap]
  rfl

theorem mem_keyPart {c d : Char} :
    d ∈ keyPart c ↔ (∃ x ∈ foldCase c, d ∈ decompose x) ∧ isMark d = false := by
  simp [keyPart]

/-- The character folds to the letter `e`, which stays as it is in every key. -/
structure SettlesAs (d e : Char) : Prop where
  foldCase_eq : foldCase d = [e]
  small : foldCase e = [e]
  final : decompose e = [e]
  not_mark : isMark e = false
  blank : isBlank e = true → isBlank d = true

theorem SettlesAs.keyPart_eq {d e : Char} (h : SettlesAs d e) : keyPart d = [e] := by
  simp [keyPart, h.foldCase_eq, h.final, h.not_mark]

theorem SettlesAs.self {d e : Char} (h : SettlesAs d e) : SettlesAs e e where
  foldCase_eq := h.small
  small := h.small
  final := h.final
  not_mark := h.not_mark
  blank := id

theorem Ranges.has_eq_false_of_bits {r : Ranges} {n : Nat} (h : r.bits.testBit n = false) :
    r.has n = false := by
  rw [Bool.eq_false_iff, ne_eq, testBit_bits] at h
  exact Bool.eq_false_iff.2 fun hn => h (exists_of_has hn)

/-- Every character of a key settles: it is a small letter already, or a capital that a
decomposition has brought. -/
theorem settlesAs_of_mem_keyPart {c d : Char} (h : d ∈ keyPart c) : ∃ e, SettlesAs d e := by
  obtain ⟨⟨x, hx, hd⟩, hmark⟩ := mem_keyPart.1 h
  have hx' : foldCase x = [x] := foldCase_of_mem_foldCase hx
  -- Small letters give nothing but small letters, so a capital is a part of a decomposition.
  have hpart : foldCase d ≠ [d] → parts.testBit d.toNat = true := by
    intro hcapital
    rcases decompose_cases x with hself | hparts
    · rw [hself, List.mem_singleton] at hd
      exact absurd (hd ▸ hx') hcapital
    · exact hparts d hd
  by_cases hsmall : foldCase d = [d]
  · exact ⟨d, hsmall, hsmall, decompose_of_mem_decompose hd, hmark, id⟩
  · rcases foldCase_cases d with hself | ⟨e, hm, he⟩ | hdoubled
    · exact absurd hself hsmall
    · obtain ⟨-, hcapital, hnomark, hnoblank, hreplaced⟩ := letterPairs_small _ hm
      have hkept := hreplaced (testBit_eq_false_of_and replaced_and_parts (hpart hsmall))
      refine ⟨e, he, foldCase_eq_self hcapital, decompose_eq_self hkept,
        Ranges.has_eq_false_of_bits hnomark, fun hblank => ?_⟩
      rw [isBlank, Ranges.has_eq_false_of_bits hnoblank] at hblank
      cases hblank
    · rw [not_doubled_of_part d hdoubled] at hpart
      exact absurd (hpart hsmall) (by decide)

theorem settlesAs_of_mem_fold {cs : List Char} {d : Char} (h : d ∈ fold cs) :
    ∃ e, SettlesAs d e := by
  rw [fold_eq_flatMap] at h
  obtain ⟨c, -, hd⟩ := List.mem_flatMap.1 h
  exact settlesAs_of_mem_keyPart hd

/-! ## Keys of keys -/

/-- The key of a key is the key, trimmed and in small letters. -/
theorem fold_fold (cs : List Char) : fold (fold cs) = (trim (fold cs)).flatMap foldCase := by
  rw [fold_eq_flatMap (fold cs)]
  refine List.flatMap_congr fun d hd => ?_
  obtain ⟨e, he⟩ := settlesAs_of_mem_fold (mem_of_mem_trim hd)
  rw [he.keyPart_eq, he.foldCase_eq]

theorem isTrimmed_flatMap_foldCase {cs : List Char} (h : IsTrimmed cs)
    (hsettles : ∀ d ∈ cs, ∃ e, SettlesAs d e) : IsTrimmed (cs.flatMap foldCase) := by
  have hblank : ∀ d ∈ cs, isBlank d = false →
      ∃ e, foldCase d = [e] ∧ isBlank e = false := by
    intro d hd hnot
    obtain ⟨e, he⟩ := hsettles d hd
    exact ⟨e, he.foldCase_eq, Bool.eq_false_iff.2 fun hb => by simp [he.blank hb] at hnot⟩
  constructor
  · cases cs with
    | nil => simp
    | cons d rest =>
      obtain ⟨e, he, hnot⟩ := hblank d List.mem_cons_self (h.1 d rfl)
      simpa [he] using hnot
  · rcases List.eq_nil_or_concat cs with rfl | ⟨front, d, rfl⟩
    · simp
    · obtain ⟨e, he, hnot⟩ := hblank d (by simp) (h.2 d (by simp))
      simpa [List.flatMap_append, he] using hnot

/-- The key of a key is trimmed and in small letters. -/
theorem isTrimmed_fold_fold (cs : List Char) :
    IsTrimmed (fold (fold cs)) ∧ ∀ e ∈ fold (fold cs), SettlesAs e e := by
  rw [fold_fold]
  have hsettles : ∀ d ∈ trim (fold cs), ∃ e, SettlesAs d e :=
    fun d hd => settlesAs_of_mem_fold (mem_of_mem_trim hd)
  refine ⟨isTrimmed_flatMap_foldCase (isTrimmed_trim _) hsettles, fun e he => ?_⟩
  obtain ⟨d, hd, hed⟩ := List.mem_flatMap.1 he
  obtain ⟨e', he'⟩ := hsettles d hd
  rw [he'.foldCase_eq, List.mem_singleton] at hed
  exact hed ▸ he'.self

theorem fold_fold_eq_self {cs : List Char} (htrim : IsTrimmed (fold cs))
    (hsmall : ∀ c ∈ fold cs, foldCase c = [c]) : fold (fold cs) = fold cs := by
  rw [fold_fold, trim_eq_self htrim]
  calc (fold cs).flatMap foldCase = (fold cs).flatMap fun c => [c] := List.flatMap_congr hsmall
    _ = fold cs := by simp

/-- The key of a key is that key, trimmed and in small letters. It is the same key exactly if no
blank stands at its ends and no capital in it. The key of the key of a key is always the same as
the key before. -/
theorem foldString_foldString (s : String) :
    foldString (foldString s) = String.ofList ((trim (foldString s).toList).flatMap foldCase) ∧
      (foldString (foldString s) = foldString s ↔
        IsTrimmed (foldString s).toList ∧ ∀ c ∈ (foldString s).toList, foldCase c = [c]) ∧
      foldString (foldString (foldString s)) = foldString (foldString s) := by
  simp only [foldString, String.toList_ofList, String.ofList_inj]
  obtain ⟨htrim, hsettles⟩ := isTrimmed_fold_fold s.toList
  refine ⟨fold_fold _, ⟨fun h => ?_, fun h => fold_fold_eq_self h.1 h.2⟩,
    fold_fold_eq_self htrim fun c hc => (hsettles c hc).foldCase_eq⟩
  rw [h] at htrim hsettles
  exact ⟨htrim, fun c hc => (hsettles c hc).foldCase_eq⟩

/-- A numero sign brings a capital, and the key of that key is another one. -/
theorem foldString_numero : foldString "Vis № 8" = "vis No 8" ∧
    foldString (foldString "Vis № 8") ≠ foldString "Vis № 8" := by decide +kernel

end PriceSurvey.Text
