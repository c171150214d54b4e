import PriceSurvey.Proofs.Text.Fold

/-!
# Keys of joined texts

A key is made character by character, so the key of two texts put together is their keys put
together, and a combining mark between them adds nothing. Marks are put in order across the seam,
but whatever moves there is dropped afterwards. That a mark leaves nothing behind is a fact about
the tables: no mark is a capital, and the parts of a mark are marks.

Results:
* `isMark_of_mem_decompose`: a mark is decomposed into marks.
* `fold_append`: the key of two texts put together.
* `foldString_append_and_marks`: so it is for strings, and no mark changes a key or stays in it.
-/
namespace PriceSurvey.Text

/-! ## Marks -/

theorem testBit_marks {c : Char} (h : isMark c = true) :
    markRanges.bits.testBit c.toNat = true :=
  Ranges.testBit_bits.2 (Ranges.exists_of_has h)

theorem capitals_and_marks : capitals &&& markRanges.bits = 0 := by decide +kernel

/-- The characters that are decomposed by a rule: Hangul syllables and styled characters. -/
def ruled : Nat := bitsOfAll [[(0xAC00, 0xD7A3)], styledRuns.map fun r => (r.first, r.last)]

theorem testBit_ruled {n : Nat} : ruled.testBit n = true ↔
    (0xAC00 ≤ n ∧ n ≤ 0xD7A3) ∨ ∃ r ∈ styledRuns, r.first ≤ n ∧ n ≤ r.last := by
  simp [ruled, testBit_bitsOfAll]

theorem ruled_and_marks : ruled &&& markRanges.bits = 0 := by decide +kernel

/-- In a row that starts with a mark, everything is a mark. -/
theorem marks_of_row : ∀ t ∈ packedTables, ∀ k ∈ t,
    markRanges.bits.testBit (unpackRow k).1 = true →
      ∀ p ∈ (unpackRow k).2, markRanges.has p = true := by decide +kernel

theorem range_of_hangulLetters? {n : Nat} {ps : List Nat} (h : hangulLetters? n = some ps) :
    0xAC00 ≤ n ∧ n ≤ 0xD7A3 := by
  unfold hangulLetters? at h
  split at h
  · cases h
  · omega

/-- What a mark is decomposed into are marks. -/
theorem isMark_of_mem_decompose {c d : Char} (hc : isMark c = true) (hd : d ∈ decompose c) :
    isMark d = true := by
  have hbit := testBit_marks hc
  have hruled := testBit_eq_false_of_and ruled_and_marks hbit
  rw [Bool.eq_false_iff, ne_eq, testBit_ruled] at hruled
  unfold decompose at hd
  -- No rule applies to a mark, so it has a row or stays as it is.
  split at hd
  · next ps h =>
    exact absurd (Or.inl (range_of_hangulLetters? h)) hruled
  · split at hd
    · next m h =>
      obtain ⟨r, hr, hin, -⟩ := mem_of_findPlain? h
      exact absurd (Or.inr ⟨r, hr, hin⟩) hruled
    · split at hd
      · next ps h =>
        obtain ⟨t, ht, k, hk, he⟩ := exists_packed_of_findRow? h
        obtain ⟨p, hp, rfl⟩ := List.mem_map.1 hd
        have hpart : parts.testBit p = true :=
          testBit_parts.2 (Or.inr (Or.inr ⟨t, ht, k, hk, by rwa [he]⟩))
        have hrow := marks_of_row t ht k hk
        simp only [he] at hrow
        rw [isMark, toNat_ofNat_part hpart]
        exact hrow hbit p hp
      · rwa [List.mem_singleton.1 hd]

/-- A mark leaves nothing in a key. -/
theorem keyPart_of_isMark {c : Char} (h : isMark c = true) : keyPart c = [] := by
  have hself : foldCase c = [c] :=
    foldCase_eq_self (testBit_eq_false_of_and capitals_and_marks (testBit_marks h))
  rw [keyPart, hself, List.flatMap_singleton, List.filter_eq_nil_iff]
  intro d hd
  simp [isMark_of_mem_decompose h hd]

/-! ## Texts put together -/

/-- The key of two trimmed texts put together is their keys put together. -/
theorem fold_append {s t : List Char} (hs : IsTrimmed s) (ht : IsTrimmed t) :
    fold (s ++ t) = fold s ++ fold t := by
  simp only [fold_eq_flatMap, trim_eq_self (isTrimmed_append hs ht), trim_eq_self hs,
    trim_eq_self ht, List.flatMap_append]

theorem isTrimmed_mark {m : Char} (h : isMark m = true) : IsTrimmed [m] :=
  isTrimmed_of_not_blank fun c hc => by rw [List.mem_singleton.1 hc, isBlank_of_isMark h]

theorem fold_mark {m : Char} (h : isMark m = true) : fold [m] = [] := by
  rw [fold_eq_flatMap, trim_eq_self (isTrimmed_mark h), List.flatMap_singleton,
    keyPart_of_isMark h]

theorem not_isMark_of_mem_fold {cs : List Char} {c : Char} (h : c ∈ fold cs) :
    isMark c = false := by
  simpa using (List.mem_filter.1 h).2

/-- The key of two trimmed texts put together is their keys put together, also if a mark stands
between them, and no key has a mark in it. -/
theorem foldString_append_and_marks {s t : String} (hs : IsTrimmed s.toList)
    (ht : IsTrimmed t.toList) :
    foldString (s ++ t) = foldString s ++ foldString t ∧
      (∀ m, isMark m = true → foldString (s.push m ++ t) = foldString (s ++ t)) ∧
      ∀ u : String, ∀ c ∈ (foldString u).toList, isMark c = false := by
  refine ⟨?_, fun m hm => ?_, fun u c hc => ?_⟩
  · rw [foldString, String.toList_append, fold_append hs ht, String.ofList_append]
    rfl
  · have hsm := isTrimmed_append hs (isTrimmed_mark hm)
    simp only [foldString, String.toList_append, String.toList_push, fold_append hsm ht,
      fold_append hs (isTrimmed_mark hm), fold_append hs ht, fold_mark hm, List.append_nil]
  · rw [foldString, String.toList_ofList] at hc
    exact not_isMark_of_mem_fold hc

/-- A name broken between an acute accent and the dot below that is to stand before it, with a
cedilla put in there. -/
theorem foldString_append_cafe :
    IsTrimmed "Cafe\u0301".toList ∧ IsTrimmed "\u0323 ﬁltré".toList ∧ isMark '\u0327' = true ∧
      foldString ("Cafe\u0301" ++ "\u0323 ﬁltré") = "cafe filtre" ∧
      foldString ("Cafe\u0301".push '\u0327' ++ "\u0323 ﬁltré") = "cafe filtre" := by
  have hs : IsTrimmed "Cafe\u0301".toList := by decide +kernel
  have ht : IsTrimmed "\u0323 ﬁltré".toList := by decide +kernel
  have hm : isMark '\u0327' = true := by decide +kernel
  obtain ⟨happend, hmark, -⟩ := foldString_append_and_marks hs ht
  have hkey : foldString ("Cafe\u0301" ++ "\u0323 ﬁltré") = "cafe filtre" := by
    rw [happend]
    decide +kernel
  exact ⟨hs, ht, hm, hkey, (hmark _ hm).trans hkey⟩

end PriceSurvey.Text
