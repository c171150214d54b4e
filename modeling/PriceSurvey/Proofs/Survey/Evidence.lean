import PriceSurvey.Proofs.Survey.Transaction

/-!
# The evidence is the answer

Where lines are to be kept, the table of evidence is there and nothing fails, the rows that are
inserted are those of the lines that are answered: one for each, in their order, each with what its
line holds in its columns.

Results:
* `filter_isInsertion_body`: the insertions among the statements of a submission.
* `run_recordAll`: lines that are recorded are counted.
* `submit_recorded`: the insertions of a submission, and the lines that it is answered with.
-/
namespace PriceSurvey.Survey

open Sql Connection

variable {c : Connection}

/-- The insertions of a submission whose lines are to be kept are those of the pieces of its
rows. -/
theorem filter_isInsertion_body (v : Survey) {server : Server} {s : Submission}
    (hpersist : s.persist = true) (htable : server.evidenceTable = true) :
    (v.body server s).filter Statement.isInsertion =
      (pieces (rowsFor (v.answered server.entries s.lines) s.source)).map .insertEvidence := by
  have hlookups : (v.lookups s.lines).filter Statement.isInsertion = [] := by
    rw [lookups]
    split <;> rfl
  have hinserts (batches : List (List EvidenceRow)) :
      (batches.map Statement.insertEvidence).filter Statement.isInsertion =
        batches.map Statement.insertEvidence := by
    rw [List.filter_eq_self]
    intro t ht
    obtain ⟨rows, -, rfl⟩ := List.mem_map.1 ht
    rfl
  rw [body, if_pos hpersist, List.filter_append, hlookups, List.nil_append, recordings,
    if_pos htable]
  split
  case isTrue hnone =>
    rw [hnone, rowsFor, List.map_nil, pieces_nil]
    rfl
  case isFalse hsome => exact hinserts _

/-- Lines that are recorded are counted, if there is the table and nothing fails. -/
theorem run_recordAll (htable : c.server.evidenceTable = true)
    (hsound : c.IsSound) (lines : List PriceLine) (source : Option String) :
    ((PriceLine.recordAll lines source).run responder c).result = .ok lines.length := by
  obtain ⟨sent, fault, ht, -, hresult⟩ :=
    Action.run_takes_plan (PriceLine.recordAll lines source) c
  rw [hresult, (ht.of_sound hsound).1, PriceLine.plan_recordAll, if_pos htable]
  rfl

/-- A submission on which nothing fails sends its body and is committed. -/
theorem submit_of_sound (v : Survey) (s : Submission) (hsound : c.IsSound) :
    (v.submit s c).result = .ok (v.answered c.server.entries s.lines) ∧
      (v.submit s c).state = c.after (.start :: (v.body c.server s ++ [.commit])) := by
  obtain ⟨sent, fault, ending, ht, he, hstate⟩ := submit_ends v s c
  obtain ⟨rfl, rfl⟩ := ht.of_sound (hsound.after _)
  generalize (v.submit s c).result = result at he ⊢
  cases he with
  | committed => exact ⟨rfl, hstate⟩
  | refused h => exact nomatch ((hsound.after _).fault?_eq _).symm.trans h

/-- Lines that are to be kept, where the table of evidence is there and nothing fails, are answered,
and each of them has its row among the insertions, in their order. Every insertion but the last has
a thousand rows, and no more of them are sent than are needed. -/
theorem submit_recorded (v : Survey) (s : Submission) (c : Connection)
    (hpersist : s.persist = true) (htable : c.server.evidenceTable = true)
    (hsound : c.IsSound) :
    ∃ lines sent batches,
      (v.submit s c).result = .ok lines ∧
      (v.submit s c).state = c.after sent ∧
      List.Forall₂ IsInsertion (sent.filter Statement.isInsertion) batches ∧
      List.Forall₂ (Holds s.source) lines batches.flatten ∧
      (sent.filter Statement.isInsertion).length = (lines.length + 999) / 1000 ∧
      (∀ batch ∈ batches, 1 ≤ batch.length ∧ batch.length ≤ 1000) ∧
      (∀ batch ∈ batches.dropLast, batch.length = 1000) ∧
      (batches.map List.length).sum = lines.length ∧
      ∀ sent', ((PriceLine.recordAll lines s.source).run responder (c.after sent')).result =
        .ok lines.length := by
  obtain ⟨hresult, hstate⟩ := submit_of_sound v s hsound
  generalize hlines : v.answered c.server.entries s.lines = lines at hresult
  have hinserts := filter_isInsertion_body v hpersist htable
  rw [hlines] at hinserts
  have hsent : (Statement.start :: (v.body c.server s ++ [.commit])).filter Statement.isInsertion =
      (pieces (rowsFor lines s.source)).map .insertEvidence := by
    rw [List.filter_cons_of_neg (by decide), List.filter_append, hinserts]
    exact List.append_nil _
  have hlength : (rowsFor lines s.source).length = lines.length := List.length_map ..
  refine ⟨lines, _, (pieces (rowsFor lines s.source)).map (·.map EvidenceRow.params), hresult,
    hstate, ?_, ?_, ?_, ?_, ?_, ?_, ?_⟩
  · rw [hsent, List.forall₂_map_left_iff, List.forall₂_map_right_iff, List.forall₂_same]
    exact fun rows _ => isInsertion_insertEvidence rows
  · rw [← List.map_flatten, flatten_pieces, rowsFor, List.map_map, List.forall₂_map_right_iff,
      List.forall₂_same]
    exact fun line _ => holds_params s.source line
  · rw [hsent, List.length_map, length_pieces, hlength]
  · rw [List.forall_mem_map]
    simpa using fun rows hrows => length_of_mem_pieces rows hrows
  · rw [← List.map_dropLast, List.forall_mem_map]
    simpa using fun rows hrows => length_of_mem_dropLast_pieces rows hrows
  · rw [List.map_map, ← hlength, ← sum_length_pieces]
    simp [Function.comp_def]
  · intro sent'
    exact run_recordAll (c := c.after sent') htable (hsound.after sent') lines s.source

/-- A server with the table of evidence and an entry for one of the goods. -/
def registry : Connection where
  server := { entries := [⟨"Ciment", "ciment", "X1"⟩] }

/-- Two lines to be kept, the second of which cannot be read. -/
def leaflet : Submission where
  lines := ["Ciment sac 80 85 90", "-----"]
  persist := true
  source := some "leaflet.pdf"

/-- Both lines are kept, in one insertion. -/
theorem submit_recorded_leaflet : leaflet.persist = true ∧ registry.server.evidenceTable = true ∧
    registry.IsSound ∧ ∃ lines sent, (submit {} leaflet registry).result = .ok lines ∧
      (submit {} leaflet registry).state = registry.after sent ∧
      lines.map (·.status) = [.complete, .unreadable] ∧
      (sent.filter Statement.isInsertion).length = 1 := by
  have hsound : registry.IsSound := by
    intro sent t
    cases t <;> rfl
  obtain ⟨lines, sent, batches, hresult, hstate, -, -, hcount, -⟩ :=
    submit_recorded {} leaflet registry rfl rfl hsound
  have hstatus : (submit {} leaflet registry).result.map (·.map (·.status)) =
      .ok [.complete, .unreadable] := by decide +kernel
  rw [hresult] at hstatus
  have hlines : lines.map (·.status) = [.complete, .unreadable] := Except.ok.inj hstatus
  have hlength : lines.length = 2 := by
    rw [← List.length_map (f := (·.status)), hlines]
    rfl
  rw [hlength] at hcount
  exact ⟨rfl, rfl, hsound, lines, sent, hresult, hstate, hlines, hcount⟩

end PriceSurvey.Survey
