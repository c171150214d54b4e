import PriceSurvey.Line.Batch
import PriceSurvey.Proofs.Alias.Lookup
import PriceSurvey.Proofs.Line.Status

/-!
# Lines read and resolved

A list is read first; then its designations are resolved, together and once, and each outcome is put
back on the lines that its key came from. The keys are the different designations, so a line gets
the outcome at the place of its own designation, however many outcomes there are.

Results:
* `isAnnotated_annotate`: one line with the outcome for its designation.
* `run_readBatch`: a batch asks what its resolver asks.
* `readBatch_resolves_once`: what comes out of a batch, and what was asked for it.
-/
namespace PriceSurvey.PriceLine

variable {S : Type}

/-! ## One line -/

/-- `line'` is `line` with the outcome at the place of its designation among the keys, if it has one
to be resolved and there are that many outcomes. -/
structure IsAnnotated (keys : List String) (results : List Resolution) (line line' : PriceLine) :
    Prop where
  same : line' = { line with resolution := line'.resolution }
  resolution_iff : ∀ r, line'.resolution = some r ↔ line.status ≠ .unreadable ∧
    ∃ (k : Nat) (d : String), line.designation = some d ∧ keys[k]? = some d ∧ results[k]? = some r

theorem wanted?_eq_some {line : PriceLine} {d : String} :
    line.wanted? = some d ↔ line.status ≠ .unreadable ∧ line.designation = some d := by
  rw [wanted?]
  split <;> simp [*]

theorem status_annotate (found : Index Resolution) (line : PriceLine) :
    (annotate found line).status = line.status := by
  unfold annotate
  split <;> rfl

theorem designation_annotate (found : Index Resolution) (line : PriceLine) :
    (annotate found line).designation = line.designation := by
  unfold annotate
  split <;> rfl

theorem isAnnotated_annotate {keys : List String} (hn : keys.Nodup) (results : List Resolution)
    {line : PriceLine} (h : line.resolution = none) :
    IsAnnotated keys results line (annotate (.ofPairs (keys.zip results)) line) := by
  rw [annotate]
  cases hw : line.wanted? with
  | some d =>
    obtain ⟨hread, hd⟩ := wanted?_eq_some.1 hw
    refine ⟨rfl, fun r => ?_⟩
    rw [Index.get?_zip hn]
    simp [hread, hd]
  | none =>
    refine ⟨rfl, fun r => iff_of_false (by simp [h]) ?_⟩
    rintro ⟨hread, k, d, hd, -⟩
    rw [wanted?_eq_some.2 ⟨hread, hd⟩] at hw
    cases hw

/-! ## The lines that are read -/

variable {rule : UnitRule} {lines : List String} {line : PriceLine}

theorem Outcome.resolution_eq {raw : String} {text : List Char} (h : Outcome rule raw text line) :
    line.resolution = none := by
  cases h with
  | drawn h => rfl
  | badAmount ha hf => rfl
  | triple h ht hv he => rw [ofTriple, he]
  | amounts h ht hv he => rw [ofAmounts, he]

theorem resolution_of_mem_readAll (h : line ∈ readAll rule lines) : line.resolution = none := by
  obtain ⟨g, -, rfl⟩ := List.mem_map.1 h
  cases g with
  | blank raw => rfl
  | lines block => exact (outcome_ofTrimmed rule _ _).resolution_eq

theorem designation_trimmed (h : line ∈ readAll rule lines) :
    ∀ d ∈ line.designation, d ≠ "" ∧ Text.IsTrimmed d.toList := by
  obtain ⟨g, hg, rfl⟩ := List.mem_map.1 h
  exact (isConsistent_ofLogical (LogicalLine.isTrimmed_text hg)).designation

/-- Designations that were read are not empty, so none is left out among the keys. -/
theorem isDistinctOf_designations (rule : UnitRule) (lines : List String) :
    IsDistinctOf ((readAll rule lines).filterMap wanted?) (designations (readAll rule lines)) := by
  have hall : ((readAll rule lines).filterMap wanted?).filter (fun d => !d.isEmpty) =
      (readAll rule lines).filterMap wanted? := by
    rw [List.filter_eq_self]
    intro d hd
    obtain ⟨line, hline, hw⟩ := List.mem_filterMap.1 hd
    have hne := (designation_trimmed hline d (wanted?_eq_some.1 hw).2).1
    simpa using hne
  rw [designations, hall]
  exact isDistinctOf_eraseDups _

theorem mem_designations {d : String} : d ∈ designations (readAll rule lines) ↔
    ∃ line ∈ readAll rule lines, line.status ≠ .unreadable ∧ line.designation = some d := by
  rw [(isDistinctOf_designations rule lines).mem_iff, List.mem_filterMap]
  simp only [wanted?_eq_some]

/-! ## The batch -/

variable (resolver : Resolver) (responder : Responder S) (s : S)

theorem run_resolutions {keys : List String} (hne : keys ≠ []) :
    let o := (resolutions resolver keys).run responder s
    o.result = ((resolver keys).run responder s).result.map (fun rs => .ofPairs (keys.zip rs)) ∧
      o.state = ((resolver keys).run responder s).state ∧
      o.requests = ((resolver keys).run responder s).requests := by
  rw [resolutions, if_neg (by simpa using hne)]
  exact Action.run_quiet responder s _ fun rs s => ⟨[], rfl⟩

/-- A batch is read, and its designations are resolved. -/
theorem run_readBatch (rule : UnitRule) (lines : List String) :
    let read := readAll rule lines
    let resolved := (resolutions resolver (designations read)).run responder s
    let o := (readBatch rule resolver lines).run responder s
    o.result = resolved.result.map (fun found => read.map (annotate found)) ∧
      o.state = resolved.state ∧ o.requests = resolved.requests := by
  cases lines with
  | nil => exact ⟨rfl, rfl, rfl⟩
  | cons raw rest => exact Action.run_report responder s _ _ _ _ _

/-- Without a key the resolver is left alone, and the lines come out as they were read. -/
theorem run_readBatch_no_key (hk : designations (readAll rule lines) = []) :
    let o := (readBatch rule resolver lines).run responder s
    o.result = .ok (readAll rule lines) ∧ o.state = s ∧ o.requests = [] := by
  obtain ⟨hresult, hstate, hrequests⟩ := run_readBatch resolver responder s rule lines
  have hdone : resolutions resolver [] = .done .empty := rfl
  rw [hk, hdone] at hresult hstate hrequests
  refine ⟨hresult.trans ?_, hstate, hrequests⟩
  have hsame : ∀ line ∈ readAll rule lines, annotate .empty line = line := by
    intro line hline
    rw [annotate]
    cases hw : line.wanted? with
    | none => rfl
    | some d =>
      have hmem := mem_designations.2 ⟨line, hline, wanted?_eq_some.1 hw⟩
      rw [hk] at hmem
      cases hmem
  exact congrArg Except.ok ((List.map_congr_left hsame).trans (List.map_id _))

/-- With a key the resolver is called on the keys, and each line comes out with the outcome for its
designation. -/
theorem run_readBatch_keys (hk : designations (readAll rule lines) ≠ []) :
    let o := (readBatch rule resolver lines).run responder s
    let call := (resolver (designations (readAll rule lines))).run responder s
    o.result = call.result.map (fun results => (readAll rule lines).map
        (annotate (.ofPairs ((designations (readAll rule lines)).zip results)))) ∧
      o.state = call.state ∧ o.requests = call.requests := by
  obtain ⟨hresult, hstate, hrequests⟩ := run_readBatch resolver responder s rule lines
  obtain ⟨hresult', hstate', hrequests'⟩ := run_resolutions resolver responder s hk
  refine ⟨?_, hstate.trans hstate', hrequests.trans hrequests'⟩
  rw [hresult, hresult']
  cases (resolver (designations (readAll rule lines))).run responder s with
  | mk result => cases result <;> rfl

theorem forall₂_annotate (rule : UnitRule) (lines : List String) (results : List Resolution) :
    List.Forall₂ (IsAnnotated (designations (readAll rule lines)) results) (readAll rule lines)
      ((readAll rule lines).map
        (annotate (.ofPairs ((designations (readAll rule lines)).zip results)))) := by
  rw [List.forall₂_map_right_iff, List.forall₂_same]
  exact fun line hline => isAnnotated_annotate (isDistinctOf_designations rule lines).nodup results
    (resolution_of_mem_readAll hline)

/-- With the dictionary behind it, a batch gives every designation that was read an outcome under
its own name, unless the dictionary gives no answer. -/
theorem readBatch_ofNames (rule : UnitRule) (lines : List String) :
    let o := (readBatch rule Resolution.ofNames lines).run responder s;
    (∃ lines', o.result = .ok lines' ∧ ∀ line ∈ lines', line.status ≠ .unreadable →
      ∀ d, line.designation = some d → ∃ r, line.resolution = some r ∧ r.input = d) ∨
    ∃ texts keys cause, (responder.reply (.entries texts keys) s).result = .error cause ∧
      o.result = .error (.database cause) := by
  intro o
  by_cases hk : designations (readAll rule lines) = []
  · refine .inl ⟨_, (run_readBatch_no_key _ responder s hk).1, fun line hline hread d hd => ?_⟩
    have hmem := mem_designations.2 ⟨line, hline, hread, hd⟩
    rw [hk] at hmem
    cases hmem
  have hresult := (run_readBatch_keys Resolution.ofNames responder s hk).1
  rcases Resolution.result_ofNames_cases responder s (designations (readAll rule lines)) with
    ⟨results, hok, hinput⟩ | ⟨texts, keys, cause, hreply, hfail⟩
  · rw [hok] at hresult
    refine .inl ⟨_, hresult, fun line' hline' hread d hd => ?_⟩
    obtain ⟨line, hline, rfl⟩ := List.mem_map.1 hline'
    rw [status_annotate] at hread
    rw [designation_annotate] at hd
    have hann := isAnnotated_annotate (isDistinctOf_designations rule lines).nodup results
      (resolution_of_mem_readAll hline)
    obtain ⟨k, hkey⟩ := List.mem_iff_getElem?.1 (mem_designations.2 ⟨line, hline, hread, hd⟩)
    -- The outcome at the place of the key is the one for the key.
    obtain ⟨r, hr, hrd⟩ : ∃ r, results[k]? = some r ∧ r.input = d := by
      rw [← hinput, List.getElem?_map, Option.map_eq_some_iff] at hkey
      exact hkey
    exact ⟨r, (hann.resolution_iff r).2 ⟨hread, k, d, hd, hkey, hr⟩, hrd⟩
  · rw [hfail] at hresult
    exact .inr ⟨texts, keys, cause, hreply, hresult⟩

/-- A batch of lines is read, and its keys are the different designations of the lines that can be
read, in the order of their first appearance. Without a key nothing is asked. Otherwise the resolver
is called once, on the keys: its fault is the fault of the batch, and its outcomes, however many
there are, go to the lines of their keys. The dictionary has an outcome for each key. A resolver
outside leaves a request for each call, and there is one at most. -/
theorem readBatch_resolves_once (rule : UnitRule) (lines : List String) :
    (∀ line ∈ readAll rule lines, line.resolution = none) ∧
    ∃ keys, IsDistinctOf ((readAll rule lines).filterMap wanted?) keys ∧
      (keys ≠ [] ↔ ∃ line ∈ readAll rule lines, line.status ≠ .unreadable ∧
        ∃ d ∈ line.designation, d ≠ "") ∧
      (∀ resolver : Resolver,
        let o := (readBatch rule resolver lines).run responder s
        let call := (resolver keys).run responder s;
        (keys = [] → o.requests = [] ∧ o.state = s ∧ o.result = .ok (readAll rule lines)) ∧
        (keys ≠ [] → o.requests = call.requests ∧ o.state = call.state ∧
          (∀ fault, call.result = .error fault → o.result = .error fault) ∧
          ∀ results, call.result = .ok results → ∃ lines', o.result = .ok lines' ∧
            List.Forall₂ (IsAnnotated keys results) (readAll rule lines) lines')) ∧
      ((readBatch rule .outside lines).run responder s).requests =
        (if keys = [] then [] else [.resolve keys]) ∧
      (let o := (readBatch rule Resolution.ofNames lines).run responder s;
        (∃ lines', o.result = .ok lines' ∧ ∀ line ∈ lines', line.status ≠ .unreadable →
          ∀ d, line.designation = some d → ∃ r, line.resolution = some r ∧ r.input = d) ∨
        ∃ texts ks cause, (responder.reply (.entries texts ks) s).result = .error cause ∧
          o.result = .error (.database cause)) := by
  refine ⟨fun line => resolution_of_mem_readAll, designations (readAll rule lines),
    isDistinctOf_designations rule lines, ?_, fun resolver => ⟨fun hk => ?_, fun hk => ?_⟩, ?_,
    readBatch_ofNames responder s rule lines⟩
  · constructor
    · intro hne
      obtain ⟨d, hd⟩ := List.exists_mem_of_ne_nil _ hne
      obtain ⟨line, hline, hread, hd⟩ := mem_designations.1 hd
      exact ⟨line, hline, hread, d, hd, (designation_trimmed hline d hd).1⟩
    · rintro ⟨line, hline, hread, d, hd, -⟩
      exact List.ne_nil_of_mem (mem_designations.2 ⟨line, hline, hread, hd⟩)
  · obtain ⟨hresult, hstate, hrequests⟩ := run_readBatch_no_key resolver responder s hk
    exact ⟨hrequests, hstate, hresult⟩
  · obtain ⟨hresult, hstate, hrequests⟩ := run_readBatch_keys resolver responder s hk
    refine ⟨hrequests, hstate, fun fault hf => ?_, fun results hr =>
      ⟨_, ?_, forall₂_annotate rule lines results⟩⟩
    · rw [hresult, hf]
      rfl
    · rw [hresult, hr]
      rfl
  · split
    · next hk => exact (run_readBatch_no_key .outside responder s hk).2.2
    · next hk =>
      rw [(run_readBatch_keys .outside responder s hk).2.2, Resolver.outside, Action.run_request]

end PriceSurvey.PriceLine
