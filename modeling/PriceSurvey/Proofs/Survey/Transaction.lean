import PriceSurvey.Proofs.Line.Batch
import PriceSurvey.Proofs.Offer.Batch
import PriceSurvey.Proofs.Sql.Ledger
import PriceSurvey.Survey

/-!
# All lines or none

A submission is one transaction. Its statements are known before any of them is sent: the lookup of
the designations, if there are any, and, if lines are to be kept, the question for the table and the
insertions. The first one that fails is the last one before the transaction is rolled back; if none
fails it is committed. So the evidence has all lines of a submission or none, and no transaction
stays open.

Results:
* `plan_readLines`: what a submission sends between the ends of its transaction.
* `transaction_ends`, `submit_ends`: any action as a transaction, and a submission.
* `pending_session`: no step leaves a transaction open.
* `submit_all_or_nothing`: a submission behind any other steps.
-/
namespace PriceSurvey

open Sql Connection

variable {α : Type} {c : Connection} {l : Ledger}

/-! ## What a submission comes to -/

/-- The entries of a table that queries ask for. -/
def Query.matching (queries : List Query) (entries : List AliasEntry) : List AliasEntry :=
  entries.filter fun e => (distinct (queries.map (·.trimmed))).contains e.name ||
    (distinct (queries.map (·.key))).contains e.key

/-- The outcomes of names by the entries of a table. -/
def Resolution.outcomes (entries : List AliasEntry) (names : List String) : List Resolution :=
  let queries := names.map Query.ofName
  queries.map (Query.resolve (.ofEntries (Query.matching queries entries)))

/-- The lookup of names. -/
def Sql.Statement.lookup (names : List String) : Statement :=
  let queries := names.map Query.ofName
  .selectEntries (Query.distinct (queries.map (·.trimmed))) (Query.distinct (queries.map (·.key)))

namespace Survey

/-- The lines that are answered if all goes well. They depend on the rule, the dictionary and the
texts only. -/
def answered (v : Survey) (entries : List AliasEntry) (texts : List String) : List PriceLine :=
  let read := PriceLine.readAll v.rule texts
  let names := PriceLine.designations read
  read.map (PriceLine.annotate (.ofPairs (names.zip (Resolution.outcomes entries names))))

/-- The rows of evidence for lines. -/
def rowsFor (lines : List PriceLine) (source : Option String) : List EvidenceRow :=
  lines.map fun line => ⟨line, source⟩

/-- The lookup of a submission: there is one if a line that can be read has a designation. -/
def lookups (v : Survey) (texts : List String) : List Statement :=
  let read := PriceLine.readAll v.rule texts
  if ∃ line ∈ read, line.status ≠ .unreadable ∧ line.designation ≠ none then
    [.lookup (PriceLine.designations read)]
  else []

/-- What is sent to record lines: the question for the table, and then the insertions if there is
the table. Without lines nothing is sent. -/
def recordings (server : Server) (lines : List PriceLine) (source : Option String) :
    List Statement :=
  if lines = [] then []
  else
    .selectEvidenceTable ::
      if server.evidenceTable then (pieces (rowsFor lines source)).map .insertEvidence else []

/-- What a submission sends between the ends of its transaction if nothing fails. -/
def body (v : Survey) (server : Server) (s : Submission) : List Statement :=
  v.lookups s.lines ++
    if s.persist then recordings server (v.answered server.entries s.lines) s.source else []

/-- The rows that a submission is to leave. -/
def recorded (v : Survey) (server : Server) (s : Submission) : List EvidenceRow :=
  if s.persist ∧ server.evidenceTable then
    rowsFor (v.answered server.entries s.lines) s.source
  else []

end Survey

/-! ## Plans -/

variable (server : Server)

theorem Resolution.plan_ofNames {names : List String}
    (h : ∃ q ∈ names.map Query.ofName, q.trimmed ≠ "") :
    (Resolution.ofNames names).plan server =
      ⟨[.lookup names], .ok (Resolution.outcomes server.entries names)⟩ := by
  have hfetch : (Query.fetch (names.map Query.ofName)).plan server =
      ⟨[.lookup names], .ok (Query.matching (names.map Query.ofName) server.entries)⟩ := by
    rw [Query.fetch_request h]
    exact Action.plan_request server rfl
  rw [Resolution.ofNames, Action.plan_seq_of_eq server hfetch]
  rfl

namespace PriceLine

variable {rule : UnitRule} {texts : List String}

/-- A designation that was read is no blank name. -/
theorem not_blank_designations (h : designations (readAll rule texts) ≠ []) :
    ∃ q ∈ (designations (readAll rule texts)).map Query.ofName, q.trimmed ≠ "" := by
  obtain ⟨d, hd⟩ := List.exists_mem_of_ne_nil _ h
  obtain ⟨line, hline, -, hl⟩ := mem_designations.1 hd
  obtain ⟨hne, htrimmed⟩ := designation_trimmed hline d hl
  refine ⟨_, List.mem_map_of_mem hd, ?_⟩
  have hsame : (Query.ofName d).trimmed = d := by
    change String.ofList (Text.trim d.toList) = d
    rw [Text.trim_eq_self htrimmed, String.ofList_toList]
  rwa [hsame]

theorem lookups_eq_nil (v : Survey) (h : designations (readAll v.rule texts) = []) :
    v.lookups texts = [] := by
  refine if_neg ?_
  rintro ⟨line, hline, hread, hd⟩
  obtain ⟨d, hd⟩ := Option.ne_none_iff_exists'.1 hd
  have hmem := mem_designations.2 ⟨line, hline, hread, hd⟩
  rw [h] at hmem
  cases hmem

theorem lookups_of_ne_nil (v : Survey) (h : designations (readAll v.rule texts) ≠ []) :
    v.lookups texts = [.lookup (designations (readAll v.rule texts))] := by
  refine if_pos ?_
  obtain ⟨d, hd⟩ := List.exists_mem_of_ne_nil _ h
  obtain ⟨line, hline, hread, hd⟩ := mem_designations.1 hd
  exact ⟨line, hline, hread, by simp [hd]⟩

theorem plan_resolutions (v : Survey) (texts : List String) :
    (resolutions Resolution.ofNames (designations (readAll v.rule texts))).plan server =
      ⟨v.lookups texts, .ok (.ofPairs ((designations (readAll v.rule texts)).zip
        (Resolution.outcomes server.entries (designations (readAll v.rule texts)))))⟩ := by
  by_cases h : designations (readAll v.rule texts) = []
  · rw [lookups_eq_nil v h, h]
    rfl
  · have hnames := Resolution.plan_ofNames server (not_blank_designations h)
    rw [lookups_of_ne_nil v h, resolutions, if_neg (by simpa using h),
      Action.plan_seq_of_eq server hnames]
    rfl

theorem plan_readBatch (v : Survey) (texts : List String) :
    (readBatch v.rule Resolution.ofNames texts).plan server =
      ⟨v.lookups texts, .ok (v.answered server.entries texts)⟩ := by
  cases texts with
  | nil => rfl
  | cons raw rest =>
    have hfound := plan_resolutions server v (raw :: rest)
    rw [readBatch, if_neg (by simp)]
    rw [Action.plan_seq_of_eq server hfound]
    simp only [Action.plan_log_seq, Action.plan_pure, Plan.behind_mk, List.append_nil]
    rfl

theorem plan_recordAll (lines : List PriceLine) (source : Option String) :
    (recordAll lines source).plan server = ⟨Survey.recordings server lines source,
      .ok (if server.evidenceTable then lines.length else 0)⟩ := by
  by_cases hlines : lines = []
  · subst hlines
    exact congrArg (Plan.mk []) (congrArg Except.ok (ite_self 0).symm)
  rw [recordAll, if_neg (by simpa using hlines), Survey.recordings, if_neg hlines]
  have htable := Action.plan_request server (r := .evidenceTable) rfl
  rw [Action.plan_seq_of_eq server htable]
  split
  case isTrue h =>
    have hrows := Action.plan_request server (r := .append lines source) rfl
    rw [Action.plan_seq_of_eq server hrows]
    simp [Statement.ofRequest, Survey.rowsFor]
  case isFalse h => simp [Statement.ofRequest]

end PriceLine

namespace Survey

theorem plan_readLines (v : Survey) (s : Submission) :
    (v.readLines s).plan server = ⟨v.body server s, .ok (v.answered server.entries s.lines)⟩ := by
  have hread := PriceLine.plan_readBatch server v s.lines
  rw [readLines, Action.plan_seq_of_eq server hread, body]
  split
  case isTrue h =>
    have hrecord := PriceLine.plan_recordAll server (v.answered server.entries s.lines) s.source
    rw [Action.plan_seq_of_eq server hrecord]
    simp
  case isFalse h => simp

theorem written_lookups (v : Survey) (texts : List String) :
    (v.lookups texts).flatMap Statement.written = [] := by
  rw [lookups]
  split <;> rfl

theorem written_recordings (lines : List PriceLine) (source : Option String) :
    (recordings server lines source).flatMap Statement.written =
      if server.evidenceTable then rowsFor lines source else [] := by
  by_cases hlines : lines = []
  · rw [recordings, if_pos hlines, hlines]
    exact (ite_self _).symm
  rw [recordings, if_neg hlines, List.flatMap_cons]
  split
  · -- The insertions hold the rows of the pieces, and together the pieces are the rows.
    rw [List.flatMap_map]
    exact (congrArg List.flatten (List.map_id _)).trans (flatten_pieces _)
  · rfl

/-- The body of a submission writes the rows that the submission is to leave. -/
theorem written_body (v : Survey) (s : Submission) :
    (v.body server s).flatMap Statement.written = v.recorded server s := by
  rw [body, List.flatMap_append, written_lookups, List.nil_append, recorded]
  by_cases hpersist : s.persist = true
  · simp [hpersist, written_recordings]
  · simp [hpersist]

end Survey

/-! ## Transactions -/

/-- To undo a transaction cannot fail. -/
theorem fault?_rollBack (c : Connection) : c.fault? .rollBack = none := rfl

/-- How a transaction is ended behind its statements, and what is answered then. -/
inductive Ends (c : Connection) (x : α) :
    Option DatabaseFault → List Statement → Except Fault α → Prop
  | failed {cause : DatabaseFault} : Ends c x (some cause) [.rollBack] (.error (.database cause))
  | committed (h : c.fault? .commit = none) : Ends c x none [.commit] (.ok x)
  | refused {cause : DatabaseFault} (h : c.fault? .commit = some cause) :
    Ends c x none [.commit, .rollBack] (.error (.database cause))

/-- A transaction is begun, goes on with the plan of its action up to the first statement that
fails, and is ended. -/
theorem Survey.transaction_ends {a : Action α} {x : α} (h : (a.plan c.server).result = .ok x) :
    ∃ sent fault ending, Takes (c.after [.start]) (a.plan c.server).statements sent fault ∧
      Ends (c.after (.start :: sent)) x fault ending (Survey.transaction a c).result ∧
      (Survey.transaction a c).state = c.after (.start :: (sent ++ ending)) := by
  obtain ⟨sent, fault, ht, hstate, hresult⟩ := Action.run_takes_plan a (c.after [.start])
  rw [server_after] at ht hresult
  rw [after_after] at hstate
  have hrun : Survey.transaction a c = Survey.finish (a.run responder (c.after [.start])) := rfl
  rw [hrun, Survey.finish]
  cases fault with
  | some cause =>
    have herror : (a.run responder (c.after [.start])).result = .error (.database cause) := hresult
    refine ⟨sent, some cause, [.rollBack], ht, ?_, ?_⟩
    · simp only [herror]
      exact .failed
    · simp only [herror, hstate, send_eq, after_after]
      simp
  | none =>
    have hok : (a.run responder (c.after [.start])).result = .ok x := hresult.trans h
    simp only [hok, hstate, send_eq]
    cases hc : (c.after ([.start] ++ sent)).fault? .commit with
    | none =>
      refine ⟨sent, none, [.commit], ht, ?_, ?_⟩
      · exact hok ▸ .committed hc
      · simp
    | some cause =>
      refine ⟨sent, none, [.commit, .rollBack], ht, .refused hc, ?_⟩
      simp

/-- Only a transaction that is committed is answered with its value. -/
theorem Ends.ok_iff {x : α} {fault : Option DatabaseFault} {ending : List Statement}
    {result : Except Fault α} (h : Ends c x fault ending result) :
    result = .ok x ↔ ending = [.commit] := by
  cases h with
  | failed => simp
  | committed => simp
  | refused => simp

/-- A transaction that is ended is not open any more, and its rows are kept if it was committed. -/
theorem Ends.ledger {x : α} {fault : Option DatabaseFault} {ending : List Statement}
    {result : Except Fault α} (h : Ends c x fault ending result) (kept rows : List EvidenceRow) :
    c.ledger ⟨kept, some rows⟩ ending =
      ⟨kept ++ if ending = [.commit] then rows else [], none⟩ := by
  cases h with
  | failed => simp [ledger_cons_ok (fault?_rollBack c), Ledger.apply]
  | committed h => simp [ledger_cons_ok h, Ledger.apply]
  | refused h => simp [ledger_cons_failed h, ledger_cons_ok (fault?_rollBack _), Ledger.apply]

namespace Survey

/-- A submission is the transaction of its body and its lines. -/
theorem submit_ends (v : Survey) (s : Submission) (c : Connection) :
    ∃ sent fault ending, Takes (c.after [.start]) (v.body c.server s) sent fault ∧
      Ends (c.after (.start :: sent)) (v.answered c.server.entries s.lines) fault ending
        (v.submit s c).result ∧
      (v.submit s c).state = c.after (.start :: (sent ++ ending)) := by
  have hplan := plan_readLines c.server v s
  have hends := transaction_ends (c := c) (a := v.readLines s) (by rw [hplan])
  rwa [hplan] at hends

/-- The evidence behind a submission on a connection without an open transaction: that from before,
and the rows of the submission if it was committed. -/
theorem ledger_submit (v : Survey) (s : Submission) {sent ending : List Statement}
    {fault : Option DatabaseFault} {result : Except Fault (List PriceLine)}
    (ht : Takes (c.after [.start]) (v.body c.server s) sent fault)
    (he : Ends (c.after (.start :: sent)) (v.answered c.server.entries s.lines) fault ending result)
    (kept : List EvidenceRow) :
    c.ledger ⟨kept, none⟩ (.start :: (sent ++ ending)) =
      ⟨kept ++ if ending = [.commit] then v.recorded c.server s else [], none⟩ := by
  have hcontrol := isControl_plan (v.readLines s) c.server
  rw [plan_readLines] at hcontrol
  obtain ⟨rows, hledger, hrows⟩ := ht.ledger hcontrol kept []
  have hstart : c.fault? .start = none := rfl
  have hopen : Ledger.apply ⟨kept, none⟩ .start = ⟨kept, some []⟩ := rfl
  rw [ledger_cons_ok hstart, hopen, ledger_append, hledger, after_after, List.singleton_append,
    he.ledger]
  -- A transaction is committed only if none of its statements failed.
  cases he with
  | failed => rfl
  | refused => rfl
  | committed => rw [hrows rfl, List.nil_append, written_body]

/-! ## Steps -/

/-- One use of a connection, or a change of what is behind it by somebody else. -/
inductive Step where
  | submit (s : Submission)
  | resolve (names : List String)
  | assess (offers : List Offer)
  | assessOne (o : Offer)
  | change (server : Server) (failing : List Statement → Statement → Option DatabaseFault)

/-- The connection behind a step. -/
def step (v : Survey) (c : Connection) : Step → Connection
  | .submit s => (v.submit s c).state
  | .resolve names => (Survey.resolve names c).state
  | .assess offers => (assess offers c).state
  | .assessOne o => (assessOne o c).state
  | .change server failing => { c with server, failing }

/-- The connection behind steps one after the other, and the evidence then. -/
def session (v : Survey) : List Step → Connection → Ledger → Connection × Ledger
  | [], c, l => (c, l)
  | s :: rest, c, l =>
    v.session rest (v.step c s) (c.ledger l ((v.step c s).sent.drop c.sent.length))

/-- An action that only reads leaves the evidence as it is. -/
theorem ledger_of_reads {a : Action α} (h : ∀ r ∈ (a.run responder c).requests, r.reads = true)
    (l : Ledger) :
    c.ledger l ((a.run responder c).state.sent.drop c.sent.length) = l := by
  rw [Action.state_of_reads a h, after, List.drop_left]
  refine ledger_of_neutral (fun s hs => ?_) c l
  obtain ⟨r, hr, hs⟩ := List.mem_flatMap.1 hs
  exact ⟨Statement.isControl_ofRequest r s hs, Statement.written_of_reads (h r hr) s hs⟩

theorem reads_of_exchanges {a : Action α}
    (h : ∀ x ∈ a.exchanges responder c, x.request.reads = true) :
    ∀ r ∈ (a.run responder c).requests, r.reads = true := by
  rw [← Action.map_request_exchanges]
  intro r hr
  obtain ⟨x, hx, rfl⟩ := List.mem_map.1 hr
  exact h x hx

theorem reads_resolve (names : List String) (c : Connection) :
    ∀ r ∈ (Survey.resolve names c).requests, r.reads = true :=
  reads_of_exchanges (Assessment.reads_resolver Resolution.ofNames responder c names (.inr rfl))

theorem reads_assess (offers : List Offer) (c : Connection) :
    ∀ r ∈ (Survey.assess offers c).requests, r.reads = true := by
  apply reads_of_exchanges
  intro x hx
  rcases Assessment.reads_ofOffers Resolution.ofNames responder c x hx with hx | hx
  · exact Assessment.reads_resolver Resolution.ofNames responder c _ (.inr rfl) x hx
  · exact hx

/-- One offer is assessed as a batch, and nothing is asked behind that. -/
theorem reads_assessOne (o : Offer) (c : Connection) :
    ∀ r ∈ (Survey.assessOne o c).requests, r.reads = true := by
  have hbatch : (Survey.assessOne o c).requests = (Survey.assess [o] c).requests := by
    rw [assessOne, assess, Assessment.ofOffer, Action.run_seq]
    cases h : ((Assessment.ofOffers Resolution.ofNames [o]).run responder c).result with
    | error fault => rw [Outcome.follow_error h]
    | ok as =>
      rw [Outcome.follow_ok h, Outcome.behind_requests]
      cases as <;> simp [Action.run]
  rw [hbatch]
  exact reads_assess [o] c

/-- No step leaves a transaction open that was not open before it. -/
theorem pending_step (v : Survey) (s : Step) (c : Connection) (h : l.pending = none) :
    (c.ledger l ((v.step c s).sent.drop c.sent.length)).pending = none := by
  cases s with
  | submit s =>
    obtain ⟨kept, pending⟩ := l
    have hpending : pending = none := h
    obtain ⟨sent, fault, ending, ht, he, hstate⟩ := submit_ends v s c
    rw [step, hstate, after, List.drop_left, hpending, ledger_submit v s ht he]
  | resolve names =>
    rw [step, resolve, ledger_of_reads (reads_resolve names c)]
    exact h
  | assess offers =>
    rw [step, assess, ledger_of_reads (reads_assess offers c)]
    exact h
  | assessOne o =>
    rw [step, assessOne, ledger_of_reads (reads_assessOne o c)]
    exact h
  | change server failing =>
    rw [step, List.drop_length, ledger_nil]
    exact h

/-- After any steps no transaction is open. -/
theorem pending_session (v : Survey) (steps : List Step) (c : Connection) (h : l.pending = none) :
    (v.session steps c l).2.pending = none := by
  induction steps generalizing c l with
  | nil => exact h
  | cons s rest ih => exact ih _ (pending_step v s c h)

/-- Behind any steps, a submission begins a transaction, goes on with its body up to the first
statement that fails, and ends the transaction. It is answered with its lines exactly if it was
committed, and then the evidence has its rows. Otherwise the answer is a fault of the database, and
the evidence is as it was. -/
theorem submit_all_or_nothing (v : Survey) (steps : List Step) (c₀ : Connection)
    (kept : List EvidenceRow) (s : Submission) :
    let c := (v.session steps c₀ ⟨kept, none⟩).1
    let l := (v.session steps c₀ ⟨kept, none⟩).2
    let o := v.submit s c
    let answered := v.answered c.server.entries s.lines;
    l.pending = none ∧ ∃ sent fault ending,
      o.state = c.after (.start :: (sent ++ ending)) ∧
      Takes (c.after [.start]) (v.body c.server s) sent fault ∧
      Ends (c.after (.start :: sent)) answered fault ending o.result ∧
      (o.result = .ok answered ↔ ending = [.commit]) ∧
      c.ledger l (.start :: (sent ++ ending)) =
        ⟨l.kept ++ if ending = [.commit] then v.recorded c.server s else [], none⟩ := by
  intro c l o answered
  have hpending : l.pending = none := pending_session v steps c₀ rfl
  obtain ⟨sent, fault, ending, ht, he, hstate⟩ := submit_ends v s c
  refine ⟨hpending, sent, fault, ending, hstate, ht, he, ?_, ?_⟩
  · exact he.ok_iff
  · have hl : l = ⟨l.kept, none⟩ := by rw [← hpending]
    rw [hl, ledger_submit v s ht he]

end Survey

end PriceSurvey
