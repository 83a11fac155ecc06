import GhostMedia.Session.Representation

/- The metrics of a session against its history: each counter counts one kind of call, and
   the stream counters balance with the stream the session has. -/
namespace GhostMedia.Session
open CString Control Runs

def gmControlSessionGetMetrics (session : GmControlSession) (outMetrics : GmControlMetrics) :
    GmStatus × GmControlMetrics :=
  if session.structSize < sizeofGmControlSession ||
      outMetrics.structSize < sizeofGmControlMetrics || session.abiVersion ≠ gmAbiVersion then
    (.badArgument, outMetrics)
  else
    (.ok, {
      structSize := outMetrics.structSize
      abiVersion := gmAbiVersion
      validRequests := session.validRequests
      rejectedRequests := session.rejectedRequests
      actionsEmitted := session.actionsEmitted
      stateConflicts := session.stateConflicts
      protocolErrors := session.protocolErrors
      streamsStarted := session.streamsStarted
      streamsStopped := session.streamsStopped
      streamsClosed := session.streamsClosed
      rekeysCommitted := session.rekeysCommitted })

section Events

def Call.isIngest : Call → Bool
  | .ingest .. => true
  | .markPathValidated .. => false

variable (e : Event GmControlSession Call Reply)

def acceptsRequest : Bool := e.input.isIngest && e.output.status = .ok

def conflicts : Bool := e.output.status = .stateConflict

def breaksProtocol : Bool :=
  e.input.isIngest && e.output.status ≠ .ok && e.output.status ≠ .stateConflict

def validatesPath : Bool := !e.input.isIngest && e.output.status = .ok

def opensStream : Bool :=
  e.output.status = .ok && e.output.action.kind = .sendStreamOpenResult && e.before.state = .bound

def hasStream (s : GmControlSession) : Bool := s.state = .streamOpen || s.state = .streaming

/-- The key epoch of an open stream is raised by one. -/
def advancesEpoch : Bool :=
  hasStream e.before && hasStream e.after && e.after.keyEpoch.toNat = e.before.keyEpoch.toNat + 1

end Events

/-- What the metrics report after a past that ends in the session `s`. -/
structure Conserved (past : List (Event GmControlSession Call Reply)) (s : GmControlSession)
    (metrics : GmControlMetrics) : Prop where
  validRequests : metrics.validRequests.toNat = past.countP acceptsRequest
  stateConflicts : metrics.stateConflicts.toNat = past.countP conflicts
  protocolErrors : metrics.protocolErrors.toNat = past.countP breaksProtocol
  rejectedRequests : metrics.rejectedRequests.toNat =
    metrics.stateConflicts.toNat + metrics.protocolErrors.toNat
  actionsEmitted : metrics.actionsEmitted.toNat =
    metrics.validRequests.toNat + metrics.rejectedRequests.toNat + past.countP validatesPath
  rekeysCommitted : metrics.rekeysCommitted.toNat = past.countP advancesEpoch
  streamsClosed : past.countP opensStream =
    metrics.streamsClosed.toNat + if s.streamId ≠ 0 then 1 else 0
  streamsStarted : metrics.streamsStopped.toNat + (if s.state = .streaming then 1 else 0) ≤
    metrics.streamsStarted.toNat

/-- The counters of requests, conflicts, errors and actions after a past. -/
structure RequestsMetered (past : List (Event GmControlSession Call Reply))
    (s : GmControlSession) : Prop where
  valid : s.validRequests.toNat = past.countP acceptsRequest
  conflicts : s.stateConflicts.toNat = past.countP conflicts
  errors : s.protocolErrors.toNat = past.countP breaksProtocol
  rejected : s.rejectedRequests.toNat = s.stateConflicts.toNat + s.protocolErrors.toNat
  emitted : s.actionsEmitted.toNat =
    s.validRequests.toNat + s.rejectedRequests.toNat + past.countP validatesPath
  bound : s.actionsEmitted.toNat ≤ past.length

/-- The counters of streams and rekeys after a past. -/
structure StreamsMetered (past : List (Event GmControlSession Call Reply))
    (s : GmControlSession) : Prop where
  rekeys : s.rekeysCommitted.toNat = past.countP advancesEpoch
  closed : past.countP opensStream = s.streamsClosed.toNat + if s.streamId ≠ 0 then 1 else 0
  started : s.streamsStopped.toNat + (if s.state = .streaming then 1 else 0) ≤
    s.streamsStarted.toNat
  bound : s.streamsStarted.toNat ≤ past.length

/-- How one call moves the counters of requests, conflicts, errors and actions. -/
inductive RequestMove (s t : GmControlSession) (e : Event GmControlSession Call Reply) : Prop
  | accepted (event : acceptsRequest e = true ∧ conflicts e = false ∧ breaksProtocol e = false ∧
      validatesPath e = false) (valid : t.validRequests = s.validRequests + 1)
      (conflicts : t.stateConflicts = s.stateConflicts)
      (errors : t.protocolErrors = s.protocolErrors)
      (rejected : t.rejectedRequests = s.rejectedRequests)
      (emitted : t.actionsEmitted = s.actionsEmitted + 1)
  | conflict (event : acceptsRequest e = false ∧ conflicts e = true ∧ breaksProtocol e = false ∧
      validatesPath e = false) (valid : t.validRequests = s.validRequests)
      (conflicts : t.stateConflicts = s.stateConflicts + 1)
      (errors : t.protocolErrors = s.protocolErrors)
      (rejected : t.rejectedRequests = s.rejectedRequests + 1)
      (emitted : t.actionsEmitted = s.actionsEmitted + 1)
  | error (event : acceptsRequest e = false ∧ conflicts e = false ∧ breaksProtocol e = true ∧
      validatesPath e = false) (valid : t.validRequests = s.validRequests)
      (conflicts : t.stateConflicts = s.stateConflicts)
      (errors : t.protocolErrors = s.protocolErrors + 1)
      (rejected : t.rejectedRequests = s.rejectedRequests + 1)
      (emitted : t.actionsEmitted = s.actionsEmitted + 1)
  | validated (event : acceptsRequest e = false ∧ conflicts e = false ∧
      breaksProtocol e = false ∧ validatesPath e = true)
      (valid : t.validRequests = s.validRequests) (conflicts : t.stateConflicts = s.stateConflicts)
      (errors : t.protocolErrors = s.protocolErrors)
      (rejected : t.rejectedRequests = s.rejectedRequests)
      (emitted : t.actionsEmitted = s.actionsEmitted + 1)

/-- How one call moves the counters of streams and rekeys. -/
inductive StreamMove (s t : GmControlSession) (e : Event GmControlSession Call Reply) : Prop
  | keep (event : opensStream e = false ∧ advancesEpoch e = false)
      (streamId : t.streamId = s.streamId) (state : t.state = .streaming → s.state = .streaming)
      (rekeys : t.rekeysCommitted = s.rekeysCommitted)
      (closed : t.streamsClosed = s.streamsClosed) (started : t.streamsStarted = s.streamsStarted)
      (stopped : t.streamsStopped = s.streamsStopped)
  | opened (event : opensStream e = true ∧ advancesEpoch e = false) (none : s.streamId = 0)
      (some : t.streamId ≠ 0) (state : t.state ≠ .streaming)
      (rekeys : t.rekeysCommitted = s.rekeysCommitted)
      (closed : t.streamsClosed = s.streamsClosed) (started : t.streamsStarted = s.streamsStarted)
      (stopped : t.streamsStopped = s.streamsStopped)
  | started (event : opensStream e = false ∧ advancesEpoch e = false)
      (streamId : t.streamId = s.streamId) (state : s.state ≠ .streaming)
      (rekeys : t.rekeysCommitted = s.rekeysCommitted)
      (closed : t.streamsClosed = s.streamsClosed)
      (started : t.streamsStarted = s.streamsStarted + 1)
      (stopped : t.streamsStopped = s.streamsStopped)
  | stopped (event : opensStream e = false ∧ advancesEpoch e = false)
      (streamId : t.streamId = s.streamId) (before : s.state = .streaming)
      (after : t.state ≠ .streaming) (rekeys : t.rekeysCommitted = s.rekeysCommitted)
      (closed : t.streamsClosed = s.streamsClosed) (started : t.streamsStarted = s.streamsStarted)
      (stopped : t.streamsStopped = s.streamsStopped + 1)
  | released (event : opensStream e = false ∧ advancesEpoch e = false) (some : s.streamId ≠ 0)
      (none : t.streamId = 0) (state : t.state ≠ .streaming)
      (rekeys : t.rekeysCommitted = s.rekeysCommitted)
      (closed : t.streamsClosed = s.streamsClosed + 1)
      (started : t.streamsStarted = s.streamsStarted)
      (stopped : t.streamsStopped = s.streamsStopped)
  | rekeyed (event : opensStream e = false ∧ advancesEpoch e = true)
      (streamId : t.streamId = s.streamId) (state : t.state = s.state)
      (rekeys : t.rekeysCommitted = s.rekeysCommitted + 1)
      (closed : t.streamsClosed = s.streamsClosed) (started : t.streamsStarted = s.streamsStarted)
      (stopped : t.streamsStopped = s.streamsStopped)

section Counts
variable (past : List (Event GmControlSession Call Reply))
  (e : Event GmControlSession Call Reply)

theorem count_snoc (p : Event GmControlSession Call Reply → Bool) :
    (past ++ [e]).countP p = past.countP p + if p e = true then 1 else 0 := by
  rw [List.countP_append, List.countP_singleton]

theorem length_snoc : (past ++ [e]).length = past.length + 1 := by
  rw [List.length_append, List.length_singleton]

end Counts

section RequestCounters
variable {s : GmControlSession}

theorem request_move {call : Call} (valid : validSessionForIngest s call.outAction = true) :
    RequestMove s (step s call).2 (Runs.event step s call) := by
  have out := step_steps s call
  rw [Runs.event]
  generalize step s call = result at out
  obtain ⟨reply, next⟩ := result
  dsimp only at out ⊢
  cases out with
  | invalidIngest invalid => cases invalid.symm.trans valid
  | invalidMark invalid => cases invalid.symm.trans valid
  | closed | conflict | unmatched => exact .conflict ⟨rfl, rfl, rfl, rfl⟩ rfl rfl rfl rfl rfl
  | refused status _ _ _ _ error =>
    have ok : status ≠ .ok := error.1
    have conflict : status ≠ .stateConflict := error.2
    refine .error ⟨?_, ?_, ?_, rfl⟩ rfl ?_ ?_ rfl rfl
    · simp [acceptsRequest, ok]
    · simp [conflicts, conflict]
    · simp [breaksProtocol, Call.isIngest, ok, conflict]
    · exact if_neg conflict
    · exact if_neg conflict
  | granted m _ _ _ grants =>
    cases grants <;> exact .accepted ⟨rfl, rfl, rfl, rfl⟩ rfl rfl rfl rfl rfl
  | validated => exact .validated ⟨rfl, rfl, rfl, rfl⟩ rfl rfl rfl rfl rfl

theorem counter_toNat {value next : UInt64} {n : Nat} (counted : next = value + 1)
    (below : value.toNat ≤ n) (few : n + 1 < UInt64.size) : next.toNat = value.toNat + 1 := by
  subst counted
  simp only [UInt64.size, UInt64.toNat_add, UInt64.reduceToNat] at few ⊢
  omega

theorem requests_metered_snoc {past : List (Event GmControlSession Call Reply)}
    {t : GmControlSession} {e : Event GmControlSession Call Reply}
    (held : RequestsMetered past s) (few : past.length + 1 < UInt64.size)
    (move : RequestMove s t e) : RequestsMetered (past ++ [e]) t := by
  obtain ⟨valid, conflicts, errors, rejected, emitted, bound⟩ := held
  cases move with
  | accepted event valid' conflicts' errors' rejected' emitted' =>
    have more := counter_toNat valid' (by omega) few
    have sent := counter_toNat emitted' bound few
    constructor <;>
      simp only [count_snoc, event, conflicts', errors', rejected', more, sent, length_snoc,
        if_true, Bool.false_eq_true, if_false] <;> omega
  | conflict event valid' conflicts' errors' rejected' emitted' =>
    have more := counter_toNat conflicts' (by omega) few
    have refused := counter_toNat rejected' (by omega) few
    have sent := counter_toNat emitted' bound few
    constructor <;>
      simp only [count_snoc, event, valid', errors', refused, more, sent, length_snoc, if_true,
        Bool.false_eq_true, if_false] <;> omega
  | error event valid' conflicts' errors' rejected' emitted' =>
    have more := counter_toNat errors' (by omega) few
    have refused := counter_toNat rejected' (by omega) few
    have sent := counter_toNat emitted' bound few
    constructor <;>
      simp only [count_snoc, event, valid', conflicts', refused, more, sent, length_snoc,
        if_true, Bool.false_eq_true, if_false] <;> omega
  | validated event valid' conflicts' errors' rejected' emitted' =>
    have sent := counter_toNat emitted' bound few
    constructor <;>
      simp only [count_snoc, event, valid', conflicts', errors', rejected', sent, length_snoc,
        if_true, Bool.false_eq_true, if_false] <;> omega

end RequestCounters

section StreamCounters
variable {config : GmControlSessionConfig} {s : GmControlSession}

theorem same_epoch_advances {e : Event GmControlSession Call Reply}
    (same : e.after.keyEpoch = e.before.keyEpoch) : advancesEpoch e = false := by
  simp [advancesEpoch, same]

theorem no_stream_advances {e : Event GmControlSession Call Reply}
    (none : hasStream e.before = false ∨ hasStream e.after = false) : advancesEpoch e = false := by
  rcases none with none | none <;> simp [advancesEpoch, none]

theorem grants_stream_move {jsonText : GmBytes} {nowNs : UInt64} {outAction : GmControlAction}
    {m : GmControlMessageInfo} {kind next edit} (inv : Invariant config s)
    (arrives : Arrives s jsonText m) (grants : Grants (received s m nowNs) m nowNs kind next edit) :
    StreamMove s (counted next)
      ⟨s, .ingest jsonText nowNs outAction, answer next m outAction kind edit, counted next⟩ := by
  cases grants with
  | hello _ state =>
    have state : s.state = .tlsReady := state
    exact .keep ⟨rfl, no_stream_advances (.inl (by simp [hasStream, state]))⟩ rfl
      (by intro same; cases same) rfl rfl rfl rfl
  | bind =>
    refine .keep ⟨rfl, same_epoch_advances rfl⟩ rfl ?_ rfl rfl rfl rfl
    by_cases hello : s.state = .hello <;> simp [counted, received, hello]
  | «open» _ state =>
    have state : s.state = .bound := state
    have none : NoStream s := inv.idle (by simp [state])
    exact .opened ⟨by simp [opensStream, answer, fillAction, state],
      no_stream_advances (.inl (by simp [hasStream, state]))⟩ none.streamId inv.next
      (by intro same; cases same) rfl rfl rfl rfl
  | openAgain _ owns =>
    have other : s.state ≠ .bound := by
      intro state
      rcases owns with other | other <;> cases state.symm.trans other
    exact .keep ⟨by simp [opensStream, other], same_epoch_advances rfl⟩ rfl id rfl rfl rfl rfl
  | start _ active =>
    by_cases streaming : s.state = .streaming
    · refine .keep ⟨rfl, same_epoch_advances rfl⟩ rfl (fun _ => streaming) rfl rfl ?_ rfl
      exact if_neg (not_not.mpr streaming)
    · refine .started ⟨rfl, same_epoch_advances rfl⟩ rfl streaming rfl rfl ?_ rfl
      exact if_pos streaming
  | stop =>
    by_cases streaming : s.state = .streaming
    · refine .stopped ⟨rfl, same_epoch_advances rfl⟩ rfl streaming (by intro same; cases same)
        rfl rfl rfl ?_
      exact if_pos streaming
    · refine .keep ⟨rfl, same_epoch_advances rfl⟩ rfl (by intro same; cases same) rfl rfl rfl ?_
      exact if_neg streaming
  | close _ active =>
    obtain ⟨some, _⟩ := (active_iff _ _).mp active
    exact .released ⟨rfl, no_stream_advances (.inr rfl)⟩ some rfl (by intro same; cases same) rfl
      rfl rfl rfl
  | rekey kind active next =>
    obtain ⟨_, _, owns⟩ := (active_iff _ _).mp active
    have sum : m.keyEpoch.toNat = s.keyEpoch.toNat + 1 :=
      rekey_successor next (rekey_arrives arrives kind)
    have stream : hasStream s = true := by
      rcases owns with state | state <;> simp [hasStream, show s.state = _ from state]
    refine .rekeyed ⟨rfl, ?_⟩ rfl rfl rfl rfl rfl rfl
    simp only [advancesEpoch, Bool.and_eq_true, decide_eq_true_eq]
    exact ⟨⟨stream, stream⟩, sum⟩
  | closeAgain | rekeyAgain | status | ping =>
    exact .keep ⟨rfl, same_epoch_advances rfl⟩ rfl id rfl rfl rfl rfl
  | sessionCloseActive _ active =>
    obtain ⟨some, _⟩ := (active_iff _ _).mp active
    exact .released ⟨rfl, no_stream_advances (.inr rfl)⟩ some rfl (by intro same; cases same) rfl
      rfl rfl rfl
  | sessionCloseIdle =>
    exact .keep ⟨rfl, no_stream_advances (.inr rfl)⟩ rfl (by intro same; cases same) rfl rfl rfl rfl

theorem stream_move (inv : Invariant config s) (call : Call) :
    StreamMove s (step s call).2 (Runs.event step s call) := by
  have out := step_steps s call
  rw [Runs.event]
  generalize step s call = result at out
  obtain ⟨reply, next⟩ := result
  dsimp only at out ⊢
  cases out with
  | invalidIngest | invalidMark | closed | conflict | unmatched | validated =>
    exact .keep ⟨rfl, same_epoch_advances rfl⟩ rfl id rfl rfl rfl rfl
  | refused status _ _ _ _ error =>
    have ok : status ≠ .ok := error.1
    exact .keep ⟨by simp [opensStream, ok], same_epoch_advances rfl⟩ rfl
      (by intro same; cases same) rfl rfl rfl rfl
  | granted m _ _ arrives grants => exact grants_stream_move inv arrives grants

theorem streams_metered_snoc {past : List (Event GmControlSession Call Reply)}
    {t : GmControlSession} {e : Event GmControlSession Call Reply}
    (held : StreamsMetered past s) (few : past.length + 1 < UInt64.size)
    (move : StreamMove s t e) : StreamsMetered (past ++ [e]) t := by
  obtain ⟨rekeys, closed, started, bound⟩ := held
  have opens := List.countP_le_length (p := opensStream) (l := past)
  have advances := List.countP_le_length (p := advancesEpoch) (l := past)
  cases move with
  | keep event streamId state rekeys' closed' started' stopped' =>
    have less : (if t.state = .streaming then 1 else 0) ≤
        if s.state = .streaming then 1 else 0 := by
      split <;> simp_all
    constructor <;>
      simp only [count_snoc, event, rekeys', closed', started', stopped', streamId, length_snoc,
        Bool.false_eq_true, if_false] <;> omega
  | opened event none some state rekeys' closed' started' stopped' =>
    simp only [none, ne_eq, not_true_eq_false, if_false] at closed
    constructor <;>
      simp only [count_snoc, event, rekeys', closed', started', stopped', if_pos some, if_neg
        state, length_snoc, if_true, Bool.false_eq_true, if_false] <;> omega
  | started event streamId state rekeys' closed' started' stopped' =>
    have more := counter_toNat started' bound few
    rw [if_neg state] at started
    have one : (if t.state = .streaming then 1 else 0) ≤ 1 := by split <;> omega
    constructor <;>
      simp only [count_snoc, event, rekeys', closed', more, stopped', streamId, length_snoc,
        Bool.false_eq_true, if_false] <;> omega
  | stopped event streamId before after rekeys' closed' started' stopped' =>
    rw [if_pos before] at started
    have more := counter_toNat stopped' (by omega) few
    constructor <;>
      simp only [count_snoc, event, rekeys', closed', started', more, streamId, if_neg after,
        length_snoc, Bool.false_eq_true, if_false] <;> omega
  | released event some none state rekeys' closed' started' stopped' =>
    rw [if_pos some] at closed
    have more := counter_toNat closed' (by omega) few
    constructor <;>
      simp only [count_snoc, event, rekeys', more, started', stopped', none, if_neg state,
        ne_eq, not_true_eq_false, length_snoc, Bool.false_eq_true, if_false] <;> omega
  | rekeyed event streamId state rekeys' closed' started' stopped' =>
    have more := counter_toNat rekeys' (by omega) few
    constructor <;>
      simp only [count_snoc, event, more, closed', started', stopped', streamId, state,
        length_snoc, if_true, Bool.false_eq_true, if_false] <;> omega

end StreamCounters

section Runs
variable {config : GmControlSessionConfig} {blank start : GmControlSession}

theorem run_record (init : gmControlSessionInit config blank = (.ok, start)) (calls : List Call) :
    sizeofGmControlSession ≤ (final step start calls).structSize ∧
      (final step start calls).abiVersion = gmAbiVersion := by
  obtain ⟨_, size, rfl⟩ := init_ok init
  have initial : sizeofGmControlSession ≤ (initialSession config blank.structSize).structSize ∧
      (initialSession config blank.structSize).abiVersion = gmAbiVersion := ⟨size, rfl⟩
  refine invariant_of_run step
    (fun s => sizeofGmControlSession ≤ s.structSize ∧ s.abiVersion = gmAbiVersion)
    initial (fun s call held => ?_) calls
  rw [(step_record s call).1, (step_record s call).2]
  exact held

theorem run_metered (init : gmControlSessionInit config blank = (.ok, start)) {calls : List Call}
    (sized : ∀ call ∈ calls, sizeofGmControlAction ≤ call.outAction.structSize)
    (few : calls.length < UInt64.size) :
    RequestsMetered (events step start calls) (final step start calls) ∧
      StreamsMetered (events step start calls) (final step start calls) := by
  have good : ∀ e ∈ events step start calls,
      sizeofGmControlAction ≤ e.input.outAction.structSize := by
    intro e member
    obtain ⟨xs, call, ys, rfl, rfl⟩ := event_of_mem step member
    exact sized call (by simp)
  have history := history_of_good step
    (fun e => sizeofGmControlAction ≤ e.input.outAction.structSize)
    (fun past s => (Invariant config s ∧ sizeofGmControlSession ≤ s.structSize ∧
      s.abiVersion = gmAbiVersion) ∧
      (past.length < UInt64.size → RequestsMetered past s ∧ StreamsMetered past s))
    ⟨⟨run_invariant init [], run_record init []⟩, fun _ => ?_⟩
    (fun past s call size held => ?_) good
  · exact history.2 (by rw [events_length]; exact few)
  · obtain ⟨_, _, rfl⟩ := init_ok init
    exact ⟨⟨rfl, rfl, rfl, rfl, rfl, Nat.le_refl _⟩, ⟨rfl, rfl, Nat.le_refl _, Nat.le_refl _⟩⟩
  · obtain ⟨⟨inv, record, version⟩, metered⟩ := held
    obtain ⟨same, version'⟩ := step_record s call
    refine ⟨⟨step_invariant call inv, same ▸ record, version'.trans version⟩, fun more => ?_⟩
    rw [List.length_append, List.length_singleton] at more
    obtain ⟨requests, streams⟩ := metered (by omega)
    have valid : validSessionForIngest s call.outAction = true := by
      simp only [validSessionForIngest, Bool.and_eq_true, decide_eq_true_eq]
      exact ⟨⟨record, size⟩, version⟩
    exact ⟨requests_metered_snoc requests more (request_move valid),
      streams_metered_snoc streams more (stream_move inv call)⟩

/-- The metrics of a run of fewer than 2^64 calls with proper records. -/
theorem metrics_conserved (init : gmControlSessionInit config blank = (.ok, start))
    (calls : List Call) (sized : ∀ call ∈ calls, sizeofGmControlAction ≤ call.outAction.structSize)
    (few : calls.length < UInt64.size) (outMetrics : GmControlMetrics)
    (size : sizeofGmControlMetrics ≤ outMetrics.structSize) :
    ∃ metrics, gmControlSessionGetMetrics (final step start calls) outMetrics = (.ok, metrics) ∧
      Conserved (events step start calls) (final step start calls) metrics := by
  obtain ⟨record, version⟩ := run_record init calls
  obtain ⟨requests, streams⟩ := run_metered init sized few
  have valid : ¬ ((final step start calls).structSize < sizeofGmControlSession ||
      outMetrics.structSize < sizeofGmControlMetrics ||
      (final step start calls).abiVersion ≠ gmAbiVersion) = true := by
    simp only [Bool.or_eq_true, decide_eq_true_eq, not_or, Nat.not_lt, ne_eq, not_not]
    exact ⟨⟨record, size⟩, version⟩
  refine ⟨_, if_neg valid, ?_⟩
  exact {
    validRequests := requests.valid
    stateConflicts := requests.conflicts
    protocolErrors := requests.errors
    rejectedRequests := requests.rejected
    actionsEmitted := requests.emitted
    rekeysCommitted := streams.rekeys
    streamsClosed := streams.closed
    streamsStarted := streams.started }

end Runs

theorem metrics_conserved_sample :
    ∃ metrics, gmControlSessionGetMetrics (final step sampleSession sampleOpening)
        ⟨sizeofGmControlMetrics, 0, 0, 0, 0, 0, 0, 0, 0, 0, 0⟩ = (.ok, metrics) ∧
      Conserved (events step sampleSession sampleOpening) (final step sampleSession sampleOpening)
        metrics :=
  metrics_conserved sample_init sampleOpening
    (by simp [sampleOpening, sampleHello, sampleBind, sampleOpen, sampleRequest, Call.outAction,
      blankAction])
    (by decide) _ (Nat.le_refl _)

/-- The opening of a stream raises the key epoch of the session from 0 to its initial value 1,
    and no rekey is reported. -/
theorem opening_raises_epoch :
    gmControlSessionInit sampleConfig sampleSession = (.ok, sampleSession) ∧
      (final step sampleSession [sampleHello, sampleBind]).keyEpoch = 0 ∧
      (final step sampleSession sampleOpening).keyEpoch = 1 ∧
      (gmControlSessionGetMetrics (final step sampleSession sampleOpening)
        ⟨sizeofGmControlMetrics, 0, 0, 0, 0, 0, 0, 0, 0, 0, 0⟩).2.rekeysCommitted = 0 := by
  rw [sample_bound, sample_opened]
  exact ⟨sample_init, rfl, rfl, rfl⟩

end GhostMedia.Session
