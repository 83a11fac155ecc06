import GhostMedia.Interop.Phase3Delivery

/- The harness's control session on its way: what it is after each request that it grants, and
   what the harness reads in the request. -/
namespace GhostMedia.Interop
open CString Control Media Session Bridge Dialogue GhostMedia.Runtime

section Lifecycle

/-- A control session of the harness in a state, after so many requests. -/
structure Lifecycle (state : GmControlSessionState) (requests : UInt64) (s : GmControlSession) :
    Prop where
  state : s.state = state
  requests : s.validRequests = requests
  started : s.streamsStarted = 0
  next : s.nextStreamId = 1
  epoch : s.initialKeyEpoch = 1

/-- The harness's stream, once it has been opened. -/
structure StreamOpened (s : GmControlSession) : Prop extends Lifecycle .streamOpen 3 s where
  streamId : s.streamId = 1
  keyEpoch : s.keyEpoch = 1

/-- The harness's stream, once it has been started. -/
structure StreamStarted (s : GmControlSession) : Prop where
  state : s.state = .streaming
  requests : s.validRequests = 4
  started : s.streamsStarted = 1
  streamId : s.streamId = 1
  keyEpoch : s.keyEpoch = 1
  validated : s.pathValidated ≠ 0

theorem lifecycle_starts : Lifecycle .tlsReady 0 Setup.startRaw := ⟨rfl, rfl, rfl, rfl, rfl⟩

/-- What the wrapped session has granted when an ingestion returns. -/
structure Granted (session after : GmControlSession) (payload : List UInt8) (now : UInt64)
    (m : GmControlMessageInfo) : Prop where
  arrives : Arrives session (.view payload) m
  grants : ∃ kind next edit, Grants (Session.received session m now) m now kind next edit ∧
    after = counted next

theorem ingest_granted {session after : ControlSession} {payload : List UInt8} {now : UInt64}
    {action : ControlSessionAction}
    (accepted : ControlSession.ingest (.view payload) now session = .ok action after) :
    ∃ m, Granted session.rawValue after.rawValue payload now m := by
  unfold ControlSession.ingest ControlSession.perform at accepted
  split at accepted
  · cases accepted
  rename_i required
  obtain ⟨_, rfl⟩ := EStateM.Result.ok.inj accepted
  have status := require_ok_iff.mp required
  have steps := step_steps session.rawValue (.ingest (.view payload) now blankAction)
  change ∃ m, Granted session.rawValue
    (step session.rawValue (.ingest (.view payload) now blankAction)).2 payload now m
  generalize step session.rawValue (.ingest (.view payload) now blankAction) = outcome
    at status steps ⊢
  obtain ⟨reply, next⟩ := outcome
  cases steps with
  | invalidIngest invalid => cases status
  | closed valid state => cases status
  | refused refusal responseId valid live bad error => exact absurd status error.1
  | conflict m valid live arrives => cases status
  | granted m valid live arrives grants => exact ⟨m, arrives, _, _, _, grants, rfl⟩

variable {s after : GmControlSession} {payload : List UInt8} {now : UInt64}
  {m : GmControlMessageInfo}

theorem hello_granted (lifecycle : Lifecycle .tlsReady 0 s)
    (granted : Granted s after payload now m) (kind : m.kind = .requestSessionHello) :
    Lifecycle .hello 1 after := by
  obtain ⟨_, next, _, grants, rfl⟩ := granted.grants
  obtain ⟨state, requests, started, next, epoch⟩ := lifecycle
  cases grants
  case hello => exact ⟨rfl, congrArg (· + 1) requests, started, next, epoch⟩
  all_goals simp_all

theorem bind_granted (lifecycle : Lifecycle .hello 1 s) (granted : Granted s after payload now m)
    (kind : m.kind = .requestTransportBind) : Lifecycle .bound 2 after := by
  obtain ⟨_, next, _, grants, rfl⟩ := granted.grants
  obtain ⟨state, requests, started, next, epoch⟩ := lifecycle
  cases grants
  case bind => exact ⟨if_pos state, congrArg (· + 1) requests, started, next, epoch⟩
  all_goals simp_all

theorem open_stream_granted (lifecycle : Lifecycle .bound 2 s)
    (granted : Granted s after payload now m) (kind : m.kind = .requestStreamOpen) :
    StreamOpened after := by
  obtain ⟨_, next, _, grants, rfl⟩ := granted.grants
  obtain ⟨state, requests, started, next, epoch⟩ := lifecycle
  cases grants
  case «open» =>
    exact ⟨⟨rfl, congrArg (· + 1) requests, started, next, epoch⟩, next, epoch⟩
  all_goals simp_all [Session.received]

/-- The session of an open stream takes the validated path. -/
theorem opened_validates {session : ControlSession} (opened : StreamOpened session.rawValue) :
    Takes session.rawValue (.markPathValidated 1 1 blankAction) .pathValidated
      { session.rawValue with
        pathValidated := 1
        actionsEmitted := session.rawValue.actionsEmitted + 1 } := by
  have active : activeStreamMatches session.rawValue 1 = true := by
    simp [activeStreamMatches, opened.state, opened.streamId]
  have steps := step_steps session.rawValue (.markPathValidated 1 1 blankAction)
  have valid := valid_for_ingest session
  generalize made : step session.rawValue (.markPathValidated 1 1 blankAction) = outcome at steps
  obtain ⟨reply, next⟩ := outcome
  cases steps with
  | invalidMark invalid => rw [valid] at invalid; cases invalid
  | unmatched _ other => simp [active, opened.keyEpoch] at other
  | validated => exact ⟨by rw [made], by rw [made]; rfl, by rw [made]⟩

theorem start_granted (opened : StreamOpened s) (granted : Granted
      { s with pathValidated := 1, actionsEmitted := s.actionsEmitted + 1 } after payload now m)
    (kind : m.kind = .requestStreamStart) : StreamStarted after := by
  obtain ⟨_, next, _, grants, rfl⟩ := granted.grants
  obtain ⟨⟨state, requests, started, next, epoch⟩, streamId, keyEpoch⟩ := opened
  cases grants
  case start =>
    refine ⟨rfl, congrArg (· + 1) requests, ?_, streamId, keyEpoch, ?_⟩ <;>
      simp [counted, Session.received, state, started]
  all_goals simp_all

theorem started_metrics {session : ControlSession} (started : StreamStarted session.rawValue) :
    Harness.metrics session = .ok ⟨4, 1⟩ := by
  have size : ¬ session.rawValue.structSize < sizeofGmControlSession := Nat.not_lt.mpr session.size
  simp [Harness.metrics, gmControlSessionGetMetrics, size, session.version, started.requests,
    started.started, requireOk, bind, Except.bind, pure, Except.pure]

end Lifecycle

section Requests

theorem parsed_core {payload : List UInt8} {m : GmControlMessageInfo}
    (core : gmControlParseMessage (.view payload) (clearedInfo sizeofGmControlMessageInfo) =
      .ok m) : parseControlMessage payload = .ok (controlMessage m) := by
  have same : gmControlParseMessage (.view payload) newMessageInfo = .ok m := core
  rw [parseControlMessage, same]

theorem shown_kind {found : GmControlMessageKind} (kind : GmControlMessageKind)
    (same : controlMessageKind (rawKind found) = controlMessageKind (rawKind kind)) :
    found = kind := by
  cases found <;> cases kind <;> first | rfl | exact absurd same (by decide)

theorem hello_port_read {m : GmControlMessageInfo} (range : 1 ≤ m.udpPort ∧ m.udpPort ≤ 65535) :
    ∃ port, Harness.uint16Of ((controlMessage m).udpPort.getD 0) = some port := by
  have small : ((controlMessage m).udpPort.getD 0).toNat < 2 ^ 16 := by
    change ((if m.udpPort = 0 then none else some m.udpPort).getD 0).toNat < 2 ^ 16
    have high : m.udpPort.toNat ≤ 65535 := UInt32.le_iff_toNat_le.mp range.2
    split
    · decide
    · exact Nat.lt_succ_of_le high
  exact ⟨_, if_pos small⟩

theorem start_timestamp_present {m : GmControlMessageInfo} {s : GmControlSession}
    {payload : List UInt8} (arrives : Arrives s (.view payload) m)
    (kind : m.kind = .requestStreamStart) :
    ∃ first, (controlMessage m).firstMediaTimestamp.bind uint64OfText = some first := by
  have decimal := (start_arrives arrives kind).1
  have present : m.firstMediaTimestamp.text.isEmpty = false :=
    List.isEmpty_eq_false_iff.mpr decimal.1.nonempty
  refine ⟨UInt64.ofNat (Decimal.value m.firstMediaTimestamp.text), ?_⟩
  change (optionalString m.firstMediaTimestamp).bind uint64OfText = _
  rw [optionalString, present]
  exact uint64_of_canonical decimal

end Requests

end GhostMedia.Interop
