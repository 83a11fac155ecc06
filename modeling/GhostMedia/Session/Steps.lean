import GhostMedia.Control.MessageErrors
import GhostMedia.Foundation.Runs
import GhostMedia.Session.Machine

/- The session as a machine over its two calls, and what one call can do: every
   outcome is one of eight, and a granted request is one of fourteen. Properties of the
   session are read off these relations, not off the code. -/
namespace GhostMedia.Session
open CString Control

inductive Call where
  | ingest (jsonText : GmBytes) (nowNs : UInt64) (outAction : GmControlAction)
  | markPathValidated (streamId keyEpoch : UInt32) (outAction : GmControlAction)

def Call.outAction : Call → GmControlAction
  | .ingest _ _ outAction => outAction
  | .markPathValidated _ _ outAction => outAction

structure Reply where
  status : GmStatus
  action : GmControlAction
  deriving DecidableEq

def Outcome.split (outcome : Outcome) : Reply × GmControlSession :=
  (⟨outcome.status, outcome.action⟩, outcome.session)

def step (session : GmControlSession) : Call → Reply × GmControlSession
  | .ingest jsonText nowNs outAction =>
    (gmControlSessionIngest session jsonText nowNs outAction).split
  | .markPathValidated streamId keyEpoch outAction =>
    (gmControlSessionMarkPathValidated session streamId keyEpoch outAction).split

/-- A payload that is a request with a larger id than the last one. -/
def Arrives (s : GmControlSession) (jsonText : GmBytes) (m : GmControlMessageInfo) : Prop :=
  gmControlParseMessage jsonText (clearedInfo sizeofGmControlMessageInfo) = .ok m ∧
    ensureRequest s m = true

/-- The message that the payload of a call holds. -/
def Carries : Call → GmControlMessageInfo → Prop
  | .ingest jsonText _ _, m =>
    gmControlParseMessage jsonText (clearedInfo sizeofGmControlMessageInfo) = .ok m
  | .markPathValidated .., _ => False

instance : (call : Call) → (m : GmControlMessageInfo) → Decidable (Carries call m)
  | .ingest jsonText _ _, m =>
    inferInstanceAs
      (Decidable (gmControlParseMessage jsonText (clearedInfo sizeofGmControlMessageInfo) = .ok m))
  | .markPathValidated .., _ => instDecidableFalse

/-- The request that a call with proper records brings. -/
def Brings (s : GmControlSession) : Call → GmControlMessageInfo → Prop
  | .ingest jsonText _ outAction, m =>
    validSessionForIngest s outAction = true ∧ Arrives s jsonText m
  | .markPathValidated .., _ => False

/-- The session once a request has been let in. -/
def received (s : GmControlSession) (m : GmControlMessageInfo) (nowNs : UInt64) :
    GmControlSession :=
  { s with lastRequestId := m.id, lastUpdateNs := nowNs }

/-- The session after a conflict. -/
def conflicted (s : GmControlSession) : GmControlSession :=
  { s with
    stateConflicts := s.stateConflicts + 1
    rejectedRequests := s.rejectedRequests + 1
    actionsEmitted := s.actionsEmitted + 1 }

/-- The session after an error that closes it. Whatever stream it had stays in its fields. -/
def aborted (s : GmControlSession) (status : GmStatus) : GmControlSession :=
  { s with
    state := .closed
    stateConflicts :=
      if status = .stateConflict then s.stateConflicts + 1 else s.stateConflicts
    protocolErrors :=
      if status = .stateConflict then s.protocolErrors else s.protocolErrors + 1
    rejectedRequests := s.rejectedRequests + 1
    actionsEmitted := s.actionsEmitted + 1 }

/-- The session after a granted request has been counted. -/
def counted (s : GmControlSession) : GmControlSession :=
  { s with validRequests := s.validRequests + 1, actionsEmitted := s.actionsEmitted + 1 }

/-- The session without its request bookkeeping and its metrics. -/
def core (s : GmControlSession) : GmControlSession :=
  { s with
    lastRequestId := 0
    lastUpdateNs := 0
    validRequests := 0
    rejectedRequests := 0
    actionsEmitted := 0
    stateConflicts := 0
    protocolErrors := 0
    streamsStarted := 0
    streamsStopped := 0
    streamsClosed := 0
    rekeysCommitted := 0 }

@[simp] theorem core_received (s : GmControlSession) (m : GmControlMessageInfo) (nowNs : UInt64) :
    core (received s m nowNs) = core s := rfl
@[simp] theorem core_counted (s : GmControlSession) : core (counted s) = core s := rfl

/-- The next stream id once a stream has been closed. -/
def nextAfterClose (next streamId : UInt32) : UInt32 :=
  if next ≤ streamId && streamId ≠ maxU32 then streamId + 1 else next

/-- The grounds on which a request is granted, the state it leads to before it is
    counted, and what its answer adds to the filled action. -/
inductive Grants (s : GmControlSession) (m : GmControlMessageInfo) (nowNs : UInt64) :
    GmControlActionKind → GmControlSession → (GmControlAction → GmControlAction) → Prop
  | hello (kind : m.kind = .requestSessionHello) (state : s.state = .tlsReady) :
    Grants s m nowNs .sendSessionHelloResult
      { s with windowsUdpPort := m.udpPort, state := .hello }
      fun a => { a with state := copyLiteral _ (ascii "hello") }
  | bind (kind : m.kind = .requestTransportBind)
      (state : GmControlSessionState.hello.code ≤ s.state.code)
      (same : sameCStringWithin (gmControlSessionIdHexBytes + 1) m.sessionId.bytes
        s.sessionId.bytes = true) (port : m.udpPort = s.windowsUdpPort) :
    Grants s m nowNs .sendTransportBindResult
      { s with state := if s.state = .hello then .bound else s.state }
      fun a => { a with pathState := copyLiteral _ (ascii "bound") }
  | open (kind : m.kind = .requestStreamOpen) (state : s.state = .bound) :
    Grants s m nowNs .sendStreamOpenResult
      { s with
        streamId := s.nextStreamId
        keyEpoch := s.initialKeyEpoch
        profile := m.profile
        playoutTargetMs := m.playoutTargetMs
        pathValidated := 0
        state := .streamOpen }
      fun a => { a with pathState := copyLiteral _ (ascii "probing") }
  | openAgain (kind : m.kind = .requestStreamOpen)
      (state : s.state = .streamOpen ∨ s.state = .streaming)
      (profile : sameProfile s.profile m.profile = true)
      (playout : s.playoutTargetMs = m.playoutTargetMs) :
    Grants s m nowNs .sendStreamOpenResult s
      fun a => { a with pathState := copyLiteral _ (ascii "probing") }
  | start (kind : m.kind = .requestStreamStart)
      (active : activeStreamMatches s m.streamId = true) (validated : s.pathValidated ≠ 0)
      (again : s.state = .streaming →
        sameCString s.firstMediaTimestamp.bytes m.firstMediaTimestamp.bytes = true) :
    Grants s m nowNs .sendStreamStartResult
      { s with
        firstMediaTimestamp := copyCString _ m.firstMediaTimestamp.bytes
        streamsStarted := if s.state ≠ .streaming then s.streamsStarted + 1 else s.streamsStarted
        state := .streaming }
      fun a =>
        { a with
          state := copyLiteral _ (ascii "started")
          firstMediaTimestamp := copyCString _ m.firstMediaTimestamp.bytes }
  | stop (kind : m.kind = .requestStreamStop)
      (active : activeStreamMatches s m.streamId = true) :
    Grants s m nowNs .sendStreamStopResult
      { s with
        streamsStopped := if s.state = .streaming then s.streamsStopped + 1 else s.streamsStopped
        state := .streamOpen }
      fun a => { a with state := copyLiteral _ (ascii "stopped") }
  | close (kind : m.kind = .requestStreamClose)
      (active : activeStreamMatches s m.streamId = true) :
    Grants s m nowNs .sendStreamCloseResult
      { clearStream s with
        lastClosedStreamId := m.streamId
        nextStreamId := nextAfterClose s.nextStreamId m.streamId
        state := .bound
        streamsClosed := s.streamsClosed + 1 }
      fun a => { a with streamId := m.streamId, state := copyLiteral _ (ascii "closed") }
  | closeAgain (kind : m.kind = .requestStreamClose) (state : s.state = .bound)
      (last : m.streamId = s.lastClosedStreamId) :
    Grants s m nowNs .sendStreamCloseResult s
      fun a => { a with streamId := m.streamId, state := copyLiteral _ (ascii "closed") }
  | rekey (kind : m.kind = .requestStreamRekey)
      (active : activeStreamMatches s m.streamId = true) (next : m.keyEpoch = s.keyEpoch + 1) :
    Grants s m nowNs .sendStreamRekeyResult
      { s with
        keyEpoch := m.keyEpoch
        lastRekeyEpoch := m.keyEpoch
        pathValidated := 0
        rekeysCommitted := s.rekeysCommitted + 1 }
      fun a => { a with state := copyLiteral _ (ascii "rekeying") }
  | rekeyAgain (kind : m.kind = .requestStreamRekey)
      (active : activeStreamMatches s m.streamId = true) (new : m.keyEpoch ≠ s.keyEpoch + 1)
      (current : m.keyEpoch = s.keyEpoch) (last : m.keyEpoch = s.lastRekeyEpoch) :
    Grants s m nowNs .sendStreamRekeyResult s
      fun a => { a with state := copyLiteral _ (ascii "rekeying") }
  | status (kind : m.kind = .requestStatusGet)
      (state : GmControlSessionState.hello.code ≤ s.state.code) :
    Grants s m nowNs .sendStatusResult s
      fun a =>
        { a with
          outputState := copyLiteral _
            (if s.outputAvailable ≠ 0 then ascii "available" else ascii "unavailable")
          transportState := copyLiteral _
            (if s.state.code ≥ GmControlSessionState.bound.code then ascii "bound"
              else ascii "unbound")
          sessionStreamState := copyLiteral _
            (if s.state = .streaming then ascii "started"
              else if s.state = .streamOpen then ascii "open" else ascii "none") }
  | ping (kind : m.kind = .requestPing)
      (state : GmControlSessionState.hello.code ≤ s.state.code) :
    Grants s m nowNs .sendPingResult s
      fun a =>
        { a with
          token := copyCString _ m.token.bytes
          monotonicNs := copyLiteral _
            (if nowNs = 0 then ascii "0" else digitsLoop gmControlDecimalU64MaxBytes nowNs []) }
  | sessionCloseActive (kind : m.kind = .requestSessionClose)
      (active : activeStreamMatches s s.streamId = true) :
    Grants s m nowNs .sendSessionCloseResult
      { clearStream s with
        lastClosedStreamId := s.streamId
        streamsClosed := s.streamsClosed + 1
        state := .closed }
      fun a => { a with state := copyLiteral _ (ascii "closed") }
  | sessionCloseIdle (kind : m.kind = .requestSessionClose)
      (idle : activeStreamMatches s s.streamId = false) :
    Grants s m nowNs .sendSessionCloseResult { s with state := .closed }
      fun a => { a with state := copyLiteral _ (ascii "closed") }

/-- The answer to a granted request. -/
def answer (s : GmControlSession) (m : GmControlMessageInfo) (action : GmControlAction)
    (kind : GmControlActionKind) (edit : GmControlAction → GmControlAction) : Reply :=
  ⟨.ok, edit (fillAction action s kind m.id .ok (if s.state = .closed then 1 else 0))⟩

/-- The outcomes of a call. -/
inductive Steps (s : GmControlSession) : Call → Reply → GmControlSession → Prop
  | invalidIngest {jsonText nowNs outAction}
      (invalid : validSessionForIngest s outAction = false) :
    Steps s (.ingest jsonText nowNs outAction) ⟨.badArgument, outAction⟩ s
  | invalidMark {streamId keyEpoch outAction}
      (invalid : validSessionForIngest s outAction = false) :
    Steps s (.markPathValidated streamId keyEpoch outAction) ⟨.badArgument, outAction⟩ s
  | closed {jsonText nowNs outAction} (valid : validSessionForIngest s outAction = true)
      (state : s.state = .closed) :
    Steps s (.ingest jsonText nowNs outAction)
      ⟨.stateConflict, fillAction outAction (conflicted s) .sendErrorResult 0 .stateConflict 0⟩
      (conflicted s)
  | refused {jsonText nowNs outAction} (status : GmStatus) (responseId : UInt32)
      (valid : validSessionForIngest s outAction = true) (live : s.state ≠ .closed)
      (bad : ¬ ∃ m, Arrives s jsonText m) (error : Json.Refusal status) :
    Steps s (.ingest jsonText nowNs outAction)
      ⟨status, fillAction outAction (aborted s status) .sendErrorClose responseId status 1⟩
      (aborted s status)
  | conflict {jsonText nowNs outAction} (m : GmControlMessageInfo)
      (valid : validSessionForIngest s outAction = true) (live : s.state ≠ .closed)
      (arrives : Arrives s jsonText m) :
    Steps s (.ingest jsonText nowNs outAction)
      ⟨.stateConflict, fillAction outAction (conflicted (received s m nowNs)) .sendErrorResult m.id
        .stateConflict 0⟩
      (conflicted (received s m nowNs))
  | granted {jsonText nowNs outAction kind next edit} (m : GmControlMessageInfo)
      (valid : validSessionForIngest s outAction = true) (live : s.state ≠ .closed)
      (arrives : Arrives s jsonText m)
      (grants : Grants (received s m nowNs) m nowNs kind next edit) :
    Steps s (.ingest jsonText nowNs outAction) (answer next m outAction kind edit) (counted next)
  | unmatched {streamId keyEpoch outAction}
      (valid : validSessionForIngest s outAction = true)
      (other : (activeStreamMatches s streamId && s.keyEpoch = keyEpoch) = false) :
    Steps s (.markPathValidated streamId keyEpoch outAction)
      ⟨.stateConflict, fillAction outAction (conflicted s) .sendErrorResult 0 .stateConflict 0⟩
      (conflicted s)
  | validated {streamId keyEpoch outAction}
      (valid : validSessionForIngest s outAction = true)
      (active : activeStreamMatches s streamId = true) (current : s.keyEpoch = keyEpoch) :
    Steps s (.markPathValidated streamId keyEpoch outAction)
      ⟨.ok,
        { fillAction outAction { s with pathValidated := 1 } .pathValidated 0 .ok 0 with
          pathState := copyLiteral _ (ascii "validated") }⟩
      { s with pathValidated := 1, actionsEmitted := s.actionsEmitted + 1 }

section Requests
variable {s : GmControlSession} {m : GmControlMessageInfo} (nowNs : UInt64)
  (action : GmControlAction)

/-- A branch of the switch rejects with a conflict or grants the request. -/
def Decides (s : GmControlSession) (m : GmControlMessageInfo) (nowNs : UInt64)
    (action : GmControlAction) (outcome : Outcome) : Prop :=
  outcome = rejectConflict s action m.id ∨
    ∃ kind next edit, Grants s m nowNs kind next edit ∧
      outcome.split = (answer next m action kind edit, counted next)

theorem session_hello_decides (kind : m.kind = .requestSessionHello) :
    Decides s m nowNs action (ingestSessionHello s m action) := by
  rw [ingestSessionHello]
  by_cases state : s.state ≠ .tlsReady
  · rw [if_pos state]
    exact .inl rfl
  · rw [if_neg state]
    exact .inr ⟨_, _, _, .hello kind (not_not.mp state), rfl⟩

theorem transport_bind_decides (kind : m.kind = .requestTransportBind) :
    Decides s m nowNs action (ingestTransportBind s m action) := by
  rw [ingestTransportBind]
  by_cases refused : (s.state.code < GmControlSessionState.hello.code ||
      !sameCStringWithin (gmControlSessionIdHexBytes + 1) m.sessionId.bytes s.sessionId.bytes ||
      m.udpPort ≠ s.windowsUdpPort) = true
  · rw [if_pos refused]
    exact .inl rfl
  · rw [if_neg refused]
    simp only [Bool.or_eq_true, decide_eq_true_eq, Bool.not_eq_true', not_or, not_lt,
      Bool.not_eq_false, ne_eq, not_not] at refused
    obtain ⟨⟨state, same⟩, port⟩ := refused
    refine .inr ⟨_, _, _, .bind kind state same port, ?_⟩
    by_cases first : s.state = .hello
    · simp only [if_pos first]
      rfl
    · simp only [if_neg first]
      rfl

theorem stream_open_decides (kind : m.kind = .requestStreamOpen) :
    Decides s m nowNs action (ingestStreamOpen s m action) := by
  rw [ingestStreamOpen]
  by_cases state : s.state = .bound
  · rw [if_pos state]
    exact .inr ⟨_, _, _, .open kind state, rfl⟩
  rw [if_neg state]
  by_cases again : ((s.state = .streamOpen || s.state = .streaming) &&
      sameProfile s.profile m.profile && s.playoutTargetMs = m.playoutTargetMs) = true
  · rw [if_pos again]
    simp only [Bool.and_eq_true, Bool.or_eq_true, decide_eq_true_eq] at again
    exact .inr ⟨_, _, _, .openAgain kind again.1.1 again.1.2 again.2, rfl⟩
  · rw [if_neg again]
    exact .inl rfl

theorem stream_start_decides (kind : m.kind = .requestStreamStart) :
    Decides s m nowNs action (ingestStreamStart s m action) := by
  rw [ingestStreamStart]
  by_cases refused : (!activeStreamMatches s m.streamId || s.pathValidated = 0) = true
  · rw [if_pos refused]
    exact .inl rfl
  rw [if_neg refused]
  by_cases other : (s.state = .streaming &&
      !sameCString s.firstMediaTimestamp.bytes m.firstMediaTimestamp.bytes) = true
  · rw [if_pos other]
    exact .inl rfl
  rw [if_neg other]
  simp only [Bool.or_eq_true, Bool.not_eq_true', decide_eq_true_eq, not_or,
    Bool.not_eq_false] at refused
  simp only [Bool.and_eq_true, decide_eq_true_eq, Bool.not_eq_true', not_and,
    Bool.not_eq_false] at other
  refine .inr ⟨_, _, _, .start kind refused.1 refused.2 other, ?_⟩
  by_cases fresh : s.state ≠ .streaming
  · simp only [if_pos fresh]
    rfl
  · simp only [if_neg fresh]
    rfl

theorem stream_stop_decides (kind : m.kind = .requestStreamStop) :
    Decides s m nowNs action (ingestStreamStop s m action) := by
  rw [ingestStreamStop]
  by_cases active : activeStreamMatches s m.streamId = true
  · rw [if_neg (by simp [active])]
    refine .inr ⟨_, _, _, .stop kind active, ?_⟩
    by_cases streaming : s.state = .streaming
    · simp only [if_pos streaming]
      rfl
    · simp only [if_neg streaming]
      rfl
  · rw [if_pos (by simpa using active)]
    exact .inl rfl

theorem stream_close_decides (kind : m.kind = .requestStreamClose) :
    Decides s m nowNs action (ingestStreamClose s m action) := by
  rw [ingestStreamClose]
  by_cases active : activeStreamMatches s m.streamId = true
  · rw [if_pos active]
    refine .inr ⟨_, _, _, .close kind active, ?_⟩
    by_cases advance : (s.nextStreamId ≤ m.streamId && m.streamId ≠ maxU32) = true
    · simp only [nextAfterClose, if_pos advance]
      rfl
    · simp only [nextAfterClose, if_neg advance]
      rfl
  rw [if_neg active]
  by_cases again : (s.state = .bound && m.streamId = s.lastClosedStreamId) = true
  · rw [if_pos again]
    simp only [Bool.and_eq_true, decide_eq_true_eq] at again
    exact .inr ⟨_, _, _, .closeAgain kind again.1 again.2, rfl⟩
  · rw [if_neg again]
    exact .inl rfl

theorem stream_rekey_decides (kind : m.kind = .requestStreamRekey) :
    Decides s m nowNs action (ingestStreamRekey s m action) := by
  rw [ingestStreamRekey]
  by_cases active : activeStreamMatches s m.streamId = true
  · rw [if_neg (by simp [active])]
    by_cases next : m.keyEpoch = s.keyEpoch + 1
    · rw [if_pos next]
      exact .inr ⟨_, _, _, .rekey kind active next, rfl⟩
    rw [if_neg next]
    by_cases again : (m.keyEpoch = s.keyEpoch && m.keyEpoch = s.lastRekeyEpoch) = true
    · rw [if_pos again]
      simp only [Bool.and_eq_true, decide_eq_true_eq] at again
      exact .inr ⟨_, _, _, .rekeyAgain kind active next again.1 again.2, rfl⟩
    · rw [if_neg again]
      exact .inl rfl
  · rw [if_pos (by simpa using active)]
    exact .inl rfl

theorem status_get_decides (kind : m.kind = .requestStatusGet) :
    Decides s m nowNs action (ingestStatusGet s m action) := by
  rw [ingestStatusGet]
  by_cases early : s.state.code < GmControlSessionState.hello.code
  · rw [if_pos early]
    exact .inl rfl
  · rw [if_neg early]
    exact .inr ⟨_, _, _, .status kind (not_lt.mp early), rfl⟩

theorem ping_decides (kind : m.kind = .requestPing) :
    Decides s m nowNs action (ingestPing s m action nowNs) := by
  rw [ingestPing]
  by_cases early : s.state.code < GmControlSessionState.hello.code
  · rw [if_pos early]
    exact .inl rfl
  · rw [if_neg early]
    exact .inr ⟨_, _, _, .ping kind (not_lt.mp early), rfl⟩

theorem session_close_decides (kind : m.kind = .requestSessionClose) :
    Decides s m nowNs action (ingestSessionClose s m action) := by
  rw [ingestSessionClose]
  by_cases active : activeStreamMatches s s.streamId = true
  · rw [if_pos active]
    exact .inr ⟨_, _, _, .sessionCloseActive kind active, rfl⟩
  · rw [if_neg active]
    exact .inr ⟨_, _, _, .sessionCloseIdle kind (by simpa using active), rfl⟩

theorem handle_request_decides (request : ensureRequest s m = true) :
    Decides (received s m nowNs) m nowNs action
      (handleRequest (received s m nowNs) m nowNs action) := by
  cases kind : m.kind with
  | requestSessionHello =>
    simpa only [handleRequest, kind] using session_hello_decides nowNs action kind
  | requestTransportBind =>
    simpa only [handleRequest, kind] using transport_bind_decides nowNs action kind
  | requestStreamOpen =>
    simpa only [handleRequest, kind] using stream_open_decides nowNs action kind
  | requestStreamStart =>
    simpa only [handleRequest, kind] using stream_start_decides nowNs action kind
  | requestStreamStop =>
    simpa only [handleRequest, kind] using stream_stop_decides nowNs action kind
  | requestStreamClose =>
    simpa only [handleRequest, kind] using stream_close_decides nowNs action kind
  | requestStreamRekey =>
    simpa only [handleRequest, kind] using stream_rekey_decides nowNs action kind
  | requestStatusGet =>
    simpa only [handleRequest, kind] using status_get_decides nowNs action kind
  | requestPing => simpa only [handleRequest, kind] using ping_decides nowNs action kind
  | requestSessionClose =>
    simpa only [handleRequest, kind] using session_close_decides nowNs action kind
  | _ => simp [ensureRequest, kind, GmControlMessageKind.code] at request

end Requests

section Granted
variable {s : GmControlSession} {m : GmControlMessageInfo} {nowNs : UInt64}
  {kind : GmControlActionKind} {next : GmControlSession}
  {edit : GmControlAction → GmControlAction}

/-- The switch grants whatever there are grounds for. -/
theorem grants_handled (grants : Grants s m nowNs kind next edit) (action : GmControlAction) :
    (handleRequest s m nowNs action).split = (answer next m action kind edit, counted next) := by
  cases grants with
  | hello kind state =>
    simp only [handleRequest, kind, ingestSessionHello, state, ne_eq, not_true_eq_false, if_false]
    rfl
  | bind kind state same port =>
    have accepted : ¬ (s.state.code < GmControlSessionState.hello.code ||
        !sameCStringWithin (gmControlSessionIdHexBytes + 1) m.sessionId.bytes s.sessionId.bytes ||
        m.udpPort ≠ s.windowsUdpPort) = true := by
      simp only [Bool.or_eq_true, decide_eq_true_eq, not_or, Nat.not_lt, ne_eq, not_not, same,
        Bool.not_true, Bool.false_eq_true, not_false_eq_true, and_true]
      exact ⟨state, port⟩
    simp only [handleRequest, kind, ingestTransportBind]
    rw [if_neg accepted]
    by_cases first : s.state = .hello
    · simp only [if_pos first]
      rfl
    · simp only [if_neg first]
      rfl
  | «open» kind state =>
    simp only [handleRequest, kind, ingestStreamOpen, state, if_true]
    rfl
  | openAgain kind state profile playout =>
    have notBound : s.state ≠ .bound := by
      rcases state with state | state <;> simp [state]
    have again : ((s.state = .streamOpen || s.state = .streaming) &&
        sameProfile s.profile m.profile && s.playoutTargetMs = m.playoutTargetMs) = true := by
      simpa [profile, playout] using state
    simp only [handleRequest, kind, ingestStreamOpen, if_neg notBound, if_pos again]
    rfl
  | start kind active validated again =>
    have other : ¬ (s.state = .streaming &&
        !sameCString s.firstMediaTimestamp.bytes m.firstMediaTimestamp.bytes) = true := by
      simpa using again
    simp only [handleRequest, kind, ingestStreamStart, active, Bool.not_true, validated,
      decide_false, Bool.or_self, Bool.false_eq_true, if_false, if_neg other]
    by_cases fresh : s.state ≠ .streaming
    · simp only [if_pos fresh]
      rfl
    · simp only [if_neg fresh]
      rfl
  | stop kind active =>
    simp only [handleRequest, kind, ingestStreamStop, active, Bool.not_true, Bool.false_eq_true,
      if_false]
    by_cases streaming : s.state = .streaming
    · simp only [if_pos streaming]
      rfl
    · simp only [if_neg streaming]
      rfl
  | close kind active =>
    simp only [handleRequest, kind, ingestStreamClose, active, if_true]
    by_cases advance : (s.nextStreamId ≤ m.streamId && m.streamId ≠ maxU32) = true
    · simp only [nextAfterClose, if_pos advance]
      rfl
    · simp only [nextAfterClose, if_neg advance]
      rfl
  | closeAgain kind state last =>
    have inactive : ¬ activeStreamMatches s m.streamId = true := by
      simp [activeStreamMatches, state]
    have again : (s.state = .bound && m.streamId = s.lastClosedStreamId) = true := by
      simp [state, last]
    simp only [handleRequest, kind, ingestStreamClose, if_neg inactive, if_pos again]
    rfl
  | rekey kind active next =>
    simp only [handleRequest, kind, ingestStreamRekey, active, Bool.not_true, Bool.false_eq_true,
      if_false, next, if_true]
    rfl
  | rekeyAgain kind active new current last =>
    have again : (m.keyEpoch = s.keyEpoch && m.keyEpoch = s.lastRekeyEpoch) = true := by
      simp [← current, ← last]
    simp only [handleRequest, kind, ingestStreamRekey, active, Bool.not_true, Bool.false_eq_true,
      if_false, if_neg new, if_pos again]
    rfl
  | status kind state =>
    simp only [handleRequest, kind, ingestStatusGet, if_neg (Nat.not_lt.mpr state)]
    rfl
  | ping kind state =>
    simp only [handleRequest, kind, ingestPing, if_neg (Nat.not_lt.mpr state)]
    rfl
  | sessionCloseActive kind active =>
    simp only [handleRequest, kind, ingestSessionClose, active, if_true]
    rfl
  | sessionCloseIdle kind idle =>
    simp only [handleRequest, kind, ingestSessionClose, idle, Bool.false_eq_true, if_false]
    rfl

end Granted

theorem arrives_unique {s : GmControlSession} {jsonText : GmBytes} {m n : GmControlMessageInfo}
    (first : Arrives s jsonText m) (second : Arrives s jsonText n) : m = n := by
  cases first.1.symm.trans second.1
  rfl

theorem brings_unique {s : GmControlSession} {call : Call} {m n : GmControlMessageInfo}
    (first : Brings s call m) (second : Brings s call n) : m = n := by
  cases call with
  | ingest => exact arrives_unique first.2 second.2
  | markPathValidated => exact first.elim

theorem reject_conflict_split (s : GmControlSession) (action : GmControlAction) (id : UInt32) :
    (rejectConflict s action id).split =
      (⟨.stateConflict, fillAction action (conflicted s) .sendErrorResult id .stateConflict 0⟩,
        conflicted s) := rfl

theorem reject_close_split (s : GmControlSession) (action : GmControlAction) (id : UInt32)
    (status : GmStatus) :
    (rejectClose s action id status).split =
      (⟨status, fillAction action (aborted s status) .sendErrorClose id status 1⟩,
        aborted s status) := by
  by_cases conflict : status = .stateConflict
  · simp only [rejectClose, fillErrorAction, aborted, conflict, if_true]
    rfl
  · simp only [rejectClose, fillErrorAction, aborted, conflict, if_true, if_false]
    rfl

/-- A parsed request in a session that is not closed is decided by the switch, or rejected
    for coming before `session.hello`. -/
theorem admitted_decides {s : GmControlSession} {m : GmControlMessageInfo} (nowNs : UInt64)
    (action : GmControlAction) (request : ensureRequest s m = true) :
    Decides (received s m nowNs) m nowNs action
      (if m.kind ≠ .requestSessionHello && (received s m nowNs).state = .tlsReady then
        rejectConflict (received s m nowNs) action m.id
      else handleRequest (received s m nowNs) m nowNs action) := by
  split
  · exact .inl rfl
  · exact handle_request_decides nowNs action request

theorem ingest_steps (s : GmControlSession) (jsonText : GmBytes) (nowNs : UInt64)
    (outAction : GmControlAction) :
    Steps s (.ingest jsonText nowNs outAction)
      (step s (.ingest jsonText nowNs outAction)).1
      (step s (.ingest jsonText nowNs outAction)).2 := by
  rw [step, gmControlSessionIngest]
  by_cases valid : validSessionForIngest s outAction = true
  case neg =>
    rw [if_pos (by simpa using valid)]
    exact .invalidIngest (by simpa using valid)
  rw [if_neg (by simpa using valid)]
  dsimp only
  by_cases state : s.state = .closed
  · rw [if_pos state, reject_conflict_split]
    exact .closed valid state
  rw [if_neg state]
  cases parsed : gmControlParseMessage jsonText (clearedInfo sizeofGmControlMessageInfo) with
  | error status =>
    dsimp only
    rw [reject_close_split]
    refine .refused status 0 valid state ?_ (parse_message_errs _ _ status parsed)
    rintro ⟨m, arrives, _⟩
    cases parsed.symm.trans arrives
  | ok m =>
    dsimp only
    by_cases request : ensureRequest s m = true
    · rw [if_neg (by simp [request])]
      rcases admitted_decides nowNs (fillAction outAction s .none 0 .ok 0) request with
        rejected | ⟨kind, next, edit, grants, outcome⟩
      · rw [received] at rejected
        rw [rejected, reject_conflict_split]
        exact .conflict m valid state ⟨parsed, request⟩
      · rw [received] at outcome
        rw [outcome]
        exact .granted m valid state ⟨parsed, request⟩ grants
    · rw [if_pos (by simpa using request), reject_close_split]
      refine .refused .badMessage m.id valid state ?_ (by decide)
      rintro ⟨other, arrives, fresh⟩
      cases parsed.symm.trans arrives
      exact request fresh

theorem mark_path_validated_steps (s : GmControlSession) (streamId keyEpoch : UInt32)
    (outAction : GmControlAction) :
    Steps s (.markPathValidated streamId keyEpoch outAction)
      (step s (.markPathValidated streamId keyEpoch outAction)).1
      (step s (.markPathValidated streamId keyEpoch outAction)).2 := by
  rw [step, gmControlSessionMarkPathValidated]
  by_cases valid : validSessionForIngest s outAction = true
  case neg =>
    rw [if_pos (by simpa using valid)]
    exact .invalidMark (by simpa using valid)
  rw [if_neg (by simpa using valid)]
  dsimp only
  by_cases other : (!activeStreamMatches s streamId || s.keyEpoch ≠ keyEpoch) = true
  · rw [if_pos other, reject_conflict_split]
    refine .unmatched valid ?_
    simpa [or_iff_not_imp_left] using other
  · rw [if_neg other]
    simp only [Bool.or_eq_true, Bool.not_eq_true', decide_eq_true_eq, not_or,
      Bool.not_eq_false, ne_eq, not_not] at other
    exact .validated valid other.1 other.2

theorem step_steps (s : GmControlSession) (call : Call) :
    Steps s call (step s call).1 (step s call).2 := by
  cases call with
  | ingest => exact ingest_steps ..
  | markPathValidated => exact mark_path_validated_steps ..

/-- Past the checks of its arrival a request is decided by the switch. -/
theorem step_arrived {s : GmControlSession} {jsonText : GmBytes} {nowNs : UInt64}
    {outAction : GmControlAction} {m : GmControlMessageInfo}
    (valid : validSessionForIngest s outAction = true) (live : s.state ≠ .closed)
    (arrives : Arrives s jsonText m) (begun : m.kind = .requestSessionHello ∨ s.state ≠ .tlsReady) :
    step s (.ingest jsonText nowNs outAction) =
      (handleRequest (received s m nowNs) m nowNs
        (fillAction outAction s .none 0 .ok 0)).split := by
  obtain ⟨parsed, request⟩ := arrives
  have late : ¬ (m.kind ≠ .requestSessionHello && s.state = .tlsReady) = true := by
    simpa [or_iff_not_imp_left] using begun
  simp only [step, gmControlSessionIngest, valid, Bool.not_true, Bool.false_eq_true, if_false,
    live, parsed, request, late]
  rfl

theorem granted_step {s next : GmControlSession} {jsonText : GmBytes} {nowNs : UInt64}
    {outAction : GmControlAction} {m : GmControlMessageInfo} {kind edit}
    (valid : validSessionForIngest s outAction = true) (live : s.state ≠ .closed)
    (arrives : Arrives s jsonText m) (begun : m.kind = .requestSessionHello ∨ s.state ≠ .tlsReady)
    (grants : Grants (received s m nowNs) m nowNs kind next edit) :
    step s (.ingest jsonText nowNs outAction) = (answer next m outAction kind edit, counted next) :=
  (step_arrived valid live arrives begun).trans (grants_handled grants _)

/-- Before the hello any other request is a conflict. -/
theorem early_step {s : GmControlSession} {jsonText : GmBytes} {nowNs : UInt64}
    {outAction : GmControlAction} {m : GmControlMessageInfo}
    (valid : validSessionForIngest s outAction = true) (arrives : Arrives s jsonText m)
    (other : m.kind ≠ .requestSessionHello) (ready : s.state = .tlsReady) :
    (step s (.ingest jsonText nowNs outAction)).1.status = .stateConflict := by
  obtain ⟨parsed, request⟩ := arrives
  have early : (m.kind ≠ .requestSessionHello && s.state = .tlsReady) = true := by
    simp [other, ready]
  have live : s.state ≠ .closed := by simp [ready]
  simp only [step, gmControlSessionIngest, valid, Bool.not_true, Bool.false_eq_true, if_false,
    live, parsed, request, early, if_true]
  rfl

/-- An accepted payload brings a request that is granted. -/
theorem accepted_step {s : GmControlSession} {jsonText : GmBytes} {nowNs : UInt64}
    {outAction : GmControlAction}
    (accepted : (step s (.ingest jsonText nowNs outAction)).1.status = .ok) :
    ∃ m kind next edit, Brings s (.ingest jsonText nowNs outAction) m ∧ s.state ≠ .closed ∧
      Grants (received s m nowNs) m nowNs kind next edit ∧
      step s (.ingest jsonText nowNs outAction) =
        (answer next m outAction kind edit, counted next) := by
  have out := step_steps s (.ingest jsonText nowNs outAction)
  generalize step s (.ingest jsonText nowNs outAction) = result at out accepted
  obtain ⟨reply, next⟩ := result
  dsimp only at out accepted
  cases out with
  | invalidIngest | closed | conflict => cases accepted
  | refused _ _ _ _ _ error => exact absurd accepted error.1
  | granted m valid live arrives grants =>
    exact ⟨m, _, _, _, ⟨valid, arrives⟩, live, grants, rfl⟩

/-- A message that is no request, or has an old id, closes the session. -/
theorem stale_step {s : GmControlSession} {jsonText : GmBytes} {nowNs : UInt64}
    {outAction : GmControlAction} {m : GmControlMessageInfo}
    (valid : validSessionForIngest s outAction = true) (live : s.state ≠ .closed)
    (carries : Carries (.ingest jsonText nowNs outAction) m) (stale : ensureRequest s m = false) :
    step s (.ingest jsonText nowNs outAction) =
      (⟨.badMessage,
          fillAction outAction (aborted s .badMessage) .sendErrorClose m.id .badMessage 1⟩,
        aborted s .badMessage) := by
  rw [Carries] at carries
  rw [← reject_close_split]
  simp only [step, gmControlSessionIngest, valid, Bool.not_true, Bool.false_eq_true, if_false,
    live, carries, stale, Bool.not_false, if_true]
  rfl

/-- A `stream.open` that reaches the bound state is granted, under the next stream id and
    the initial key epoch. -/
theorem open_granted {s : GmControlSession} {call : Call} {m : GmControlMessageInfo}
    (state : s.state = .bound) (brings : Brings s call m) (kind : m.kind = .requestStreamOpen) :
    (step s call).1.status = .ok ∧ (step s call).1.action.kind = .sendStreamOpenResult ∧
      (step s call).2.streamId = s.nextStreamId ∧ (step s call).2.keyEpoch = s.initialKeyEpoch := by
  cases call with
  | markPathValidated => exact brings.elim
  | ingest jsonText nowNs outAction =>
    obtain ⟨valid, parsed, request⟩ := brings
    simp only [step, gmControlSessionIngest, valid, Bool.not_true, Bool.false_eq_true, if_false,
      parsed, request, kind, state, handleRequest, ingestStreamOpen, if_true]
    exact ⟨rfl, rfl, rfl, rfl⟩

/-- The size and the version of a session record never change. -/
theorem step_record (s : GmControlSession) (call : Call) :
    (step s call).2.structSize = s.structSize ∧ (step s call).2.abiVersion = s.abiVersion := by
  have out := step_steps s call
  generalize step s call = result at out
  obtain ⟨reply, next⟩ := result
  dsimp only at out ⊢
  cases out with
  | granted _ _ _ _ grants => cases grants <;> exact ⟨rfl, rfl⟩
  | _ => exact ⟨rfl, rfl⟩

end GhostMedia.Session
