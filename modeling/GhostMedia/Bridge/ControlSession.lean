import GhostMedia.Bridge.ProtocolCore
import GhostMedia.Session.Acceptance
import GhostMedia.Session.Metrics
import GhostMedia.Session.QuietCalls

/- The control session of Phase2Core.swift: a wrapper around the core's session that
   throws whenever the core does not return `GM_OK`, so the actions that the core writes
   for its errors are lost. -/
namespace GhostMedia.Bridge
open CString Control Session Runs

inductive ControlSessionActionKind where
  | sessionHelloResult
  | transportBindResult
  | streamOpenResult
  | streamStartResult
  | streamStopResult
  | streamCloseResult
  | streamRekeyResult
  | statusResult
  | pingResult
  | sessionCloseResult
  | pathValidated
  | errorResult
  | errorClose
  | unknown (rawValue : UInt32)
  deriving DecidableEq

def ControlSessionActionKind.init (rawValue : UInt32) : ControlSessionActionKind :=
  if rawValue = GmControlActionKind.sendSessionHelloResult.code then .sessionHelloResult
  else if rawValue = GmControlActionKind.sendTransportBindResult.code then .transportBindResult
  else if rawValue = GmControlActionKind.sendStreamOpenResult.code then .streamOpenResult
  else if rawValue = GmControlActionKind.sendStreamStartResult.code then .streamStartResult
  else if rawValue = GmControlActionKind.sendStreamStopResult.code then .streamStopResult
  else if rawValue = GmControlActionKind.sendStreamCloseResult.code then .streamCloseResult
  else if rawValue = GmControlActionKind.sendStreamRekeyResult.code then .streamRekeyResult
  else if rawValue = GmControlActionKind.sendStatusResult.code then .statusResult
  else if rawValue = GmControlActionKind.sendPingResult.code then .pingResult
  else if rawValue = GmControlActionKind.sendSessionCloseResult.code then .sessionCloseResult
  else if rawValue = GmControlActionKind.pathValidated.code then .pathValidated
  else if rawValue = GmControlActionKind.sendErrorResult.code then .errorResult
  else if rawValue = GmControlActionKind.sendErrorClose.code then .errorClose
  else .unknown rawValue

structure ControlSessionAction where
  kind : ControlSessionActionKind
  responseId : UInt32
  streamId : UInt32
  keyEpoch : UInt32
  isTerminal : Bool
  deriving DecidableEq

/-- The strings as UTF-8. A string that is longer than its field of the core's record traps
    in `copyCString`. -/
structure ControlSessionConfiguration where
  serverId : List UInt8
  bootId : List UInt8
  sessionId : List UInt8
  appleUdpPort : UInt32
  streamId : UInt32
  keyEpoch : UInt32
  outputAvailable : Bool
  fits : serverId.length ≤ gmControlUuidBytes ∧ bootId.length ≤ gmControlUuidBytes ∧
    sessionId.length ≤ gmControlSessionIdHexBytes

def rawConfiguration (configuration : ControlSessionConfiguration) : GmControlSessionConfig where
  structSize := sizeofGmControlSessionConfig
  abiVersion := gmAbiVersion
  role := gmControlSessionRoleAppleOutputServer
  appleUdpPort := configuration.appleUdpPort
  streamId := configuration.streamId
  keyEpoch := configuration.keyEpoch
  maxAudioSubscribers := 1
  playoutTargetMsMin := 15
  playoutTargetMsMax := 120
  outputAvailable := if configuration.outputAvailable then 1 else 0
  serverId := fill _ configuration.serverId
  bootId := fill _ configuration.bootId
  sessionId := fill _ configuration.sessionId

/-- The zeroed record `gm_control_session()` with its size filled in. -/
def newSession : GmControlSession where
  structSize := sizeofGmControlSession
  abiVersion := 0
  role := 0
  state := .closed
  lastRequestId := 0
  windowsUdpPort := 0
  appleUdpPort := 0
  streamId := 0
  nextStreamId := 0
  keyEpoch := 0
  initialKeyEpoch := 0
  lastRekeyEpoch := 0
  lastClosedStreamId := 0
  playoutTargetMs := 0
  lastUpdateNs := 0
  validRequests := 0
  rejectedRequests := 0
  actionsEmitted := 0
  stateConflicts := 0
  protocolErrors := 0
  streamsStarted := 0
  streamsStopped := 0
  streamsClosed := 0
  rekeysCommitted := 0
  pathValidated := 0
  outputAvailable := 0
  profile := clearedProfile
  serverId := zero _
  bootId := zero _
  sessionId := zero _
  firstMediaTimestamp := zero _

/-- The wrapped session keeps the size and the version that its initialiser gave it. -/
structure ControlSession where
  rawValue : GmControlSession
  size : sizeofGmControlSession ≤ rawValue.structSize
  version : rawValue.abiVersion = gmAbiVersion

theorem init_record {config : GmControlSessionConfig} {blank : GmControlSession}
    (ok : (gmControlSessionInit config blank).1 = .ok) :
    sizeofGmControlSession ≤ (gmControlSessionInit config blank).2.structSize ∧
      (gmControlSessionInit config blank).2.abiVersion = gmAbiVersion :=
  run_record (Prod.ext ok rfl) []

namespace ControlSession

def init (configuration : ControlSessionConfiguration) : Except ProtocolCoreError ControlSession :=
  if ok : (gmControlSessionInit (rawConfiguration configuration) newSession).1 = .ok then
    .ok ⟨_, (init_record ok).1, (init_record ok).2⟩
  else
    .error (.callFailed "gm_control_session_init"
      (gmStatusString (gmControlSessionInit (rawConfiguration configuration) newSession).1))

/-- A call that mutates the wrapped session and may throw. -/
abbrev Mutating := EStateM ProtocolCoreError ControlSession ControlSessionAction

/-- The session after a call of the core. -/
def after (session : ControlSession) (call : Call) : ControlSession where
  rawValue := (step session.rawValue call).2
  size := (step_record session.rawValue call).1 ▸ session.size
  version := (step_record session.rawValue call).2.trans session.version

def action (raw : GmControlAction) : ControlSessionAction where
  kind := .init raw.kind.code
  responseId := raw.responseId
  streamId := raw.streamId
  keyEpoch := raw.keyEpoch
  isTerminal := raw.terminal ≠ 0

/-- The call of the core, `requireOK` and the values of the action record. -/
def perform (call : Call) (operation : String) : Mutating := fun session =>
  match requireOk (step session.rawValue call).1.status operation with
  | .error error => .error error (session.after call)
  | .ok () => .ok (action (step session.rawValue call).1.action) (session.after call)

/-- The payload is the pointer and the count of its bytes. -/
def ingest (json : GmBytes) (nowNanoseconds : UInt64) : Mutating :=
  perform (.ingest json nowNanoseconds blankAction) "gm_control_session_ingest"

def markPathValidated (streamId keyEpoch : UInt32) : Mutating :=
  perform (.markPathValidated streamId keyEpoch blankAction)
    "gm_control_session_mark_path_validated"

end ControlSession

/-- A call leaves the wrapped session as the core leaves it and returns what the core wrote
    to the action record. -/
def Exposes (session : ControlSession) (call : Call) (method : ControlSession.Mutating) : Prop :=
  ∃ action after, method session = .ok action after ∧
    after.rawValue = (step session.rawValue call).2 ∧
    action.kind = .init (step session.rawValue call).1.action.kind.code ∧
    action.responseId = (step session.rawValue call).1.action.responseId ∧
    action.streamId = (step session.rawValue call).1.action.streamId ∧
    action.keyEpoch = (step session.rawValue call).1.action.keyEpoch ∧
    (action.isTerminal = true ↔ (step session.rawValue call).1.action.terminal ≠ 0)

section Exposure
variable (session : ControlSession)

theorem valid_for_ingest : validSessionForIngest session.rawValue blankAction = true := by
  simp only [validSessionForIngest, Bool.and_eq_true, decide_eq_true_eq]
  exact ⟨⟨session.size, Nat.le_refl _⟩, session.version⟩

theorem perform_exposes_iff (call : Call) (operation : String) :
    Exposes session call (ControlSession.perform call operation) ↔
      (step session.rawValue call).1.status = .ok := by
  rw [Exposes, ControlSession.perform, requireOk]
  by_cases ok : (step session.rawValue call).1.status = .ok
  · rw [if_pos ok]
    refine iff_of_true ⟨_, _, rfl, rfl, rfl, rfl, rfl, rfl, ?_⟩ ok
    simp [ControlSession.action]
  · rw [if_neg ok]
    refine iff_of_false ?_ ok
    rintro ⟨_, _, returned, _⟩
    cases returned

end Exposure

/-- The bridge exposes the action of a call exactly when the core accepts the call. -/
theorem bridge_exposes_action_iff (session : ControlSession) (json : GmBytes)
    (nowNanoseconds : UInt64) (streamId keyEpoch : UInt32) :
    (Exposes session (.ingest json nowNanoseconds blankAction)
        (ControlSession.ingest json nowNanoseconds) ↔ AcceptsPayload session.rawValue json) ∧
      (Exposes session (.markPathValidated streamId keyEpoch blankAction)
          (ControlSession.markPathValidated streamId keyEpoch) ↔
        activeStreamMatches session.rawValue streamId = true ∧
          session.rawValue.keyEpoch = keyEpoch) := by
  have valid := valid_for_ingest session
  constructor
  · exact (perform_exposes_iff session _ _).trans (ingest_ok_iff valid)
  · exact (perform_exposes_iff session _ _).trans (mark_path_validated_ok_iff valid)

def sampleConfiguration : ControlSessionConfiguration where
  serverId := ascii "7d8d4aa0-5d2c-4a41-9f0e-0f7c1c5b9a11"
  bootId := ascii "0b9f6f4e-43d0-4e0e-8f8e-8d6b2d1a7c22"
  sessionId := ascii "00112233445566778899aabbccddeeff"
  appleUdpPort := 49170
  streamId := 4294967295
  keyEpoch := 1
  outputAvailable := false
  fits := by decide

theorem sample_configuration_init :
    gmControlSessionInit (rawConfiguration sampleConfiguration) newSession =
      (.ok, sampleSession) := by
  decide +kernel

/-- A request with an old id: the core answers with an error that closes the session, and the
    wrapper throws the answer away. -/
theorem stale_request_action_lost : ∃ start session json,
    ControlSession.init sampleConfiguration = .ok start ∧
      session.rawValue = final step start.rawValue [sampleHello, sampleBind, samplePing] ∧
      (step session.rawValue (.ingest json 1000 blankAction)).1.action.kind = .sendErrorClose ∧
      (step session.rawValue (.ingest json 1000 blankAction)).1.action.terminal = 1 ∧
      ¬ Exposes session (.ingest json 1000 blankAction) (ControlSession.ingest json 1000) := by
  obtain ⟨_, _, open3, _⟩ := sample_requests_carry
  obtain ⟨json, third⟩ : ∃ json, sampleOpen "3" = .ingest json 1000 blankAction := ⟨_, rfl⟩
  rw [third] at open3
  have ran : final step sampleSession [sampleHello, sampleBind, samplePing] =
      pinged boundSession := by
    have run := final_snoc step sampleSession [sampleHello, sampleBind] samplePing
    rw [sample_bound, bound_session_pinged.2] at run
    exact run
  have closes := stale_step (s := pinged boundSession) (by decide) (by decide) open3 (by decide)
  have ok : (gmControlSessionInit (rawConfiguration sampleConfiguration) newSession).1 = .ok :=
    congrArg Prod.fst sample_configuration_init
  have wrapped : (gmControlSessionInit (rawConfiguration sampleConfiguration) newSession).2 =
      sampleSession := congrArg Prod.snd sample_configuration_init
  refine ⟨⟨_, (init_record ok).1, (init_record ok).2⟩, ⟨pinged boundSession, Nat.le_refl _, rfl⟩,
    json, dif_pos ok, ?_, ?_, ?_, ?_⟩
  · dsimp only
    rw [wrapped, ran]
  · dsimp only
    rw [closes]
    rfl
  · dsimp only
    rw [closes]
    rfl
  · intro exposes
    have accepted := (perform_exposes_iff _ _ _).mp exposes
    dsimp only at accepted
    rw [closes] at accepted
    cases accepted

end GhostMedia.Bridge
