import GhostMedia.Bridge.ControlSession
import GhostMedia.Foundation.Dialogue
import GhostMedia.Interop.ControlReceivers
import GhostMedia.Interop.SwiftMessage

/- The Apple harness's main.swift on an accepted connection, as a program that calls its
   runtime: the listener of the first interoperability test, and the secure listener with the
   shared control session, the UDP path and the audio loop. Swift's traps are kept apart from
   its errors. What is printed is left out. -/
namespace GhostMedia.Interop.Harness
open CString Control Media Session Bridge Dialogue GhostMedia.Runtime

inductive Call where
  | receivePayload
  | sendAll (data : List UInt8)
  | receiveUdp
  | sendUdp (host : String) (port : UInt16) (datagram : List UInt8)

def Answer : Call → Type
  | .receivePayload => Except ReceiveError (List UInt8)
  | .sendAll _ => GmStatus
  | .receiveUdp => Except GmStatus Arrival
  | .sendUdp .. => GmStatus

inductive Stop where
  | thrown (error : ReceiveError)
  | trapped
  deriving DecidableEq

abbrev Run := Program Answer Stop

def receivePayload : Run (Except ReceiveError (List UInt8)) := .call .receivePayload .done

def sendAll (data : List UInt8) : Run GmStatus := .call (.sendAll data) .done

def udpReceiveFrom : Run (Except GmStatus Arrival) := .call .receiveUdp .done

def udpSendTo (host : String) (port : UInt16) (datagram : List UInt8) : Run GmStatus :=
  .call (.sendUdp host port datagram) .done

def requireRuntimeOk {α : Type} (operation : String) : Except GmStatus α → Run α
  | .ok value => .done value
  | .error status => .fail (.thrown (.runtime operation (gmStatusString status)))

def apple {α : Type} (step : Except AppleError α) : Run α :=
  .ofExcept (step.mapError fun error => .thrown (.apple error))

def protocolCore {α : Type} (step : Except ProtocolCoreError α) : Run α :=
  apple (step.mapError .protocolCore)

/-- `!` on an optional, and conversions that trap. -/
def unwrap {α : Type} : Option α → Run α
  | some value => .done value
  | none => .fail .trapped

def require (condition : Prop) [Decidable condition] (message : String) : Run Unit :=
  if condition then .done () else .fail (.thrown (.apple (.unexpectedMessage message)))

/-- `receiveUDP` -/
def receiveUdp : Run Arrival := do
  requireRuntimeOk "UDP receive" (← udpReceiveFrom)

/-- `sendUDP` -/
def sendUdp (host : String) (port : UInt16) (datagram : List UInt8) : Run Unit := do
  let status ← udpSendTo host port datagram
  requireRuntimeOk "UDP send" (if status = .ok then .ok () else .error status)

def testServerId : List UInt8 := ascii "01234567-89ab-cdef-0123-456789abcdef"
def testBootId : List UInt8 := ascii "11111111-2222-3333-4444-555555555555"
def testAppleUdpPort : UInt32 := 51838

def helloResultJson : List UInt8 :=
  ascii "\x7b\"v\":1,\"id\":1,\"type\":\"result\",\"result\":\x7b\"version\":1," ++
    ascii "\"role\":\"apple-output-server\",\"server_id\":\"" ++ testServerId ++
    ascii "\",\"session_id\":\"" ++ testSessionId ++ ascii "\",\"boot_id\":\"" ++ testBootId ++
    ascii "\",\"udp_port\":" ++ Decimal.render testAppleUdpPort.toNat ++
    ascii ",\"capabilities\":\x7b\"audio_send\":false,\"audio_receive\":true," ++
    ascii "\"microphone\":false,\"camera\":false,\"audio_profiles\":[\x7b\"codec\":" ++
    ascii "\"pcm_s16le\",\"sample_rate_hz\":48000,\"channels\":2," ++
    ascii "\"channel_layout\":\"stereo\",\"frames_per_packet\":240\x7d]\x7d," ++
    ascii "\"limits\":\x7b\"max_audio_subscribers\":1,\"playout_target_ms_min\":15," ++
    ascii "\"playout_target_ms_max\":120\x7d\x7d\x7d"

def bindResultJson : List UInt8 :=
  ascii "\x7b\"v\":1,\"id\":2,\"type\":\"result\",\"result\":\x7b\"udp_port\":51838," ++
    ascii "\"path_state\":\"bound\"\x7d\x7d"

def openResultJson : List UInt8 :=
  ascii "\x7b\"v\":1,\"id\":3,\"type\":\"result\",\"result\":\x7b\"stream_id\":1," ++
    ascii "\"key_epoch\":1,\"profile\":\x7b\"codec\":\"pcm_s16le\"," ++
    ascii "\"sample_rate_hz\":48000,\"channels\":2,\"channel_layout\":\"stereo\"," ++
    ascii "\"frames_per_packet\":240\x7d,\"packet_interval_us\":5000," ++
    ascii "\"path_state\":\"probing\"\x7d\x7d"

def startResultJson : List UInt8 :=
  ascii "\x7b\"v\":1,\"id\":4,\"type\":\"result\",\"result\":\x7b\"state\":\"started\"\x7d\x7d"

/-- `sendResponse`; over plain TCP the thrown error is the harness's own. -/
def sendResponse (secure : Bool) (json : List UInt8) : Run Unit := do
  let _ ← protocolCore (parseControlMessage json)
  let frame ← protocolCore (encodeControlFrame json)
  let status ← sendAll frame
  if status = .ok then .done ()
  else if secure then
    .fail (.thrown (.apple (.crypto
      (.runtimeFailure "gm_runtime_tls_send_all" (gmStatusString status)))))
  else .fail (.thrown (.runtime "send" (gmStatusString status)))

/-- `receiveMessage` without a closure before the parsing. -/
def receiveControlMessage : Run ControlMessage := do
  let payload ← .ofExcept ((← receivePayload).mapError .thrown)
  protocolCore (parseControlMessage payload)

section Plaintext

/-- `runListener` after the plaintext connection has been accepted. -/
def runPlaintextListener : Run Unit := do
  let hello ← receiveControlMessage
  require (hello.kind = .requestSessionHello ∧ hello.id = some 1 ∧
      hello.role = some (ascii "win-client") ∧ hello.udpPort ≠ none)
    "expected id:1 session.hello from win-client"
  sendResponse false helloResultJson
  let bind ← receiveControlMessage
  require (bind.kind = .requestTransportBind ∧ bind.id = some 2 ∧
      bind.sessionId = some testSessionId ∧ bind.udpPort ≠ none)
    "expected id:2 transport.bind for the advertised session"
  sendResponse false bindResultJson
  let open_ ← receiveControlMessage
  require (open_.kind = .requestStreamOpen ∧ open_.id = some 3 ∧
      open_.playoutTargetMilliseconds ≠ none ∧
      open_.profile.map AudioProfile.codec = some .pcmS16LE)
    "expected id:3 PCM stream.open for win_to_apple"
  sendResponse false openResultJson

end Plaintext

/-- What the secure listener is given: the cipher, the exporter of the TLS session, the
    digests of the two identities, and the host of the authenticated peer. -/
structure SecureListener where
  evp : Evp
  tlsExport : TlsExport
  clientDigest : Buffer gmSpkiDigestBytes
  serverDigest : Buffer gmSpkiDigestBytes
  expectedWindowsHost : String

/-- `control` and `controlNow` -/
structure ControlState where
  session : ControlSession
  now : UInt64

def testConfiguration : ControlSessionConfiguration where
  serverId := testServerId
  bootId := testBootId
  sessionId := testSessionId
  appleUdpPort := testAppleUdpPort
  streamId := 1
  keyEpoch := 1
  outputAvailable := true
  fits := by decide

/-- `UInt16(_:)` of a wider number -/
def uint16Of (value : UInt32) : Option UInt16 :=
  if value.toNat < 2 ^ 16 then some value.toUInt16 else none

structure Metrics where
  validRequests : UInt64
  streamsStarted : UInt64
  deriving DecidableEq

/-- `ControlSession.metrics`, of which two counters are read. -/
def metrics (session : ControlSession) : Except ProtocolCoreError Metrics := do
  let (status, raw) := gmControlSessionGetMetrics session.rawValue
    ⟨sizeofGmControlMetrics, 0, 0, 0, 0, 0, 0, 0, 0, 0, 0⟩
  requireOk status "gm_control_session_get_metrics"
  return ⟨raw.validRequests, raw.streamsStarted⟩

/-- A call of the control session whose action must have the given kind. -/
def controlCall (call : ControlSession.Mutating) (kind : ControlSessionActionKind)
    (refusal : String) (session : ControlSession) : Run ControlSession :=
  match call session with
  | .error error _ => protocolCore (.error error)
  | .ok action session => do
    require (action.kind = kind) refusal
    return session

/-- `receiveMessage` with the closure that hands the payload to the control session. -/
def receiveRequest (kind : ControlSessionActionKind) (refusal : String) (control : ControlState) :
    Run (ControlMessage × ControlState) := do
  let payload ← .ofExcept ((← receivePayload).mapError .thrown)
  let session ← controlCall (ControlSession.ingest (.view payload) control.now) kind refusal
    control.session
  let message ← protocolCore (parseControlMessage payload)
  return (message, ⟨session, control.now + 1⟩)

structure Completed where
  packets : List Packet
  metrics : Metrics
  control : ControlSession

section Secure
variable (listener : SecureListener)

/-- The session, the bind and the open request, answered one after the other. -/
def openStream : Run (ControlMessage × ControlState) := do
  let session ← protocolCore (ControlSession.init testConfiguration)
  let (hello, control) ← receiveRequest .sessionHelloResult
    "shared control state rejected session.hello" ⟨session, 1⟩
  require (hello.kind = .requestSessionHello ∧ hello.id = some 1 ∧
      hello.role = some (ascii "win-client") ∧ hello.udpPort ≠ none)
    "expected encrypted id:1 session.hello from win-client"
  sendResponse true helloResultJson
  let (bind, control) ← receiveRequest .transportBindResult
    "shared control state rejected transport.bind" control
  require (bind.kind = .requestTransportBind ∧ bind.id = some 2 ∧
      bind.sessionId = some testSessionId ∧ bind.udpPort = hello.udpPort)
    "expected encrypted id:2 transport.bind for the prebound Windows UDP port"
  sendResponse true bindResultJson
  let (open_, control) ← receiveRequest .streamOpenResult
    "shared control state rejected stream.open" control
  require (open_.kind = .requestStreamOpen ∧ open_.id = some 3 ∧
      open_.profile.map AudioProfile.codec = some .pcmS16LE)
    "expected encrypted id:3 PCM stream.open"
  sendResponse true openResultJson
  return (hello, control)

/-- The challenge of the UDP path, its response, and the validated path. -/
def answerChallenge (hello : ControlMessage) (sessionId : List UInt8)
    (forward reverse : DirectionalKeys) (session : ControlSession) :
    Run (Arrival × ControlSession) := do
  let arrival ← receiveUdp
  let mismatch : String := "PATH_CHALLENGE tuple did not match the authenticated control peer"
  require (arrival.host = listener.expectedWindowsHost) mismatch
  let port ← unwrap (uint16Of (hello.udpPort.getD 0))
  require (arrival.port = port) mismatch
  let (header, challenge) ← apple (openMedia listener.evp arrival.datagram forward.pathKey)
  require (header.kind = .pathChallenge ∧ header.direction = .windowsToApple ∧
      header.sessionId = sessionId ∧ header.streamId = 1 ∧ header.keyEpoch = 1 ∧
      challenge.length = 12) "invalid authenticated PATH_CHALLENGE"
  let responseHeader : MediaHeader := ⟨.pathResponse, sessionId, 1, .appleToWindows, 1, 1, 0,
    challenge.length.toUInt32⟩
  let response ← apple (sealMedia listener.evp responseHeader challenge reverse.pathKey)
  sendUdp arrival.host arrival.port response
  let session ← controlCall (ControlSession.markPathValidated 1 1) .pathValidated
    "shared control state rejected validated UDP path" session
  return (arrival, session)

/-- The `while` loop, for the packets that are still missing. -/
def receivePackets (context : AudioContext) : Nat → AudioState → Run (List Packet)
  | 0, _ => return []
  | more + 1, state => do
    let arrival ← receiveUdp
    match audioTurn context state arrival with
    | .thrown error => .fail (.thrown (.apple error))
    | .trapped _ => .fail .trapped
    | .next packet state => return packet :: (← receivePackets context more state)

def runSecureListener : Run Completed := do
  let (hello, control) ← openStream
  let sessionId ← unwrap (dataHex testSessionId)
  let forward ← apple (derivePhase3Keys listener.tlsExport sessionId 1 .windowsToApple 1
    listener.clientDigest.bytes listener.serverDigest.bytes)
  let reverse ← apple (derivePhase3Keys listener.tlsExport sessionId 1 .appleToWindows 1
    listener.serverDigest.bytes listener.clientDigest.bytes)
  let (source, session) ←
    answerChallenge listener hello sessionId forward reverse control.session
  let (start, control) ← receiveRequest .streamStartResult
    "shared control state rejected stream.start" { control with session := session }
  require (start.kind = .requestStreamStart ∧ start.id = some 4 ∧ start.streamId = some 1 ∧
      start.firstMediaTimestamp ≠ none) "expected encrypted stream.start after validated path"
  sendResponse true startResultJson
  let replay ← protocolCore replayWindow
  let first ← unwrap (start.firstMediaTimestamp.bind uint64OfText)
  let context : AudioContext :=
    ⟨listener.evp, sessionId, forward.mediaKey, source.host, source.port⟩
  let packets ← receivePackets context phase3PacketCount ⟨replay, 0, first⟩
  let reported ← protocolCore (metrics control.session)
  require (reported.validRequests = 4 ∧ reported.streamsStarted = 1)
    "shared control metrics did not record the Phase 3 lifecycle"
  return ⟨packets, reported, control.session⟩

end Secure

end GhostMedia.Interop.Harness
