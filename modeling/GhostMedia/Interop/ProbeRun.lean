import GhostMedia.Foundation.Dialogue
import GhostMedia.Interop.ControlReceivers
import GhostMedia.Interop.ProtectedMedia
import GhostMedia.Interop.RequestBuilders
import GhostMedia.Session.Machine

/- The Windows probe's main.cpp on an established connection, as a program that calls its
   runtime: the requests and the results it waits for, the challenge of the UDP path, and the
   synthetic audio. A received control message is its payload; how it is cut out of the stream
   is modelled with the control receivers. What is printed is left out. -/
namespace GhostMedia.Interop.Probe
open CString Control Media Session Dialogue GhostMedia.Runtime

/-- The calls of the runtime. -/
inductive Call where
  | sendAll (data : List UInt8)
  | receiveControlMessage
  | randomBytes (size : Nat)
  | udpSendTo (host : List UInt8) (port : UInt16) (datagram : List UInt8)
  | udpReceiveFrom

structure Received where
  datagram : List UInt8
  sourceHost : List UInt8
  sourcePort : UInt16
  deriving DecidableEq

def Answer : Call → Type
  | .sendAll _ => GmStatus
  | .receiveControlMessage => Except ProbeError (List UInt8)
  | .randomBytes size => Except GmStatus (Buffer size)
  | .udpSendTo .. => GmStatus
  | .udpReceiveFrom => Except GmStatus Received

abbrev Run := Program Answer ProbeError

def sendAll (data : List UInt8) : Run GmStatus := .call (.sendAll data) .done

def receivePayload : Run (Except ProbeError (List UInt8)) := .call .receiveControlMessage .done

def randomBytes (size : Nat) : Run (Except GmStatus (Buffer size)) :=
  .call (.randomBytes size) .done

def udpSendTo (host : List UInt8) (port : UInt16) (datagram : List UInt8) : Run GmStatus :=
  .call (.udpSendTo host port datagram) .done

def udpReceiveFrom : Run (Except GmStatus Received) := .call .udpReceiveFrom .done

/-- What is thrown unless a condition holds. -/
def require (condition : Prop) [Decidable condition] (error : ProbeError) : Run Unit :=
  if condition then .done () else .fail error

/-- A runtime call whose failure is thrown with its status. -/
def runtime {α : Type} (operation : String) : Except GmStatus α → Run α
  | .ok value => .done value
  | .error status => .fail (.runtimeError operation status)

structure ProbeOptions extends Options where
  dryRun : Bool := false
  showHelp : Bool := false
  allowPlaintext : Bool := false
  phase3Test : Bool := false
  host : List UInt8 := []
  port : UInt16 := 0
  playoutTargetMs : UInt16 := 30
  expectedServerId : List UInt8 := []

section Control

def sendControlJson (json : List UInt8) (label : String) : Run Unit := do
  let frame ← .ofExcept (encodeControlFrame json label)
  let status ← sendAll frame
  require (status = .ok) (.runtimeError "send" status)

/-- `receive_control_message` -/
def receiveMessage : Run GmControlMessageInfo := do
  let json ← .ofExcept (← receivePayload)
  .ofExcept (parseControlMessage json "received control frame")

/-- The `for` loop of `receive_result_for_id` over the frames it may still read. -/
def receiveResultLoop (expectedId : UInt32) (label : String) : Nat → Run GmControlMessageInfo
  | 0 => .fail (.message ("too many events while waiting for " ++ label))
  | more + 1 => do
    let info ← receiveMessage
    if info.kind = .responseResult ∧ info.id = expectedId then return info
    else if info.kind = .responseError ∧ info.id = expectedId then
      .fail (.message (label ++ " returned a protocol error response"))
    else if sameCStringWithin 6 info.type.bytes (ascii "event.") then
      receiveResultLoop expectedId label more
    else .fail (.message ("unexpected response while waiting for " ++ label))

def receiveResultForId (expectedId : UInt32) (label : String) : Run GmControlMessageInfo :=
  receiveResultLoop expectedId label 8

/-- The header in `validate_path_headers`. -/
def pathHeader (sessionId : Buffer gmSessionIdBytes) (streamId keyEpoch kind direction : UInt32)
    (sequence : UInt64) : GmMediaHeader where
  structSize := sizeofGmMediaHeader
  abiVersion := gmAbiVersion
  kind := kind
  sessionId := sessionId
  streamId := streamId
  direction := direction
  keyEpoch := keyEpoch
  sequence := sequence
  mediaTimestamp := 0
  payloadLength := 12

def encodesHeader (header : GmMediaHeader) (label : String) : Except ProbeError Unit :=
  let result := gmMediaEncodeHeader header (.view (List.replicate gmMediaHeaderBytes 0))
  if result.status ≠ .ok || result.written ≠ some gmMediaHeaderBytes then
    .error (.message (label ++ " header failed: " ++ gmStatusString result.status))
  else .ok ()

def validatePathHeaders (openResult : GmControlMessageInfo) (sessionIdText : List UInt8) :
    Except ProbeError Unit := do
  let sessionId ← decodeSessionId sessionIdText
  let header := pathHeader sessionId openResult.streamId openResult.keyEpoch
  encodesHeader (header gmMediaKindPathChallenge gmMediaDirectionWinToApple 1) "PATH_CHALLENGE"
  encodesHeader (header gmMediaKindPathResponse gmMediaDirectionAppleToWin 2) "PATH_RESPONSE"

/-- The handshake over the control connection, up to the checked headers. -/
def openStream (options : ProbeOptions) : Run (GmControlMessageInfo × GmControlMessageInfo) := do
  sendControlJson (sessionHelloJson options.toOptions) "session.hello"
  let helloResult ← receiveResultForId 1 "session.hello result"
  require (helloResult.role.text = ascii "apple-output-server" ∧ helloResult.sessionId.text ≠ [])
    (.message "session.hello result did not include the expected Apple output-server identity")
  require (options.expectedServerId = [] ∨ options.expectedServerId = helloResult.serverId.text)
    (.message "session.hello result server_id did not match --expect-server-id")
  sendControlJson (transportBindJson helloResult.sessionId.text options.udpPort) "transport.bind"
  let bindResult ← receiveResultForId 2 "transport.bind result"
  require (bindResult.pathState.text = ascii "bound")
    (.message "transport.bind result did not report path_state=bound")
  sendControlJson (streamOpenJson options.playoutTargetMs) "stream.open"
  let openResult ← receiveResultForId 3 "stream.open result"
  require (openResult.pathState.text = ascii "probing" ∧ openResult.streamId ≠ 0 ∧
      openResult.keyEpoch ≠ 0)
    (.message "stream.open result did not report a probing stream")
  .ofExcept (validatePathHeaders openResult helloResult.sessionId.text)
  return (helloResult, openResult)

end Control

/-- What the Phase 3 test has beside the control connection: the cipher, the exporter of the
    TLS session, the digests of the two pinned identities, and the packets of
    `synthetic_pcm_packet`, which computes them in floating point. -/
structure Phase3 where
  evp : Evp
  tlsExport : TlsExport
  clientDigest : Buffer gmSpkiDigestBytes
  serverDigest : Buffer gmSpkiDigestBytes
  syntheticPcmPacket : Nat → Buffer gmAudioPcmS16lePayloadBytes.toNat

def kPhase3PacketCount : Nat := 8

def kFirstTimestamp : UInt64 := 48000

section Media
variable (options : ProbeOptions) (phase3 : Phase3) (helloResult openResult : GmControlMessageInfo)

/-- One packet of the audio loop. -/
def sendAudioPacket (sessionId : Buffer gmSessionIdBytes) (mediaKey : Buffer gmCryptoKeyBytes)
    (packetIndex : Nat) : Run Unit := do
  let audio ← .ofExcept (sealMediaDatagram phase3.evp sessionId openResult.streamId
    gmMediaKindAudio gmMediaDirectionWinToApple openResult.keyEpoch
    (UInt64.ofNat packetIndex + 2) (kFirstTimestamp + UInt64.ofNat packetIndex * 240)
    (phase3.syntheticPcmPacket packetIndex).bytes mediaKey)
  let status ← udpSendTo options.host helloResult.udpPort.toUInt16 audio
  require (status = .ok) (.runtimeError "PCM UDP send" status)

/-- The audio loop from a packet on. -/
def sendAudio (sessionId : Buffer gmSessionIdBytes) (mediaKey : Buffer gmCryptoKeyBytes) :
    Nat → Nat → Run Unit
  | _, 0 => return ()
  | packetIndex, more + 1 => do
    sendAudioPacket options phase3 helloResult openResult sessionId mediaKey packetIndex
    sendAudio sessionId mediaKey (packetIndex + 1) more

/-- The challenge of the UDP path and its response. -/
def validatePath (sessionId : Buffer gmSessionIdBytes)
    (forwardKeys reverseKeys : GmDirectionalKeys) : Run Unit := do
  let challenge ← runtime "path challenge randomness" (← randomBytes 12)
  let protectedChallenge ← .ofExcept (sealMediaDatagram phase3.evp sessionId openResult.streamId
    gmMediaKindPathChallenge gmMediaDirectionWinToApple openResult.keyEpoch 1 0 challenge.bytes
    forwardKeys.pathKey)
  let status ← udpSendTo options.host helloResult.udpPort.toUInt16 protectedChallenge
  require (status = .ok) (.runtimeError "PATH_CHALLENGE send" status)
  let received ← runtime "PATH_RESPONSE receive" (← udpReceiveFrom)
  let (response, responsePayload) ←
    .ofExcept (openMediaDatagram phase3.evp received.datagram reverseKeys.pathKey [])
  require (response.kind = gmMediaKindPathResponse ∧ response.streamId = openResult.streamId ∧
      response.keyEpoch = openResult.keyEpoch ∧ received.sourceHost = options.host ∧
      received.sourcePort.toUInt32 = helloResult.udpPort ∧ responsePayload = challenge.bytes)
    (.message "PATH_RESPONSE did not validate the candidate UDP path")

def runPhase3 : Run Unit := do
  let sessionId ← .ofExcept (decodeSessionId helloResult.sessionId.text)
  let forwardKeys ← .ofExcept (derivePhase3Keys phase3.tlsExport sessionId openResult.streamId
    gmMediaDirectionWinToApple openResult.keyEpoch phase3.clientDigest phase3.serverDigest)
  let reverseKeys ← .ofExcept (derivePhase3Keys phase3.tlsExport sessionId openResult.streamId
    gmMediaDirectionAppleToWin openResult.keyEpoch phase3.serverDigest phase3.clientDigest)
  validatePath options phase3 helloResult openResult sessionId forwardKeys reverseKeys
  sendControlJson (streamStartJson openResult.streamId kFirstTimestamp) "stream.start"
  let startResult ← receiveResultForId 4 "stream.start result"
  require (startResult.state.text = ascii "started")
    (.message "stream.start result did not report state=started")
  sendAudio options phase3 helloResult openResult sessionId forwardKeys.mediaKey 0
    kPhase3PacketCount

end Media

/-- `run_connect` once the connection stands; the Phase 3 services are there in its test. -/
def runConnect (options : ProbeOptions) (phase3 : Option Phase3) : Run Unit := do
  let (helloResult, openResult) ← openStream options
  match phase3 with
  | some phase3 => runPhase3 options phase3 helloResult openResult
  | none => return ()

end GhostMedia.Interop.Probe
