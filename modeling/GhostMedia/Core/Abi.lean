import GhostMedia.Foundation.CString

/- The public C interface: limits, statuses, enumerations and records of
   gm_core.h. Reserved padding bytes are not represented; record sizes are those
   of the 64-bit layout. A byte view is either readable or a null pointer with a
   claimed size. -/
namespace GhostMedia
open CString

/-- The bytes of an ASCII literal. -/
def ascii (literal : String) : List UInt8 := literal.toList.map fun c => c.toNat.toUInt8

@[simp] abbrev gmAbiVersion : UInt32 := 1
@[simp] abbrev gmProtocolMajor : UInt32 := 1
@[simp] abbrev gmControlFrameHeaderBytes : Nat := 4
@[simp] abbrev gmControlFrameMinPayloadBytes : Nat := 2
@[simp] abbrev gmControlFrameMaxPayloadBytes : Nat := 65536
@[simp] abbrev gmControlMessageMaxBytes : Nat := 8192
@[simp] abbrev gmControlHelloMaxBytes : Nat := 12288
@[simp] abbrev gmControlMaxDepth : Nat := 16
@[simp] abbrev gmControlMaxObjectMembers : Nat := 32
@[simp] abbrev gmControlMaxMessageMembers : Nat := 64
@[simp] abbrev gmControlMaxArrayElements : Nat := 8
@[simp] abbrev gmControlMaxStringBytes : Nat := 4096
@[simp] abbrev gmControlTypeMaxBytes : Nat := 64
@[simp] abbrev gmControlClientNameMaxBytes : Nat := 128
@[simp] abbrev gmControlTokenMaxBytes : Nat := 64
@[simp] abbrev gmControlReasonMaxBytes : Nat := 64
@[simp] abbrev gmControlSessionIdHexBytes : Nat := 32
@[simp] abbrev gmControlRoleMaxBytes : Nat := 32
@[simp] abbrev gmControlDecimalU64MaxBytes : Nat := 20
@[simp] abbrev gmControlUuidBytes : Nat := 36

@[simp] abbrev gmSessionIdBytes : Nat := 16
@[simp] abbrev gmMediaHeaderBytes : Nat := 64
@[simp] abbrev gmMediaTagBytes : Nat := 16
@[simp] abbrev gmMediaMinDatagramBytes : Nat := 80
@[simp] abbrev gmMediaMaxDatagramBytes : Nat := 1500
@[simp] abbrev gmMediaMaxPayloadBytes : UInt32 := 1420
@[simp] abbrev gmReplayWindowBits : UInt64 := 1024
@[simp] abbrev gmAudioPcmS16lePayloadBytes : UInt32 := 960
@[simp] abbrev gmAudioOpusMaxPayloadBytes : UInt32 := 1128
@[simp] abbrev gmFeedbackPayloadBytes : UInt32 := 32
@[simp] abbrev gmSpkiDigestBytes : Nat := 32
@[simp] abbrev gmTlsExporterContextBytes : Nat := 32
@[simp] abbrev gmTlsExporterOutputBytes : Nat := 64
@[simp] abbrev gmTlsAlpnBytes : Nat := 12
@[simp] abbrev gmCryptoKeyBytes : Nat := 32
@[simp] abbrev gmMediaNonceBytes : Nat := 12
@[simp] abbrev gmRekeyGraceMs : UInt64 := 5000

inductive GmStatus where
  | ok
  | badArgument
  | badMessage
  | stateConflict
  | limitExceeded
  | bufferTooSmall
  | unauthorized
  | needMoreData
  | unsupportedVersion
  | internal
  deriving DecidableEq, Repr

inductive GmControlMessageKind where
  | unknown
  | requestSessionHello
  | requestTransportBind
  | requestStreamOpen
  | requestStreamStart
  | requestStreamStop
  | requestStreamClose
  | requestStreamRekey
  | requestStatusGet
  | requestPing
  | requestSessionClose
  | responseResult
  | responseError
  | eventStreamStarted
  | eventStreamStopped
  | eventOutputState
  | eventSessionExpiring
  deriving DecidableEq, Repr

/-- The numeric values of `gm_control_message_kind`, for its range checks. -/
def GmControlMessageKind.code : GmControlMessageKind → Nat
  | unknown => 0
  | requestSessionHello => 1
  | requestTransportBind => 2
  | requestStreamOpen => 3
  | requestStreamStart => 4
  | requestStreamStop => 5
  | requestStreamClose => 6
  | requestStreamRekey => 7
  | requestStatusGet => 8
  | requestPing => 9
  | requestSessionClose => 10
  | responseResult => 100
  | responseError => 101
  | eventStreamStarted => 200
  | eventStreamStopped => 201
  | eventOutputState => 202
  | eventSessionExpiring => 203

inductive GmControlSessionState where
  | closed
  | tlsReady
  | hello
  | bound
  | streamOpen
  | streaming
  deriving DecidableEq, Repr

/-- The numeric values of `gm_control_session_state`, for its ordering tests. -/
def GmControlSessionState.code : GmControlSessionState → Nat
  | closed => 0
  | tlsReady => 1
  | hello => 2
  | bound => 3
  | streamOpen => 4
  | streaming => 5

inductive GmControlActionKind where
  | none
  | sendSessionHelloResult
  | sendTransportBindResult
  | sendStreamOpenResult
  | sendStreamStartResult
  | sendStreamStopResult
  | sendStreamCloseResult
  | sendStreamRekeyResult
  | sendStatusResult
  | sendPingResult
  | sendSessionCloseResult
  | pathValidated
  | sendErrorResult
  | sendErrorClose
  deriving DecidableEq, Repr

/-- The numeric values of `gm_control_action_kind`. -/
def GmControlActionKind.code : GmControlActionKind → UInt32
  | none => 0
  | sendSessionHelloResult => 1
  | sendTransportBindResult => 2
  | sendStreamOpenResult => 3
  | sendStreamStartResult => 4
  | sendStreamStopResult => 5
  | sendStreamCloseResult => 6
  | sendStreamRekeyResult => 7
  | sendStatusResult => 8
  | sendPingResult => 9
  | sendSessionCloseResult => 10
  | pathValidated => 20
  | sendErrorResult => 100
  | sendErrorClose => 101

inductive GmReplayResult where
  | accepted
  | duplicate
  | tooOld
  deriving DecidableEq, Repr

inductive GmEpochAcceptance where
  | rejected
  | current
  | previousGrace
  deriving DecidableEq, Repr

@[simp] abbrev gmAudioCodecPcmS16le : UInt32 := 1
@[simp] abbrev gmAudioCodecOpus : UInt32 := 2
@[simp] abbrev gmChannelLayoutStereo : UInt32 := 1
@[simp] abbrev gmMediaKindAudio : UInt32 := 1
@[simp] abbrev gmMediaKindPathChallenge : UInt32 := 2
@[simp] abbrev gmMediaKindPathResponse : UInt32 := 3
@[simp] abbrev gmMediaKindFeedback : UInt32 := 4
@[simp] abbrev gmMediaDirectionWinToApple : UInt32 := 1
@[simp] abbrev gmMediaDirectionAppleToWin : UInt32 := 2
@[simp] abbrev gmControlSessionRoleAppleOutputServer : UInt32 := 1
@[simp] abbrev gmPeerIdBase32Bytes : Nat := 52
@[simp] abbrev gmIdentityLeafDerMaxBytes : Nat := 8192
@[simp] abbrev gmTrustPermissionConnect : UInt32 := 1
@[simp] abbrev gmTrustPermissionViewStatus : UInt32 := 2
@[simp] abbrev gmTrustPermissionReceiveSystemAudio : UInt32 := 4
@[simp] abbrev gmTrustPermissionProvideMicrophone : UInt32 := 8
@[simp] abbrev gmTrustPermissionProvideCamera : UInt32 := 16

inductive GmBytes where
  | null (size : Nat)
  | view (bytes : List UInt8)
  deriving DecidableEq

def GmBytes.size : GmBytes → Nat
  | null n => n
  | view bytes => bytes.length

def GmBytes.data : GmBytes → List UInt8
  | null _ => []
  | view bytes => bytes

/-- Both `has_readable_data` and `has_writable_data`. -/
def hasReadableData (bytes : GmBytes) : Bool :=
  match bytes with
  | .null n => n = 0
  | .view _ => true

@[simp] theorem view_size (bytes : List UInt8) : (GmBytes.view bytes).size = bytes.length := rfl
@[simp] theorem view_data (bytes : List UInt8) : (GmBytes.view bytes).data = bytes := rfl
@[simp] theorem view_readable (bytes : List UInt8) : hasReadableData (.view bytes) = true := rfl

theorem data_iff {bytes : GmBytes} :
    bytes.data ≠ [] ↔ hasReadableData bytes = true ∧ bytes.size ≠ 0 := by
  cases bytes with
  | null size => simp [GmBytes.data, hasReadableData, GmBytes.size]
  | view bytes => simp

structure GmAudioProfile where
  structSize : Nat
  abiVersion : UInt32
  codec : UInt32
  sampleRateHz : UInt32
  channels : UInt16
  framesPerPacket : UInt16
  channelLayout : UInt32
  packetIntervalUs : UInt32
  payloadBytes : UInt32
  deriving DecidableEq

@[simp] abbrev sizeofGmAudioProfile : Nat := 40

/-- A zeroed profile whose size and version are filled in. -/
def clearedProfile : GmAudioProfile where
  structSize := sizeofGmAudioProfile
  abiVersion := gmAbiVersion
  codec := 0
  sampleRateHz := 0
  channels := 0
  framesPerPacket := 0
  channelLayout := 0
  packetIntervalUs := 0
  payloadBytes := 0

structure GmControlMessageInfo where
  structSize : Nat
  abiVersion : UInt32
  kind : GmControlMessageKind
  id : UInt32
  mutating : UInt32
  udpPort : UInt32
  streamId : UInt32
  keyEpoch : UInt32
  playoutTargetMs : UInt32
  hasReason : UInt8
  versionsCount : UInt8
  versions : Buffer 8
  profile : GmAudioProfile
  type : Buffer (gmControlTypeMaxBytes + 1)
  role : Buffer (gmControlRoleMaxBytes + 1)
  clientName : Buffer (gmControlClientNameMaxBytes + 1)
  serverId : Buffer (gmControlUuidBytes + 1)
  bootId : Buffer (gmControlUuidBytes + 1)
  sessionId : Buffer (gmControlSessionIdHexBytes + 1)
  token : Buffer (gmControlTokenMaxBytes + 1)
  reason : Buffer (gmControlReasonMaxBytes + 1)
  state : Buffer (gmControlReasonMaxBytes + 1)
  pathState : Buffer (gmControlReasonMaxBytes + 1)
  outputState : Buffer (gmControlReasonMaxBytes + 1)
  sessionStreamState : Buffer (gmControlReasonMaxBytes + 1)
  transportState : Buffer (gmControlReasonMaxBytes + 1)
  firstMediaTimestamp : Buffer (gmControlDecimalU64MaxBytes + 1)
  monotonicNs : Buffer (gmControlDecimalU64MaxBytes + 1)
  deriving DecidableEq

@[simp] abbrev sizeofGmControlMessageInfo : Nat := 928

structure GmMediaHeader where
  structSize : Nat
  abiVersion : UInt32
  kind : UInt32
  sessionId : Buffer gmSessionIdBytes
  streamId : UInt32
  direction : UInt32
  keyEpoch : UInt32
  sequence : UInt64
  mediaTimestamp : UInt64
  payloadLength : UInt32
  deriving DecidableEq

@[simp] abbrev sizeofGmMediaHeader : Nat := 72

structure GmReplayWindow where
  structSize : Nat
  abiVersion : UInt32
  initialized : UInt8
  highestSequence : UInt64
  bitmap : Vector UInt64 16
  deriving DecidableEq

@[simp] abbrev sizeofGmReplayWindow : Nat := 152

structure GmEpochWindow where
  structSize : Nat
  abiVersion : UInt32
  currentEpoch : UInt32
  previousEpoch : UInt32
  previousEpochExpiresNs : UInt64
  hasPreviousEpoch : UInt8
  deriving DecidableEq

@[simp] abbrev sizeofGmEpochWindow : Nat := 40

structure GmCryptoExporterContextInput where
  structSize : Nat
  abiVersion : UInt32
  streamId : UInt32
  direction : UInt32
  keyEpoch : UInt32
  sessionId : Buffer gmSessionIdBytes
  senderSpkiDigest : Buffer gmSpkiDigestBytes
  receiverSpkiDigest : Buffer gmSpkiDigestBytes
  deriving DecidableEq

@[simp] abbrev sizeofGmCryptoExporterContextInput : Nat := 104

structure GmDirectionalKeys where
  structSize : Nat
  abiVersion : UInt32
  mediaKey : Buffer gmCryptoKeyBytes
  pathKey : Buffer gmCryptoKeyBytes
  deriving DecidableEq

@[simp] abbrev sizeofGmDirectionalKeys : Nat := 80

structure GmControlSessionConfig where
  structSize : Nat
  abiVersion : UInt32
  role : UInt32
  appleUdpPort : UInt32
  streamId : UInt32
  keyEpoch : UInt32
  maxAudioSubscribers : UInt32
  playoutTargetMsMin : UInt32
  playoutTargetMsMax : UInt32
  outputAvailable : UInt8
  serverId : Buffer (gmControlUuidBytes + 1)
  bootId : Buffer (gmControlUuidBytes + 1)
  sessionId : Buffer (gmControlSessionIdHexBytes + 1)
  deriving DecidableEq

@[simp] abbrev sizeofGmControlSessionConfig : Nat := 152

structure GmControlSession where
  structSize : Nat
  abiVersion : UInt32
  role : UInt32
  state : GmControlSessionState
  lastRequestId : UInt32
  windowsUdpPort : UInt32
  appleUdpPort : UInt32
  streamId : UInt32
  nextStreamId : UInt32
  keyEpoch : UInt32
  initialKeyEpoch : UInt32
  lastRekeyEpoch : UInt32
  lastClosedStreamId : UInt32
  playoutTargetMs : UInt32
  lastUpdateNs : UInt64
  validRequests : UInt64
  rejectedRequests : UInt64
  actionsEmitted : UInt64
  stateConflicts : UInt64
  protocolErrors : UInt64
  streamsStarted : UInt64
  streamsStopped : UInt64
  streamsClosed : UInt64
  rekeysCommitted : UInt64
  pathValidated : UInt8
  outputAvailable : UInt8
  profile : GmAudioProfile
  serverId : Buffer (gmControlUuidBytes + 1)
  bootId : Buffer (gmControlUuidBytes + 1)
  sessionId : Buffer (gmControlSessionIdHexBytes + 1)
  firstMediaTimestamp : Buffer (gmControlDecimalU64MaxBytes + 1)
  deriving DecidableEq

@[simp] abbrev sizeofGmControlSession : Nat := 320

structure GmControlAction where
  structSize : Nat
  abiVersion : UInt32
  kind : GmControlActionKind
  responseId : UInt32
  status : GmStatus
  sessionState : GmControlSessionState
  udpPort : UInt32
  streamId : UInt32
  keyEpoch : UInt32
  playoutTargetMs : UInt32
  packetIntervalUs : UInt32
  terminal : UInt8
  profile : GmAudioProfile
  serverId : Buffer (gmControlUuidBytes + 1)
  bootId : Buffer (gmControlUuidBytes + 1)
  sessionId : Buffer (gmControlSessionIdHexBytes + 1)
  token : Buffer (gmControlTokenMaxBytes + 1)
  state : Buffer (gmControlReasonMaxBytes + 1)
  pathState : Buffer (gmControlReasonMaxBytes + 1)
  outputState : Buffer (gmControlReasonMaxBytes + 1)
  sessionStreamState : Buffer (gmControlReasonMaxBytes + 1)
  transportState : Buffer (gmControlReasonMaxBytes + 1)
  firstMediaTimestamp : Buffer (gmControlDecimalU64MaxBytes + 1)
  monotonicNs : Buffer (gmControlDecimalU64MaxBytes + 1)
  deriving DecidableEq

@[simp] abbrev sizeofGmControlAction : Nat := 640

structure GmControlFrameInfo where
  structSize : Nat
  abiVersion : UInt32
  payloadLength : UInt32
  frameSize : Nat
  complete : UInt8
  deriving DecidableEq

@[simp] abbrev sizeofGmControlFrameInfo : Nat := 32

structure GmControlMetrics where
  structSize : Nat
  abiVersion : UInt32
  validRequests : UInt64
  rejectedRequests : UInt64
  actionsEmitted : UInt64
  stateConflicts : UInt64
  protocolErrors : UInt64
  streamsStarted : UInt64
  streamsStopped : UInt64
  streamsClosed : UInt64
  rekeysCommitted : UInt64
  deriving DecidableEq

@[simp] abbrev sizeofGmControlMetrics : Nat := 88

structure GmTrustRecord where
  structSize : Nat
  abiVersion : UInt32
  peerSpkiDigest : Buffer gmSpkiDigestBytes
  permissions : UInt32
  revoked : UInt8
  reserved : Buffer 3
  deriving DecidableEq

@[simp] abbrev sizeofGmTrustRecord : Nat := 56

/-- `gm_status_string` -/
def gmStatusString : GmStatus → String
  | .ok => "GM_OK"
  | .badArgument => "GM_BAD_ARGUMENT"
  | .badMessage => "GM_BAD_MESSAGE"
  | .stateConflict => "GM_STATE_CONFLICT"
  | .limitExceeded => "GM_LIMIT_EXCEEDED"
  | .bufferTooSmall => "GM_BUFFER_TOO_SMALL"
  | .unauthorized => "GM_UNAUTHORIZED"
  | .needMoreData => "GM_NEED_MORE_DATA"
  | .unsupportedVersion => "GM_UNSUPPORTED_VERSION"
  | .internal => "GM_INTERNAL"

end GhostMedia
