import GhostMedia.Control.Message
import GhostMedia.Foundation.Decimal

/- The version 1 messages as an abstract data type. `Describes` says which member
   lists denote a message, in any order of the members; `info` is the record a
   receiver is told. Neither mentions the parser or the validators. -/
namespace GhostMedia.Control
open Json CString

inductive Codec where
  | pcmS16le
  | opus
  deriving DecidableEq

def Codec.text : Codec → List UInt8
  | pcmS16le => ascii "pcm_s16le"
  | opus => ascii "opus"

def Codec.framesPerPacket : Codec → UInt16
  | pcmS16le => 240
  | opus => 480

def Codec.profile : Codec → GmAudioProfile
  | pcmS16le => ⟨sizeofGmAudioProfile, gmAbiVersion, gmAudioCodecPcmS16le, 48000, 2, 240,
      gmChannelLayoutStereo, 5000, gmAudioPcmS16lePayloadBytes⟩
  | opus => ⟨sizeofGmAudioProfile, gmAbiVersion, gmAudioCodecOpus, 48000, 2, 480,
      gmChannelLayoutStereo, 10000, gmAudioOpusMaxPayloadBytes⟩

/-- What a result message carries, one constructor for each key set. -/
inductive Result where
  | hello (serverId sessionId bootId : List UInt8) (udpPort : UInt32)
  | bind (udpPort : UInt32)
  | open (streamId keyEpoch : UInt32) (codec : Codec)
  | rekey (streamId keyEpoch : UInt32) (state : List UInt8)
  | stream (streamId : UInt32) (state : List UInt8)
  | sessionState (state : List UInt8)
  | status (outputState sessionStreamState transportState : List UInt8)
  | ping (token monotonicNs : List UInt8)

inductive Message where
  | sessionHello (id : UInt32) (clientName versions : List UInt8) (udpPort : UInt32)
  | transportBind (id : UInt32) (sessionId : List UInt8) (udpPort : UInt32)
  | streamOpen (id : UInt32) (codec : Codec) (playoutTargetMs : UInt32)
  | streamStart (id streamId : UInt32) (firstMediaTimestamp : List UInt8)
  | streamStop (id streamId : UInt32)
  | streamClose (id streamId : UInt32)
  | streamRekey (id streamId keyEpoch : UInt32)
  | statusGet (id : UInt32)
  | ping (id : UInt32) (token : List UInt8)
  | sessionClose (id : UInt32) (reason : Option (List UInt8))
  | error (id : UInt32)
  | result (id : UInt32) (body : Result)
  | streamStarted (streamId : UInt32) (firstMediaTimestamp : List UInt8)
  | streamStopped (streamId : UInt32) (reason : List UInt8)
  | outputState (state reason : List UInt8)
  | sessionExpiring (reason deadlineMonotonicNs : List UInt8)

abbrev Members := List (List UInt8 × JsonValue)

def number (value : UInt32) : JsonValue := .number value.toUInt64

def profileEntries (codec : Codec) : Members :=
  [(ascii "codec", .string codec.text), (ascii "sample_rate_hz", number 48000),
    (ascii "channels", number 2), (ascii "channel_layout", .string (ascii "stereo")),
    (ascii "frames_per_packet", number codec.framesPerPacket.toUInt32)]

def ProfileObject (codec : Codec) (object : JsonValue) : Prop :=
  ∃ members : Members, object = .object members ∧ members.Perm (profileEntries codec)

def capabilitiesEntries (receive : Bool) (profiles : List JsonValue) : Members :=
  [(ascii "audio_send", .boolean false), (ascii "audio_receive", .boolean receive),
    (ascii "microphone", .boolean false), (ascii "camera", .boolean false),
    (ascii "audio_profiles", .array profiles)]

def CapabilitiesObject (object : JsonValue) : Prop :=
  ∃ (members : Members) (receive : Bool) (profiles : List JsonValue),
    object = .object members ∧ members.Perm (capabilitiesEntries receive profiles) ∧
    (if receive then profiles ≠ [] ∧ profiles.length ≤ 2 else profiles = []) ∧
    ∀ profile ∈ profiles, ∃ codec, ProfileObject codec profile

def limitsEntries (subscribers playoutMin playoutMax : UInt32) : Members :=
  [(ascii "max_audio_subscribers", number subscribers),
    (ascii "playout_target_ms_min", number playoutMin),
    (ascii "playout_target_ms_max", number playoutMax)]

def LimitsObject (object : JsonValue) : Prop :=
  ∃ (members : Members) (subscribers playoutMin playoutMax : UInt32),
    object = .object members ∧
    members.Perm (limitsEntries subscribers playoutMin playoutMax) ∧ playoutMin ≤ playoutMax

/-- The version entries a list of protocol majors is written as. -/
def versionNumbers (versions : List UInt8) : List JsonValue :=
  versions.map fun v => number v.toUInt32

/-- Strictly descending protocol majors, with version 1 among them. -/
def VersionList (versions : List UInt8) : Prop :=
  versions.Pairwise (· > ·) ∧ 1 ∈ versions ∧ 0 ∉ versions ∧ versions.length ≤ 8

def DecimalU64 (text : List UInt8) : Prop :=
  Decimal.Canonical text ∧ Decimal.value text < 2 ^ 64

/-- A nonempty text of printable ASCII. -/
def Reason (text : List UInt8) : Prop :=
  text ≠ [] ∧ text.length ≤ 64 ∧ ∀ b ∈ text, 0x20 ≤ b ∧ b ≤ 0x7e

def Token (text : List UInt8) : Prop := text ≠ [] ∧ text.length ≤ 64 ∧ ∀ b ∈ text, b ≤ 0x7f

def LowerHex (b : UInt8) : Prop := b ∈ ascii "0123456789abcdef"

def SessionIdText (text : List UInt8) : Prop := text.length = 32 ∧ ∀ b ∈ text, LowerHex b

/-- Lowercase hexadecimal digits with hyphens at the four fixed places. -/
def UuidText (text : List UInt8) : Prop :=
  text.length = 36 ∧ ∀ i b, text[i]? = some b →
    if i ∈ [8, 13, 18, 23] then b = 45 else LowerHex b

def EndpointState (text : List UInt8) : Prop :=
  text ∈ [ascii "available", ascii "unavailable", ascii "faulted"]

def ErrorCode (text : List UInt8) : Prop :=
  text ∈ [ascii "BAD_REQUEST", ascii "UNSUPPORTED_VERSION", ascii "UNAUTHORIZED",
    ascii "FORBIDDEN", ascii "NOT_FOUND", ascii "STATE_CONFLICT", ascii "RESOURCE_BUSY",
    ascii "DEVICE_UNAVAILABLE", ascii "PATH_UNVALIDATED", ascii "UNSUPPORTED_PROFILE",
    ascii "LIMIT_EXCEEDED", ascii "TIMEOUT", ascii "INTERNAL"]

/-- Members common to every message with an id. -/
def numbered (id : UInt32) (type : List UInt8) (fields : Members) : Members :=
  (ascii "v", number 1) :: (ascii "id", number id) :: (ascii "type", .string type) :: fields

def event (type : List UInt8) (fields : Members) : Members :=
  (ascii "v", number 1) :: (ascii "type", .string type) :: fields

/-- The member lists of the result objects. What a result does not report (the
    capabilities, the limits, the feedback age) is any value of its range. -/
def Result.Describes (inner : Members) : Result → Prop
  | hello serverId sessionId bootId udpPort =>
    ∃ capabilities limits, CapabilitiesObject capabilities ∧ LimitsObject limits ∧
    inner.Perm [(ascii "version", number 1), (ascii "role", .string (ascii "apple-output-server")),
      (ascii "server_id", .string serverId), (ascii "session_id", .string sessionId),
      (ascii "boot_id", .string bootId), (ascii "udp_port", number udpPort),
      (ascii "capabilities", capabilities), (ascii "limits", limits)] ∧
    UuidText serverId ∧ SessionIdText sessionId ∧ UuidText bootId ∧ 1 ≤ udpPort ∧ udpPort ≤ 65535
  | bind udpPort =>
    inner.Perm [(ascii "udp_port", number udpPort),
      (ascii "path_state", .string (ascii "bound"))] ∧ 1 ≤ udpPort ∧ udpPort ≤ 65535
  | .open streamId keyEpoch codec =>
    ∃ profile, ProfileObject codec profile ∧
    inner.Perm [(ascii "stream_id", number streamId), (ascii "key_epoch", number keyEpoch),
      (ascii "profile", profile),
      (ascii "packet_interval_us", number codec.profile.packetIntervalUs),
      (ascii "path_state", .string (ascii "probing"))] ∧ 1 ≤ streamId ∧ 1 ≤ keyEpoch
  | rekey streamId keyEpoch state =>
    inner.Perm [(ascii "stream_id", number streamId), (ascii "key_epoch", number keyEpoch),
      (ascii "state", .string state)] ∧ 1 ≤ streamId ∧ 1 ≤ keyEpoch ∧ Reason state
  | stream streamId state =>
    inner.Perm [(ascii "stream_id", number streamId), (ascii "state", .string state)] ∧
    1 ≤ streamId ∧ Reason state
  | sessionState state => inner.Perm [(ascii "state", .string state)] ∧ Reason state
  | status output sessionStream transport =>
    ∃ feedbackAgeMs, inner.Perm [(ascii "output_state", .string output),
      (ascii "session_stream_state", .string sessionStream),
      (ascii "transport_state", .string transport),
      (ascii "feedback_age_ms", number feedbackAgeMs)] ∧
    EndpointState output ∧ Reason sessionStream ∧ Reason transport ∧ feedbackAgeMs ≤ 6000
  | ping token monotonicNs =>
    inner.Perm [(ascii "token", .string token), (ascii "monotonic_ns", .string monotonicNs)] ∧
    Token token ∧ DecimalU64 monotonicNs

def Message.Describes (members : Members) : Message → Prop
  | sessionHello id clientName versions udpPort =>
    members.Perm (numbered id (ascii "session.hello")
      [(ascii "role", .string (ascii "win-client")), (ascii "client_name", .string clientName),
        (ascii "versions", .array (versionNumbers versions)),
        (ascii "udp_port", number udpPort)]) ∧
    1 ≤ id ∧ clientName.length ≤ 128 ∧ VersionList versions ∧ 1 ≤ udpPort ∧ udpPort ≤ 65535
  | transportBind id sessionId udpPort =>
    members.Perm (numbered id (ascii "transport.bind")
      [(ascii "session_id", .string sessionId), (ascii "udp_port", number udpPort)]) ∧
    1 ≤ id ∧ SessionIdText sessionId ∧ 1 ≤ udpPort ∧ udpPort ≤ 65535
  | streamOpen id codec playoutTargetMs =>
    ∃ profile, ProfileObject codec profile ∧ members.Perm (numbered id (ascii "stream.open")
      [(ascii "kind", .string (ascii "audio")),
        (ascii "direction", .string (ascii "win_to_apple")), (ascii "profile", profile),
        (ascii "playout_target_ms", number playoutTargetMs)]) ∧
    1 ≤ id ∧ 15 ≤ playoutTargetMs ∧ playoutTargetMs ≤ 120
  | streamStart id streamId firstMediaTimestamp =>
    members.Perm (numbered id (ascii "stream.start") [(ascii "stream_id", number streamId),
      (ascii "first_media_timestamp", .string firstMediaTimestamp)]) ∧
    1 ≤ id ∧ 1 ≤ streamId ∧ DecimalU64 firstMediaTimestamp
  | streamStop id streamId =>
    members.Perm (numbered id (ascii "stream.stop") [(ascii "stream_id", number streamId)]) ∧
    1 ≤ id ∧ 1 ≤ streamId
  | streamClose id streamId =>
    members.Perm (numbered id (ascii "stream.close") [(ascii "stream_id", number streamId)]) ∧
    1 ≤ id ∧ 1 ≤ streamId
  | streamRekey id streamId keyEpoch =>
    members.Perm (numbered id (ascii "stream.rekey") [(ascii "stream_id", number streamId),
      (ascii "key_epoch", number keyEpoch)]) ∧ 1 ≤ id ∧ 1 ≤ streamId ∧ 1 ≤ keyEpoch
  | statusGet id => members.Perm (numbered id (ascii "status.get") []) ∧ 1 ≤ id
  | ping id token =>
    members.Perm (numbered id (ascii "ping") [(ascii "token", .string token)]) ∧
    1 ≤ id ∧ Token token
  | sessionClose id none => members.Perm (numbered id (ascii "session.close") []) ∧ 1 ≤ id
  | sessionClose id (some reason) =>
    members.Perm (numbered id (ascii "session.close") [(ascii "reason", .string reason)]) ∧
    1 ≤ id ∧ Reason reason
  | error id =>
    ∃ (code message : List UInt8) (retryable : Bool) (inner : Members),
    inner.Perm [(ascii "code", .string code), (ascii "message", .string message),
      (ascii "retryable", .boolean retryable)] ∧
    members.Perm (numbered id (ascii "error") [(ascii "error", .object inner)]) ∧
    1 ≤ id ∧ ErrorCode code ∧ message.length ≤ 256
  | result id body =>
    ∃ inner, body.Describes inner ∧
    members.Perm (numbered id (ascii "result") [(ascii "result", .object inner)]) ∧ 1 ≤ id
  | streamStarted streamId firstMediaTimestamp =>
    members.Perm (event (ascii "event.stream.started") [(ascii "stream_id", number streamId),
      (ascii "first_media_timestamp", .string firstMediaTimestamp)]) ∧
    1 ≤ streamId ∧ DecimalU64 firstMediaTimestamp
  | streamStopped streamId reason =>
    members.Perm (event (ascii "event.stream.stopped") [(ascii "stream_id", number streamId),
      (ascii "reason", .string reason)]) ∧ 1 ≤ streamId ∧ Reason reason
  | outputState state reason =>
    members.Perm (event (ascii "event.output.state") [(ascii "state", .string state),
      (ascii "reason", .string reason)]) ∧ EndpointState state ∧ Reason reason
  | sessionExpiring reason deadlineMonotonicNs =>
    members.Perm (event (ascii "event.session.expiring") [(ascii "reason", .string reason),
      (ascii "deadline_monotonic_ns", .string deadlineMonotonicNs)]) ∧
    Reason reason ∧ DecimalU64 deadlineMonotonicNs

def Message.typeText : Message → List UInt8
  | sessionHello .. => ascii "session.hello"
  | transportBind .. => ascii "transport.bind"
  | streamOpen .. => ascii "stream.open"
  | streamStart .. => ascii "stream.start"
  | streamStop .. => ascii "stream.stop"
  | streamClose .. => ascii "stream.close"
  | streamRekey .. => ascii "stream.rekey"
  | statusGet .. => ascii "status.get"
  | ping .. => ascii "ping"
  | sessionClose .. => ascii "session.close"
  | error .. => ascii "error"
  | result .. => ascii "result"
  | streamStarted .. => ascii "event.stream.started"
  | streamStopped .. => ascii "event.stream.stopped"
  | outputState .. => ascii "event.output.state"
  | sessionExpiring .. => ascii "event.session.expiring"

/-- What a result adds to the record. -/
def Result.store (out : GmControlMessageInfo) : Result → GmControlMessageInfo
  | hello serverId sessionId bootId udpPort =>
    { out with
      kind := .responseResult, udpPort := udpPort, role := fill _ (ascii "apple-output-server")
      serverId := fill _ serverId, bootId := fill _ bootId, sessionId := fill _ sessionId }
  | bind udpPort =>
    { out with
      kind := .responseResult, udpPort := udpPort, pathState := fill _ (ascii "bound") }
  | .open streamId keyEpoch codec =>
    { out with
      kind := .responseResult, streamId := streamId, keyEpoch := keyEpoch
      profile := codec.profile, pathState := fill _ (ascii "probing") }
  | rekey streamId keyEpoch state =>
    { out with
      kind := .responseResult, streamId := streamId, keyEpoch := keyEpoch, state := fill _ state }
  | stream streamId state =>
    { out with kind := .responseResult, streamId := streamId, state := fill _ state }
  | sessionState state => { out with kind := .responseResult, state := fill _ state }
  | status output sessionStream transport =>
    { out with
      kind := .responseResult, outputState := fill _ output
      sessionStreamState := fill _ sessionStream, transportState := fill _ transport }
  | ping token monotonicNs =>
    { out with
      kind := .responseResult, token := fill _ token, monotonicNs := fill _ monotonicNs }

/-- The record filled in for a message: its type, its id, and what its kind stores. -/
def Message.info (size : Nat) (message : Message) : GmControlMessageInfo :=
  let base := { clearedInfo size with type := fill _ message.typeText }
  match message with
  | sessionHello id clientName versions udpPort =>
    { base with
      kind := .requestSessionHello, id := id, mutating := 1, udpPort := udpPort
      versionsCount := versions.length.toUInt8, versions := fillExact 8 versions
      role := fill _ (ascii "win-client"), clientName := fill _ clientName }
  | transportBind id sessionId udpPort =>
    { base with
      kind := .requestTransportBind, id := id, mutating := 1, udpPort := udpPort
      sessionId := fill _ sessionId }
  | streamOpen id codec playoutTargetMs =>
    { base with
      kind := .requestStreamOpen, id := id, mutating := 1, profile := codec.profile
      playoutTargetMs := playoutTargetMs }
  | streamStart id streamId firstMediaTimestamp =>
    { base with
      kind := .requestStreamStart, id := id, mutating := 1, streamId := streamId
      firstMediaTimestamp := fill _ firstMediaTimestamp }
  | streamStop id streamId =>
    { base with kind := .requestStreamStop, id := id, mutating := 1, streamId := streamId }
  | streamClose id streamId =>
    { base with kind := .requestStreamClose, id := id, mutating := 1, streamId := streamId }
  | streamRekey id streamId keyEpoch =>
    { base with
      kind := .requestStreamRekey, id := id, mutating := 1, streamId := streamId
      keyEpoch := keyEpoch }
  | statusGet id => { base with kind := .requestStatusGet, id := id }
  | ping id token => { base with kind := .requestPing, id := id, token := fill _ token }
  | sessionClose id none => { base with kind := .requestSessionClose, id := id, mutating := 1 }
  | sessionClose id (some reason) =>
    { base with
      kind := .requestSessionClose, id := id, mutating := 1, hasReason := 1
      reason := fill _ reason }
  | error id => { base with kind := .responseError, id := id }
  | result id body => body.store { base with id := id }
  | streamStarted streamId firstMediaTimestamp =>
    { base with
      kind := .eventStreamStarted, streamId := streamId
      firstMediaTimestamp := fill _ firstMediaTimestamp }
  | streamStopped streamId reason =>
    { base with
      kind := .eventStreamStopped, streamId := streamId, hasReason := 1, reason := fill _ reason }
  | outputState state reason =>
    { base with
      kind := .eventOutputState, hasReason := 1, state := fill _ state, reason := fill _ reason }
  | sessionExpiring reason deadlineMonotonicNs =>
    { base with
      kind := .eventSessionExpiring, hasReason := 1, reason := fill _ reason
      monotonicNs := fill _ deadlineMonotonicNs }

end GhostMedia.Control
