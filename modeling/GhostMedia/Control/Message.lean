import GhostMedia.Control.Schema

/- `validate_request`, `validate_error`, `validate_result`, `validate_event` and
   `gm_control_parse_message`. Every branch of a validator is a definition of its
   own. What a failed call leaves in the caller's record is not represented. -/
namespace GhostMedia.Control
open Json CString

abbrev maxU32 : UInt32 := 0xffffffff

section Requests
variable (root : JsonValue) (outInfo : GmControlMessageInfo)

def validateSessionHello : Except GmStatus GmControlMessageInfo := do
  check (objectHasExactKeys root [ascii "v", ascii "id", ascii "type", ascii "role",
    ascii "client_name", ascii "versions", ascii "udp_port"])
  let role ← require (getRequiredString root (ascii "role"))
  check (role = ascii "win-client")
  let clientName ← require (getRequiredString root (ascii "client_name"))
  check (clientName.length ≤ gmControlClientNameMaxBytes)
  let versions ← require (getRequiredArray root (ascii "versions"))
  let udpPort ← require (getRequiredU32 root (ascii "udp_port") 1 65535)
  let outInfo ← validateVersions versions { outInfo with udpPort := udpPort }
  return { outInfo with
    kind := .requestSessionHello
    mutating := 1
    role := copyStringField _ role
    clientName := copyStringField _ clientName }

def validateTransportBind : Except GmStatus GmControlMessageInfo := do
  check (objectHasExactKeys root [ascii "v", ascii "id", ascii "type", ascii "session_id",
    ascii "udp_port"])
  let sessionId ← require (getRequiredString root (ascii "session_id"))
  check (isLowerHexSessionId sessionId)
  let udpPort ← require (getRequiredU32 root (ascii "udp_port") 1 65535)
  return { outInfo with
    udpPort := udpPort
    kind := .requestTransportBind
    mutating := 1
    sessionId := copyStringField _ sessionId }

def validateStreamOpen : Except GmStatus GmControlMessageInfo := do
  check (objectHasExactKeys root [ascii "v", ascii "id", ascii "type", ascii "kind",
    ascii "direction", ascii "profile", ascii "playout_target_ms"])
  let kind ← require (getRequiredString root (ascii "kind"))
  check (kind = ascii "audio")
  let direction ← require (getRequiredString root (ascii "direction"))
  check (direction = ascii "win_to_apple")
  let profile ← require (getRequiredObject root (ascii "profile"))
  let playoutTargetMs ← require (getRequiredU32 root (ascii "playout_target_ms") 15 120)
  let parsed ← parseProfile profile
  return { outInfo with
    playoutTargetMs := playoutTargetMs
    profile := parsed
    kind := .requestStreamOpen
    mutating := 1 }

def validateStreamStart : Except GmStatus GmControlMessageInfo := do
  check (objectHasExactKeys root [ascii "v", ascii "id", ascii "type", ascii "stream_id",
    ascii "first_media_timestamp"])
  let streamId ← require (getRequiredU32 root (ascii "stream_id") 1 maxU32)
  let firstMediaTimestamp ← require (getRequiredString root (ascii "first_media_timestamp"))
  check (parseDecimalU64String firstMediaTimestamp).isSome
  return { outInfo with
    streamId := streamId
    kind := .requestStreamStart
    mutating := 1
    firstMediaTimestamp := copyStringField _ firstMediaTimestamp }

/-- The shared branch of `stream.stop` and `stream.close`. -/
def validateStreamEnd (kind : GmControlMessageKind) : Except GmStatus GmControlMessageInfo := do
  check (objectHasExactKeys root [ascii "v", ascii "id", ascii "type", ascii "stream_id"])
  let streamId ← require (getRequiredU32 root (ascii "stream_id") 1 maxU32)
  return { outInfo with streamId := streamId, kind := kind, mutating := 1 }

def validateStreamRekey : Except GmStatus GmControlMessageInfo := do
  check (objectHasExactKeys root [ascii "v", ascii "id", ascii "type", ascii "stream_id",
    ascii "key_epoch"])
  let streamId ← require (getRequiredU32 root (ascii "stream_id") 1 maxU32)
  let keyEpoch ← require (getRequiredU32 root (ascii "key_epoch") 1 maxU32)
  return { outInfo with
    streamId := streamId
    keyEpoch := keyEpoch
    kind := .requestStreamRekey
    mutating := 1 }

def validateStatusGet : Except GmStatus GmControlMessageInfo := do
  check (objectHasExactKeys root [ascii "v", ascii "id", ascii "type"])
  return { outInfo with kind := .requestStatusGet, mutating := 0 }

def validatePing : Except GmStatus GmControlMessageInfo := do
  check (objectHasExactKeys root [ascii "v", ascii "id", ascii "type", ascii "token"])
  let token ← require (getRequiredString root (ascii "token"))
  check (isToken token)
  return { outInfo with
    kind := .requestPing
    mutating := 0
    token := copyStringField _ token }

def validateSessionClose : Except GmStatus GmControlMessageInfo := do
  check (if (findMember root (ascii "reason")).isSome then
      objectHasExactKeys root [ascii "v", ascii "id", ascii "type", ascii "reason"]
    else objectHasExactKeys root [ascii "v", ascii "id", ascii "type"])
  match ← require (getOptionalString root (ascii "reason")) with
  | some reason =>
    check (isReasonString reason)
    return { outInfo with
      hasReason := 1
      reason := copyStringField _ reason
      kind := .requestSessionClose
      mutating := 1 }
  | none => return { outInfo with kind := .requestSessionClose, mutating := 1 }

def validateRequest (type : List UInt8) : Except GmStatus GmControlMessageInfo :=
  if type = ascii "session.hello" then validateSessionHello root outInfo
  else if type = ascii "transport.bind" then validateTransportBind root outInfo
  else if type = ascii "stream.open" then validateStreamOpen root outInfo
  else if type = ascii "stream.start" then validateStreamStart root outInfo
  else if type = ascii "stream.stop" then validateStreamEnd root outInfo .requestStreamStop
  else if type = ascii "stream.close" then validateStreamEnd root outInfo .requestStreamClose
  else if type = ascii "stream.rekey" then validateStreamRekey root outInfo
  else if type = ascii "status.get" then validateStatusGet root outInfo
  else if type = ascii "ping" then validatePing root outInfo
  else if type = ascii "session.close" then validateSessionClose root outInfo
  else .error .badMessage

def validateError : Except GmStatus GmControlMessageInfo := do
  check (objectHasExactKeys root [ascii "v", ascii "id", ascii "type", ascii "error"])
  let error ← require (getRequiredObject root (ascii "error"))
  check (objectHasExactKeys error [ascii "code", ascii "message", ascii "retryable"])
  let code ← require (getRequiredString error (ascii "code"))
  check (isKnownErrorCode code)
  let message ← require (getRequiredString error (ascii "message"))
  check (message.length ≤ 256)
  let _ ← require (getRequiredBool error (ascii "retryable"))
  return { outInfo with kind := .responseError }

end Requests

section Results
variable (result : JsonValue) (outInfo : GmControlMessageInfo)

def helloResultKeys : List (List UInt8) := [ascii "version", ascii "role", ascii "server_id",
  ascii "session_id", ascii "boot_id", ascii "udp_port", ascii "capabilities", ascii "limits"]

def validateHelloResult : Except GmStatus GmControlMessageInfo := do
  let version ← require (getRequiredU32 result (ascii "version") 1 255)
  check (version = gmProtocolMajor)
  let role ← require (getRequiredString result (ascii "role"))
  check (role = ascii "apple-output-server")
  let serverId ← require (getRequiredString result (ascii "server_id"))
  check (isLowerUuid serverId)
  let sessionId ← require (getRequiredString result (ascii "session_id"))
  check (isLowerHexSessionId sessionId)
  let bootId ← require (getRequiredString result (ascii "boot_id"))
  check (isLowerUuid bootId)
  let udpPort ← require (getRequiredU32 result (ascii "udp_port") 1 65535)
  let capabilities ← require (getRequiredObject result (ascii "capabilities"))
  check (validateCapabilities capabilities)
  let limits ← require (getRequiredObject result (ascii "limits"))
  check (validateLimits limits)
  return { outInfo with
    udpPort := udpPort
    kind := .responseResult
    role := copyStringField _ role
    serverId := copyStringField _ serverId
    bootId := copyStringField _ bootId
    sessionId := copyStringField _ sessionId }

def bindResultKeys : List (List UInt8) := [ascii "udp_port", ascii "path_state"]

def validateBindResult : Except GmStatus GmControlMessageInfo := do
  let udpPort ← require (getRequiredU32 result (ascii "udp_port") 1 65535)
  let pathState ← require (getRequiredString result (ascii "path_state"))
  check (pathState = ascii "bound")
  return { outInfo with
    udpPort := udpPort
    pathState := copyStringField _ pathState
    kind := .responseResult }

def openResultKeys : List (List UInt8) := [ascii "stream_id", ascii "key_epoch", ascii "profile",
  ascii "packet_interval_us", ascii "path_state"]

def validateOpenResult : Except GmStatus GmControlMessageInfo := do
  let streamId ← require (getRequiredU32 result (ascii "stream_id") 1 maxU32)
  let keyEpoch ← require (getRequiredU32 result (ascii "key_epoch") 1 maxU32)
  let profile ← require (getRequiredObject result (ascii "profile"))
  -- any status of `parse_profile` other than `GM_OK` becomes `GM_BAD_MESSAGE`
  let parsed ← require (parseProfile profile).toOption
  let packetIntervalUs ← require (getRequiredU32 result (ascii "packet_interval_us") 0 maxU32)
  let pathState ← require (getRequiredString result (ascii "path_state"))
  check (pathState = ascii "probing")
  check (packetIntervalUs = parsed.packetIntervalUs)
  return { outInfo with
    streamId := streamId
    keyEpoch := keyEpoch
    profile := parsed
    pathState := copyStringField _ pathState
    kind := .responseResult }

def rekeyResultKeys : List (List UInt8) := [ascii "stream_id", ascii "key_epoch", ascii "state"]

def validateRekeyResult : Except GmStatus GmControlMessageInfo := do
  let streamId ← require (getRequiredU32 result (ascii "stream_id") 1 maxU32)
  let keyEpoch ← require (getRequiredU32 result (ascii "key_epoch") 1 maxU32)
  let state ← require (getRequiredString result (ascii "state"))
  check (isStateToken state)
  return { outInfo with
    streamId := streamId
    keyEpoch := keyEpoch
    state := copyStringField _ state
    kind := .responseResult }

def streamResultKeys : List (List UInt8) := [ascii "stream_id", ascii "state"]

def validateStreamResult : Except GmStatus GmControlMessageInfo := do
  let streamId ← require (getRequiredU32 result (ascii "stream_id") 1 maxU32)
  let state ← require (getRequiredString result (ascii "state"))
  check (isStateToken state)
  return { outInfo with
    streamId := streamId
    state := copyStringField _ state
    kind := .responseResult }

def stateResultKeys : List (List UInt8) := [ascii "state"]

def validateStateResult : Except GmStatus GmControlMessageInfo := do
  let state ← require (getRequiredString result (ascii "state"))
  check (isStateToken state)
  return { outInfo with state := copyStringField _ state, kind := .responseResult }

def statusResultKeys : List (List UInt8) := [ascii "output_state", ascii "session_stream_state",
  ascii "transport_state", ascii "feedback_age_ms"]

def validateStatusResult : Except GmStatus GmControlMessageInfo := do
  let outputState ← require (getRequiredString result (ascii "output_state"))
  check (isEndpointState outputState)
  let sessionStreamState ← require (getRequiredString result (ascii "session_stream_state"))
  check (isStateToken sessionStreamState)
  let transportState ← require (getRequiredString result (ascii "transport_state"))
  check (isStateToken transportState)
  let _ ← require (getRequiredU32 result (ascii "feedback_age_ms") 0 6000)
  return { outInfo with
    outputState := copyStringField _ outputState
    sessionStreamState := copyStringField _ sessionStreamState
    transportState := copyStringField _ transportState
    kind := .responseResult }

def pingResultKeys : List (List UInt8) := [ascii "token", ascii "monotonic_ns"]

def validatePingResult : Except GmStatus GmControlMessageInfo := do
  let token ← require (getRequiredString result (ascii "token"))
  check (isToken token)
  let monotonicNs ← validateRequiredDecimalString result (ascii "monotonic_ns")
  return { outInfo with
    token := copyStringField _ token
    monotonicNs := copyStringField _ monotonicNs
    kind := .responseResult }

/-- The chain of `validate_result`: the first key set that matches decides. -/
def validateResultObject : Except GmStatus GmControlMessageInfo :=
  if objectHasExactKeys result helloResultKeys then validateHelloResult result outInfo
  else if objectHasExactKeys result bindResultKeys then validateBindResult result outInfo
  else if objectHasExactKeys result openResultKeys then validateOpenResult result outInfo
  else if objectHasExactKeys result rekeyResultKeys then validateRekeyResult result outInfo
  else if objectHasExactKeys result streamResultKeys then validateStreamResult result outInfo
  else if objectHasExactKeys result stateResultKeys then validateStateResult result outInfo
  else if objectHasExactKeys result statusResultKeys then validateStatusResult result outInfo
  else if objectHasExactKeys result pingResultKeys then validatePingResult result outInfo
  else .error .badMessage

end Results

section Messages
variable (root : JsonValue) (outInfo : GmControlMessageInfo)

def validateResult : Except GmStatus GmControlMessageInfo := do
  check (objectHasExactKeys root [ascii "v", ascii "id", ascii "type", ascii "result"])
  let result ← require (getRequiredObject root (ascii "result"))
  validateResultObject result outInfo

def validateStreamStarted : Except GmStatus GmControlMessageInfo := do
  check (objectHasExactKeys root [ascii "v", ascii "type", ascii "stream_id",
    ascii "first_media_timestamp"])
  let streamId ← require (getRequiredU32 root (ascii "stream_id") 1 maxU32)
  let firstMediaTimestamp ← require (getRequiredString root (ascii "first_media_timestamp"))
  check (parseDecimalU64String firstMediaTimestamp).isSome
  return { outInfo with
    streamId := streamId
    kind := .eventStreamStarted
    firstMediaTimestamp := copyStringField _ firstMediaTimestamp }

def validateStreamStopped : Except GmStatus GmControlMessageInfo := do
  check (objectHasExactKeys root [ascii "v", ascii "type", ascii "stream_id", ascii "reason"])
  let streamId ← require (getRequiredU32 root (ascii "stream_id") 1 maxU32)
  let reason ← require (getRequiredString root (ascii "reason"))
  check (isReasonString reason)
  return { outInfo with
    streamId := streamId
    kind := .eventStreamStopped
    hasReason := 1
    reason := copyStringField _ reason }

def validateOutputState : Except GmStatus GmControlMessageInfo := do
  check (objectHasExactKeys root [ascii "v", ascii "type", ascii "state", ascii "reason"])
  let state ← require (getRequiredString root (ascii "state"))
  check (isEndpointState state)
  let reason ← require (getRequiredString root (ascii "reason"))
  check (isReasonString reason)
  return { outInfo with
    kind := .eventOutputState
    hasReason := 1
    state := copyStringField _ state
    reason := copyStringField _ reason }

def validateSessionExpiring : Except GmStatus GmControlMessageInfo := do
  check (objectHasExactKeys root [ascii "v", ascii "type", ascii "reason",
    ascii "deadline_monotonic_ns"])
  let reason ← require (getRequiredString root (ascii "reason"))
  check (isReasonString reason)
  let deadlineMonotonicNs ← validateRequiredDecimalString root (ascii "deadline_monotonic_ns")
  return { outInfo with
    kind := .eventSessionExpiring
    hasReason := 1
    reason := copyStringField _ reason
    monotonicNs := copyStringField _ deadlineMonotonicNs }

def validateEvent (type : List UInt8) : Except GmStatus GmControlMessageInfo :=
  if type = ascii "event.stream.started" then validateStreamStarted root outInfo
  else if type = ascii "event.stream.stopped" then validateStreamStopped root outInfo
  else if type = ascii "event.output.state" then validateOutputState root outInfo
  else if type = ascii "event.session.expiring" then validateSessionExpiring root outInfo
  else .error .badMessage

end Messages

/-- `std::memset` of the caller's record, with the sizes and versions filled in. -/
def clearedInfo (callerSize : Nat) : GmControlMessageInfo where
  structSize := callerSize
  abiVersion := gmAbiVersion
  kind := .unknown
  id := 0
  mutating := 0
  udpPort := 0
  streamId := 0
  keyEpoch := 0
  playoutTargetMs := 0
  hasReason := 0
  versionsCount := 0
  versions := zero _
  profile := clearedProfile
  type := zero _
  role := zero _
  clientName := zero _
  serverId := zero _
  bootId := zero _
  sessionId := zero _
  token := zero _
  reason := zero _
  state := zero _
  pathState := zero _
  outputState := zero _
  sessionStreamState := zero _
  transportState := zero _
  firstMediaTimestamp := zero _
  monotonicNs := zero _

/-- `parse_message_impl` behind the parsed tree. -/
def parseRoot (root : JsonValue) (outInfo : GmControlMessageInfo) :
    Except GmStatus GmControlMessageInfo := do
  let version ← require (getRequiredU32 root (ascii "v") 1 255)
  let type ← require (getRequiredString root (ascii "type"))
  check (isTypeString type)
  if version ≠ gmProtocolMajor then throw .unsupportedVersion
  else
    let outInfo := { outInfo with type := copyStringField _ type }
    if (ascii "event.").isPrefixOf type then validateEvent root outInfo type
    else
      let id ← require (getRequiredU32 root (ascii "id") 1 maxU32)
      let outInfo := { outInfo with id := id }
      if type = ascii "result" then validateResult root outInfo
      else if type = ascii "error" then validateError root outInfo
      else validateRequest root outInfo type

def gmControlParseMessage (jsonText : GmBytes) (outInfo : GmControlMessageInfo) :
    Except GmStatus GmControlMessageInfo := do
  if outInfo.structSize < sizeofGmControlMessageInfo then throw .badArgument
  else
    let root ← parseJson jsonText
    enforceV1MessageSize jsonText root
    parseRoot root (clearedInfo outInfo.structSize)

end GhostMedia.Control
