import GhostMedia.Control.Message

/- The control session of gm_state.cpp. Every call takes the session and the caller's
   action record and returns a status with both; a call refused for the size or
   version of a record changes neither. Null records are left out. -/
namespace GhostMedia.Session
open CString Control

structure Outcome where
  status : GmStatus
  session : GmControlSession
  action : GmControlAction
  deriving DecidableEq

section CStrings

/-- The index of the first NUL among the first `capacity` bytes. -/
def boundedCString (value : List UInt8) (capacity : Nat) : Option Nat :=
  (value.take capacity).findIdx? (· = 0)

def isLowerUuidText (value : Buffer (gmControlUuidBytes + 1)) : Bool :=
  boundedCString value.bytes (gmControlUuidBytes + 1) = some gmControlUuidBytes &&
    uuidCharacters 0 (value.bytes.take gmControlUuidBytes)

def isLowerSessionIdText (value : Buffer (gmControlSessionIdHexBytes + 1)) : Bool :=
  boundedCString value.bytes (gmControlSessionIdHexBytes + 1) = some gmControlSessionIdHexBytes &&
    (value.bytes.take gmControlSessionIdHexBytes).all isLowerHexDigit

def copyCString (n : Nat) (source : List UInt8) : Buffer n :=
  fill n (source.take ((boundedCString source n).getD (n - 1)))

def copyLiteral (n : Nat) (source : List UInt8) : Buffer n := fill n (text source)

def sameCString (left right : List UInt8) : Bool := text left = text right

/-- `std::strncmp` with equal result over at most `n` bytes. -/
def sameCStringWithin (n : Nat) (left right : List UInt8) : Bool :=
  text (left.take n) = text (right.take n)

end CStrings

def sameProfile (left right : GmAudioProfile) : Bool :=
  left.codec = right.codec && left.sampleRateHz = right.sampleRateHz &&
    left.channels = right.channels && left.framesPerPacket = right.framesPerPacket &&
    left.channelLayout = right.channelLayout &&
    left.packetIntervalUs = right.packetIntervalUs && left.payloadBytes = right.payloadBytes

def fillAction (action : GmControlAction) (session : GmControlSession)
    (kind : GmControlActionKind) (responseId : UInt32) (status : GmStatus) (terminal : UInt8) :
    GmControlAction where
  structSize := action.structSize
  abiVersion := gmAbiVersion
  kind := kind
  responseId := responseId
  status := status
  sessionState := session.state
  udpPort := session.appleUdpPort
  streamId := session.streamId
  keyEpoch := session.keyEpoch
  playoutTargetMs := session.playoutTargetMs
  packetIntervalUs := session.profile.packetIntervalUs
  terminal := terminal
  profile := session.profile
  serverId := copyCString _ session.serverId.bytes
  bootId := copyCString _ session.bootId.bytes
  sessionId := copyCString _ session.sessionId.bytes
  firstMediaTimestamp := copyCString _ session.firstMediaTimestamp.bytes
  token := zero _
  state := zero _
  pathState := zero _
  outputState := zero _
  sessionStreamState := zero _
  transportState := zero _
  monotonicNs := zero _

def fillErrorAction (session : GmControlSession) (action : GmControlAction) (responseId : UInt32)
    (status : GmStatus) (closeSession : Bool) : GmControlSession × GmControlAction :=
  let session :=
    if status = .stateConflict then
      { session with stateConflicts := session.stateConflicts + 1 }
    else { session with protocolErrors := session.protocolErrors + 1 }
  let session := { session with rejectedRequests := session.rejectedRequests + 1 }
  let session := if closeSession then { session with state := .closed } else session
  let action := fillAction action session
    (if closeSession then .sendErrorClose else .sendErrorResult) responseId status
    (if closeSession then 1 else 0)
  ({ session with actionsEmitted := session.actionsEmitted + 1 }, action)

def validSessionForIngest (session : GmControlSession) (action : GmControlAction) : Bool :=
  session.structSize ≥ sizeofGmControlSession && action.structSize ≥ sizeofGmControlAction &&
    session.abiVersion = gmAbiVersion

/-- A request that closes the session with an error. -/
def rejectClose (session : GmControlSession) (action : GmControlAction) (responseId : UInt32)
    (status : GmStatus) : Outcome :=
  let (session, action) := fillErrorAction session action responseId status true
  ⟨status, session, action⟩

def rejectConflict (session : GmControlSession) (action : GmControlAction) (responseId : UInt32) :
    Outcome :=
  let (session, action) := fillErrorAction session action responseId .stateConflict false
  ⟨.stateConflict, session, action⟩

def commitAction (session : GmControlSession) (action : GmControlAction)
    (kind : GmControlActionKind) (message : GmControlMessageInfo) :
    GmControlSession × GmControlAction :=
  let session := { session with validRequests := session.validRequests + 1 }
  let action := fillAction action session kind message.id .ok
    (if session.state = .closed then 1 else 0)
  ({ session with actionsEmitted := session.actionsEmitted + 1 }, action)

def activeStreamMatches (session : GmControlSession) (streamId : UInt32) : Bool :=
  session.streamId ≠ 0 && session.streamId = streamId &&
    (session.state = .streamOpen || session.state = .streaming)

def streamIdOrDefault (configuredStreamId : UInt32) : UInt32 :=
  if configuredStreamId = 0 then 1 else configuredStreamId

def keyEpochOrDefault (configuredKeyEpoch : UInt32) : UInt32 :=
  if configuredKeyEpoch = 0 then 1 else configuredKeyEpoch

/-- The cleared session with what it takes from the configuration. -/
def initialSession (config : GmControlSessionConfig) (callerSize : Nat) : GmControlSession where
  structSize := callerSize
  abiVersion := gmAbiVersion
  role := config.role
  state := .tlsReady
  lastRequestId := 0
  windowsUdpPort := 0
  appleUdpPort := config.appleUdpPort
  streamId := 0
  nextStreamId := streamIdOrDefault config.streamId
  keyEpoch := 0
  initialKeyEpoch := keyEpochOrDefault config.keyEpoch
  lastRekeyEpoch := 0
  lastClosedStreamId := 0
  playoutTargetMs := 0
  lastUpdateNs := 0
  validRequests := 0
  rejectedRequests := 0
  actionsEmitted := 0
  stateConflicts := 0
  protocolErrors := 0
  streamsStarted := 0
  streamsStopped := 0
  streamsClosed := 0
  rekeysCommitted := 0
  pathValidated := 0
  outputAvailable := config.outputAvailable
  profile := clearedProfile
  serverId := copyCString _ config.serverId.bytes
  bootId := copyCString _ config.bootId.bytes
  sessionId := copyCString _ config.sessionId.bytes
  firstMediaTimestamp := zero _

def gmControlSessionInit (config : GmControlSessionConfig) (session : GmControlSession) :
    GmStatus × GmControlSession :=
  if config.structSize < sizeofGmControlSessionConfig ||
      session.structSize < sizeofGmControlSession || config.abiVersion ≠ gmAbiVersion then
    (.badArgument, session)
  else if config.role ≠ gmControlSessionRoleAppleOutputServer || config.appleUdpPort = 0 ||
      config.appleUdpPort > 65535 || config.maxAudioSubscribers = 0 ||
      config.playoutTargetMsMin > config.playoutTargetMsMax || config.playoutTargetMsMin < 15 ||
      config.playoutTargetMsMax > 120 || config.outputAvailable > 1 ||
      !isLowerUuidText config.serverId || !isLowerUuidText config.bootId ||
      !isLowerSessionIdText config.sessionId then
    (.badArgument, session)
  else
    (.ok, initialSession config session.structSize)

section Requests
variable (session : GmControlSession) (message : GmControlMessageInfo) (action : GmControlAction)

def ingestSessionHello : Outcome :=
  if session.state ≠ .tlsReady then rejectConflict session action message.id
  else
    let session := { session with windowsUdpPort := message.udpPort, state := .hello }
    let (session, action) := commitAction session action .sendSessionHelloResult message
    ⟨.ok, session, { action with state := copyLiteral _ (ascii "hello") }⟩

def ingestTransportBind : Outcome :=
  if session.state.code < GmControlSessionState.hello.code ||
      !sameCStringWithin (gmControlSessionIdHexBytes + 1) message.sessionId.bytes
        session.sessionId.bytes ||
      message.udpPort ≠ session.windowsUdpPort then
    rejectConflict session action message.id
  else
    let session := if session.state = .hello then { session with state := .bound } else session
    let (session, action) := commitAction session action .sendTransportBindResult message
    ⟨.ok, session, { action with pathState := copyLiteral _ (ascii "bound") }⟩

def ingestStreamOpen : Outcome :=
  if session.state = .bound then
    let session :=
      { session with
        streamId := session.nextStreamId
        keyEpoch := session.initialKeyEpoch
        profile := message.profile
        playoutTargetMs := message.playoutTargetMs
        pathValidated := 0
        state := .streamOpen }
    let (session, action) := commitAction session action .sendStreamOpenResult message
    ⟨.ok, session, { action with pathState := copyLiteral _ (ascii "probing") }⟩
  else if (session.state = .streamOpen || session.state = .streaming) &&
      sameProfile session.profile message.profile &&
      session.playoutTargetMs = message.playoutTargetMs then
    let (session, action) := commitAction session action .sendStreamOpenResult message
    ⟨.ok, session, { action with pathState := copyLiteral _ (ascii "probing") }⟩
  else rejectConflict session action message.id

def ingestStreamStart : Outcome :=
  if !activeStreamMatches session message.streamId || session.pathValidated = 0 then
    rejectConflict session action message.id
  else if session.state = .streaming &&
      !sameCString session.firstMediaTimestamp.bytes message.firstMediaTimestamp.bytes then
    rejectConflict session action message.id
  else
    let session :=
      { session with firstMediaTimestamp := copyCString _ message.firstMediaTimestamp.bytes }
    let session :=
      if session.state ≠ .streaming then
        { session with streamsStarted := session.streamsStarted + 1 }
      else session
    let session := { session with state := .streaming }
    let (session, action) := commitAction session action .sendStreamStartResult message
    ⟨.ok, session,
      { action with
        state := copyLiteral _ (ascii "started")
        firstMediaTimestamp := copyCString _ message.firstMediaTimestamp.bytes }⟩

def ingestStreamStop : Outcome :=
  if !activeStreamMatches session message.streamId then rejectConflict session action message.id
  else
    let session :=
      if session.state = .streaming then
        { session with streamsStopped := session.streamsStopped + 1 }
      else session
    let session := { session with state := .streamOpen }
    let (session, action) := commitAction session action .sendStreamStopResult message
    ⟨.ok, session, { action with state := copyLiteral _ (ascii "stopped") }⟩

/-- The stream fields zeroed by `stream.close` and `session.close`. -/
def clearStream : GmControlSession :=
  { session with
    streamId := 0
    keyEpoch := 0
    lastRekeyEpoch := 0
    playoutTargetMs := 0
    pathValidated := 0
    profile := clearedProfile
    firstMediaTimestamp := zero _ }

def ingestStreamClose : Outcome :=
  if activeStreamMatches session message.streamId then
    let session := { session with lastClosedStreamId := message.streamId }
    let session :=
      if session.nextStreamId ≤ message.streamId && message.streamId ≠ maxU32 then
        { session with nextStreamId := message.streamId + 1 }
      else session
    let session := clearStream session
    let session :=
      { session with state := .bound, streamsClosed := session.streamsClosed + 1 }
    let (session, action) := commitAction session action .sendStreamCloseResult message
    ⟨.ok, session,
      { action with streamId := message.streamId, state := copyLiteral _ (ascii "closed") }⟩
  else if session.state = .bound && message.streamId = session.lastClosedStreamId then
    let (session, action) := commitAction session action .sendStreamCloseResult message
    ⟨.ok, session,
      { action with streamId := message.streamId, state := copyLiteral _ (ascii "closed") }⟩
  else rejectConflict session action message.id

def ingestStreamRekey : Outcome :=
  if !activeStreamMatches session message.streamId then rejectConflict session action message.id
  else if message.keyEpoch = session.keyEpoch + 1 then
    let session :=
      { session with
        keyEpoch := message.keyEpoch
        lastRekeyEpoch := message.keyEpoch
        pathValidated := 0
        rekeysCommitted := session.rekeysCommitted + 1 }
    let (session, action) := commitAction session action .sendStreamRekeyResult message
    ⟨.ok, session, { action with state := copyLiteral _ (ascii "rekeying") }⟩
  else if message.keyEpoch = session.keyEpoch && message.keyEpoch = session.lastRekeyEpoch then
    let (session, action) := commitAction session action .sendStreamRekeyResult message
    ⟨.ok, session, { action with state := copyLiteral _ (ascii "rekeying") }⟩
  else rejectConflict session action message.id

def ingestStatusGet : Outcome :=
  if session.state.code < GmControlSessionState.hello.code then
    rejectConflict session action message.id
  else
    let (session, action) := commitAction session action .sendStatusResult message
    ⟨.ok, session,
      { action with
        outputState := copyLiteral _
          (if session.outputAvailable ≠ 0 then ascii "available" else ascii "unavailable")
        transportState := copyLiteral _
          (if session.state.code ≥ GmControlSessionState.bound.code then ascii "bound"
            else ascii "unbound")
        sessionStreamState := copyLiteral _
          (if session.state = .streaming then ascii "started"
            else if session.state = .streamOpen then ascii "open" else ascii "none") }⟩

/-- The backward digit loop: `writeIndex` bytes of the buffer are still free and the
    digits behind them are written. -/
def digitsLoop : Nat → UInt64 → List UInt8 → List UInt8
  | 0, _, written => written
  | writeIndex + 1, remaining, written =>
    let written := (48 + (remaining % 10).toUInt8) :: written
    let remaining := remaining / 10
    if remaining ≠ 0 && writeIndex > 0 then digitsLoop writeIndex remaining written else written

def ingestPing (nowNs : UInt64) : Outcome :=
  if session.state.code < GmControlSessionState.hello.code then
    rejectConflict session action message.id
  else
    let (session, action) := commitAction session action .sendPingResult message
    ⟨.ok, session,
      { action with
        token := copyCString _ message.token.bytes
        monotonicNs := copyLiteral _
          (if nowNs = 0 then ascii "0" else digitsLoop gmControlDecimalU64MaxBytes nowNs []) }⟩

def ingestSessionClose : Outcome :=
  let session :=
    if activeStreamMatches session session.streamId then
      let session := { session with lastClosedStreamId := session.streamId }
      let session := clearStream session
      { session with streamsClosed := session.streamsClosed + 1 }
    else session
  let session := { session with state := .closed }
  let (session, action) := commitAction session action .sendSessionCloseResult message
  ⟨.ok, session, { action with state := copyLiteral _ (ascii "closed") }⟩

end Requests

/-- The switch over the message kind. -/
def handleRequest (session : GmControlSession) (message : GmControlMessageInfo) (nowNs : UInt64)
    (action : GmControlAction) : Outcome :=
  match message.kind with
  | .requestSessionHello => ingestSessionHello session message action
  | .requestTransportBind => ingestTransportBind session message action
  | .requestStreamOpen => ingestStreamOpen session message action
  | .requestStreamStart => ingestStreamStart session message action
  | .requestStreamStop => ingestStreamStop session message action
  | .requestStreamClose => ingestStreamClose session message action
  | .requestStreamRekey => ingestStreamRekey session message action
  | .requestStatusGet => ingestStatusGet session message action
  | .requestPing => ingestPing session message action nowNs
  | .requestSessionClose => ingestSessionClose session message action
  | _ => rejectClose session action message.id .badMessage

/-- The tests of `ensure_request`. -/
def ensureRequest (session : GmControlSession) (message : GmControlMessageInfo) : Bool :=
  !(message.kind.code < GmControlMessageKind.requestSessionHello.code ||
      message.kind.code > GmControlMessageKind.requestSessionClose.code) &&
    !(message.id ≤ session.lastRequestId)

def gmControlSessionIngest (session : GmControlSession) (jsonText : GmBytes) (nowNs : UInt64)
    (outAction : GmControlAction) : Outcome :=
  if !validSessionForIngest session outAction then ⟨.badArgument, session, outAction⟩
  else
    let action := fillAction outAction session .none 0 .ok 0
    if session.state = .closed then rejectConflict session action 0
    else
      -- the parser reads only the size of the record it is given
      match gmControlParseMessage jsonText (clearedInfo sizeofGmControlMessageInfo) with
      | .error status => rejectClose session action 0 status
      | .ok message =>
        if !ensureRequest session message then rejectClose session action message.id .badMessage
        else
          let session := { session with lastRequestId := message.id, lastUpdateNs := nowNs }
          if message.kind ≠ .requestSessionHello && session.state = .tlsReady then
            rejectConflict session action message.id
          else handleRequest session message nowNs action

def gmControlSessionMarkPathValidated (session : GmControlSession) (streamId keyEpoch : UInt32)
    (outAction : GmControlAction) : Outcome :=
  if !validSessionForIngest session outAction then ⟨.badArgument, session, outAction⟩
  else
    let action := fillAction outAction session .none 0 .ok 0
    if !activeStreamMatches session streamId || session.keyEpoch ≠ keyEpoch then
      rejectConflict session action 0
    else
      let session := { session with pathValidated := 1 }
      let action := fillAction action session .pathValidated 0 .ok 0
      let action := { action with pathState := copyLiteral _ (ascii "validated") }
      ⟨.ok, { session with actionsEmitted := session.actionsEmitted + 1 }, action⟩

end GhostMedia.Session
