import GhostMedia.Control.Extraction
import GhostMedia.Interop.AudioLoop

/- ProtocolCore.swift's `parseControlMessage`: the core's record as a Swift value, where a zero
   number and an empty text become nothing. A text is its bytes. -/
namespace GhostMedia.Interop
open CString Control Json Bridge

inductive ControlMessageKind where
  | requestSessionHello
  | requestTransportBind
  | requestStreamOpen
  | requestStreamStart
  | requestStreamStop
  | requestStreamClose
  | requestStreamRekey
  | requestStatusGet
  | requestPing
  | requestSessionClose
  | responseResult
  | responseError
  | eventStreamStarted
  | eventStreamStopped
  | eventOutputState
  | eventSessionExpiring
  | unknown (rawKind : UInt32)
  deriving DecidableEq

inductive AudioCodec where
  | pcmS16LE
  | opus
  | unknown (rawValue : UInt32)
  deriving DecidableEq

inductive ChannelLayout where
  | stereo
  | unknown (rawValue : UInt32)
  deriving DecidableEq

structure AudioProfile where
  codec : AudioCodec
  sampleRateHz : UInt32
  channels : UInt16
  framesPerPacket : UInt16
  channelLayout : ChannelLayout
  packetIntervalMicroseconds : UInt32
  payloadBytes : UInt32
  deriving DecidableEq

structure ControlMessage where
  kind : ControlMessageKind
  id : Option UInt32
  isMutating : Bool
  udpPort : Option UInt32
  streamId : Option UInt32
  keyEpoch : Option UInt32
  playoutTargetMilliseconds : Option UInt32
  versions : List UInt8
  profile : Option AudioProfile
  type : List UInt8
  role : Option (List UInt8)
  clientName : Option (List UInt8)
  serverId : Option (List UInt8)
  bootId : Option (List UInt8)
  sessionId : Option (List UInt8)
  token : Option (List UInt8)
  reason : Option (List UInt8)
  state : Option (List UInt8)
  pathState : Option (List UInt8)
  outputState : Option (List UInt8)
  sessionStreamState : Option (List UInt8)
  transportState : Option (List UInt8)
  firstMediaTimestamp : Option (List UInt8)
  monotonicNanoseconds : Option (List UInt8)
  deriving DecidableEq

/-- `gm_control_message_info.kind` -/
def rawKind (kind : GmControlMessageKind) : UInt32 := UInt32.ofNat kind.code

def controlMessageKind (raw : UInt32) : ControlMessageKind :=
  if raw = rawKind .requestSessionHello then .requestSessionHello
  else if raw = rawKind .requestTransportBind then .requestTransportBind
  else if raw = rawKind .requestStreamOpen then .requestStreamOpen
  else if raw = rawKind .requestStreamStart then .requestStreamStart
  else if raw = rawKind .requestStreamStop then .requestStreamStop
  else if raw = rawKind .requestStreamClose then .requestStreamClose
  else if raw = rawKind .requestStreamRekey then .requestStreamRekey
  else if raw = rawKind .requestStatusGet then .requestStatusGet
  else if raw = rawKind .requestPing then .requestPing
  else if raw = rawKind .requestSessionClose then .requestSessionClose
  else if raw = rawKind .responseResult then .responseResult
  else if raw = rawKind .responseError then .responseError
  else if raw = rawKind .eventStreamStarted then .eventStreamStarted
  else if raw = rawKind .eventStreamStopped then .eventStreamStopped
  else if raw = rawKind .eventOutputState then .eventOutputState
  else if raw = rawKind .eventSessionExpiring then .eventSessionExpiring
  else .unknown raw

def audioProfile (rawProfile : GmAudioProfile) : AudioProfile where
  codec :=
    if rawProfile.codec = gmAudioCodecPcmS16le then .pcmS16LE
    else if rawProfile.codec = gmAudioCodecOpus then .opus
    else .unknown rawProfile.codec
  sampleRateHz := rawProfile.sampleRateHz
  channels := rawProfile.channels
  framesPerPacket := rawProfile.framesPerPacket
  channelLayout :=
    if rawProfile.channelLayout = gmChannelLayoutStereo then .stereo
    else .unknown rawProfile.channelLayout
  packetIntervalMicroseconds := rawProfile.packetIntervalUs
  payloadBytes := rawProfile.payloadBytes

def optionalNonzero (value : UInt32) : Option UInt32 := if value = 0 then none else some value

/-- The conversion of the filled-in record. -/
def controlMessage (rawMessage : GmControlMessageInfo) : ControlMessage where
  kind := controlMessageKind (rawKind rawMessage.kind)
  id := optionalNonzero rawMessage.id
  isMutating := rawMessage.mutating ≠ 0
  udpPort := optionalNonzero rawMessage.udpPort
  streamId := optionalNonzero rawMessage.streamId
  keyEpoch := optionalNonzero rawMessage.keyEpoch
  playoutTargetMilliseconds := optionalNonzero rawMessage.playoutTargetMs
  versions := rawMessage.versions.bytes.take rawMessage.versionsCount.toNat
  profile := if rawMessage.profile.codec = 0 then none else some (audioProfile rawMessage.profile)
  type := rawMessage.type.text
  role := optionalString rawMessage.role
  clientName := optionalString rawMessage.clientName
  serverId := optionalString rawMessage.serverId
  bootId := optionalString rawMessage.bootId
  sessionId := optionalString rawMessage.sessionId
  token := optionalString rawMessage.token
  reason := if rawMessage.hasReason = 0 then none else optionalString rawMessage.reason
  state := optionalString rawMessage.state
  pathState := optionalString rawMessage.pathState
  outputState := optionalString rawMessage.outputState
  sessionStreamState := optionalString rawMessage.sessionStreamState
  transportState := optionalString rawMessage.transportState
  firstMediaTimestamp := optionalString rawMessage.firstMediaTimestamp
  monotonicNanoseconds := optionalString rawMessage.monotonicNs

/-- `gm_control_message_info()` with its size filled in -/
def newMessageInfo : GmControlMessageInfo :=
  { clearedInfo sizeofGmControlMessageInfo with
    abiVersion := 0
    profile := ⟨0, 0, 0, 0, 0, 0, 0, 0, 0⟩ }

def parseControlMessage (json : List UInt8) : Except ProtocolCoreError ControlMessage :=
  match gmControlParseMessage (.view json) newMessageInfo with
  | .ok rawMessage => .ok (controlMessage rawMessage)
  | .error status => .error (.callFailed "gm_control_parse_message" (gmStatusString status))

section Views

def ControlMessage.string (message : ControlMessage) : StringField → Option (List UInt8)
  | .type => some message.type
  | .role => message.role
  | .clientName => message.clientName
  | .serverId => message.serverId
  | .bootId => message.bootId
  | .sessionId => message.sessionId
  | .token => message.token
  | .reason => message.reason
  | .state => message.state
  | .pathState => message.pathState
  | .outputState => message.outputState
  | .sessionStreamState => message.sessionStreamState
  | .transportState => message.transportState
  | .firstMediaTimestamp => message.firstMediaTimestamp
  | .monotonicNs => message.monotonicNanoseconds

def ControlMessage.number (message : ControlMessage) : NumberField → Option UInt32
  | .id => message.id
  | .udpPort => message.udpPort
  | .streamId => message.streamId
  | .keyEpoch => message.keyEpoch
  | .playoutTargetMs => message.playoutTargetMilliseconds

/-- The type text that a kind stands for. -/
def ControlMessageKind.type : ControlMessageKind → Option (List UInt8)
  | .requestSessionHello => some (ascii "session.hello")
  | .requestTransportBind => some (ascii "transport.bind")
  | .requestStreamOpen => some (ascii "stream.open")
  | .requestStreamStart => some (ascii "stream.start")
  | .requestStreamStop => some (ascii "stream.stop")
  | .requestStreamClose => some (ascii "stream.close")
  | .requestStreamRekey => some (ascii "stream.rekey")
  | .requestStatusGet => some (ascii "status.get")
  | .requestPing => some (ascii "ping")
  | .requestSessionClose => some (ascii "session.close")
  | .responseResult => some (ascii "result")
  | .responseError => some (ascii "error")
  | .eventStreamStarted => some (ascii "event.stream.started")
  | .eventStreamStopped => some (ascii "event.stream.stopped")
  | .eventOutputState => some (ascii "event.output.state")
  | .eventSessionExpiring => some (ascii "event.session.expiring")
  | .unknown _ => none

/-- A Swift message shows what a JSON tree holds, and nothing where the tree holds nothing.
    The two free texts are cut at a NUL, and what is empty then is not shown. -/
structure Shows (root : JsonValue) (message : ControlMessage) : Prop where
  kind : message.kind.type = some message.type
  strings : ∀ field, field ∉ [StringField.clientName, .token] →
    message.string field = decodedString root field
  freeStrings : ∀ field ∈ [StringField.clientName, .token],
    message.string field = ((decodedString root field).map text).filter (¬ ·.isEmpty)
  numbers : ∀ field, (message.number field).map UInt32.toUInt64 = decodedNumber root field
  versions : versionNumbers message.versions =
    (getRequiredArray (fieldsObject root) (ascii "versions")).getD []
  profile : match findMember (fieldsObject root) (ascii "profile") with
    | some object => ∃ codec, ProfileObject codec object ∧
        message.profile = some (audioProfile codec.profile)
    | none => message.profile = none

theorem optional_string_eq {n : Nat} (value : Buffer n) :
    optionalString value = (some value.text).filter (¬ ·.isEmpty) := by
  unfold optionalString
  cases empty : value.text.isEmpty <;> simp [Option.filter, empty]

theorem endpoint_nonempty {value : List UInt8} (shape : EndpointState value) : value ≠ [] := by
  intro empty
  rw [empty, EndpointState] at shape
  exact absurd shape (by decide)

/-- Every text but the client name is written with at least one byte. -/
theorem result_nonempty {inner : Members} (body : Result) (described : body.Describes inner) :
    ∀ entry ∈ body.strings, entry.2 ≠ [] := by
  have uuid {value : List UInt8} (shape : UuidText value) : value ≠ [] :=
    List.ne_nil_of_length_pos (by rw [shape.1]; decide)
  have session {value : List UInt8} (shape : SessionIdText value) : value ≠ [] :=
    List.ne_nil_of_length_pos (by rw [shape.1]; decide)
  cases body with
  | hello =>
    obtain ⟨_, _, _, _, _, server, id, boot, _⟩ := described
    simpa [Result.strings] using ⟨by decide, uuid server, session id, uuid boot⟩
  | bind | «open» => simpa [Result.strings] using (by decide)
  | rekey =>
    obtain ⟨_, _, _, state⟩ := described
    simpa [Result.strings] using state.1
  | stream =>
    obtain ⟨_, _, state⟩ := described
    simpa [Result.strings] using state.1
  | sessionState => simpa [Result.strings] using described.2.1
  | status =>
    obtain ⟨_, _, output, stream, transport, _⟩ := described
    simpa [Result.strings] using ⟨endpoint_nonempty output, stream.1, transport.1⟩
  | ping =>
    obtain ⟨_, token, decimal⟩ := described
    simpa [Result.strings] using ⟨token.1, decimal.1.nonempty⟩

theorem message_nonempty {members : Members} (message : Message)
    (described : message.Describes members) :
    ∀ entry ∈ message.strings, entry.1 ≠ .clientName → entry.2 ≠ [] := by
  have type : message.typeText ≠ [] := by cases message <;> simp only [Message.typeText] <;> decide
  unfold Message.strings
  rw [List.forall_mem_cons]
  refine ⟨fun _ => type, ?_⟩
  cases message with
  | sessionHello => simpa using (by decide)
  | transportBind =>
    obtain ⟨_, _, session, _⟩ := described
    simpa using List.ne_nil_of_length_pos (by rw [session.1]; decide)
  | streamStart =>
    obtain ⟨_, _, _, decimal⟩ := described
    simpa using decimal.1.nonempty
  | ping =>
    obtain ⟨_, _, token⟩ := described
    simpa using token.1
  | sessionClose id reason =>
    cases reason with
    | none => simp
    | some reason =>
      obtain ⟨_, _, shape⟩ := described
      simpa using shape.1
  | result id body =>
    obtain ⟨inner, described, _⟩ := described
    exact fun entry member _ => result_nonempty body described entry member
  | streamStarted =>
    obtain ⟨_, _, decimal⟩ := described
    simpa using decimal.1.nonempty
  | streamStopped =>
    obtain ⟨_, _, shape⟩ := described
    simpa using shape.1
  | outputState =>
    obtain ⟨_, state, reason⟩ := described
    simpa using ⟨endpoint_nonempty state, reason.1⟩
  | sessionExpiring =>
    obtain ⟨_, reason, decimal⟩ := described
    simpa using ⟨reason.1, decimal.1.nonempty⟩
  | streamOpen | streamStop | streamClose | streamRekey | statusGet | error => simp

theorem at_least_one {value : UInt32} (low : 1 ≤ value) : value ≠ 0 := by
  rintro rfl
  exact absurd low (by decide)

theorem result_positive {inner : Members} (body : Result) (described : body.Describes inner) :
    ∀ entry ∈ body.numbers, entry.2 ≠ 0 := by
  cases body with
  | hello =>
    obtain ⟨_, _, _, _, _, _, _, _, port, _⟩ := described
    simpa [Result.numbers] using at_least_one port
  | bind => simpa [Result.numbers] using at_least_one described.2.1
  | «open» =>
    obtain ⟨_, _, _, stream, epoch⟩ := described
    simpa [Result.numbers] using ⟨at_least_one stream, at_least_one epoch⟩
  | rekey =>
    obtain ⟨_, stream, epoch, _⟩ := described
    simpa [Result.numbers] using ⟨at_least_one stream, at_least_one epoch⟩
  | stream => simpa [Result.numbers] using at_least_one described.2.1
  | sessionState | status | ping => simp [Result.numbers]

theorem message_positive {members : Members} (message : Message)
    (described : message.Describes members) : ∀ entry ∈ message.numbers, entry.2 ≠ 0 := by
  cases message with
  | sessionHello =>
    obtain ⟨_, id, _, _, port, _⟩ := described
    simpa [Message.numbers] using ⟨at_least_one id, at_least_one port⟩
  | transportBind =>
    obtain ⟨_, id, _, port, _⟩ := described
    simpa [Message.numbers] using ⟨at_least_one id, at_least_one port⟩
  | streamOpen =>
    obtain ⟨_, _, _, id, low, _⟩ := described
    have positive : (1 : UInt32) ≤ 15 := by decide
    simpa [Message.numbers] using
      ⟨at_least_one id, at_least_one (UInt32.le_trans positive low)⟩
  | streamStart =>
    obtain ⟨_, id, stream, _⟩ := described
    simpa [Message.numbers] using ⟨at_least_one id, at_least_one stream⟩
  | streamRekey =>
    obtain ⟨_, id, stream, epoch⟩ := described
    simpa [Message.numbers] using ⟨at_least_one id, at_least_one stream, at_least_one epoch⟩
  | streamStop | streamClose =>
    obtain ⟨_, id, stream⟩ := described
    simpa [Message.numbers] using ⟨at_least_one id, at_least_one stream⟩
  | statusGet => simpa [Message.numbers] using at_least_one described.2
  | ping => simpa [Message.numbers] using at_least_one described.2.1
  | sessionClose id reason =>
    cases reason with
    | none => simpa [Message.numbers] using at_least_one described.2
    | some _ => simpa [Message.numbers] using at_least_one described.2.1
  | error =>
    obtain ⟨_, _, _, _, _, _, id, _⟩ := described
    simpa [Message.numbers] using at_least_one id
  | result id body =>
    obtain ⟨inner, described, _, id⟩ := described
    rw [Message.numbers, List.forall_mem_cons]
    exact ⟨at_least_one id, result_positive body described⟩
  | streamStarted => simpa [Message.numbers] using at_least_one described.2.1
  | streamStopped => simpa [Message.numbers] using at_least_one described.2.1
  | outputState | sessionExpiring => simp [Message.numbers]

theorem kind_shown (message : Message) :
    (controlMessageKind (rawKind message.kind)).type = some message.typeText := by
  cases message <;> rfl

theorem view_number (info : GmControlMessageInfo) (field : NumberField) :
    (controlMessage info).number field = optionalNonzero (storedNumber info field) := by
  cases field <;> rfl

/-- The reason of a record without one is empty, so the extra test on it shows nothing new. -/
theorem view_reason (size : Nat) (message : Message) :
    (controlMessage (message.info size)).reason = optionalString (message.info size).reason := by
  change (if (message.info size).hasReason = 0 then none else _) = _
  rw [stored_has_reason]
  cases found : message.strings.lookup .reason with
  | some reason => rfl
  | none =>
    have empty : (message.info size).reason.text = [] := by
      have stored := stored_strings size message .reason
      rw [found] at stored
      exact stored.trans (zero_text _)
    rw [optionalString, empty]
    rfl

theorem view_string (size : Nat) (message : Message) {field : StringField} (other : field ≠ .type) :
    (controlMessage (message.info size)).string field =
      (some (storedString (message.info size) field)).filter (¬ ·.isEmpty) := by
  cases field with
  | type => exact absurd rfl other
  | reason => exact (view_reason size message).trans (optional_string_eq _)
  | _ => exact optional_string_eq _

theorem described_shows {members : Members} {root : JsonValue} (message : Message)
    (described : message.Describes members) (carries : Carries root message) (size : Nat) :
    Shows root (controlMessage (message.info size)) := by
  have read {field : StringField} {value : List UInt8}
      (found : message.strings.lookup field = some value) :
      storedString (message.info size) field = text value := by
    have fits : value.length ≤ field.capacity :=
      (message_stores message described _ (lookup_mem found)).fits
    rw [stored_strings, found]
    exact fill_text (by omega)
  have missing {field : StringField} (none : message.strings.lookup field = none) :
      storedString (message.info size) field = [] := by
    rw [stored_strings, none]
    exact zero_text _
  have type : message.strings.lookup .type = some message.typeText := rfl
  have clean {field : StringField} {value : List UInt8}
      (found : message.strings.lookup field = some value)
      (fixed : field ∉ [StringField.clientName, .token]) : text value = value :=
    text_of_no_nul ((message_stores message described _ (lookup_mem found)).clean.resolve_left
      fixed)
  have typeText : (controlMessage (message.info size)).type = message.typeText :=
    (read type).trans (clean type (by decide))
  constructor
  · rw [typeText, ← kind_shown message, ← info_kind size message]
    rfl
  · intro field fixed
    rw [carries.strings field]
    by_cases isType : field = .type
    · subst isType
      exact congrArg some typeText
    rw [view_string size message isType]
    cases found : message.strings.lookup field with
    | none => rw [missing found]; rfl
    | some value =>
      have nonempty : value ≠ [] := message_nonempty message described _ (lookup_mem found)
        fun name => fixed (by simp_all)
      rw [read found, clean found fixed]
      simp [Option.filter, nonempty]
  · intro field free
    have isText : field ≠ .type := by
      rintro rfl
      exact absurd free (by decide)
    rw [carries.strings field, view_string size message isText]
    cases found : message.strings.lookup field with
    | none => rw [missing found]; rfl
    | some value => rw [read found]; rfl
  · intro field
    rw [carries.numbers field, view_number, stored_numbers]
    cases found : message.numbers.lookup field with
    | none => rfl
    | some value =>
      have positive : value ≠ 0 := message_positive message described _ (lookup_mem found)
      simp [optionalNonzero, positive]
  · rw [carries.versions]
    exact congrArg versionNumbers (stored_versions size message described).1
  · have profile := carries.profile
    have stored : (controlMessage (message.info size)).profile =
        if (message.info size).profile.codec = 0 then none
        else some (audioProfile (message.info size).profile) := rfl
    rw [stored, stored_profile]
    split at profile
    · rename_i object codec hasObject hasCodec
      rw [hasObject, hasCodec]
      refine ⟨codec, profile, ?_⟩
      cases codec <;> rfl
    · rename_i noObject noCodec
      rw [noObject, noCodec]
      rfl
    · exact profile.elim

/-- What the bridge hands to Swift for an accepted text is the text's own tree: every member it
    knows with its value, and nothing that the text does not have. -/
theorem swift_message_exact {json : List UInt8} {message : ControlMessage}
    (accepted : parseControlMessage json = .ok message) :
    ∃ root, parseJson (.view json) = .ok root ∧ Shows root message := by
  unfold parseControlMessage at accepted
  cases parsed : gmControlParseMessage (.view json) newMessageInfo with
  | error status =>
    rw [parsed] at accepted
    cases accepted
  | ok rawMessage =>
    rw [parsed] at accepted
    obtain rfl := Except.ok.inj accepted
    obtain ⟨_, members, abstract, acceptable, described, rfl⟩ :=
      (parse_message_iff json newMessageInfo rawMessage).mp parsed
    have names := document_distinct_names acceptable.document
    exact ⟨_, parse_json_complete acceptable.long acceptable.short acceptable.utf8
      acceptable.document, described_shows abstract described
        (described_carries names abstract described) _⟩

theorem swift_message_exact_ping : ∃ message root,
    parseControlMessage (pingText "a\\u0000b") = .ok message ∧ message.token = some [97] ∧
      parseJson (.view (pingText "a\\u0000b")) = .ok root ∧ Shows root message := by
  have read : (parseControlMessage (pingText "a\\u0000b")).toOption.map ControlMessage.token =
      some (some [97]) := by decide +kernel
  obtain ⟨message, accepted, token⟩ := Option.map_eq_some_iff.mp read
  have done : parseControlMessage (pingText "a\\u0000b") = .ok message := by
    cases parsed : parseControlMessage (pingText "a\\u0000b") with
    | error refusal =>
      rw [parsed] at accepted
      cases accepted
    | ok other =>
      rw [parsed] at accepted
      exact congrArg Except.ok (Option.some.inj accepted)
  obtain ⟨root, tree, shows⟩ := swift_message_exact done
  exact ⟨message, root, done, token, tree, shows⟩

end Views

end GhostMedia.Interop
