import GhostMedia.Control.JsonText

/- The field accessors and validators of gm_control.cpp up to the message schemas.
   An accessor that writes through a pointer returns an option, a validator with a
   status returns `Except`. -/
namespace GhostMedia.Control
open Json CString

def objectHasExactKeys (object : JsonValue) (keys : List (List UInt8)) : Bool :=
  match object with
  | .object members =>
    members.length = keys.length && members.all fun member => keys.any fun key => member.1 = key
  | _ => false

def getRequiredString (object : JsonValue) (name : List UInt8) : Option (List UInt8) :=
  match findMember object name with
  | some (.string value) => some value
  | _ => none

/-- `none` when the member is there with another kind, `some none` when it is absent. -/
def getOptionalString (object : JsonValue) (name : List UInt8) : Option (Option (List UInt8)) :=
  match findMember object name with
  | none => some none
  | some (.string value) => some (some value)
  | some _ => none

def getRequiredObject (object : JsonValue) (name : List UInt8) : Option JsonValue :=
  match findMember object name with
  | some (.object members) => some (.object members)
  | _ => none

/-- The elements of a required array member. -/
def getRequiredArray (object : JsonValue) (name : List UInt8) : Option (List JsonValue) :=
  match findMember object name with
  | some (.array elements) => some elements
  | _ => none

def getRequiredBool (object : JsonValue) (name : List UInt8) : Option Bool :=
  match findMember object name with
  | some (.boolean value) => some value
  | _ => none

def getRequiredU32 (object : JsonValue) (name : List UInt8) (min max : UInt32) : Option UInt32 :=
  match findMember object name with
  | some (.number value) =>
    if value < min.toUInt64 || value > max.toUInt64 then none else some value.toUInt32
  | _ => none

def isAscii (value : List UInt8) : Bool := value.all (· ≤ 0x7f)

def isTypeString (value : List UInt8) : Bool :=
  !value.isEmpty && value.length ≤ gmControlTypeMaxBytes && value.all fun character =>
    (97 ≤ character && character ≤ 122) || (48 ≤ character && character ≤ 57) || character = 46

def isLowerHexDigit (character : UInt8) : Bool :=
  (48 ≤ character && character ≤ 57) || (97 ≤ character && character ≤ 102)

def isLowerHexSessionId (value : List UInt8) : Bool :=
  value.length = gmControlSessionIdHexBytes && value.all isLowerHexDigit

/-- The loop over the characters of a UUID from position `index` on. -/
def uuidCharacters : Nat → List UInt8 → Bool
  | _, [] => true
  | index, character :: rest =>
    (if index = 8 || index = 13 || index = 18 || index = 23 then character = 45
      else isLowerHexDigit character) && uuidCharacters (index + 1) rest

def isLowerUuid (value : List UInt8) : Bool :=
  value.length = gmControlUuidBytes && uuidCharacters 0 value

def isReasonString (value : List UInt8) : Bool :=
  !value.isEmpty && value.length ≤ gmControlReasonMaxBytes && isAscii value &&
    value.all fun character => !(character < 0x20 || character = 0x7f)

def decimalLoop : UInt64 → List UInt8 → Option UInt64
  | parsed, [] => some parsed
  | parsed, character :: rest =>
    if character < 48 || character > 57 then none
    else
      let digit := (character - 48).toUInt64
      if parsed > (0xffffffffffffffff - digit) / 10 then none
      else decimalLoop (parsed * 10 + digit) rest

def parseDecimalU64String (value : List UInt8) : Option UInt64 :=
  if value.isEmpty || value.length > 20 then none
  else if value.length > 1 && value.head? = some 48 then none
  else decimalLoop 0 value

/-- `copy_string_field` into a field of `n` bytes. -/
def copyStringField (n : Nat) (value : List UInt8) : Buffer n := fill n value

/-- A failed test of a validator: `GM_BAD_MESSAGE`. -/
def check (condition : Bool) : Except GmStatus Unit :=
  if condition then .ok () else .error .badMessage

/-- An accessor's value, or `GM_BAD_MESSAGE`. -/
def require {α : Type} : Option α → Except GmStatus α
  | some value => .ok value
  | none => .error .badMessage

def gmAudioProfileValidate (profile : GmAudioProfile) : GmStatus :=
  if profile.structSize < sizeofGmAudioProfile || profile.abiVersion ≠ gmAbiVersion then
    .badArgument
  else if profile.sampleRateHz ≠ 48000 || profile.channels ≠ 2 ||
      profile.channelLayout ≠ gmChannelLayoutStereo then .badMessage
  else if profile.codec = gmAudioCodecPcmS16le then
    if profile.framesPerPacket ≠ 240 then .badMessage
    else if (profile.packetIntervalUs ≠ 0 && profile.packetIntervalUs ≠ 5000) ||
        (profile.payloadBytes ≠ 0 && profile.payloadBytes ≠ gmAudioPcmS16lePayloadBytes) then
      .badMessage
    else .ok
  else if profile.codec = gmAudioCodecOpus then
    if profile.framesPerPacket ≠ 480 then .badMessage
    else if (profile.packetIntervalUs ≠ 0 && profile.packetIntervalUs ≠ 10000) ||
        (profile.payloadBytes ≠ 0 && profile.payloadBytes ≠ gmAudioOpusMaxPayloadBytes) then
      .badMessage
    else .ok
  else .badMessage

/-- The codec's number, packet interval and payload size. -/
def codecFields (codecText : List UInt8) : Option (UInt32 × UInt32 × UInt32) :=
  if codecText = ascii "pcm_s16le" then
    some (gmAudioCodecPcmS16le, 5000, gmAudioPcmS16lePayloadBytes)
  else if codecText = ascii "opus" then
    some (gmAudioCodecOpus, 10000, gmAudioOpusMaxPayloadBytes)
  else none

def parseProfile (object : JsonValue) : Except GmStatus GmAudioProfile := do
  check (objectHasExactKeys object [ascii "codec", ascii "sample_rate_hz", ascii "channels",
    ascii "channel_layout", ascii "frames_per_packet"])
  let codecText ← require (getRequiredString object (ascii "codec"))
  let sampleRate ← require (getRequiredU32 object (ascii "sample_rate_hz") 0 0xffffffff)
  let channels ← require (getRequiredU32 object (ascii "channels") 0 0xffff)
  let layoutText ← require (getRequiredString object (ascii "channel_layout"))
  let framesPerPacket ← require (getRequiredU32 object (ascii "frames_per_packet") 0 0xffff)
  let (codec, packetIntervalUs, payloadBytes) ← require (codecFields codecText)
  check (layoutText = ascii "stereo")
  let profile : GmAudioProfile :=
    { structSize := sizeofGmAudioProfile
      abiVersion := gmAbiVersion
      codec := codec
      sampleRateHz := sampleRate
      channels := channels.toUInt16
      framesPerPacket := framesPerPacket.toUInt16
      channelLayout := gmChannelLayoutStereo
      packetIntervalUs := packetIntervalUs
      payloadBytes := payloadBytes }
  match gmAudioProfileValidate profile with
  | .ok => return profile
  | status => throw status

def validateCapabilities (object : JsonValue) : Bool :=
  objectHasExactKeys object [ascii "audio_send", ascii "audio_receive", ascii "microphone",
      ascii "camera", ascii "audio_profiles"] &&
    match getRequiredBool object (ascii "audio_send"),
      getRequiredBool object (ascii "audio_receive"),
      getRequiredBool object (ascii "microphone"), getRequiredBool object (ascii "camera"),
      getRequiredArray object (ascii "audio_profiles") with
    | some audioSend, some audioReceive, some microphone, some camera, some profiles =>
      !(audioSend || microphone || camera) &&
        (if audioReceive then !profiles.isEmpty && profiles.length ≤ 2 else profiles.isEmpty) &&
        profiles.all fun profile => (parseProfile profile).toBool
    | _, _, _, _, _ => false

def validateLimits (object : JsonValue) : Bool :=
  objectHasExactKeys object [ascii "max_audio_subscribers", ascii "playout_target_ms_min",
      ascii "playout_target_ms_max"] &&
    match getRequiredU32 object (ascii "max_audio_subscribers") 0 0xffffffff,
      getRequiredU32 object (ascii "playout_target_ms_min") 0 0xffffffff,
      getRequiredU32 object (ascii "playout_target_ms_max") 0 0xffffffff with
    | some _, some playoutMin, some playoutMax => playoutMin ≤ playoutMax
    | _, _, _ => false

/-- The loop of `validate_versions`: the entries, and whether one of them is 1. -/
def versionsLoop : UInt64 → Bool → List JsonValue → Except GmStatus (List UInt8 × Bool)
  | _, sawV1, [] => return ([], sawV1)
  | previous, sawV1, value :: rest =>
    match value with
    | .number number =>
      if number < 1 || number > 255 || number ≥ previous then throw .badMessage
      else do
        let (versions, saw) ← versionsLoop number (sawV1 || number = 1) rest
        return (number.toUInt8 :: versions, saw)
    | _ => throw .badMessage

def validateVersions (elements : List JsonValue) (outInfo : GmControlMessageInfo) :
    Except GmStatus GmControlMessageInfo := do
  check (!elements.isEmpty && elements.length ≤ gmControlMaxArrayElements)
  let (versions, sawV1) ← versionsLoop 256 false elements
  if sawV1 then
    return { outInfo with
      versionsCount := elements.length.toUInt8
      versions := fillExact 8 versions }
  else throw .unsupportedVersion

def isKnownErrorCode (code : List UInt8) : Bool :=
  [ascii "BAD_REQUEST", ascii "UNSUPPORTED_VERSION", ascii "UNAUTHORIZED", ascii "FORBIDDEN",
    ascii "NOT_FOUND", ascii "STATE_CONFLICT", ascii "RESOURCE_BUSY",
    ascii "DEVICE_UNAVAILABLE", ascii "PATH_UNVALIDATED", ascii "UNSUPPORTED_PROFILE",
    ascii "LIMIT_EXCEEDED", ascii "TIMEOUT", ascii "INTERNAL"].any (code = ·)

def isEndpointState (state : List UInt8) : Bool :=
  [ascii "available", ascii "unavailable", ascii "faulted"].any (state = ·)

def isStateToken (state : List UInt8) : Bool := isReasonString state

def isToken (token : List UInt8) : Bool :=
  !token.isEmpty && token.length ≤ gmControlTokenMaxBytes && isAscii token

def validateRequiredDecimalString (object : JsonValue) (name : List UInt8) :
    Except GmStatus (List UInt8) := do
  let value ← require (getRequiredString object name)
  check (parseDecimalU64String value).isSome
  return value

end GhostMedia.Control
