import GhostMedia.Bridge.ProtocolCore
import GhostMedia.Media.Nonce

/- Media headers of ProtocolCore.swift and Phase2Core.swift: the Swift header against
   the core's record, and the calls that encode, decode and authenticate with it. -/
namespace GhostMedia.Bridge
open CString Media

inductive MediaKind where
  | audio
  | pathChallenge
  | pathResponse
  | feedback
  deriving DecidableEq

inductive MediaDirection where
  | windowsToApple
  | appleToWindows
  deriving DecidableEq

structure MediaHeader where
  kind : MediaKind
  sessionId : List UInt8
  streamId : UInt32
  direction : MediaDirection
  keyEpoch : UInt32
  sequence : UInt64
  mediaTimestamp : UInt64
  payloadLength : UInt32
  deriving DecidableEq

def rawMediaKind : MediaKind → UInt32
  | .audio => gmMediaKindAudio
  | .pathChallenge => gmMediaKindPathChallenge
  | .pathResponse => gmMediaKindPathResponse
  | .feedback => gmMediaKindFeedback

def rawMediaDirection : MediaDirection → UInt32
  | .windowsToApple => gmMediaDirectionWinToApple
  | .appleToWindows => gmMediaDirectionAppleToWin

def mediaKind (rawKind : UInt32) : Except ProtocolCoreError MediaKind :=
  if rawKind = gmMediaKindAudio then .ok .audio
  else if rawKind = gmMediaKindPathChallenge then .ok .pathChallenge
  else if rawKind = gmMediaKindPathResponse then .ok .pathResponse
  else if rawKind = gmMediaKindFeedback then .ok .feedback
  else .error (.callFailed "gm_media_decode_header" "GM_UNKNOWN_MEDIA_KIND")

def mediaDirection (rawDirection : UInt32) : Except ProtocolCoreError MediaDirection :=
  if rawDirection = gmMediaDirectionWinToApple then .ok .windowsToApple
  else if rawDirection = gmMediaDirectionAppleToWin then .ok .appleToWindows
  else .error (.callFailed "gm_media_decode_header" "GM_UNKNOWN_MEDIA_DIRECTION")

def rawMediaHeader (header : MediaHeader) : Except ProtocolCoreError GmMediaHeader :=
  if header.sessionId.length ≠ gmSessionIdBytes then
    .error (.invalidSessionIdLength gmSessionIdBytes header.sessionId.length)
  else
    .ok
      { structSize := sizeofGmMediaHeader
        abiVersion := gmAbiVersion
        kind := rawMediaKind header.kind
        sessionId := fillExact gmSessionIdBytes header.sessionId
        streamId := header.streamId
        direction := rawMediaDirection header.direction
        keyEpoch := header.keyEpoch
        sequence := header.sequence
        mediaTimestamp := header.mediaTimestamp
        payloadLength := header.payloadLength }

/-- `Data(count:)` -/
def zeros (count : Nat) : List UInt8 := List.replicate count 0

def encodeMediaHeader (header : MediaHeader) : Except ProtocolCoreError (List UInt8) := do
  let rawHeader ← rawMediaHeader header
  let result := gmMediaEncodeHeader rawHeader (.view (zeros gmMediaHeaderBytes))
  requireOk result.status "gm_media_encode_header"
  return result.output.data.take (result.written.getD 0)

def buildMediaAad (header : MediaHeader) : Except ProtocolCoreError (List UInt8) := do
  let rawHeader ← rawMediaHeader header
  let result := gmMediaBuildAad rawHeader (.view (zeros gmMediaHeaderBytes))
  requireOk result.status "gm_media_build_aad"
  return result.output.data.take (result.written.getD 0)

def decodeMediaHeader (datagram : List UInt8) : Except ProtocolCoreError MediaHeader := do
  -- the record is all zeros but for its size, and only the size is read
  let (status, rawHeader) :=
    gmMediaDecodeHeader (.view datagram)
      { clearedHeader sizeofGmMediaHeader with abiVersion := 0 }
  requireOk status "gm_media_decode_header"
  let kind ← mediaKind rawHeader.kind
  let direction ← mediaDirection rawHeader.direction
  return {
    kind := kind
    sessionId := rawHeader.sessionId.bytes
    streamId := rawHeader.streamId
    direction := direction
    keyEpoch := rawHeader.keyEpoch
    sequence := rawHeader.sequence
    mediaTimestamp := rawHeader.mediaTimestamp
    payloadLength := rawHeader.payloadLength }

def buildMediaNonce (keyEpoch : UInt32) (sequence : UInt64) :
    Except ProtocolCoreError (List UInt8) := do
  let (status, output) := gmMediaBuildNonce keyEpoch sequence (.view (zeros gmMediaNonceBytes))
  requireOk status "gm_media_build_nonce"
  return output.data

end GhostMedia.Bridge
