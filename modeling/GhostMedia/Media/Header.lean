import GhostMedia.Core.Abi
import GhostMedia.Foundation.BigEndian

/- The 64-byte media header of gm_media.cpp: field helpers, the validity check,
   the encoder and the decoder. Offsets are the source's own. -/
namespace GhostMedia.Media
open CString

/-- `data[index]`; every caller has already checked the datagram's size. -/
def byteAt (data : List UInt8) (index : Nat) : UInt8 := data.getD index 0

def readU16Be (data : List UInt8) : UInt16 :=
  ((byteAt data 0).toUInt16 <<< 8) ||| (byteAt data 1).toUInt16

def readU32Be (data : List UInt8) : UInt32 :=
  ((byteAt data 0).toUInt32 <<< 24) ||| ((byteAt data 1).toUInt32 <<< 16) |||
    ((byteAt data 2).toUInt32 <<< 8) ||| (byteAt data 3).toUInt32

def readU64Be (data : List UInt8) : UInt64 :=
  (data.take 8).foldl (fun value byte => (value <<< 8) ||| byte.toUInt64) 0

def writeU16Be (value : UInt16) : List UInt8 :=
  [((value >>> 8) &&& 0xff).toUInt8, (value &&& 0xff).toUInt8]

def writeU32Be (value : UInt32) : List UInt8 :=
  [((value >>> 24) &&& 0xff).toUInt8, ((value >>> 16) &&& 0xff).toUInt8,
    ((value >>> 8) &&& 0xff).toUInt8, (value &&& 0xff).toUInt8]

def writeU64Be (value : UInt64) : List UInt8 :=
  ([7, 6, 5, 4, 3, 2, 1, 0] : List UInt64).map fun index =>
    ((value >>> (index * 8)) &&& 0xff).toUInt8

/-- Overwrite part of a buffer, as `memcpy(data + offset, bytes, n)` does. -/
def writeAt (data : List UInt8) (offset : Nat) (bytes : List UInt8) : List UInt8 :=
  data.take offset ++ bytes ++ data.drop (offset + bytes.length)

def validateMediaHeaderFields (header : GmMediaHeader) : Bool :=
  if header.structSize < sizeofGmMediaHeader || header.abiVersion != gmAbiVersion ||
      header.streamId == 0 || header.keyEpoch == 0 ||
      header.payloadLength > gmMediaMaxPayloadBytes then
    false
  else if header.kind = gmMediaKindAudio then
    header.direction == gmMediaDirectionWinToApple && header.payloadLength > 0
  else if header.kind = gmMediaKindPathChallenge then
    header.direction == gmMediaDirectionWinToApple && header.mediaTimestamp == 0 &&
      header.payloadLength == 12
  else if header.kind = gmMediaKindPathResponse then
    header.direction == gmMediaDirectionAppleToWin && header.mediaTimestamp == 0 &&
      header.payloadLength == 12
  else if header.kind = gmMediaKindFeedback then
    header.direction == gmMediaDirectionAppleToWin && header.mediaTimestamp == 0 &&
      header.payloadLength == gmFeedbackPayloadBytes
  else
    false

structure EncodeResult where
  status : GmStatus
  output : GmBytes
  written : Option Nat
  deriving DecidableEq

def gmMediaEncodeHeader (header : GmMediaHeader) (output : GmBytes) : EncodeResult :=
  if !hasReadableData output then
    ⟨.badArgument, output, none⟩
  else if !validateMediaHeaderFields header then
    ⟨.badMessage, output, some gmMediaHeaderBytes⟩
  else if output.size < gmMediaHeaderBytes then
    ⟨.bufferTooSmall, output, some gmMediaHeaderBytes⟩
  else
    match output with
    | .null _ => ⟨.badArgument, output, some gmMediaHeaderBytes⟩
    | .view data =>
      let data := writeAt data 0 (List.replicate gmMediaHeaderBytes 0)
      let data := writeAt data 0 [71, 77, 65, 49]
      let data := writeAt data 4 [1]
      let data := writeAt data 5 [header.kind.toUInt8]
      let data := writeAt data 6 (writeU16Be 0)
      let data := writeAt data 8 header.sessionId.bytes
      let data := writeAt data 24 (writeU32Be header.streamId)
      let data := writeAt data 28 [header.direction.toUInt8]
      let data := writeAt data 32 (writeU32Be header.keyEpoch)
      let data := writeAt data 36 (writeU64Be header.sequence)
      let data := writeAt data 44 (writeU64Be header.mediaTimestamp)
      let data := writeAt data 52 (writeU32Be header.payloadLength)
      ⟨.ok, .view data, some gmMediaHeaderBytes⟩

def gmMediaBuildAad (header : GmMediaHeader) (output : GmBytes) : EncodeResult :=
  gmMediaEncodeHeader header output

/-- The header struct after `memset`, with the caller's size kept. -/
def clearedHeader (callerSize : Nat) : GmMediaHeader where
  structSize := callerSize
  abiVersion := gmAbiVersion
  kind := 0
  sessionId := zero gmSessionIdBytes
  streamId := 0
  direction := 0
  keyEpoch := 0
  sequence := 0
  mediaTimestamp := 0
  payloadLength := 0

/-- The decoder writes into `outHeader`, of which it reads only the size. -/
def gmMediaDecodeHeader (datagram : GmBytes) (outHeader : GmMediaHeader) :
    GmStatus × GmMediaHeader :=
  if outHeader.structSize < sizeofGmMediaHeader || !hasReadableData datagram then
    (.badArgument, outHeader)
  else
    let header := clearedHeader outHeader.structSize
    if datagram.size < gmMediaMinDatagramBytes || datagram.size > gmMediaMaxDatagramBytes then
      (.badMessage, header)
    else
      let data := datagram.data
      if byteAt data 0 != 71 || byteAt data 1 != 77 || byteAt data 2 != 65 ||
          byteAt data 3 != 49 || byteAt data 4 != 1 || readU16Be (data.drop 6) != 0 ||
          byteAt data 29 != 0 || byteAt data 30 != 0 || byteAt data 31 != 0 then
        (.badMessage, header)
      else if (List.range' 56 8).any fun index => byteAt data index != 0 then
        (.badMessage, header)
      else
        let header := { header with
          kind := (byteAt data 5).toUInt32
          sessionId := fillExact gmSessionIdBytes (data.drop 8)
          streamId := readU32Be (data.drop 24)
          direction := (byteAt data 28).toUInt32
          keyEpoch := readU32Be (data.drop 32)
          sequence := readU64Be (data.drop 36)
          mediaTimestamp := readU64Be (data.drop 44)
          payloadLength := readU32Be (data.drop 52) }
        let expectedSize := gmMediaHeaderBytes + header.payloadLength.toNat + gmMediaTagBytes
        if expectedSize != datagram.size || !validateMediaHeaderFields header then
          (.badMessage, header)
        else
          (.ok, header)

end GhostMedia.Media
