import GhostMedia.Control.JsonText
import GhostMedia.Media.Header

/- Control frames of gm_core.cpp: a four-byte big-endian length, then the JSON text. -/
namespace GhostMedia.Control
open Json Media

def gmControlEncodeFrame (jsonText output : GmBytes) : EncodeResult :=
  if !hasReadableData output then
    ⟨.badArgument, output, none⟩
  else
    let validation := gmControlValidateJsonText jsonText
    if validation ≠ .ok then
      ⟨validation, output, none⟩
    else
      let required := gmControlFrameHeaderBytes + jsonText.size
      if output.size < required then
        ⟨.bufferTooSmall, output, some required⟩
      else
        match output with
        | .null _ => ⟨.badArgument, output, some required⟩
        | .view data =>
          let data := writeAt data 0 (writeU32Be jsonText.size.toUInt32)
          let data := writeAt data gmControlFrameHeaderBytes jsonText.data
          ⟨.ok, .view data, some required⟩

/-- The record after `memset`, with the caller's size kept. -/
def clearedFrameInfo (callerSize : Nat) : GmControlFrameInfo := ⟨callerSize, gmAbiVersion, 0, 0, 0⟩

def gmControlPeekFrame (input : GmBytes) (outInfo : GmControlFrameInfo) :
    GmStatus × GmControlFrameInfo :=
  if outInfo.structSize < sizeofGmControlFrameInfo || !hasReadableData input then
    (.badArgument, outInfo)
  else
    let info := clearedFrameInfo outInfo.structSize
    if input.size < gmControlFrameHeaderBytes then
      (.needMoreData, info)
    else
      let payloadLength := readU32Be input.data
      if payloadLength.toNat < gmControlFrameMinPayloadBytes ||
          payloadLength.toNat > gmControlFrameMaxPayloadBytes then
        (.badMessage, info)
      else
        let frameSize := gmControlFrameHeaderBytes + payloadLength.toNat
        let info := { info with payloadLength := payloadLength, frameSize := frameSize }
        if input.size < frameSize then
          (.needMoreData, info)
        else
          (.ok, { info with complete := 1 })

end GhostMedia.Control
