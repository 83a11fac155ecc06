import GhostMedia.Control.Frame

/- ProtocolCore.swift: statuses as thrown errors, control frames, and the decoder that
   buffers received bytes. Foundation's `Data` is a list of bytes. -/
namespace GhostMedia.Bridge
open Control

inductive ProtocolCoreError where
  | callFailed (operation status : String)
  | invalidSessionIdLength (expected actual : Nat)
  deriving DecidableEq

def requireOk (status : GmStatus) (operation : String) : Except ProtocolCoreError Unit :=
  if status = .ok then .ok () else .error (.callFailed operation (gmStatusString status))

/-- One call to learn the size, a second one to fill a buffer of that size. -/
def encodeControlFrame (json : List UInt8) : Except ProtocolCoreError (List UInt8) := do
  let sizing := gmControlEncodeFrame (.view json) (.null 0)
  if sizing.status ≠ .bufferTooSmall then
    requireOk sizing.status "gm_control_encode_frame"
    return []
  else
    let output := List.replicate (sizing.written.getD 0) 0
    let result := gmControlEncodeFrame (.view json) (.view output)
    requireOk result.status "gm_control_encode_frame"
    return result.output.data.take (result.written.getD 0)

inductive ControlFrameInspection where
  | needsMoreData (expectedFrameSize : Option Nat)
  | complete (payloadLength frameSize : Nat)
  deriving DecidableEq

def inspectControlFrame (input : List UInt8) : Except ProtocolCoreError ControlFrameInspection := do
  let (status, info) :=
    gmControlPeekFrame (.view input) ⟨sizeofGmControlFrameInfo, 0, 0, 0, 0⟩
  if status = .needMoreData then
    return .needsMoreData (if info.frameSize = 0 then none else some info.frameSize)
  else
    requireOk status "gm_control_peek_frame"
    return .complete info.payloadLength.toNat info.frameSize

structure ControlFrameDecoder where
  bufferedBytes : List UInt8 := []
  deriving DecidableEq

namespace ControlFrameDecoder

def bufferedByteCount (decoder : ControlFrameDecoder) : Nat := decoder.bufferedBytes.length

def append (decoder : ControlFrameDecoder) (bytes : List UInt8) : ControlFrameDecoder :=
  ⟨decoder.bufferedBytes ++ bytes⟩

def nextPayload : EStateM ProtocolCoreError ControlFrameDecoder (Option (List UInt8)) :=
  fun decoder =>
  match inspectControlFrame decoder.bufferedBytes with
  | .error error => .error error decoder
  | .ok (.needsMoreData _) => .ok none decoder
  | .ok (.complete payloadLength frameSize) =>
    let headerLength := frameSize - payloadLength
    let payload := (decoder.bufferedBytes.take frameSize).drop headerLength
    .ok (some payload) ⟨decoder.bufferedBytes.drop frameSize⟩

end ControlFrameDecoder

end GhostMedia.Bridge
