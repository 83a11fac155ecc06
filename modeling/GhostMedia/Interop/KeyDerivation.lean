import GhostMedia.Bridge.MediaHeader
import GhostMedia.Core.ExporterContext

/- The directional keys of one stream, as the Windows probe's main.cpp and the Apple
   harness's main.swift derive them: both pass the sender's digest before the receiver's.
   The exporter of a TLS session is a parameter. -/
namespace GhostMedia.Interop
open CString Media Crypto Bridge

/-- The texts of `std::runtime_error`; a failed runtime call adds its own detail text. -/
inductive ProbeError where
  | message (text : String)
  | runtimeError (operation : String) (status : GmStatus)
  deriving DecidableEq

inductive AppleCryptoError where
  | invalidKeyLength (count : Nat)
  | invalidNonceLength (count : Nat)
  | invalidAadLength (count : Nat)
  | invalidTagLength (count : Nat)
  | payloadTooLarge (count : Nat)
  | authenticationFailed
  | runtimeFailure (operation status : String)
  deriving DecidableEq

/-- The errors that the Apple harness lets through, its own `HarnessError` among them. -/
inductive AppleError where
  | protocolCore (error : ProtocolCoreError)
  | crypto (error : AppleCryptoError)
  | unexpectedMessage (text : String)
  deriving DecidableEq

/-- `gm_runtime_tls_export` into a buffer of 64 bytes -/
abbrev TlsExport := List UInt8 → Except GmStatus (Buffer gmTlsExporterOutputBytes)

namespace Probe

def hexValue (character : UInt8) : Except ProbeError UInt8 :=
  if 48 ≤ character && character ≤ 57 then .ok (character - 48)
  else if 97 ≤ character && character ≤ 102 then .ok (character - 97 + 10)
  else .error (.message "session_id contains a non-hex character")

def decodeHexPairs : List UInt8 → Except ProbeError (List UInt8)
  | high :: low :: rest => do
    let high ← hexValue high
    let low ← hexValue low
    let rest ← decodeHexPairs rest
    return ((high <<< 4) ||| low) :: rest
  | _ => return []

def decodeSessionId (hexSessionId : List UInt8) : Except ProbeError (Buffer gmSessionIdBytes) :=
  if hexSessionId.length ≠ gmControlSessionIdHexBytes then
    .error (.message "session_id is not 32 lowercase hexadecimal bytes")
  else do
    let sessionId ← decodeHexPairs hexSessionId
    return fillExact gmSessionIdBytes sessionId

def phase3Context (sessionId : Buffer gmSessionIdBytes) (streamId direction keyEpoch : UInt32)
    (senderDigest receiverDigest : Buffer gmSpkiDigestBytes) : Except ProbeError (List UInt8) :=
  let input : GmCryptoExporterContextInput := {
    structSize := sizeofGmCryptoExporterContextInput
    abiVersion := gmAbiVersion
    streamId := streamId
    direction := direction
    keyEpoch := keyEpoch
    sessionId := sessionId
    senderSpkiDigest := senderDigest
    receiverSpkiDigest := receiverDigest }
  let result :=
    gmCryptoBuildExporterContext input (.view (List.replicate gmTlsExporterContextBytes 0))
  if result.status ≠ .ok || result.written ≠ some gmTlsExporterContextBytes then
    .error (.message "failed to build Phase 3 TLS exporter context")
  else .ok result.output.data

def derivePhase3Keys (tlsExport : TlsExport) (sessionId : Buffer gmSessionIdBytes)
    (streamId direction keyEpoch : UInt32)
    (senderDigest receiverDigest : Buffer gmSpkiDigestBytes) :
    Except ProbeError GmDirectionalKeys := do
  let context ← phase3Context sessionId streamId direction keyEpoch senderDigest receiverDigest
  match tlsExport context with
  | .error status => .error (.runtimeError "TLS exporter" status)
  | .ok output =>
    let keys : GmDirectionalKeys := ⟨sizeofGmDirectionalKeys, 0, zero _, zero _⟩
    let (status, keys) := gmCryptoSplitExporterOutput (.view output.bytes) keys
    if status ≠ .ok then .error (.message "failed to split Phase 3 TLS exporter output")
    else .ok keys

def connectContexts (helloSessionId : List UInt8) (streamId keyEpoch : UInt32)
    (clientDigest serverDigest : Buffer gmSpkiDigestBytes) :
    Except ProbeError (List UInt8 × List UInt8) := do
  let sessionId ← decodeSessionId helloSessionId
  let forward ← phase3Context sessionId streamId gmMediaDirectionWinToApple keyEpoch
    clientDigest serverDigest
  let reverse ← phase3Context sessionId streamId gmMediaDirectionAppleToWin keyEpoch
    serverDigest clientDigest
  return (forward, reverse)

end Probe

namespace Harness

def copyFixedBytes (n : Nat) (data : List UInt8) : Except ProtocolCoreError (Buffer n) :=
  if size : data.length = n then .ok ⟨data, size⟩
  else .error (.callFailed "copy_fixed_bytes" s!"expected {n} bytes, got {data.length}")

def exporterContext (sessionId : List UInt8) (streamId : UInt32) (direction : MediaDirection)
    (keyEpoch : UInt32) (senderSpkiDigest receiverSpkiDigest : List UInt8) :
    Except ProtocolCoreError (List UInt8) := do
  let rawSessionId ← copyFixedBytes gmSessionIdBytes sessionId
  let rawSender ← copyFixedBytes gmSpkiDigestBytes senderSpkiDigest
  let rawReceiver ← copyFixedBytes gmSpkiDigestBytes receiverSpkiDigest
  let rawInput : GmCryptoExporterContextInput := {
    structSize := sizeofGmCryptoExporterContextInput
    abiVersion := gmAbiVersion
    streamId := streamId
    direction := rawMediaDirection direction
    keyEpoch := keyEpoch
    sessionId := rawSessionId
    senderSpkiDigest := rawSender
    receiverSpkiDigest := rawReceiver }
  let result := gmCryptoBuildExporterContext rawInput (.view (zeros gmTlsExporterContextBytes))
  requireOk result.status "gm_crypto_build_exporter_context"
  return result.output.data.take (result.written.getD 0)

structure DirectionalKeys where
  mediaKey : List UInt8
  pathKey : List UInt8
  deriving DecidableEq

def splitExporterOutput (output : List UInt8) : Except ProtocolCoreError DirectionalKeys := do
  let rawKeys : GmDirectionalKeys := ⟨sizeofGmDirectionalKeys, 0, zero _, zero _⟩
  let (status, rawKeys) := gmCryptoSplitExporterOutput (.view output) rawKeys
  requireOk status "gm_crypto_split_exporter_output"
  return ⟨rawKeys.mediaKey.bytes, rawKeys.pathKey.bytes⟩

/-- `AppleRuntimeTLSSession.exporter` -/
def exporter (tlsExport : TlsExport) (context : List UInt8) : Except AppleError (List UInt8) :=
  match tlsExport context with
  | .ok output => .ok output.bytes
  | .error status =>
    .error (.crypto (.runtimeFailure "gm_runtime_tls_export" (gmStatusString status)))

def derivePhase3Keys (tlsExport : TlsExport) (sessionId : List UInt8) (streamId : UInt32)
    (direction : MediaDirection) (keyEpoch : UInt32) (senderDigest receiverDigest : List UInt8) :
    Except AppleError DirectionalKeys := do
  let context ← (exporterContext sessionId streamId direction keyEpoch senderDigest
    receiverDigest).mapError .protocolCore
  let exported ← exporter tlsExport context
  (splitExporterOutput exported).mapError .protocolCore

def testSessionId : List UInt8 := ascii "00112233445566778899aabbccddeeff"

def digitRadix16 (character : UInt8) : Option UInt8 :=
  if 48 ≤ character && character ≤ 57 then some (character - 48)
  else if 97 ≤ character && character ≤ 102 then some (character - 97 + 10)
  else if 65 ≤ character && character ≤ 70 then some (character - 65 + 10)
  else none

/-- `UInt8(_, radix: 16)` of two characters, of which the first may be a sign. -/
def byteRadix16 (high low : UInt8) : Option UInt8 := do
  let value ← digitRadix16 low
  if high = 43 then return value
  else if high = 45 then if value = 0 then return 0 else none
  else return (← digitRadix16 high) * 16 + value

/-- `data(hex:)`; nothing where its precondition or its forced unwrapping traps. -/
def dataHex : List UInt8 → Option (List UInt8)
  | [] => some []
  | high :: low :: rest => do return (← byteRadix16 high low) :: (← dataHex rest)
  | [_] => none

def listenerContexts (clientDigest serverDigest : List UInt8) :
    Option (Except ProtocolCoreError (List UInt8 × List UInt8)) := do
  let sessionId ← dataHex testSessionId
  return do
    let forward ← exporterContext sessionId 1 .windowsToApple 1 clientDigest serverDigest
    let reverse ← exporterContext sessionId 1 .appleToWindows 1 serverDigest clientDigest
    return (forward, reverse)

end Harness

section Agreement

theorem copy_fixed_bytes_eq {n : Nat} (buffer : Buffer n) :
    Harness.copyFixedBytes n buffer.bytes = .ok buffer := by
  rw [Harness.copyFixedBytes, dif_pos buffer.size]

def contextInput (sessionId : Buffer gmSessionIdBytes) (streamId : UInt32)
    (direction : MediaDirection) (keyEpoch : UInt32)
    (sender receiver : Buffer gmSpkiDigestBytes) : GmCryptoExporterContextInput where
  structSize := sizeofGmCryptoExporterContextInput
  abiVersion := gmAbiVersion
  streamId := streamId
  direction := rawMediaDirection direction
  keyEpoch := keyEpoch
  sessionId := sessionId
  senderSpkiDigest := sender
  receiverSpkiDigest := receiver

variable (sessionId : Buffer gmSessionIdBytes) (streamId : UInt32) (direction : MediaDirection)
  (keyEpoch : UInt32) (sender receiver : Buffer gmSpkiDigestBytes)

theorem probe_context_eq :
    Probe.phase3Context sessionId streamId (rawMediaDirection direction) keyEpoch sender receiver =
      let result := gmCryptoBuildExporterContext
        (contextInput sessionId streamId direction keyEpoch sender receiver)
        (.view (zeros gmTlsExporterContextBytes))
      if result.status ≠ .ok || result.written ≠ some gmTlsExporterContextBytes then
        .error (.message "failed to build Phase 3 TLS exporter context")
      else .ok result.output.data := rfl

theorem harness_context_eq :
    Harness.exporterContext sessionId.bytes streamId direction keyEpoch sender.bytes
      receiver.bytes =
      let result := gmCryptoBuildExporterContext
        (contextInput sessionId streamId direction keyEpoch sender receiver)
        (.view (zeros gmTlsExporterContextBytes))
      (requireOk result.status "gm_crypto_build_exporter_context").bind fun _ =>
        .ok (result.output.data.take (result.written.getD 0)) := by
  simp only [Harness.exporterContext, copy_fixed_bytes_eq]
  rfl

/-- A context is the digest of the preimage, on both endpoints, or refused by both. -/
theorem contexts_agree :
    (Probe.phase3Context sessionId streamId (rawMediaDirection direction) keyEpoch sender
      receiver).toOption =
      (Harness.exporterContext sessionId.bytes streamId direction keyEpoch sender.bytes
        receiver.bytes).toOption := by
  rw [probe_context_eq, harness_context_eq]
  have record : ValidContext (contextInput sessionId streamId direction keyEpoch sender receiver) ∨
    _ := build_context_cases (Nat.le_refl _) rfl
  rcases record with valid | refused
  · have digest : ∀ front : List UInt8, front.length = 32 →
        (writeAt (zeros 32) 0 front).take 32 = writeAt (zeros 32) 0 front := by
      intro front size
      apply List.take_of_length_le
      simp [writeAt, zeros, size]
    rw [build_context_eq (zeros gmTlsExporterContextBytes) valid (Nat.le_refl _)]
    simp [requireOk, Except.bind, digest _ (sha256_fixed_length _)]
    rfl
  · rw [refused (zeros gmTlsExporterContextBytes)]
    rfl

theorem split_output_eq (output : Buffer gmTlsExporterOutputBytes) (keys : GmDirectionalKeys)
    (sized : sizeofGmDirectionalKeys ≤ keys.structSize) :
    gmCryptoSplitExporterOutput (.view output.bytes) keys =
      (.ok,
        { keys with
          abiVersion := gmAbiVersion
          mediaKey := fillExact gmCryptoKeyBytes output.bytes
          pathKey := fillExact gmCryptoKeyBytes (output.bytes.drop gmCryptoKeyBytes) }) := by
  have small : ¬ keys.structSize < sizeofGmDirectionalKeys := Nat.not_lt.mpr sized
  simp only [gmCryptoSplitExporterOutput, small, view_readable, view_size, view_data, output.size,
    decide_false, Bool.not_true, Bool.or_self, Bool.false_eq_true, if_false, ne_eq,
    not_true_eq_false]

theorem keys_agree (tlsExport : TlsExport) :
    (Probe.derivePhase3Keys tlsExport sessionId streamId (rawMediaDirection direction) keyEpoch
      sender receiver).toOption.map (fun keys => (keys.mediaKey.bytes, keys.pathKey.bytes)) =
      (Harness.derivePhase3Keys tlsExport sessionId.bytes streamId direction keyEpoch sender.bytes
        receiver.bytes).toOption.map fun keys => (keys.mediaKey, keys.pathKey) := by
  have agree := contexts_agree sessionId streamId direction keyEpoch sender receiver
  unfold Probe.derivePhase3Keys Harness.derivePhase3Keys
  generalize Probe.phase3Context sessionId streamId (rawMediaDirection direction) keyEpoch sender
    receiver = probe at agree
  generalize Harness.exporterContext sessionId.bytes streamId direction keyEpoch sender.bytes
    receiver.bytes = harness at agree
  cases probe with
  | error refusal =>
    cases harness with
    | error _ => rfl
    | ok _ => cases agree
  | ok context =>
    cases harness with
    | error _ => cases agree
    | ok other =>
      obtain rfl : context = other := Option.some.inj agree
      cases exported : tlsExport context with
      | error status =>
        simp [Harness.exporter, exported, bind, Except.bind, Except.mapError, Except.toOption]
      | ok output =>
        simp [Harness.exporter, exported, Harness.splitExporterOutput, split_output_eq, requireOk,
          bind, Except.bind, Except.mapError, Except.toOption, pure, Except.pure]

end Agreement

theorem test_session_id_read :
    ∃ sessionId, Probe.decodeSessionId Harness.testSessionId = .ok sessionId ∧
      Harness.dataHex Harness.testSessionId = some sessionId.bytes := by
  refine ⟨⟨[0x00, 0x11, 0x22, 0x33, 0x44, 0x55, 0x66, 0x77, 0x88, 0x99, 0xaa, 0xbb, 0xcc, 0xdd,
    0xee, 0xff], rfl⟩, ?_, ?_⟩
  · decide
  · decide

theorem pair_to_option {ε : Type} (forward reverse : Except ε (List UInt8)) :
    (do let a ← forward
        let b ← reverse
        return (a, b)).toOption =
      forward.toOption.bind fun a => reverse.toOption.map (Prod.mk a) := by
  cases forward with
  | error _ => rfl
  | ok _ =>
    cases reverse with
    | error _ => rfl
    | ok _ => rfl

theorem session_contexts_agree (clientDigest serverDigest : Buffer gmSpkiDigestBytes) :
    (Probe.connectContexts Harness.testSessionId 1 1 clientDigest serverDigest).toOption =
      (Harness.listenerContexts clientDigest.bytes serverDigest.bytes).bind Except.toOption := by
  obtain ⟨sessionId, probe, harness⟩ := test_session_id_read
  have forward := contexts_agree sessionId 1 .windowsToApple 1 clientDigest serverDigest
  have reverse := contexts_agree sessionId 1 .appleToWindows 1 serverDigest clientDigest
  have left : (Probe.connectContexts Harness.testSessionId 1 1 clientDigest serverDigest).toOption =
      (do let a ← Probe.phase3Context sessionId 1 gmMediaDirectionWinToApple 1 clientDigest
            serverDigest
          let b ← Probe.phase3Context sessionId 1 gmMediaDirectionAppleToWin 1 serverDigest
            clientDigest
          return (a, b)).toOption := by
    rw [Probe.connectContexts, probe]
    rfl
  have right : (Harness.listenerContexts clientDigest.bytes serverDigest.bytes).bind
        Except.toOption =
      (do let a ← Harness.exporterContext sessionId.bytes 1 .windowsToApple 1 clientDigest.bytes
            serverDigest.bytes
          let b ← Harness.exporterContext sessionId.bytes 1 .appleToWindows 1 serverDigest.bytes
            clientDigest.bytes
          return (a, b)).toOption := by
    rw [Harness.listenerContexts, harness]
    rfl
  rw [left, right, pair_to_option, pair_to_option, ← forward, ← reverse]
  rfl

/-- Packets of different coordinates differ in the preimage of their keys' context or in
    the nonce; the preimage is laid out without gaps and never of the wrong size; and
    both endpoints compute one context, and from it one pair of keys. -/
theorem keys_and_nonces_separated :
    (∀ (left right : GmCryptoExporterContextInput) (n m : UInt64),
      ValidContext left → ValidContext right →
      (left.sessionId, left.streamId, left.direction, left.keyEpoch, left.senderSpkiDigest,
        left.receiverSpkiDigest, n) ≠
        (right.sessionId, right.streamId, right.direction, right.keyEpoch, right.senderSpkiDigest,
          right.receiverSpkiDigest, m) →
        (exporterPreimage left).1 ≠ (exporterPreimage right).1 ∨
        ∀ buffer : List UInt8, gmMediaNonceBytes ≤ buffer.length →
          gmMediaBuildNonce left.keyEpoch n (.view buffer) ≠
            gmMediaBuildNonce right.keyEpoch m (.view buffer)) ∧
    (∀ input : GmCryptoExporterContextInput,
      (exporterPreimage input).1 = ascii "ghostmedia/1" ++ input.sessionId.bytes ++
        writeU32Be input.streamId ++ [input.direction.toUInt8] ++ writeU32Be input.keyEpoch ++
        input.senderSpkiDigest.bytes ++ input.receiverSpkiDigest.bytes ∧
      (exporterPreimage input).1.length = 101 ∧ (exporterPreimage input).2 = 101) ∧
    (∀ (input : GmCryptoExporterContextInput) (data : List UInt8),
      ValidContext input → gmTlsExporterContextBytes ≤ data.length →
        gmCryptoBuildExporterContext input (.view data) =
          ⟨.ok, .view (writeAt data 0 (sha256Fixed (exporterPreimage input).1)),
            some gmTlsExporterContextBytes⟩) ∧
    (∀ (input : GmCryptoExporterContextInput) (output : GmBytes),
      (gmCryptoBuildExporterContext input output).status ≠ .internal) ∧
    (∀ (sessionId : Buffer gmSessionIdBytes) (streamId : UInt32) (direction : MediaDirection)
      (keyEpoch : UInt32) (sender receiver : Buffer gmSpkiDigestBytes) (tlsExport : TlsExport),
      (Probe.phase3Context sessionId streamId (rawMediaDirection direction) keyEpoch sender
        receiver).toOption =
        (Harness.exporterContext sessionId.bytes streamId direction keyEpoch sender.bytes
          receiver.bytes).toOption ∧
      (Probe.derivePhase3Keys tlsExport sessionId streamId (rawMediaDirection direction) keyEpoch
        sender receiver).toOption.map (fun keys => (keys.mediaKey.bytes, keys.pathKey.bytes)) =
        (Harness.derivePhase3Keys tlsExport sessionId.bytes streamId direction keyEpoch
          sender.bytes receiver.bytes).toOption.map fun keys => (keys.mediaKey, keys.pathKey)) ∧
    ∀ clientDigest serverDigest : Buffer gmSpkiDigestBytes,
      (Probe.connectContexts Harness.testSessionId 1 1 clientDigest serverDigest).toOption =
        (Harness.listenerContexts clientDigest.bytes serverDigest.bytes).bind Except.toOption := by
  refine ⟨?_, ?_, ?_, build_context_never_internal, ?_, session_contexts_agree⟩
  · intro left right n m validLeft validRight differ
    rw [exporter_preimage_eq, exporter_preimage_eq]
    by_contra both
    obtain ⟨preimages, nonces⟩ := not_or.mp both
    obtain ⟨session, stream, direction, _, sender, receiver⟩ :=
      preimage_fields_injective validLeft validRight (not_not.mp preimages)
    obtain ⟨buffer, room, same⟩ : ∃ buffer : List UInt8, gmMediaNonceBytes ≤ buffer.length ∧
        gmMediaBuildNonce left.keyEpoch n (.view buffer) =
          gmMediaBuildNonce right.keyEpoch m (.view buffer) := by
      simpa using nonces
    rw [build_nonce_eq n buffer validLeft.epoch room,
      build_nonce_eq m buffer validRight.epoch room] at same
    have front := List.append_cancel_right (GmBytes.view.inj (Prod.mk.inj same).2)
    obtain ⟨epoch, sequence⟩ := media_nonce_injective front
    exact differ (by rw [session, stream, direction, epoch, sender, receiver, sequence])
  · intro input
    rw [exporter_preimage_eq]
    exact ⟨rfl, preimage_fields_length input, rfl⟩
  · intro input data valid room
    rw [exporter_preimage_eq]
    exact build_context_eq data valid room
  · intro sessionId streamId direction keyEpoch sender receiver tlsExport
    exact ⟨contexts_agree sessionId streamId direction keyEpoch sender receiver,
      keys_agree sessionId streamId direction keyEpoch sender receiver tlsExport⟩

end GhostMedia.Interop
