import GhostMedia.Interop.KeyDerivation
import GhostMedia.Runtime.Aead

/- Protected datagrams as the Windows probe's main.cpp and the Apple harness's main.swift
   seal and open them, and what one makes of the other's. -/
namespace GhostMedia.Interop
open CString Media Bridge GhostMedia.Runtime

/-- `std::vector::resize` -/
def resize (bytes : List UInt8) (size : Nat) : List UInt8 :=
  bytes.take size ++ List.replicate (size - bytes.length) 0

/-- The record that a receiver passes to the decoder: all zeros but for its size. -/
def received : GmMediaHeader := { clearedHeader sizeofGmMediaHeader with abiVersion := 0 }

namespace Probe

/-- The header in `seal_media_datagram`. -/
def sealedHeader (sessionId : Buffer gmSessionIdBytes)
    (streamId kind direction keyEpoch : UInt32) (sequence mediaTimestamp : UInt64)
    (payload : List UInt8) : GmMediaHeader where
  structSize := sizeofGmMediaHeader
  abiVersion := gmAbiVersion
  kind := kind
  sessionId := sessionId
  streamId := streamId
  direction := direction
  keyEpoch := keyEpoch
  sequence := sequence
  mediaTimestamp := mediaTimestamp
  payloadLength := payload.length.toUInt32

def sealMediaDatagram (evp : Evp) (sessionId : Buffer gmSessionIdBytes)
    (streamId kind direction keyEpoch : UInt32) (sequence mediaTimestamp : UInt64)
    (payload : List UInt8) (key : Buffer gmCryptoKeyBytes) : Except ProbeError (List UInt8) :=
  let header := sealedHeader sessionId streamId kind direction keyEpoch sequence mediaTimestamp
    payload
  let datagram := List.replicate (gmMediaHeaderBytes + payload.length + gmMediaTagBytes) 0
  let encoded := gmMediaEncodeHeader header (.view (datagram.take gmMediaHeaderBytes))
  if encoded.status ≠ .ok || encoded.written ≠ some gmMediaHeaderBytes then
    .error (.message "failed to encode protected media header")
  else
    let datagram := writeAt datagram 0 encoded.output.data
    let (status, nonce) :=
      gmMediaBuildNonce keyEpoch sequence (.view (List.replicate gmMediaNonceBytes 0))
    if status ≠ .ok then .error (.message "failed to build media nonce")
    else
      let tagStart := gmMediaHeaderBytes + payload.length
      let outcome := gmRuntimeAes256GcmEncrypt evp (.view key.bytes) nonce
        (.view (datagram.take gmMediaHeaderBytes)) (.view payload)
        (.view ((datagram.drop gmMediaHeaderBytes).take payload.length))
        (.view ((datagram.drop tagStart).take gmMediaTagBytes))
      if outcome.status ≠ .ok then .error (.runtimeError "AES-GCM encrypt" outcome.status)
      else
        let datagram := writeAt datagram gmMediaHeaderBytes outcome.output.data
        .ok (writeAt datagram tagStart outcome.tag.data)

/-- The header and the `plaintext` that `open_media_datagram` leaves behind. -/
def openMediaDatagram (evp : Evp) (datagram : List UInt8) (key : Buffer gmCryptoKeyBytes)
    (plaintext : List UInt8) : Except ProbeError (GmMediaHeader × List UInt8) :=
  let (status, header) := gmMediaDecodeHeader (.view datagram) received
  if status ≠ .ok then .error (.message "received malformed protected UDP datagram")
  else
    let (status, nonce) := gmMediaBuildNonce header.keyEpoch header.sequence
      (.view (List.replicate gmMediaNonceBytes 0))
    if status ≠ .ok then .error (.message "failed to build received media nonce")
    else
      let payloadLength := header.payloadLength.toNat
      let plaintext := resize plaintext payloadLength
      let outcome := gmRuntimeAes256GcmDecrypt evp (.view key.bytes) nonce
        (.view (datagram.take gmMediaHeaderBytes))
        (.view ((datagram.drop gmMediaHeaderBytes).take payloadLength))
        (.view ((datagram.drop (gmMediaHeaderBytes + payloadLength)).take gmMediaTagBytes))
        (.view plaintext)
      if outcome.status ≠ .ok then
        .error (.message "received UDP datagram did not authenticate")
      else .ok (header, outcome.output.data)

end Probe

namespace AppleAesGcm

structure SealedPayload where
  ciphertext : List UInt8
  tag : List UInt8
  deriving DecidableEq

def validate (key nonce aad payload : List UInt8) (tag : Option (List UInt8)) :
    Except AppleCryptoError Unit :=
  if key.length ≠ 32 then .error (.invalidKeyLength key.length)
  else if nonce.length ≠ 12 then .error (.invalidNonceLength nonce.length)
  else if aad.length > 64 then .error (.invalidAadLength aad.length)
  else if payload.length > 1420 then .error (.payloadTooLarge payload.length)
  else
    match tag with
    | none => .ok ()
    | some tag => if tag.length ≠ 16 then .error (.invalidTagLength tag.length) else .ok ()

def requireRuntimeOk (status : GmStatus) (operation : String) : Except AppleCryptoError Unit :=
  if status = .ok then .ok () else .error (.runtimeFailure operation (gmStatusString status))

def sealPayload (evp : Evp) (plaintext key nonce aad : List UInt8) :
    Except AppleCryptoError SealedPayload := do
  validate key nonce aad plaintext none
  let outcome := gmRuntimeAes256GcmEncrypt evp (.view key) (.view nonce) (.view aad)
    (.view plaintext) (.view (zeros plaintext.length)) (.view (zeros 16))
  requireRuntimeOk outcome.status "gm_runtime_aes256_gcm_encrypt"
  return ⟨outcome.output.data, outcome.tag.data⟩

def openPayload (evp : Evp) (sealedPayload : SealedPayload) (key nonce aad : List UInt8) :
    Except AppleCryptoError (List UInt8) := do
  validate key nonce aad sealedPayload.ciphertext (some sealedPayload.tag)
  let outcome := gmRuntimeAes256GcmDecrypt evp (.view key) (.view nonce) (.view aad)
    (.view sealedPayload.ciphertext) (.view sealedPayload.tag)
    (.view (zeros sealedPayload.ciphertext.length))
  if outcome.status = .badMessage then throw .authenticationFailed
  requireRuntimeOk outcome.status "gm_runtime_aes256_gcm_decrypt"
  return outcome.output.data

end AppleAesGcm

namespace Harness

def sealMedia (evp : Evp) (header : MediaHeader) (plaintext key : List UInt8) :
    Except AppleError (List UInt8) := do
  let aad ← (buildMediaAad header).mapError .protocolCore
  let nonce ← (buildMediaNonce header.keyEpoch header.sequence).mapError .protocolCore
  let sealedPayload ←
    (AppleAesGcm.sealPayload evp plaintext key nonce aad).mapError .crypto
  return aad ++ sealedPayload.ciphertext ++ sealedPayload.tag

def openMedia (evp : Evp) (datagram key : List UInt8) :
    Except AppleError (MediaHeader × List UInt8) := do
  let header ← (decodeMediaHeader datagram).mapError .protocolCore
  let payloadStart := gmMediaHeaderBytes
  let payloadEnd := payloadStart + header.payloadLength.toNat
  if datagram.length ≠ payloadEnd + gmMediaTagBytes then
    throw (.unexpectedMessage "protected UDP datagram length changed after header decode")
  let nonce ← (buildMediaNonce header.keyEpoch header.sequence).mapError .protocolCore
  let sealedPayload : AppleAesGcm.SealedPayload :=
    ⟨(datagram.drop payloadStart).take (payloadEnd - payloadStart), datagram.drop payloadEnd⟩
  let plaintext ←
    (AppleAesGcm.openPayload evp sealedPayload key nonce
      (datagram.take payloadStart)).mapError .crypto
  return (header, plaintext)

end Harness

section Datagrams
variable {aead : Aead}

/-- The text of a datagram under a key, by the offsets of header, nonce and tag. -/
def authenticText (aead : Aead) (key datagram : List UInt8) : Option (List UInt8) :=
  aead.dec key ((datagram.drop 32).take 12) (datagram.take 64)
    ((datagram.drop 64).take (datagram.length - 80)) (datagram.drop (datagram.length - 16))

def protectedDatagram (aead : Aead) (key : List UInt8) (header : GmMediaHeader)
    (payload : List UInt8) : List UInt8 :=
  let texts := aead.enc key (mediaNonce header.keyEpoch header.sequence) (wireHeader header) payload
  wireHeader header ++ texts.1 ++ texts.2

theorem valid_epoch {header : GmMediaHeader} (valid : validateMediaHeaderFields header = true) :
    header.keyEpoch ≠ 0 := by
  unfold validateMediaHeaderFields at valid
  split at valid
  · contradiction
  · rename_i checks
    simp at checks
    exact checks.1.2

theorem header_limits {header : GmMediaHeader} {key payload : List UInt8}
    (valid : validateMediaHeaderFields header = true) (keySize : key.length = gmCryptoKeyBytes)
    (sized : payload.length = header.payloadLength.toNat) :
    WithinLimits key (mediaNonce header.keyEpoch header.sequence) (wireHeader header) payload where
  key := keySize
  nonce := media_nonce_length _ _
  aad := (wire_header_length header).le
  payload := sized ▸ (valid_header_size valid).2.2

/-- What a decoded header says about the datagram it stands in. -/
structure Layout (header : GmMediaHeader) (datagram : List UInt8) : Prop where
  valid : validateMediaHeaderFields header = true
  size : header.structSize = sizeofGmMediaHeader
  aad : datagram.take 64 = wireHeader header
  nonce : (datagram.drop 32).take 12 = mediaNonce header.keyEpoch header.sequence
  total : datagram.length = 80 + header.payloadLength.toNat

theorem decode_iff_layout (header : GmMediaHeader) (datagram : List UInt8) :
    gmMediaDecodeHeader (.view datagram) received = (.ok, header) ↔ Layout header datagram := by
  rw [decode_iff_wire]
  constructor
  · rintro ⟨valid, size, total, wire⟩
    refine ⟨valid, size, wire, ?_, by simp at total; omega⟩
    have fields := wire_fields header (datagram.drop gmMediaHeaderBytes)
    rw [← wire, List.take_append_drop] at fields
    obtain ⟨tail, epoch⟩ := fields.epoch
    obtain ⟨_, sequence⟩ := fields.sequence
    have next := drop_next (m := 36) epoch (by rw [write_u32_be_length])
    rw [sequence] at next
    rw [epoch, ← next, mediaNonce, ← List.append_assoc]
    exact List.take_left' (by rw [List.length_append, write_u32_be_length, write_u64_be_length])
  · rintro ⟨valid, size, aad, _, total⟩
    exact ⟨valid, size, by simp; omega, aad⟩

/-- The slices of an opener are those of the datagram's own offsets. -/
theorem layout_text {header : GmMediaHeader} {datagram : List UInt8} (key : List UInt8)
    (layout : Layout header datagram) :
    authenticText aead key datagram =
      aead.dec key (mediaNonce header.keyEpoch header.sequence) (wireHeader header)
        ((datagram.drop gmMediaHeaderBytes).take header.payloadLength.toNat)
        (datagram.drop (gmMediaHeaderBytes + header.payloadLength.toNat)) := by
  have text : datagram.length - 80 = header.payloadLength.toNat := by have := layout.total; omega
  have tag : datagram.length - 16 = gmMediaHeaderBytes + header.payloadLength.toNat := by
    have := layout.total
    simp
    omega
  rw [authenticText, layout.nonce, layout.aad, text, tag]

theorem protected_layout (aead : Aead) {header : GmMediaHeader} {key payload : List UInt8}
    (valid : validateMediaHeaderFields header = true)
    (size : header.structSize = sizeofGmMediaHeader) (keySize : key.length = gmCryptoKeyBytes)
    (sized : payload.length = header.payloadLength.toNat) :
    Layout header (protectedDatagram aead key header payload) ∧
      authenticText aead key (protectedDatagram aead key header payload) = some payload := by
  have limits := header_limits valid keySize sized
  have front := wire_header_length header
  have textSize := aead.ciphertext_length limits
  have tagSize := aead.tag_length limits
  have layout : Layout header (protectedDatagram aead key header payload) := by
    rw [← decode_iff_layout, decode_iff_wire]
    refine ⟨valid, size, ?_, ?_⟩
    · simp only [protectedDatagram, List.length_append, front, textSize, tagSize, sized]
    · rw [protectedDatagram, List.append_assoc]
      exact List.take_left' front
  refine ⟨layout, ?_⟩
  have round := aead.round_trip limits
  rw [layout_text key layout, protectedDatagram]
  generalize aead.enc key (mediaNonce header.keyEpoch header.sequence) (wireHeader header)
    payload = texts at textSize tagSize round ⊢
  have text : ((wireHeader header ++ texts.1 ++ texts.2).drop gmMediaHeaderBytes).take
      header.payloadLength.toNat = texts.1 := by
    rw [List.append_assoc, List.drop_left' front, List.take_left' (textSize.trans sized)]
  have tag : (wireHeader header ++ texts.1 ++ texts.2).drop
      (gmMediaHeaderBytes + header.payloadLength.toNat) = texts.2 := by
    apply List.drop_left'
    rw [List.length_append, front, textSize, sized]
  rw [text, tag]
  exact round

theorem write_at_middle (front old : List UInt8) {bytes : List UInt8} (back : List UInt8)
    {offset : Nat} (here : front.length = offset) (fits : bytes.length = old.length) :
    writeAt (front ++ old ++ back) offset bytes = front ++ bytes ++ back := by
  have past : (front ++ old).length = offset + bytes.length := by
    rw [List.length_append, here, fits]
  rw [writeAt, List.drop_left' past, List.append_assoc front, List.take_left' here]

end Datagrams

section Probe
variable {evp : Evp} {aead : Aead} (sessionId : Buffer gmSessionIdBytes)
  (streamId kind direction keyEpoch : UInt32) (sequence mediaTimestamp : UInt64)
  (payload : List UInt8) (key : Buffer gmCryptoKeyBytes)

theorem encode_invalid {header : GmMediaHeader} (data : List UInt8)
    (invalid : ¬ validateMediaHeaderFields header = true) :
    (gmMediaEncodeHeader header (.view data)).status = .badMessage := by
  simp [gmMediaEncodeHeader, invalid]

/-- The datagram before its encryption, with the three slices of it that are handed on. -/
theorem unsealed_slices (front : List UInt8) (n : Nat) (sized : front.length = gmMediaHeaderBytes) :
    let datagram := front ++ List.replicate n 0 ++ List.replicate gmMediaTagBytes 0
    datagram.take gmMediaHeaderBytes = front ∧
      (datagram.drop gmMediaHeaderBytes).take n = List.replicate n 0 ∧
      (datagram.drop (gmMediaHeaderBytes + n)).take gmMediaTagBytes =
        List.replicate gmMediaTagBytes 0 := by
  intro datagram
  have past : (front ++ List.replicate n 0).length = gmMediaHeaderBytes + n := by
    rw [List.length_append, sized, List.length_replicate]
  refine ⟨?_, ?_, ?_⟩
  · simp only [datagram, List.append_assoc]
    exact List.take_left' sized
  · simp only [datagram, List.append_assoc]
    rw [List.drop_left' sized, List.take_left' List.length_replicate]
  · rw [List.drop_left' past, List.take_of_length_le (by simp)]

theorem probe_seal_eq (evp : Evp) {header : GmMediaHeader} {outcome : AeadOutcome}
    (same : header = Probe.sealedHeader sessionId streamId kind direction keyEpoch sequence
      mediaTimestamp payload) (valid : validateMediaHeaderFields header = true)
    (made : gmRuntimeAes256GcmEncrypt evp (.view key.bytes)
      (.view (mediaNonce header.keyEpoch header.sequence)) (.view (wireHeader header))
      (.view payload) (.view (List.replicate payload.length 0))
      (.view (List.replicate gmMediaTagBytes 0)) = outcome) :
    Probe.sealMediaDatagram evp sessionId streamId kind direction keyEpoch sequence mediaTimestamp
        payload key =
      if outcome.status ≠ .ok then .error (.runtimeError "AES-GCM encrypt" outcome.status)
      else
        .ok (writeAt
          (writeAt (wireHeader header ++ List.replicate payload.length 0 ++
            List.replicate gmMediaTagBytes 0) gmMediaHeaderBytes outcome.output.data)
          (gmMediaHeaderBytes + payload.length) outcome.tag.data) := by
  have blank : List.replicate (gmMediaHeaderBytes + payload.length + gmMediaTagBytes) (0 : UInt8) =
      List.replicate gmMediaHeaderBytes 0 ++ List.replicate payload.length 0 ++
        List.replicate gmMediaTagBytes 0 := by
    rw [List.replicate_add, List.replicate_add]
  have front := wire_header_length header
  have encoded := encode_layout header (List.replicate gmMediaHeaderBytes 0) valid (by simp)
  have nonce := build_nonce_eq header.sequence (List.replicate gmMediaNonceBytes 0)
    (valid_epoch valid) (by simp)
  rw [List.drop_of_length_le (by simp), List.append_nil] at encoded nonce
  have start := (unsealed_slices (List.replicate gmMediaHeaderBytes 0) payload.length
    List.length_replicate).1
  have written := write_at_middle [] (List.replicate gmMediaHeaderBytes 0)
    (List.replicate payload.length 0 ++ List.replicate gmMediaTagBytes 0)
    (List.length_nil) (front.trans List.length_replicate.symm)
  rw [List.nil_append, List.nil_append, ← List.append_assoc, ← List.append_assoc] at written
  obtain ⟨aadSlice, textSlice, tagSlice⟩ := unsealed_slices (wireHeader header) payload.length front
  have epoch : header.keyEpoch = keyEpoch := by rw [same]; rfl
  have number : header.sequence = sequence := by rw [same]; rfl
  rw [epoch, number] at nonce made
  simp only [Probe.sealMediaDatagram, ← same, blank, start, encoded, view_data, nonce, written,
    aadSlice, textSlice, tagSlice, made]
  rfl

theorem payload_length_small {n : Nat} (small : n ≤ gmMediaMaxPayloadBytes.toNat) :
    n = n.toUInt32.toNat := by
  have bound : n ≤ 1420 := small
  rw [Nat.toUInt32, UInt32.toNat_ofNat']
  omega

/-- The probe seals exactly the valid headers, and as the protected datagram. -/
theorem probe_seal_iff {header : GmMediaHeader}
    (same : header = Probe.sealedHeader sessionId streamId kind direction keyEpoch sequence
      mediaTimestamp payload) (performs : Performs evp aead) (datagram : List UInt8) :
    Probe.sealMediaDatagram evp sessionId streamId kind direction keyEpoch sequence mediaTimestamp
        payload key = .ok datagram ↔
      validateMediaHeaderFields header = true ∧ payload.length = header.payloadLength.toNat ∧
        datagram = protectedDatagram aead key.bytes header payload := by
  have length : header.payloadLength = payload.length.toUInt32 := by rw [same]; rfl
  by_cases valid : validateMediaHeaderFields header = true
  · rw [probe_seal_eq sessionId streamId kind direction keyEpoch sequence mediaTimestamp payload key
      evp same valid rfl]
    by_cases small : payload.length ≤ gmMediaMaxPayloadBytes.toNat
    · have sized : payload.length = header.payloadLength.toNat :=
        length ▸ payload_length_small small
      have limits := header_limits valid key.size sized
      obtain ⟨ok, text, tag⟩ := encrypt_performed performs limits List.length_replicate
        List.length_replicate rfl
      have textSize := aead.ciphertext_length limits
      have tagSize := aead.tag_length limits
      have front := wire_header_length header
      rw [if_neg (not_not.mpr ok), text, tag, view_data,
        write_at_middle _ _ _ front (textSize.trans List.length_replicate.symm)]
      have sealed := write_at_middle (wireHeader header ++ (aead.enc key.bytes
        (mediaNonce header.keyEpoch header.sequence) (wireHeader header) payload).1)
        (List.replicate gmMediaTagBytes 0) []
        (by rw [List.length_append, front, textSize]) (tagSize.trans List.length_replicate.symm)
      rw [List.append_nil, List.append_nil] at sealed
      rw [sealed]
      constructor
      · intro done
        exact ⟨valid, sized, (Except.ok.inj done).symm⟩
      · rintro ⟨_, _, rfl⟩
        rfl
    · have large : gmMediaMaxPayloadBytes.toNat < (GmBytes.view payload).size :=
        Nat.lt_of_not_le small
      rw [if_pos (encrypt_refuses evp large)]
      constructor
      · intro done
        cases done
      · rintro ⟨_, sized, _⟩
        exact absurd (sized ▸ (valid_header_size valid).2.2) small
  · have refused (data : List UInt8) := encode_invalid data valid
    constructor
    · intro done
      simp [Probe.sealMediaDatagram, ← same, refused] at done
    · exact fun ⟨holds, _⟩ => absurd holds valid

end Probe

section Openers
variable {evp : Evp} {aead : Aead} {key datagram : List UInt8}

/-- What both openers ask of the provider for a decoded datagram. -/
theorem opened_iff (performs : Performs evp aead) {header : GmMediaHeader}
    (layout : Layout header datagram) (keySize : key.length = gmCryptoKeyBytes)
    {buffer : List UInt8} (fits : buffer.length = header.payloadLength.toNat)
    {outcome : AeadOutcome}
    (made : gmRuntimeAes256GcmDecrypt evp (.view key)
      (.view (mediaNonce header.keyEpoch header.sequence))
      (.view (datagram.take gmMediaHeaderBytes))
      (.view ((datagram.drop gmMediaHeaderBytes).take header.payloadLength.toNat))
      (.view (datagram.drop (gmMediaHeaderBytes + header.payloadLength.toNat))) (.view buffer) =
        outcome) (plaintext : List UInt8) :
    outcome.status = .ok ∧ outcome.output.data = plaintext ↔
      authenticText aead key datagram = some plaintext := by
  have total := layout.total
  have sized : ((datagram.drop gmMediaHeaderBytes).take header.payloadLength.toNat).length =
      header.payloadLength.toNat := by
    simp
    omega
  have tagSize : (datagram.drop (gmMediaHeaderBytes + header.payloadLength.toNat)).length =
      gmMediaTagBytes := by
    simp
    omega
  have limits := header_limits layout.valid keySize sized
  rw [show datagram.take gmMediaHeaderBytes = _ from layout.aad] at made
  rw [layout_text key layout]
  exact decrypt_performed performs limits (fits.trans sized.symm) tagSize made plaintext

theorem resize_length (bytes : List UInt8) (size : Nat) : (resize bytes size).length = size := by
  simp [resize]
  omega

theorem probe_open_iff (performs : Performs evp aead) (key : Buffer gmCryptoKeyBytes)
    (buffer plaintext : List UInt8) (header : GmMediaHeader) :
    Probe.openMediaDatagram evp datagram key buffer = .ok (header, plaintext) ↔
      gmMediaDecodeHeader (.view datagram) received = (.ok, header) ∧
        authenticText aead key.bytes datagram = some plaintext := by
  unfold Probe.openMediaDatagram
  rcases decoded : gmMediaDecodeHeader (.view datagram) received with ⟨status, h⟩
  by_cases ok : status = .ok
  · subst ok
    have layout := (decode_iff_layout h datagram).mp decoded
    have nonce := build_nonce_eq h.sequence (List.replicate gmMediaNonceBytes 0)
      (valid_epoch layout.valid) (by simp)
    rw [List.drop_of_length_le (by simp), List.append_nil] at nonce
    have tagSlice : (datagram.drop (gmMediaHeaderBytes + h.payloadLength.toNat)).take
        gmMediaTagBytes = datagram.drop (gmMediaHeaderBytes + h.payloadLength.toNat) := by
      apply List.take_of_length_le
      have total := layout.total
      simp
      omega
    have opened := opened_iff performs layout key.size
      (resize_length buffer h.payloadLength.toNat) rfl plaintext
    simp only [nonce, tagSlice, ne_eq, not_true_eq_false, if_false]
    rw [← opened]
    split
    · rename_i failed
      constructor
      · intro done
        cases done
      · exact fun ⟨_, succeeded, _⟩ => absurd succeeded failed
    · rename_i succeeded
      rw [Except.ok.injEq, Prod.mk.injEq, Prod.mk.injEq, eq_self_iff_true, true_and,
        not_not.mp succeeded, eq_self_iff_true, true_and]
  · simp [ok]

end Openers

end GhostMedia.Interop
