import GhostMedia.Interop.ProtectedMedia

/- Datagrams across the two endpoints: the Swift header against the core's record, the
   Apple harness's seal and open against the probe's, and the round trips. -/
namespace GhostMedia.Interop
open CString Media Bridge StateLogic GhostMedia.Runtime

section Swift

theorem media_kind_raw (kind : MediaKind) : mediaKind (rawMediaKind kind) = .ok kind := by
  cases kind <;> rfl

theorem media_direction_raw (direction : MediaDirection) :
    mediaDirection (rawMediaDirection direction) = .ok direction := by
  cases direction <;> rfl

theorem valid_enumerations {header : GmMediaHeader}
    (valid : validateMediaHeaderFields header = true) :
    (∃ kind, header.kind = rawMediaKind kind) ∧
      ∃ direction, header.direction = rawMediaDirection direction := by
  unfold validateMediaHeaderFields at valid
  split at valid
  · contradiction
  split at valid
  · rename_i kind
    simp only [Bool.and_eq_true, beq_iff_eq] at valid
    exact ⟨⟨.audio, kind⟩, .windowsToApple, valid.1⟩
  split at valid
  · rename_i kind
    simp only [Bool.and_eq_true, beq_iff_eq] at valid
    exact ⟨⟨.pathChallenge, kind⟩, .windowsToApple, valid.1.1⟩
  split at valid
  · rename_i kind
    simp only [Bool.and_eq_true, beq_iff_eq] at valid
    exact ⟨⟨.pathResponse, kind⟩, .appleToWindows, valid.1.1⟩
  split at valid
  · rename_i kind
    simp only [Bool.and_eq_true, beq_iff_eq] at valid
    exact ⟨⟨.feedback, kind⟩, .appleToWindows, valid.1.1⟩
  · contradiction

/-- The record of a Swift header whose session id has the right size. -/
theorem raw_media_header_iff (header : MediaHeader) (raw : GmMediaHeader) :
    rawMediaHeader header = .ok raw ↔
      raw.structSize = sizeofGmMediaHeader ∧ raw.abiVersion = gmAbiVersion ∧
      raw.kind = rawMediaKind header.kind ∧ raw.sessionId.bytes = header.sessionId ∧
      raw.streamId = header.streamId ∧ raw.direction = rawMediaDirection header.direction ∧
      raw.keyEpoch = header.keyEpoch ∧ raw.sequence = header.sequence ∧
      raw.mediaTimestamp = header.mediaTimestamp ∧ raw.payloadLength = header.payloadLength := by
  unfold rawMediaHeader
  constructor
  · intro made
    split at made
    · cases made
    · rename_i sized
      obtain rfl := Except.ok.inj made
      have whole : (fillExact gmSessionIdBytes header.sessionId).bytes = header.sessionId := by
        rw [fill_exact_bytes (not_not.mp sized).ge, List.take_of_length_le (not_not.mp sized).le]
      exact ⟨rfl, rfl, rfl, whole, rfl, rfl, rfl, rfl, rfl, rfl⟩
  · obtain ⟨size, version, kind, session, stream, direction, epoch, sequence, timestamp, length⟩ :=
      raw
    rintro ⟨rfl, rfl, rfl, same, rfl, rfl, rfl, rfl, rfl, rfl⟩
    have sized : header.sessionId.length = gmSessionIdBytes := same ▸ session.size
    have whole : fillExact gmSessionIdBytes header.sessionId = session := by
      apply buffer_ext
      rw [fill_exact_bytes sized.ge, List.take_of_length_le sized.le, same]
    rw [if_neg (not_not.mpr sized), whole]

/-- The Swift decoder delivers the header whose record the core has decoded. -/
theorem decode_media_header_iff (datagram : List UInt8) (header : MediaHeader) :
    decodeMediaHeader datagram = .ok header ↔
      ∃ raw, gmMediaDecodeHeader (.view datagram) received = (.ok, raw) ∧
        rawMediaHeader header = .ok raw := by
  have record : { clearedHeader sizeofGmMediaHeader with abiVersion := 0 } = received := rfl
  rw [decodeMediaHeader, record]
  rcases decoded : gmMediaDecodeHeader (.view datagram) received with ⟨status, raw⟩
  by_cases ok : status = .ok
  · subst ok
    have layout := (decode_iff_layout raw datagram).mp decoded
    obtain ⟨⟨kind, kindEq⟩, direction, directionEq⟩ := valid_enumerations layout.valid
    have version := (valid_header_size layout.valid).2.1
    simp only [requireOk, if_true, kindEq, directionEq, media_kind_raw, media_direction_raw, bind,
      Except.bind, pure, Except.pure, Except.ok.injEq, Prod.mk.injEq, true_and, exists_eq_left']
    rw [raw_media_header_iff, kindEq, directionEq]
    constructor
    · rintro rfl
      exact ⟨layout.size, version, rfl, rfl, rfl, rfl, rfl, rfl, rfl, rfl⟩
    · rintro ⟨_, _, kinds, session, stream, directions, epoch, sequence, timestamp, length⟩
      have sameKind := congrArg mediaKind kinds
      rw [media_kind_raw, media_kind_raw] at sameKind
      have sameDirection := congrArg mediaDirection directions
      rw [media_direction_raw, media_direction_raw] at sameDirection
      rw [Except.ok.inj sameKind, Except.ok.inj sameDirection, session, stream, epoch, sequence,
        timestamp, length]
  · constructor
    · intro done
      simp [requireOk, ok, bind, Except.bind] at done
    · rintro ⟨_, same, _⟩
      exact absurd (Prod.mk.inj same).1 ok

theorem map_error_ok_iff {ε δ α : Type} {step : Except ε α} {f : ε → δ} {a : α} :
    step.mapError f = .ok a ↔ step = .ok a := by
  cases step with
  | error _ => simp [Except.mapError]
  | ok _ => simp [Except.mapError]

theorem map_ok_iff {ε α β : Type} {step : Except ε α} {f : α → β} {b : β} :
    step.map f = .ok b ↔ ∃ a, step = .ok a ∧ f a = b := by
  cases step with
  | error _ => simp [Except.map]
  | ok _ => simp [Except.map]

theorem require_ok_iff {status : GmStatus} {operation : String} {a : Unit} :
    requireOk status operation = .ok a ↔ status = .ok := by
  unfold requireOk
  split <;> simp [*]

theorem require_runtime_ok_iff {status : GmStatus} {operation : String} {a : Unit} :
    AppleAesGcm.requireRuntimeOk status operation = .ok a ↔ status = .ok := by
  unfold AppleAesGcm.requireRuntimeOk
  split <;> simp [*]

theorem encoded_header_iff (header : MediaHeader) (operation : String) (bytes : List UInt8) :
    (do
      let rawHeader ← rawMediaHeader header
      let result := gmMediaEncodeHeader rawHeader (.view (zeros gmMediaHeaderBytes))
      requireOk result.status operation
      return result.output.data.take (result.written.getD 0)) = Except.ok bytes ↔
      ∃ raw, rawMediaHeader header = .ok raw ∧ validateMediaHeaderFields raw = true ∧
        bytes = wireHeader raw := by
  have whole (raw : GmMediaHeader) : (wireHeader raw).take 64 = wireHeader raw :=
    List.take_of_length_le (wire_header_length raw).le
  simp only [then_ok_iff, require_ok_iff]
  constructor
  · rintro ⟨raw, made, _, ok, rest⟩
    by_cases valid : validateMediaHeaderFields raw = true
    · have layout := encode_layout raw (zeros gmMediaHeaderBytes) valid (by simp [zeros])
      rw [layout] at rest
      refine ⟨raw, made, valid, ?_⟩
      rw [← Except.ok.inj rest]
      simp [zeros, whole]
    · rw [encode_invalid _ valid] at ok
      cases ok
  · rintro ⟨raw, made, valid, rfl⟩
    have layout := encode_layout raw (zeros gmMediaHeaderBytes) valid (by simp [zeros])
    refine ⟨raw, made, (), by rw [layout], ?_⟩
    rw [layout]
    simp [zeros, whole, pure, Except.pure]

theorem build_media_aad_iff (header : MediaHeader) (aad : List UInt8) :
    buildMediaAad header = .ok aad ↔
      ∃ raw, rawMediaHeader header = .ok raw ∧ validateMediaHeaderFields raw = true ∧
        aad = wireHeader raw := encoded_header_iff header "gm_media_build_aad" aad

/-- What is authenticated with a header is its encoding. -/
theorem encode_media_header_iff (header : MediaHeader) (bytes : List UInt8) :
    encodeMediaHeader header = .ok bytes ↔ buildMediaAad header = .ok bytes :=
  (encoded_header_iff header "gm_media_encode_header" bytes).trans
    (build_media_aad_iff header bytes).symm

theorem build_media_nonce_eq {keyEpoch : UInt32} (sequence : UInt64) (epoch : keyEpoch ≠ 0) :
    buildMediaNonce keyEpoch sequence = .ok (mediaNonce keyEpoch sequence) := by
  have run := build_nonce_eq sequence (zeros gmMediaNonceBytes) epoch (by simp [zeros])
  rw [List.drop_of_length_le (by simp [zeros]), List.append_nil] at run
  rw [buildMediaNonce, run]
  rfl

theorem validate_iff {key nonce aad payload : List UInt8} {tag : Option (List UInt8)}
    {a : Unit} :
    AppleAesGcm.validate key nonce aad payload tag = .ok a ↔
      WithinLimits key nonce aad payload ∧ ∀ bytes ∈ tag, bytes.length = gmMediaTagBytes := by
  unfold AppleAesGcm.validate
  constructor
  · intro passed
    split at passed
    · cases passed
    rename_i keySize
    split at passed
    · cases passed
    rename_i nonceSize
    split at passed
    · cases passed
    rename_i aadSize
    split at passed
    · cases passed
    rename_i payloadSize
    refine ⟨⟨not_not.mp keySize, not_not.mp nonceSize, not_lt.mp aadSize,
      not_lt.mp payloadSize⟩, ?_⟩
    intro bytes here
    obtain rfl := Option.mem_def.mp here
    by_contra other
    change (if bytes.length ≠ gmMediaTagBytes then _ else _) = _ at passed
    rw [if_pos other] at passed
    cases passed
  · rintro ⟨limits, tagSize⟩
    have payloadSize : payload.length ≤ 1420 := limits.payload
    rw [if_neg (not_not.mpr limits.key), if_neg (not_not.mpr limits.nonce),
      if_neg (not_lt.mpr limits.aad), if_neg (not_lt.mpr payloadSize)]
    cases tag with
    | none => rfl
    | some bytes => exact if_neg (not_not.mpr (tagSize bytes rfl))

theorem seal_payload_iff {evp : Evp} {aead : Aead} (performs : Performs evp aead)
    (plaintext key nonce aad : List UInt8) (made : AppleAesGcm.SealedPayload) :
    AppleAesGcm.sealPayload evp plaintext key nonce aad = .ok made ↔
      WithinLimits key nonce aad plaintext ∧
        made.ciphertext = (aead.enc key nonce aad plaintext).1 ∧
        made.tag = (aead.enc key nonce aad plaintext).2 := by
  unfold AppleAesGcm.sealPayload
  simp only [then_ok_iff, validate_iff, require_runtime_ok_iff]
  constructor
  · rintro ⟨_, ⟨limits, _⟩, _, _, rest⟩
    obtain ⟨_, text, tag⟩ := encrypt_performed performs limits List.length_replicate
      List.length_replicate rfl
    obtain rfl := Except.ok.inj rest
    exact ⟨limits, text, congrArg GmBytes.data tag⟩
  · rintro ⟨limits, textEq, tagEq⟩
    obtain ⟨ok, text, tag⟩ := encrypt_performed performs limits List.length_replicate
      List.length_replicate rfl
    refine ⟨(), ⟨limits, by simp⟩, (), ok, ?_⟩
    obtain ⟨ciphertext, bytes⟩ := made
    cases textEq
    cases tagEq
    exact congrArg₂ (fun text tag => Except.ok (AppleAesGcm.SealedPayload.mk text tag)) text
      (congrArg GmBytes.data tag)

/-- The Apple harness seals like the probe: valid headers, as the protected datagram. -/
theorem harness_seal_iff {evp : Evp} {aead : Aead} (performs : Performs evp aead)
    (header : MediaHeader) (plaintext key datagram : List UInt8) :
    Harness.sealMedia evp header plaintext key = .ok datagram ↔
      ∃ raw, rawMediaHeader header = .ok raw ∧ validateMediaHeaderFields raw = true ∧
        WithinLimits key (mediaNonce raw.keyEpoch raw.sequence) (wireHeader raw) plaintext ∧
        datagram = protectedDatagram aead key raw plaintext := by
  unfold Harness.sealMedia
  simp only [then_ok_iff, map_error_ok_iff, build_media_aad_iff, seal_payload_iff performs]
  constructor
  · rintro ⟨aad, ⟨raw, made, valid, rfl⟩, nonce, built, texts, ⟨limits, text, tag⟩, rest⟩
    obtain ⟨_, _, _, _, _, _, epoch, sequence, _⟩ := (raw_media_header_iff header raw).mp made
    rw [← epoch, ← sequence, build_media_nonce_eq _ (valid_epoch valid)] at built
    obtain rfl := Except.ok.inj built
    refine ⟨raw, made, valid, limits, ?_⟩
    rw [← Except.ok.inj rest, text, tag]
    rfl
  · rintro ⟨raw, made, valid, limits, rfl⟩
    obtain ⟨_, _, _, _, _, _, epoch, sequence, _⟩ := (raw_media_header_iff header raw).mp made
    refine ⟨_, ⟨raw, made, valid, rfl⟩, mediaNonce raw.keyEpoch raw.sequence, ?_, ⟨_, _⟩,
      ⟨limits, rfl, rfl⟩, rfl⟩
    rw [← epoch, ← sequence, build_media_nonce_eq _ (valid_epoch valid)]

theorem open_payload_iff {evp : Evp} (sealedPayload : AppleAesGcm.SealedPayload)
    (key nonce aad plaintext : List UInt8) {outcome : AeadOutcome}
    (made : gmRuntimeAes256GcmDecrypt evp (.view key) (.view nonce) (.view aad)
      (.view sealedPayload.ciphertext) (.view sealedPayload.tag)
      (.view (zeros sealedPayload.ciphertext.length)) = outcome) :
    AppleAesGcm.openPayload evp sealedPayload key nonce aad = .ok plaintext ↔
      (WithinLimits key nonce aad sealedPayload.ciphertext ∧
        sealedPayload.tag.length = gmMediaTagBytes) ∧
        outcome.status = .ok ∧ outcome.output.data = plaintext := by
  unfold AppleAesGcm.openPayload
  simp only [then_ok_iff, validate_iff, made]
  constructor
  · rintro ⟨_, ⟨limits, tagSize⟩, rest⟩
    refine ⟨⟨limits, tagSize _ rfl⟩, ?_⟩
    split at rest
    · cases rest
    · obtain ⟨_, ok, done⟩ := (then_ok_iff _ _ _).mp rest
      exact ⟨require_runtime_ok_iff.mp ok, Except.ok.inj done⟩
  · rintro ⟨⟨limits, tagSize⟩, ok, rfl⟩
    refine ⟨(), ⟨limits, fun bytes here => by cases here; exact tagSize⟩, ?_⟩
    rw [ok]
    rfl

/-- The rest of `openMedia` after a decoded header, whose length always agrees. -/
theorem harness_open_decoded (evp : Evp) {key datagram : List UInt8} {header : MediaHeader}
    {raw : GmMediaHeader} (decoded : decodeMediaHeader datagram = .ok header)
    (made : rawMediaHeader header = .ok raw) (layout : Layout raw datagram) :
    Harness.openMedia evp datagram key =
      ((AppleAesGcm.openPayload evp
        ⟨(datagram.drop gmMediaHeaderBytes).take raw.payloadLength.toNat,
          datagram.drop (gmMediaHeaderBytes + raw.payloadLength.toNat)⟩
        key (mediaNonce raw.keyEpoch raw.sequence)
        (datagram.take gmMediaHeaderBytes)).mapError .crypto).map (Prod.mk header) := by
  obtain ⟨_, _, _, _, _, _, epoch, sequence, _, length⟩ := (raw_media_header_iff header raw).mp made
  have total : datagram.length =
      gmMediaHeaderBytes + header.payloadLength.toNat + gmMediaTagBytes := by
    have sized := layout.total
    rw [length] at sized
    simp
    omega
  have nonce := build_media_nonce_eq raw.sequence (valid_epoch layout.valid)
  rw [epoch, sequence] at nonce
  rw [Harness.openMedia, decoded, epoch, sequence, length]
  simp only [Except.mapError, bind, Except.bind, total, ne_eq, not_true_eq_false, if_false,
    pure, Except.pure, nonce, Nat.add_sub_cancel_left]
  split <;> simp [Except.map, *]

/-- Like the probe, the Apple harness opens what the cipher accepts. -/
theorem harness_open_iff {evp : Evp} {aead : Aead} (performs : Performs evp aead)
    (key datagram plaintext : List UInt8) (header : MediaHeader) :
    Harness.openMedia evp datagram key = .ok (header, plaintext) ↔
      key.length = gmCryptoKeyBytes ∧ decodeMediaHeader datagram = .ok header ∧
        authenticText aead key datagram = some plaintext := by
  cases decoded : decodeMediaHeader datagram with
  | error refusal =>
    rw [Harness.openMedia, decoded]
    simp [Except.mapError, bind, Except.bind]
  | ok found =>
    obtain ⟨raw, core, made⟩ := (decode_media_header_iff datagram found).mp decoded
    have layout := (decode_iff_layout raw datagram).mp core
    have total := layout.total
    have sized : ((datagram.drop gmMediaHeaderBytes).take raw.payloadLength.toNat).length =
        raw.payloadLength.toNat := by
      simp
      omega
    have tagSize : (datagram.drop (gmMediaHeaderBytes + raw.payloadLength.toNat)).length =
        gmMediaTagBytes := by
      simp
      omega
    have buffer : (zeros ((datagram.drop gmMediaHeaderBytes).take
        raw.payloadLength.toNat).length).length = raw.payloadLength.toNat :=
      List.length_replicate.trans sized
    rw [harness_open_decoded evp decoded made layout]
    simp only [map_ok_iff, map_error_ok_iff, open_payload_iff _ _ _ _ _ rfl, Prod.mk.injEq,
      Except.ok.injEq]
    constructor
    · rintro ⟨text, ⟨⟨limits, _⟩, opened⟩, rfl, rfl⟩
      exact ⟨limits.key, rfl, (opened_iff performs layout limits.key buffer rfl text).mp opened⟩
    · rintro ⟨keySize, rfl, authentic⟩
      have limits := header_limits layout.valid keySize sized
      have opened := (opened_iff performs layout keySize buffer rfl plaintext).mpr authentic
      rw [← show datagram.take gmMediaHeaderBytes = _ from layout.aad] at limits
      exact ⟨plaintext, ⟨⟨limits, tagSize⟩, opened⟩, rfl, rfl⟩

end Swift

theorem encode_accepts_iff (header : GmMediaHeader) :
    (gmMediaEncodeHeader header (.view (zeros gmMediaHeaderBytes))).status = .ok ↔
      validateMediaHeaderFields header = true := by
  by_cases valid : validateMediaHeaderFields header = true
  · simp [encode_layout header (zeros gmMediaHeaderBytes) valid (by simp [zeros]), valid]
  · rw [encode_invalid _ valid]
    simp [valid]

/-- A protected datagram opens on both sides. -/
theorem protected_datagram_opens {evp : Evp} {aead : Aead} (performs : Performs evp aead)
    {raw : GmMediaHeader} {header : MediaHeader} (key : Buffer gmCryptoKeyBytes)
    {payload : List UInt8} (made : rawMediaHeader header = .ok raw)
    (valid : validateMediaHeaderFields raw = true)
    (sized : payload.length = raw.payloadLength.toNat) :
    (∀ buffer, Probe.openMediaDatagram evp (protectedDatagram aead key.bytes raw payload) key
      buffer = .ok (raw, payload)) ∧
    Harness.openMedia evp (protectedDatagram aead key.bytes raw payload) key.bytes =
      .ok (header, payload) := by
  have size := ((raw_media_header_iff header raw).mp made).1
  obtain ⟨layout, authentic⟩ := protected_layout aead valid size key.size sized
  have decoded := (decode_iff_layout raw _).mpr layout
  constructor
  · intro buffer
    exact (probe_open_iff performs key buffer payload raw).mpr ⟨decoded, authentic⟩
  · have swift := (decode_media_header_iff _ header).mpr ⟨raw, decoded, made⟩
    exact (harness_open_iff performs _ _ payload header).mpr ⟨key.size, swift, authentic⟩

/-- What the probe or the Apple harness seals with a key, both open with it to the same
    header and payload; and both open only a datagram that the cipher accepts under the
    header, nonce, text and tag standing in it. -/
theorem protected_datagrams_round_trip {sealing opening : Evp} {aead : Aead}
    (sealer : Performs sealing aead) (opener : Performs opening aead) :
    (∀ (sessionId : Buffer gmSessionIdBytes) (streamId kind direction keyEpoch : UInt32)
      (sequence mediaTimestamp : UInt64) (payload : List UInt8) (key : Buffer gmCryptoKeyBytes)
      (header : GmMediaHeader),
      header = Probe.sealedHeader sessionId streamId kind direction keyEpoch sequence
        mediaTimestamp payload →
      ((gmMediaEncodeHeader header (.view (zeros gmMediaHeaderBytes))).status = .ok →
        payload.length < 2 ^ 32 →
          ∃ datagram, Probe.sealMediaDatagram sealing sessionId streamId kind direction keyEpoch
            sequence mediaTimestamp payload key = .ok datagram) ∧
      ∀ datagram buffer,
        Probe.sealMediaDatagram sealing sessionId streamId kind direction keyEpoch sequence
            mediaTimestamp payload key = .ok datagram →
          Probe.openMediaDatagram opening datagram key buffer = .ok (header, payload) ∧
          ∃ swiftHeader, rawMediaHeader swiftHeader = .ok header ∧
            Harness.openMedia opening datagram key.bytes = .ok (swiftHeader, payload)) ∧
    (∀ (header : MediaHeader) (raw : GmMediaHeader) (plaintext : List UInt8)
      (key : Buffer gmCryptoKeyBytes),
      rawMediaHeader header = .ok raw →
      (gmMediaEncodeHeader raw (.view (zeros gmMediaHeaderBytes))).status = .ok →
      plaintext.length = header.payloadLength.toNat →
        ∃ datagram, Harness.sealMedia sealing header plaintext key.bytes = .ok datagram ∧
          Harness.openMedia opening datagram key.bytes = .ok (header, plaintext) ∧
          ∀ buffer, Probe.openMediaDatagram opening datagram key buffer = .ok (raw, plaintext)) ∧
    (∀ (datagram buffer plaintext : List UInt8) (key : Buffer gmCryptoKeyBytes)
      (header : GmMediaHeader),
      Probe.openMediaDatagram opening datagram key buffer = .ok (header, plaintext) →
        authenticText aead key.bytes datagram = some plaintext) ∧
    ∀ (datagram key plaintext : List UInt8) (header : MediaHeader),
      Harness.openMedia opening datagram key = .ok (header, plaintext) →
        authenticText aead key datagram = some plaintext := by
  refine ⟨?_, ?_, ?_, ?_⟩
  · intro sessionId streamId kind direction keyEpoch sequence mediaTimestamp payload key header same
    constructor
    · intro accepted short
      have valid := (encode_accepts_iff header).mp accepted
      have sized : payload.length = header.payloadLength.toNat := by
        rw [same]
        change payload.length = payload.length.toUInt32.toNat
        rw [Nat.toUInt32, UInt32.toNat_ofNat', Nat.mod_eq_of_lt short]
      exact ⟨_, (probe_seal_iff sessionId streamId kind direction keyEpoch sequence mediaTimestamp
        payload key same sealer _).mpr ⟨valid, sized, rfl⟩⟩
    · intro datagram buffer done
      obtain ⟨valid, sized, rfl⟩ := (probe_seal_iff sessionId streamId kind direction keyEpoch
        sequence mediaTimestamp payload key same sealer datagram).mp done
      obtain ⟨⟨swiftKind, kindEq⟩, swiftDirection, directionEq⟩ := valid_enumerations valid
      have made : rawMediaHeader ⟨swiftKind, header.sessionId.bytes, header.streamId,
          swiftDirection, header.keyEpoch, header.sequence, header.mediaTimestamp,
          header.payloadLength⟩ = .ok header := by
        rw [raw_media_header_iff]
        refine ⟨?_, ?_, kindEq, rfl, rfl, directionEq, rfl, rfl, rfl, rfl⟩
        · rw [same]; rfl
        · rw [same]; rfl
      obtain ⟨probe, harness⟩ := protected_datagram_opens opener key made valid sized
      exact ⟨probe buffer, _, made, harness⟩
  · intro header raw plaintext key made accepted sized
    have valid := (encode_accepts_iff raw).mp accepted
    have length := ((raw_media_header_iff header raw).mp made).2.2.2.2.2.2.2.2.2
    rw [← length] at sized
    obtain ⟨probe, harness⟩ := protected_datagram_opens opener key made valid sized
    exact ⟨_, (harness_seal_iff sealer header plaintext key.bytes _).mpr
      ⟨raw, made, valid, header_limits valid key.size sized, rfl⟩, harness, probe⟩
  · intro datagram buffer plaintext key header opened
    exact ((probe_open_iff opener key buffer plaintext header).mp opened).2
  · intro datagram key plaintext header opened
    exact ((harness_open_iff opener key datagram plaintext header).mp opened).2.2

/-- A cipher that answers the locked vector of the runtime tests as AES-256-GCM does. -/
def lockedKeystream : List UInt8 :=
  [0x66, 0xb1, 0x8e, 0xc9, 0xb3, 0x65, 0x49, 0x64, 0xca, 0xa0, 0x24, 0x0a]

def lockedTag : List UInt8 :=
  [0xd8, 0x59, 0x31, 0xd5, 0x33, 0xd9, 0xa3, 0x5a, 0x11, 0x71, 0x2f, 0x14, 0x08, 0x21, 0xb2, 0xf4]

def lockedMask (text : List UInt8) : List UInt8 :=
  text.mapIdx fun index byte => byte ^^^ lockedKeystream.getD index 0

theorem locked_mask_twice (text : List UInt8) : lockedMask (lockedMask text) = text := by
  have twice (byte mask : UInt8) : byte ^^^ mask ^^^ mask = byte := by
    rw [UInt8.xor_assoc, UInt8.xor_self, UInt8.xor_zero]
  apply List.ext_getElem?
  intro index
  rw [lockedMask, lockedMask, List.getElem?_mapIdx, List.getElem?_mapIdx]
  cases text[index]? with
  | none => rfl
  | some byte => exact congrArg some (twice byte _)

def lockedAead : Aead where
  enc _ _ _ plaintext := (lockedMask plaintext, lockedTag)
  dec _ _ _ ciphertext tag := if tag = lockedTag then some (lockedMask ciphertext) else none
  round_trip _ := by simp [locked_mask_twice]
  ciphertext_length _ := by simp [lockedMask]
  tag_length _ := rfl
  plaintext_length _ := by
    intro authentic
    split at authentic
    · obtain rfl := Option.some.inj authentic
      simp [lockedMask]
    · cases authentic

def lockedEvp : Evp := fun before call =>
  match call with
  | .encryptUpdate text => ⟨1, lockedMask text, text.length⟩
  | .decryptUpdate text => ⟨1, lockedMask text, text.length⟩
  | .ctrlGetTag _ => ⟨1, lockedTag, 0⟩
  | .decryptFinal => ⟨if before.getLast? = some (.ctrlSetTag lockedTag) then 1 else 0, [], 0⟩
  | _ => ⟨1, [], 0⟩

theorem locked_succeeds {calls : List EvpCall} (absent : .decryptFinal ∉ calls) :
    Succeeded lockedEvp calls := by
  intro before call after split
  cases call with
  | decryptFinal => exact absurd (by simp [split]) absent
  | _ => rfl

theorem locked_performs : Performs lockedEvp lockedAead where
  encryptOpens _ := by
    apply locked_succeeds
    unfold encryptSetup
    split <;> simp
  encryptUpdates _ _ := rfl
  encryptEnds _ := rfl
  getsTag _ := rfl
  decryptOpens _ := by
    apply locked_succeeds
    unfold decryptSetup
    split <;> simp
  decryptUpdates {_ _ _ text} _ _ := by
    refine ⟨lockedMask text, rfl, fun tag plaintext authentic => ?_⟩
    change (if tag = lockedTag then some (lockedMask text) else none) = _ at authentic
    split at authentic
    · exact Option.some.inj authentic
    · cases authentic
  setsTag _ _ := rfl
  decryptEnds {_ _ _ _ tag} _ _ := by
    refine ⟨_, rfl, ?_⟩
    by_cases same : tag = lockedTag
    · simp [lockedAead, same]
    · simp [lockedAead, same]

def lockedSessionId : Buffer gmSessionIdBytes := Crypto.vectorInput.sessionId

def lockedPayload : List UInt8 := [0, 1, 2, 3, 4, 5, 6, 7, 8, 9, 10, 11]

theorem locked_datagram_round_trips :
    ∃ datagram header,
      Probe.sealMediaDatagram lockedEvp lockedSessionId 1 gmMediaKindPathChallenge
        gmMediaDirectionWinToApple 1 1 0 lockedPayload (zero _) = .ok datagram ∧
      Harness.openMedia lockedEvp datagram (zero gmCryptoKeyBytes).bytes =
        .ok (header, lockedPayload) := by
  obtain ⟨probe, _⟩ := protected_datagrams_round_trip locked_performs locked_performs
  obtain ⟨seals, opens⟩ := probe lockedSessionId 1 gmMediaKindPathChallenge
    gmMediaDirectionWinToApple 1 1 0 lockedPayload (zero _) _ rfl
  obtain ⟨datagram, made⟩ := seals (by decide) (by decide)
  obtain ⟨_, header, _, opened⟩ := opens datagram [] made
  exact ⟨datagram, header, made, opened⟩

end GhostMedia.Interop
