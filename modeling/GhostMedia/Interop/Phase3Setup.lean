import GhostMedia.Interop.AudioLoop
import GhostMedia.Interop.Phase3Texts

/- What the two ends of a Phase 3 test agree on before it: the pinned identities, the
   exporter of their TLS session, the cipher, the options of the probe. From it follow the
   keys and every datagram that either of them sends. -/
namespace GhostMedia.Interop
open CString Control Media Crypto Bridge GhostMedia.Runtime

/-- Options that the shared parser lets through in every request. -/
structure Admissible (options : Probe.ProbeOptions) : Prop where
  port : 1 ≤ options.udpPort
  playout : 15 ≤ options.playoutTargetMs ∧ options.playoutTargetMs ≤ 120
  short : options.clientName.length ≤ gmControlClientNameMaxBytes
  utf8 : Utf8.Valid options.clientName
  server : options.expectedServerId = [] ∨ options.expectedServerId = Harness.testServerId

structure Setup where
  options : Probe.ProbeOptions
  admissible : Admissible options
  windowsHost : String
  clientDigest : Buffer gmSpkiDigestBytes
  serverDigest : Buffer gmSpkiDigestBytes
  tlsExport : List UInt8 → Buffer gmTlsExporterOutputBytes
  aead : Aead
  syntheticPcmPacket : Nat → Buffer gmAudioPcmS16lePayloadBytes.toNat
  random : (size : Nat) → Buffer size

def testSession : Buffer gmSessionIdBytes :=
  ⟨(List.range 16).map fun n => UInt8.ofNat (0x11 * n), rfl⟩

theorem test_session_decoded : Probe.decodeSessionId Harness.testSessionId = .ok testSession ∧
    Harness.dataHex Harness.testSessionId = some testSession.bytes := by
  constructor
  · decide
  · decide

namespace Setup
variable (setup : Setup)

/-- The services of the probe and of the harness, each with its own provider. -/
def phase3 (evp : Evp) : Probe.Phase3 where
  evp := evp
  tlsExport context := .ok (setup.tlsExport context)
  clientDigest := setup.clientDigest
  serverDigest := setup.serverDigest
  syntheticPcmPacket := setup.syntheticPcmPacket

def listener (evp : Evp) : Harness.SecureListener where
  evp := evp
  tlsExport context := .ok (setup.tlsExport context)
  clientDigest := setup.clientDigest
  serverDigest := setup.serverDigest
  expectedWindowsHost := setup.windowsHost

/-- The digests of a direction, the sender's first. -/
def sender : MediaDirection → Buffer gmSpkiDigestBytes
  | .windowsToApple => setup.clientDigest
  | .appleToWindows => setup.serverDigest

def receiver : MediaDirection → Buffer gmSpkiDigestBytes
  | .windowsToApple => setup.serverDigest
  | .appleToWindows => setup.clientDigest

def exported (direction : MediaDirection) : Buffer gmTlsExporterOutputBytes :=
  setup.tlsExport (sha256Fixed (preimageFields (contextInput testSession 1 direction 1
    (setup.sender direction) (setup.receiver direction))))

def mediaKey (direction : MediaDirection) : Buffer gmCryptoKeyBytes :=
  fillExact gmCryptoKeyBytes (setup.exported direction).bytes

def pathKey (direction : MediaDirection) : Buffer gmCryptoKeyBytes :=
  fillExact gmCryptoKeyBytes ((setup.exported direction).bytes.drop gmCryptoKeyBytes)

def sessionKeys : List (List UInt8) :=
  [(setup.mediaKey .windowsToApple).bytes, (setup.pathKey .windowsToApple).bytes,
    (setup.mediaKey .appleToWindows).bytes, (setup.pathKey .appleToWindows).bytes]

end Setup

section Keys
variable (setup : Setup) (direction : MediaDirection)

theorem test_context_valid (sender receiver : Buffer gmSpkiDigestBytes) :
    ValidContext (contextInput testSession 1 direction 1 sender receiver) where
  sized := Nat.le_refl _
  version := rfl
  stream := by simp [contextInput]
  epoch := by simp [contextInput]
  direction := by cases direction <;> simp [contextInput, rawMediaDirection]

theorem test_context_built (sender receiver : Buffer gmSpkiDigestBytes) :
    gmCryptoBuildExporterContext (contextInput testSession 1 direction 1 sender receiver)
        (.view (zeros gmTlsExporterContextBytes)) =
      ⟨.ok, .view (sha256Fixed (preimageFields (contextInput testSession 1 direction 1 sender
        receiver))), some gmTlsExporterContextBytes⟩ := by
  have length := sha256_fixed_length (preimageFields (contextInput testSession 1 direction 1 sender
    receiver))
  rw [build_context_eq _ (test_context_valid direction sender receiver) (Nat.le_refl _)]
  simp [writeAt, zeros, length]

/-- Both ends come to the keys of a setup. -/
theorem probe_keys (evp : Evp) :
    Probe.derivePhase3Keys (setup.phase3 evp).tlsExport testSession 1
        (rawMediaDirection direction) 1 (setup.sender direction) (setup.receiver direction) =
      .ok ⟨sizeofGmDirectionalKeys, gmAbiVersion, setup.mediaKey direction,
        setup.pathKey direction⟩ := by
  rw [Probe.derivePhase3Keys, probe_context_eq, test_context_built]
  simp only [ne_eq, not_true_eq_false, decide_false, Bool.or_self, Bool.false_eq_true, if_false,
    view_data, bind, Except.bind, Setup.phase3, split_output_eq, Nat.le_refl]
  rfl

theorem harness_keys (evp : Evp) :
    Harness.derivePhase3Keys (setup.listener evp).tlsExport testSession.bytes 1 direction 1
        (setup.sender direction).bytes (setup.receiver direction).bytes =
      .ok ⟨(setup.mediaKey direction).bytes, (setup.pathKey direction).bytes⟩ := by
  have agree := keys_agree testSession 1 direction 1 (setup.sender direction)
    (setup.receiver direction) (setup.phase3 evp).tlsExport
  rw [probe_keys] at agree
  change Option.some _ = (Harness.derivePhase3Keys (setup.listener evp).tlsExport _ _ _ _ _
    _).toOption.map _ at agree
  cases derived : Harness.derivePhase3Keys (setup.listener evp).tlsExport testSession.bytes 1
      direction 1 (setup.sender direction).bytes (setup.receiver direction).bytes with
  | error refusal =>
    rw [derived] at agree
    cases agree
  | ok keys =>
    rw [derived] at agree
    obtain ⟨media, path⟩ := Prod.mk.inj (Option.some.inj agree)
    exact congrArg Except.ok (congrArg₂ Harness.DirectionalKeys.mk media.symm path.symm)

end Keys

section Datagrams

/-- The headers of the test, with the Swift header of each. -/
def pathHeaderOf (kind direction : UInt32) : GmMediaHeader where
  structSize := sizeofGmMediaHeader
  abiVersion := gmAbiVersion
  kind := kind
  sessionId := testSession
  streamId := 1
  direction := direction
  keyEpoch := 1
  sequence := 1
  mediaTimestamp := 0
  payloadLength := 12

def challengeHeader : GmMediaHeader :=
  pathHeaderOf gmMediaKindPathChallenge gmMediaDirectionWinToApple

def responseHeader : GmMediaHeader :=
  pathHeaderOf gmMediaKindPathResponse gmMediaDirectionAppleToWin

def audioHeader (packetIndex : Nat) : GmMediaHeader where
  structSize := sizeofGmMediaHeader
  abiVersion := gmAbiVersion
  kind := gmMediaKindAudio
  sessionId := testSession
  streamId := 1
  direction := gmMediaDirectionWinToApple
  keyEpoch := 1
  sequence := UInt64.ofNat packetIndex + 2
  mediaTimestamp := Probe.kFirstTimestamp + UInt64.ofNat packetIndex * 240
  payloadLength := gmAudioPcmS16lePayloadBytes

def swiftChallengeHeader : MediaHeader :=
  ⟨.pathChallenge, testSession.bytes, 1, .windowsToApple, 1, 1, 0, 12⟩

def swiftAudioHeader (packetIndex : Nat) : MediaHeader :=
  ⟨.audio, testSession.bytes, 1, .windowsToApple, 1, UInt64.ofNat packetIndex + 2,
    Probe.kFirstTimestamp + UInt64.ofNat packetIndex * 240, gmAudioPcmS16lePayloadBytes⟩

variable (setup : Setup)

namespace Setup

/-- The challenge of the path, its response, and the packets of the synthetic audio. -/
def challenge : List UInt8 :=
  protectedDatagram setup.aead (setup.pathKey .windowsToApple).bytes challengeHeader
    (setup.random 12).bytes

def response : List UInt8 :=
  protectedDatagram setup.aead (setup.pathKey .appleToWindows).bytes responseHeader
    (setup.random 12).bytes

def audio (packetIndex : Nat) : List UInt8 :=
  protectedDatagram setup.aead (setup.mediaKey .windowsToApple).bytes (audioHeader packetIndex)
    (setup.syntheticPcmPacket packetIndex).bytes

def packet (packetIndex : Nat) : Harness.Packet :=
  ⟨setup.audio packetIndex, swiftAudioHeader packetIndex,
    (setup.syntheticPcmPacket packetIndex).bytes⟩

/-- Every datagram of the test. -/
def datagrams : List (List UInt8) :=
  setup.challenge :: setup.response :: (List.range Probe.kPhase3PacketCount).map setup.audio

end Setup

theorem challenge_header_valid : validateMediaHeaderFields challengeHeader = true := by decide
theorem response_header_valid : validateMediaHeaderFields responseHeader = true := by decide

theorem audio_header_valid (packetIndex : Nat) :
    validateMediaHeaderFields (audioHeader packetIndex) = true := by
  simp [validateMediaHeaderFields, audioHeader]

theorem challenge_layout : Layout challengeHeader setup.challenge ∧
    authenticText setup.aead (setup.pathKey .windowsToApple).bytes setup.challenge =
      some (setup.random 12).bytes :=
  protected_layout setup.aead challenge_header_valid rfl (setup.pathKey _).size
    (setup.random 12).size

theorem response_layout : Layout responseHeader setup.response ∧
    authenticText setup.aead (setup.pathKey .appleToWindows).bytes setup.response =
      some (setup.random 12).bytes :=
  protected_layout setup.aead response_header_valid rfl (setup.pathKey _).size
    (setup.random 12).size

theorem audio_layout (packetIndex : Nat) :
    Layout (audioHeader packetIndex) (setup.audio packetIndex) ∧
      authenticText setup.aead (setup.mediaKey .windowsToApple).bytes (setup.audio packetIndex) =
        some (setup.syntheticPcmPacket packetIndex).bytes :=
  protected_layout setup.aead (audio_header_valid packetIndex) rfl (setup.mediaKey _).size
    (setup.syntheticPcmPacket packetIndex).size

theorem layout_unique {header other : GmMediaHeader} {datagram : List UInt8}
    (left : Layout header datagram) (right : Layout other datagram) : header = other := by
  have first := (decode_iff_layout header datagram).mpr left
  rw [(decode_iff_layout other datagram).mpr right] at first
  exact (Prod.mk.inj first).2.symm

/-- A datagram of the test is told by its header. -/
theorem datagram_cases {header : GmMediaHeader} {datagram : List UInt8}
    (member : datagram ∈ setup.datagrams) (layout : Layout header datagram) :
    (header = challengeHeader ∧ datagram = setup.challenge) ∨
      (header = responseHeader ∧ datagram = setup.response) ∨
      ∃ packetIndex < Probe.kPhase3PacketCount,
        header = audioHeader packetIndex ∧ datagram = setup.audio packetIndex := by
  rcases List.mem_cons.mp member with rfl | member
  · exact .inl ⟨layout_unique layout (challenge_layout setup).1, rfl⟩
  rcases List.mem_cons.mp member with rfl | member
  · exact .inr (.inl ⟨layout_unique layout (response_layout setup).1, rfl⟩)
  · obtain ⟨packetIndex, inRange, rfl⟩ := List.mem_map.mp member
    exact .inr (.inr ⟨packetIndex, List.mem_range.mp inRange,
      layout_unique layout (audio_layout setup packetIndex).1, rfl⟩)

theorem packet_numbers {packetIndex : Nat} (small : packetIndex < Probe.kPhase3PacketCount) :
    (audioHeader packetIndex).sequence.toNat = packetIndex + 2 ∧
      (audioHeader packetIndex).mediaTimestamp.toNat = 48000 + packetIndex * 240 := by
  have below : packetIndex < 8 := small
  simp only [audioHeader, Probe.kFirstTimestamp, UInt64.toNat_add, UInt64.toNat_mul,
    UInt64.toNat_ofNat', UInt64.reduceToNat]
  omega

theorem next_timestamp (packetIndex : Nat) :
    (audioHeader packetIndex).mediaTimestamp + 240 =
      (audioHeader (packetIndex + 1)).mediaTimestamp := by
  simp only [audioHeader, UInt64.ofNat_add]
  grind

theorem audio_timestamps {i j : Nat} (small : i < Probe.kPhase3PacketCount)
    (alsoSmall : j < Probe.kPhase3PacketCount)
    (same : (audioHeader i).mediaTimestamp = (audioHeader j).mediaTimestamp) : i = j := by
  have equal := congrArg UInt64.toNat same
  rw [(packet_numbers small).2, (packet_numbers alsoSmall).2] at equal
  omega

end Datagrams

end GhostMedia.Interop
