import GhostMedia.Core.Sha256
import GhostMedia.Media.Nonce

/- The TLS exporter context of gm_crypto.cpp, the split of the exporter's output into
   directional keys, and the separation of keys and nonces: no two packets of different
   coordinates have both the context and the nonce in common. -/
namespace GhostMedia.Crypto
open CString Media

def kExporterContextPrefix : List UInt8 := ascii "ghostmedia/1"

def appendBytes (destination : List UInt8) (offset : Nat) (source : List UInt8) :
    List UInt8 × Nat :=
  (writeAt destination offset source, offset + source.length)

def appendU32Be (destination : List UInt8) (offset : Nat) (value : UInt32) : List UInt8 × Nat :=
  (writeAt destination offset (writeU32Be value), offset + 4)

/-- The array `preimage` and the offset behind its last field. -/
def exporterPreimage (input : GmCryptoExporterContextInput) : List UInt8 × Nat :=
  let (preimage, offset) := appendBytes (List.replicate 101 0) 0 kExporterContextPrefix
  let (preimage, offset) := appendBytes preimage offset input.sessionId.bytes
  let (preimage, offset) := appendU32Be preimage offset input.streamId
  let (preimage, offset) := (writeAt preimage offset [input.direction.toUInt8], offset + 1)
  let (preimage, offset) := appendU32Be preimage offset input.keyEpoch
  let (preimage, offset) := appendBytes preimage offset input.senderSpkiDigest.bytes
  appendBytes preimage offset input.receiverSpkiDigest.bytes

def gmCryptoBuildExporterContext (input : GmCryptoExporterContextInput) (output : GmBytes) :
    EncodeResult :=
  if !hasReadableData output || input.structSize < sizeofGmCryptoExporterContextInput ||
      input.abiVersion ≠ gmAbiVersion then
    ⟨.badArgument, output, none⟩
  else if input.streamId = 0 || input.keyEpoch = 0 ||
      (input.direction ≠ gmMediaDirectionWinToApple &&
        input.direction ≠ gmMediaDirectionAppleToWin) then
    ⟨.badMessage, output, some gmTlsExporterContextBytes⟩
  else if output.size < gmTlsExporterContextBytes then
    ⟨.bufferTooSmall, output, some gmTlsExporterContextBytes⟩
  else
    match output with
    | .null _ => ⟨.badArgument, output, some gmTlsExporterContextBytes⟩
    | .view data =>
      let (preimage, offset) := exporterPreimage input
      if offset ≠ preimage.length then ⟨.internal, output, some gmTlsExporterContextBytes⟩
      else
        ⟨.ok, .view (writeAt data 0 (sha256Fixed preimage)), some gmTlsExporterContextBytes⟩

def gmCryptoSplitExporterOutput (exporterOutput : GmBytes) (outKeys : GmDirectionalKeys) :
    GmStatus × GmDirectionalKeys :=
  if outKeys.structSize < sizeofGmDirectionalKeys || !hasReadableData exporterOutput then
    (.badArgument, outKeys)
  else if exporterOutput.size ≠ gmTlsExporterOutputBytes then (.badMessage, outKeys)
  else
    (.ok,
      { outKeys with
        abiVersion := gmAbiVersion
        mediaKey := fillExact gmCryptoKeyBytes exporterOutput.data
        pathKey := fillExact gmCryptoKeyBytes (exporterOutput.data.drop gmCryptoKeyBytes) })

/-- An input that `gm_crypto_build_exporter_context` does not refuse. -/
structure ValidContext (input : GmCryptoExporterContextInput) : Prop where
  sized : sizeofGmCryptoExporterContextInput ≤ input.structSize
  version : input.abiVersion = gmAbiVersion
  stream : input.streamId ≠ 0
  epoch : input.keyEpoch ≠ 0
  direction : input.direction = gmMediaDirectionWinToApple ∨
    input.direction = gmMediaDirectionAppleToWin

/-- The fields of the preimage, in order. -/
def preimageFields (input : GmCryptoExporterContextInput) : List UInt8 :=
  kExporterContextPrefix ++ input.sessionId.bytes ++ writeU32Be input.streamId ++
    [input.direction.toUInt8] ++ writeU32Be input.keyEpoch ++ input.senderSpkiDigest.bytes ++
    input.receiverSpkiDigest.bytes

/-- The array and the offset once the fields of `front` have been written. -/
def laidOut (front : List UInt8) : List UInt8 × Nat :=
  (front ++ List.replicate (101 - front.length) 0, front.length)

theorem write_laid_out (front field : List UInt8) :
    writeAt (laidOut front).1 (laidOut front).2 field = (laidOut (front ++ field)).1 := by
  have rest : (laidOut front).1.drop (front.length + field.length) =
      List.replicate (101 - (front ++ field).length) 0 := by
    rw [laidOut, ← List.drop_drop, List.drop_left, List.drop_replicate, List.length_append,
      Nat.sub_sub]
  have taken : (laidOut front).1.take front.length = front := by rw [laidOut, List.take_left]
  calc writeAt (laidOut front).1 (laidOut front).2 field
      = (laidOut front).1.take front.length ++ field ++
          (laidOut front).1.drop (front.length + field.length) := rfl
    _ = (laidOut (front ++ field)).1 := by rw [taken, rest, laidOut]

theorem append_bytes_laid_out (front field : List UInt8) :
    appendBytes (laidOut front).1 (laidOut front).2 field = laidOut (front ++ field) := by
  rw [appendBytes, write_laid_out]
  simp [laidOut]

theorem append_u32_be_laid_out (front : List UInt8) (value : UInt32) :
    appendU32Be (laidOut front).1 (laidOut front).2 value =
      laidOut (front ++ writeU32Be value) := by
  rw [appendU32Be, write_laid_out]
  simp [laidOut]

theorem append_byte_laid_out (front : List UInt8) (byte : UInt8) :
    (writeAt (laidOut front).1 (laidOut front).2 [byte], (laidOut front).2 + 1) =
      laidOut (front ++ [byte]) := by
  rw [write_laid_out]
  simp [laidOut]

theorem preimage_fields_length (input : GmCryptoExporterContextInput) :
    (preimageFields input).length = 101 := by
  have session := input.sessionId.size
  have sender := input.senderSpkiDigest.size
  have receiver := input.receiverSpkiDigest.size
  have alpn : kExporterContextPrefix.length = 12 := by decide
  simp only [preimageFields, List.length_append, write_u32_be_length, session, sender, receiver,
    alpn, List.length_singleton]
  rfl

/-- The fields fill the array, so the offset always ends at its size. -/
theorem exporter_preimage_eq (input : GmCryptoExporterContextInput) :
    exporterPreimage input = (preimageFields input, 101) := by
  have start : (List.replicate 101 (0 : UInt8), 0) = laidOut [] := rfl
  have filled : exporterPreimage input = laidOut (preimageFields input) := by
    calc exporterPreimage input
        = appendBytes
            (laidOut (kExporterContextPrefix ++ input.sessionId.bytes ++
              writeU32Be input.streamId ++ [input.direction.toUInt8] ++
              writeU32Be input.keyEpoch ++ input.senderSpkiDigest.bytes)).1
            (laidOut (kExporterContextPrefix ++ input.sessionId.bytes ++
              writeU32Be input.streamId ++ [input.direction.toUInt8] ++
              writeU32Be input.keyEpoch ++ input.senderSpkiDigest.bytes)).2
            input.receiverSpkiDigest.bytes := by
          rw [← append_bytes_laid_out, ← append_u32_be_laid_out, ← append_byte_laid_out,
            ← append_u32_be_laid_out, ← append_bytes_laid_out,
            ← List.nil_append kExporterContextPrefix, ← append_bytes_laid_out]
          rfl
      _ = laidOut (preimageFields input) := append_bytes_laid_out _ _
  rw [filled, laidOut, preimage_fields_length]
  simp

theorem build_context_eq {input : GmCryptoExporterContextInput} (data : List UInt8)
    (valid : ValidContext input) (room : gmTlsExporterContextBytes ≤ data.length) :
    gmCryptoBuildExporterContext input (.view data) =
      ⟨.ok, .view (writeAt data 0 (sha256Fixed (preimageFields input))),
        some gmTlsExporterContextBytes⟩ := by
  have sized : ¬ input.structSize < sizeofGmCryptoExporterContextInput :=
    Nat.not_lt.mpr valid.sized
  have enough : ¬ data.length < gmTlsExporterContextBytes := Nat.not_lt.mpr room
  have known : ¬ (input.direction ≠ gmMediaDirectionWinToApple ∧
      input.direction ≠ gmMediaDirectionAppleToWin) := by
    intro neither
    rcases valid.direction with forward | reverse
    · exact neither.1 forward
    · exact neither.2 reverse
  simp only [gmCryptoBuildExporterContext, view_readable, view_size, sized, valid.version,
    valid.stream, valid.epoch, known, enough, exporter_preimage_eq, preimage_fields_length,
    Bool.not_true, decide_false, Bool.or_false, Bool.false_eq_true, if_false, ne_eq,
    not_true_eq_false, Bool.and_eq_true, decide_eq_true_eq, Bool.or_eq_true, or_self]

/-- The input of the locked vectors, for packets from Windows to Apple. -/
def vectorInput : GmCryptoExporterContextInput where
  structSize := sizeofGmCryptoExporterContextInput
  abiVersion := gmAbiVersion
  streamId := 1
  direction := gmMediaDirectionWinToApple
  keyEpoch := 1
  sessionId := ⟨[0x00, 0x11, 0x22, 0x33, 0x44, 0x55, 0x66, 0x77, 0x88, 0x99, 0xaa, 0xbb, 0xcc, 0xdd,
    0xee, 0xff], rfl⟩
  senderSpkiDigest := ⟨(List.range 32).map fun index => UInt8.ofNat index, by decide⟩
  receiverSpkiDigest := ⟨(List.range 32).map fun index => UInt8.ofNat (0xf0 - index), by decide⟩

/-- The context that the core's own test expects of it. -/
example : (gmCryptoBuildExporterContext vectorInput (.view (List.replicate 32 0))).output =
    .view [0xea, 0xe8, 0x2e, 0xf2, 0x0c, 0x13, 0x1d, 0x0f, 0x5b, 0x03, 0xbb, 0x06, 0x9b, 0x25, 0xd9,
      0x2b, 0x1d, 0x59, 0x4e, 0xd0, 0x41, 0xc0, 0x2a, 0x8f, 0x47, 0x43, 0x67, 0xc6, 0x82, 0x08,
      0x7a, 0x02] := by
  decide +kernel

/-- A record of the right size and version is valid or refused as a bad message. -/
theorem build_context_cases {input : GmCryptoExporterContextInput}
    (sized : sizeofGmCryptoExporterContextInput ≤ input.structSize)
    (version : input.abiVersion = gmAbiVersion) :
    ValidContext input ∨ ∀ data : List UInt8, gmCryptoBuildExporterContext input (.view data) =
      ⟨.badMessage, .view data, some gmTlsExporterContextBytes⟩ := by
  by_cases refused : (input.streamId = 0 || input.keyEpoch = 0 ||
      (input.direction ≠ gmMediaDirectionWinToApple &&
        input.direction ≠ gmMediaDirectionAppleToWin)) = true
  · right
    intro data
    have small : ¬ input.structSize < sizeofGmCryptoExporterContextInput := Nat.not_lt.mpr sized
    unfold gmCryptoBuildExporterContext
    rw [if_neg (by simp [small, version]), if_pos refused]
  · left
    simp only [Bool.or_eq_true, Bool.and_eq_true, decide_eq_true_eq, not_or, not_and_or,
      not_not] at refused
    exact ⟨sized, version, refused.1.1, refused.1.2, refused.2⟩

theorem build_context_never_internal (input : GmCryptoExporterContextInput) (output : GmBytes) :
    (gmCryptoBuildExporterContext input output).status ≠ .internal := by
  unfold gmCryptoBuildExporterContext
  split
  · simp
  split
  · simp
  split
  · simp
  split
  · simp
  · rw [exporter_preimage_eq]
    simp [preimage_fields_length]

theorem known_direction_byte {a b : UInt32}
    (left : a = gmMediaDirectionWinToApple ∨ a = gmMediaDirectionAppleToWin)
    (right : b = gmMediaDirectionWinToApple ∨ b = gmMediaDirectionAppleToWin)
    (same : a.toUInt8 = b.toUInt8) : a = b := by
  rcases left with rfl | rfl <;> rcases right with rfl | rfl
  · rfl
  · exact absurd same (by decide)
  · exact absurd same (by decide)
  · rfl

/-- Every field has a fixed width, so the preimage determines them all. -/
theorem preimage_fields_injective {left right : GmCryptoExporterContextInput}
    (validLeft : ValidContext left) (validRight : ValidContext right)
    (same : preimageFields left = preimageFields right) :
    left.sessionId = right.sessionId ∧ left.streamId = right.streamId ∧
      left.direction = right.direction ∧ left.keyEpoch = right.keyEpoch ∧
      left.senderSpkiDigest = right.senderSpkiDigest ∧
      left.receiverSpkiDigest = right.receiverSpkiDigest := by
  have width (a b : UInt32) : (writeU32Be a).length = (writeU32Be b).length := by
    rw [write_u32_be_length, write_u32_be_length]
  have sized {n : Nat} (a b : Buffer n) : a.bytes.length = b.bytes.length :=
    a.size.trans b.size.symm
  obtain ⟨front, receiver⟩ := List.append_inj' same (sized _ _)
  obtain ⟨front, sender⟩ := List.append_inj' front (sized _ _)
  obtain ⟨front, epoch⟩ := List.append_inj' front (width _ _)
  obtain ⟨front, direction⟩ := List.append_inj' front rfl
  obtain ⟨front, stream⟩ := List.append_inj' front (width _ _)
  obtain ⟨_, session⟩ := List.append_inj' front (sized _ _)
  exact ⟨buffer_ext session, write_u32_be_injective stream,
    known_direction_byte validLeft.direction validRight.direction (List.cons.inj direction).1,
    write_u32_be_injective epoch, buffer_ext sender, buffer_ext receiver⟩

end GhostMedia.Crypto
