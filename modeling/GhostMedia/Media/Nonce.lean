import GhostMedia.Media.HeaderCodec

/- The nonce of a media datagram, `gm_media_build_nonce` of gm_media.cpp. -/
namespace GhostMedia.Media

def gmMediaBuildNonce (keyEpoch : UInt32) (sequence : UInt64) (output : GmBytes) :
    GmStatus × GmBytes :=
  if !hasReadableData output then (.badArgument, output)
  else if keyEpoch = 0 then (.badMessage, output)
  else if output.size < gmMediaNonceBytes then (.bufferTooSmall, output)
  else
    match output with
    | .null _ => (.badArgument, output)
    | .view data =>
      let data := writeAt data 0 (writeU32Be keyEpoch)
      (.ok, .view (writeAt data 4 (writeU64Be sequence)))

/-- The twelve bytes of a nonce. -/
def mediaNonce (keyEpoch : UInt32) (sequence : UInt64) : List UInt8 :=
  writeU32Be keyEpoch ++ writeU64Be sequence

@[simp] theorem media_nonce_length (keyEpoch : UInt32) (sequence : UInt64) :
    (mediaNonce keyEpoch sequence).length = gmMediaNonceBytes := by
  rw [mediaNonce, List.length_append, write_u32_be_length, write_u64_be_length]

theorem build_nonce_eq {keyEpoch : UInt32} (sequence : UInt64) (data : List UInt8)
    (epoch : keyEpoch ≠ 0) (room : gmMediaNonceBytes ≤ data.length) :
    gmMediaBuildNonce keyEpoch sequence (.view data) =
      (.ok, .view (mediaNonce keyEpoch sequence ++ data.drop gmMediaNonceBytes)) := by
  have enough : ¬ data.length < gmMediaNonceBytes := Nat.not_lt.mpr room
  have epochSize := write_u32_be_length keyEpoch
  have sequenceSize := write_u64_be_length sequence
  simp only [gmMediaBuildNonce, view_readable, view_size, Bool.not_true, Bool.false_eq_true,
    if_false, epoch, enough, writeAt, mediaNonce, epochSize, sequenceSize]
  simp [List.drop_append, epochSize]

theorem write_u32_be_injective {a b : UInt32} (same : writeU32Be a = writeU32Be b) : a = b := by
  rw [← read_write_u32_be a [], ← read_write_u32_be b [], same]

theorem write_u64_be_injective {a b : UInt64} (same : writeU64Be a = writeU64Be b) : a = b := by
  rw [← read_write_u64_be a [], ← read_write_u64_be b [], same]

theorem media_nonce_injective {e f : UInt32} {n m : UInt64}
    (same : mediaNonce e n = mediaNonce f m) : e = f ∧ n = m := by
  have size : (writeU32Be e).length = (writeU32Be f).length := by
    rw [write_u32_be_length, write_u32_be_length]
  obtain ⟨epochs, sequences⟩ := List.append_inj same size
  exact ⟨write_u32_be_injective epochs, write_u64_be_injective sequences⟩

end GhostMedia.Media
