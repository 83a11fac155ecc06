import GhostMedia.Media.Header

/- The encoder and the decoder against one wire layout. A datagram decodes to a
   header exactly when the header is valid, the length agrees, and encoding the
   header gives back the first 64 bytes. -/
namespace GhostMedia.Media
open CString

@[simp] theorem byte_at_cons_zero (b : UInt8) (rest : List UInt8) : byteAt (b :: rest) 0 = b := rfl

@[simp] theorem byte_at_cons_succ (b : UInt8) (rest : List UInt8) (i : Nat) :
    byteAt (b :: rest) (i + 1) = byteAt rest i := rfl

theorem byte_at_drop (data : List UInt8) (start index : Nat) :
    byteAt (data.drop start) index = byteAt data (start + index) := by
  simp [byteAt, List.getD_eq_getElem?_getD, List.getElem?_drop]

theorem take_eq_map_byte_at {data : List UInt8} {n : Nat} (fits : n ≤ data.length) :
    data.take n = (List.range n).map (byteAt data) := by
  apply List.ext_getElem
  · simpa using fits
  · intro i left right
    have inside : i < data.length := by simp at left; omega
    simp [byteAt, List.getD_eq_getElem?_getD, List.getElem?_eq_getElem inside]

theorem shifted_byte_u32 (v shift : UInt32) (i : Nat) (same : shift.toNat = 8 * i)
    (small : i < 4) : ((v >>> shift) &&& 0xff).toUInt8 = UInt8.ofNat (v.toNat / 256 ^ i) := by
  apply UInt8.toNat_inj.mp
  have power : 256 ^ i = 2 ^ (8 * i) := by rw [Nat.pow_mul]
  have inside : 8 * i % 32 = 8 * i := Nat.mod_eq_of_lt (by omega)
  simp [Nat.shiftRight_eq_div_pow, BigEndian.low_byte, same, power, inside]

theorem write_u32_be_bytes (v : UInt32) : writeU32Be v = BigEndian.bytes 4 v.toNat := by
  have byte := shifted_byte_u32 v
  have last : (v &&& 0xff).toUInt8 = UInt8.ofNat (v.toNat / 256 ^ 0) := by
    simpa using byte 0 0 rfl (by decide)
  rw [BigEndian.bytes_eq_map, writeU32Be, byte 24 3 rfl (by decide), byte 16 2 rfl (by decide),
    byte 8 1 rfl (by decide), last]
  rfl

theorem read_u32_be_value (data : List UInt8) :
    (readU32Be data).toNat =
      BigEndian.value [byteAt data 0, byteAt data 1, byteAt data 2, byteAt data 3] := by
  have h0 := (byteAt data 0).toNat_lt
  have h1 := (byteAt data 1).toNat_lt
  have h2 := (byteAt data 2).toNat_lt
  have h3 := (byteAt data 3).toNat_lt
  simp only [readU32Be, BigEndian.value, List.foldl_cons, List.foldl_nil]
  generalize byteAt data 0 = a, byteAt data 1 = b, byteAt data 2 = c, byteAt data 3 = d at *
  have top : a.toNat * 2 ^ 24 ||| b.toNat * 2 ^ 16 = (a.toNat * 256 + b.toNat) * 2 ^ 16 := by
    rw [BigEndian.or_eq_add (by omega)]; ring
  have next : (a.toNat * 256 + b.toNat) * 2 ^ 16 ||| c.toNat * 2 ^ 8 =
      ((a.toNat * 256 + b.toNat) * 256 + c.toNat) * 2 ^ 8 := by
    rw [BigEndian.or_eq_add (by omega)]; ring
  have last : ((a.toNat * 256 + b.toNat) * 256 + c.toNat) * 2 ^ 8 ||| d.toNat =
      ((a.toNat * 256 + b.toNat) * 256 + c.toNat) * 256 + d.toNat :=
    BigEndian.or_eq_add (by omega)
  have room (x k : Nat) (small : x * 2 ^ k < 2 ^ 32) : x <<< k % 2 ^ 32 = x * 2 ^ k := by
    rw [Nat.shiftLeft_eq, Nat.mod_eq_of_lt small]
  simp only [UInt32.toNat_or, UInt32.toNat_shiftLeft, UInt8.toNat_toUInt32, UInt32.reduceToNat,
    Nat.reduceMod]
  rw [room a.toNat 24 (by omega), room b.toNat 16 (by omega), room c.toNat 8 (by omega),
    top, next, last]
  ring

theorem read_write_u32_be (v : UInt32) (rest : List UInt8) :
    readU32Be (writeU32Be v ++ rest) = v := by
  apply UInt32.toNat_inj.mp
  have spelled : BigEndian.value (writeU32Be v) = v.toNat := by
    rw [write_u32_be_bytes, BigEndian.value_bytes_of_lt v.toNat_lt]
  simpa [read_u32_be_value, writeU32Be] using spelled

theorem write_read_u32_be (data : List UInt8) :
    writeU32Be (readU32Be data) =
      [byteAt data 0, byteAt data 1, byteAt data 2, byteAt data 3] := by
  rw [write_u32_be_bytes, read_u32_be_value]
  exact BigEndian.bytes_value [_, _, _, _]

theorem shifted_byte_u64 (v shift : UInt64) (i : Nat) (same : shift.toNat = 8 * i)
    (small : i < 8) : ((v >>> shift) &&& 0xff).toUInt8 = UInt8.ofNat (v.toNat / 256 ^ i) := by
  apply UInt8.toNat_inj.mp
  have power : 256 ^ i = 2 ^ (8 * i) := by rw [Nat.pow_mul]
  have inside : 8 * i % 64 = 8 * i := Nat.mod_eq_of_lt (by omega)
  simp [Nat.shiftRight_eq_div_pow, BigEndian.low_byte, same, power, inside]

theorem write_u64_be_bytes (v : UInt64) : writeU64Be v = BigEndian.bytes 8 v.toNat := by
  have counted : ([7, 6, 5, 4, 3, 2, 1, 0] : List UInt64) =
      (List.range 8).reverse.map UInt64.ofNat := rfl
  rw [BigEndian.bytes_eq_map, writeU64Be, counted, List.map_map]
  apply List.map_congr_left
  intro i inside
  have small : i < 8 := by simpa using inside
  apply shifted_byte_u64 v _ i _ small
  simp
  omega

/-- The decoder's shift loop reads a big-endian numeral while it fits 64 bits. -/
theorem shift_fold_value (l : List UInt8) (fits : l.length ≤ 8) :
    (l.foldl (fun (value : UInt64) (byte : UInt8) => (value <<< 8) ||| byte.toUInt64) 0).toNat =
      BigEndian.value l := by
  induction l using List.reverseRecOn with
  | nil => rfl
  | append_singleton front b ih =>
    simp only [List.length_append, List.length_cons, List.length_nil] at fits
    have short : front.length ≤ 7 := by omega
    have bound : BigEndian.value front < 2 ^ 56 := by
      calc BigEndian.value front < 256 ^ front.length := BigEndian.value_lt front
        _ ≤ 256 ^ 7 := Nat.pow_le_pow_right (by omega) short
        _ = 2 ^ 56 := by norm_num
    have digit := b.toNat_lt
    have noWrap : BigEndian.value front * 2 ^ 8 % 2 ^ 64 = BigEndian.value front * 2 ^ 8 :=
      Nat.mod_eq_of_lt (by omega)
    rw [List.foldl_append]
    simp only [List.foldl_cons, List.foldl_nil, UInt64.toNat_or, UInt64.toNat_shiftLeft,
      UInt8.toNat_toUInt64, ih (by omega), BigEndian.value_append_one, Nat.shiftLeft_eq,
      UInt64.reduceToNat, Nat.reduceMod]
    rw [noWrap, BigEndian.or_eq_add (by omega)]
    norm_num

theorem read_write_u64_be (v : UInt64) (rest : List UInt8) :
    readU64Be (writeU64Be v ++ rest) = v := by
  apply UInt64.toNat_inj.mp
  have width : (writeU64Be v).length = 8 := by simp [writeU64Be]
  rw [readU64Be, List.take_left' width, shift_fold_value _ (by omega), write_u64_be_bytes,
    BigEndian.value_bytes_of_lt v.toNat_lt]

theorem write_read_u64_be {data : List UInt8} (fits : 8 ≤ data.length) :
    writeU64Be (readU64Be data) = data.take 8 := by
  have width : (data.take 8).length = 8 := by simp; omega
  have spelled := BigEndian.bytes_value (data.take 8)
  rw [width] at spelled
  rw [write_u64_be_bytes, readU64Be, shift_fold_value _ (by omega), spelled]

theorem read_u16_be_eq_zero (data : List UInt8) :
    readU16Be data = 0 ↔ byteAt data 0 = 0 ∧ byteAt data 1 = 0 := by
  have h0 := (byteAt data 0).toNat_lt
  have h1 := (byteAt data 1).toNat_lt
  simp only [readU16Be, ← UInt16.toNat_inj, ← UInt8.toNat_inj]
  generalize byteAt data 0 = a, byteAt data 1 = b at *
  have room : a.toNat <<< 8 % 2 ^ 16 = a.toNat * 2 ^ 8 := by
    rw [Nat.shiftLeft_eq, Nat.mod_eq_of_lt (by omega)]
  have joined : a.toNat * 2 ^ 8 ||| b.toNat = a.toNat * 2 ^ 8 + b.toNat :=
    BigEndian.or_eq_add h1
  simp only [UInt16.toNat_or, UInt16.toNat_shiftLeft, UInt8.toNat_toUInt16, UInt16.reduceToNat,
    Nat.reduceMod, room, joined]
  simp

/-- The 64 bytes the encoder produces, in wire order. -/
def wireHeader (h : GmMediaHeader) : List UInt8 :=
  [71, 77, 65, 49, 1, h.kind.toUInt8] ++ writeU16Be 0 ++ h.sessionId.bytes ++
    writeU32Be h.streamId ++ [h.direction.toUInt8] ++ [0, 0, 0] ++ writeU32Be h.keyEpoch ++
    writeU64Be h.sequence ++ writeU64Be h.mediaTimestamp ++ writeU32Be h.payloadLength ++
    List.replicate 8 0

theorem wire_header_length (h : GmMediaHeader) : (wireHeader h).length = gmMediaHeaderBytes := by
  simp [wireHeader, writeU16Be, writeU32Be, writeU64Be, h.sessionId.size]

theorem encode_layout (h : GmMediaHeader) (data : List UInt8)
    (valid : validateMediaHeaderFields h = true) (room : gmMediaHeaderBytes ≤ data.length) :
    gmMediaEncodeHeader h (.view data) =
      ⟨.ok, .view (wireHeader h ++ data.drop gmMediaHeaderBytes), some gmMediaHeaderBytes⟩ := by
  have enough : ¬ data.length < gmMediaHeaderBytes := by omega
  simp only [gmMediaEncodeHeader, valid, view_readable, view_size, Bool.not_true,
    Bool.false_eq_true, if_false, enough]
  obtain ⟨_, _, kind, ⟨session, size⟩, stream, direction, epoch, seq, ts, len⟩ := h
  -- the copied session id must be spelled out before the fixed offsets can be computed
  match session, size with
  | [b0, b1, b2, b3, b4, b5, b6, b7, b8, b9, b10, b11, b12, b13, b14, b15], _ =>
    simp [writeAt, wireHeader, List.replicate_succ, writeU16Be, writeU32Be, writeU64Be]

/-- The record the decoder reads out of a datagram, whether or not it is accepted. -/
def decodedFields (size : Nat) (data : List UInt8) : GmMediaHeader where
  structSize := size
  abiVersion := gmAbiVersion
  kind := (byteAt data 5).toUInt32
  sessionId := fillExact gmSessionIdBytes (data.drop 8)
  streamId := readU32Be (data.drop 24)
  direction := (byteAt data 28).toUInt32
  keyEpoch := readU32Be (data.drop 32)
  sequence := readU64Be (data.drop 36)
  mediaTimestamp := readU64Be (data.drop 44)
  payloadLength := readU32Be (data.drop 52)

structure FixedBytes (data : List UInt8) : Prop where
  magic : byteAt data 0 = 71 ∧ byteAt data 1 = 77 ∧ byteAt data 2 = 65 ∧ byteAt data 3 = 49
  version : byteAt data 4 = 1
  flags : byteAt data 6 = 0 ∧ byteAt data 7 = 0
  reserved : byteAt data 29 = 0 ∧ byteAt data 30 = 0 ∧ byteAt data 31 = 0
  tail : ∀ index, 56 ≤ index → index < 64 → byteAt data index = 0

theorem valid_header_size {h : GmMediaHeader} (valid : validateMediaHeaderFields h = true) :
    sizeofGmMediaHeader ≤ h.structSize ∧ h.abiVersion = gmAbiVersion ∧
      h.payloadLength ≤ gmMediaMaxPayloadBytes := by
  unfold validateMediaHeaderFields at valid
  split at valid
  · contradiction
  · rename_i checks
    simp at checks
    exact ⟨checks.1.1.1.1, checks.1.1.1.2, by simpa using checks.2⟩

/-- The decoder's two tests of fixed bytes, named. -/
def headMismatch (data : List UInt8) : Bool :=
  byteAt data 0 != 71 || byteAt data 1 != 77 || byteAt data 2 != 65 ||
    byteAt data 3 != 49 || byteAt data 4 != 1 || readU16Be (data.drop 6) != 0 ||
    byteAt data 29 != 0 || byteAt data 30 != 0 || byteAt data 31 != 0

def tailMismatch (data : List UInt8) : Bool :=
  (List.range' 56 8).any fun index => byteAt data index != 0

theorem fixed_bytes_iff (data : List UInt8) :
    FixedBytes data ↔ headMismatch data = false ∧ tailMismatch data = false := by
  constructor
  · intro fixed
    obtain ⟨⟨m0, m1, m2, m3⟩, version, flags, ⟨r0, r1, r2⟩, tail⟩ := fixed
    constructor
    · simp [headMismatch, m0, m1, m2, m3, version, r0, r1, r2, read_u16_be_eq_zero,
        byte_at_drop, flags]
    · simp only [tailMismatch, List.any_eq_false, List.mem_range', bne_iff_ne, ne_eq, not_not]
      rintro index ⟨i, inside, rfl⟩
      exact tail _ (by omega) (by omega)
  · rintro ⟨head, rest⟩
    simp only [headMismatch, Bool.or_eq_false_iff, bne_eq_false_iff_eq, read_u16_be_eq_zero,
      byte_at_drop] at head
    obtain ⟨⟨⟨⟨⟨⟨⟨⟨m0, m1⟩, m2⟩, m3⟩, version⟩, flags⟩, r0⟩, r1⟩, r2⟩ := head
    refine ⟨⟨m0, m1, m2, m3⟩, version, flags, ⟨r0, r1, r2⟩, ?_⟩
    intro index low high
    simp only [tailMismatch, List.any_eq_false, List.mem_range', bne_iff_ne, ne_eq,
      not_not] at rest
    exact rest index ⟨index - 56, by omega, by omega⟩

/-- The decoder's outcome from its five tests. -/
theorem decode_header_eq (data : List UInt8) (out : GmMediaHeader) :
    gmMediaDecodeHeader (.view data) out =
      if out.structSize < sizeofGmMediaHeader then (.badArgument, out)
      else if data.length < gmMediaMinDatagramBytes ∨ data.length > gmMediaMaxDatagramBytes then
        (.badMessage, clearedHeader out.structSize)
      else if headMismatch data then (.badMessage, clearedHeader out.structSize)
      else if tailMismatch data then (.badMessage, clearedHeader out.structSize)
      else if gmMediaHeaderBytes + (decodedFields out.structSize data).payloadLength.toNat +
            gmMediaTagBytes != data.length ||
          !validateMediaHeaderFields (decodedFields out.structSize data) then
        (.badMessage, decodedFields out.structSize data)
      else (.ok, decodedFields out.structSize data) := by
  have unfolded : gmMediaDecodeHeader (.view data) out =
      if out.structSize < sizeofGmMediaHeader || false then (.badArgument, out)
      else if data.length < gmMediaMinDatagramBytes ||
          data.length > gmMediaMaxDatagramBytes then
        (.badMessage, clearedHeader out.structSize)
      else if headMismatch data then (.badMessage, clearedHeader out.structSize)
      else if tailMismatch data then (.badMessage, clearedHeader out.structSize)
      else if gmMediaHeaderBytes + (decodedFields out.structSize data).payloadLength.toNat +
            gmMediaTagBytes != data.length ||
          !validateMediaHeaderFields (decodedFields out.structSize data) then
        (.badMessage, decodedFields out.structSize data)
      else (.ok, decodedFields out.structSize data) := rfl
  rw [unfolded]
  simp only [Bool.or_false, decide_eq_true_eq, Bool.or_eq_true]

theorem valid_kind_direction {h : GmMediaHeader} (valid : validateMediaHeaderFields h = true) :
    h.kind.toNat < 256 ∧ h.direction.toNat < 256 := by
  unfold validateMediaHeaderFields at valid
  split at valid
  · contradiction
  split at valid
  · rename_i kind
    simp only [Bool.and_eq_true, beq_iff_eq] at valid
    rw [kind, valid.1]
    decide
  split at valid
  · rename_i kind
    simp only [Bool.and_eq_true, beq_iff_eq] at valid
    rw [kind, valid.1.1]
    decide
  split at valid
  · rename_i kind
    simp only [Bool.and_eq_true, beq_iff_eq] at valid
    rw [kind, valid.1.1]
    decide
  split at valid
  · rename_i kind
    simp only [Bool.and_eq_true, beq_iff_eq] at valid
    rw [kind, valid.1.1]
    decide
  · contradiction

theorem decode_ok_iff (data : List UInt8) (out h : GmMediaHeader) :
    gmMediaDecodeHeader (.view data) out = (.ok, h) ↔
      gmMediaMinDatagramBytes ≤ data.length ∧ data.length ≤ gmMediaMaxDatagramBytes ∧
      FixedBytes data ∧ h = decodedFields out.structSize data ∧
      data.length = gmMediaHeaderBytes + h.payloadLength.toNat + gmMediaTagBytes ∧
      validateMediaHeaderFields h = true := by
  rw [decode_header_eq, fixed_bytes_iff]
  constructor
  · intro accepted
    split at accepted
    · simp at accepted
    split at accepted
    · simp at accepted
    rename_i sized
    split at accepted
    · simp at accepted
    rename_i head
    split at accepted
    · simp at accepted
    rename_i tail
    split at accepted
    · simp at accepted
    rename_i final
    simp only [Prod.mk.injEq, true_and] at accepted
    subst accepted
    simp only [Bool.or_eq_true, bne_iff_ne, ne_eq, not_or, not_not, Bool.not_eq_true',
      Bool.not_eq_false] at final
    exact ⟨by omega, by omega, ⟨by simpa using head, by simpa using tail⟩, rfl,
      final.1.symm, final.2⟩
  · rintro ⟨low, high, ⟨head, tail⟩, rfl, total, valid⟩
    have size : ¬ out.structSize < sizeofGmMediaHeader := Nat.not_lt.mpr (valid_header_size valid).1
    have sized : ¬ (data.length < gmMediaMinDatagramBytes ∨
        data.length > gmMediaMaxDatagramBytes) := by omega
    rw [if_neg size, if_neg sized, head, tail, if_neg Bool.false_ne_true,
      if_neg Bool.false_ne_true, if_neg]
    simp only [valid, ← total, Bool.not_true, Bool.or_false, bne_self_eq_false,
      Bool.false_eq_true, not_false_eq_true]

theorem fill_exact_bytes {n : Nat} {value : List UInt8} (enough : n ≤ value.length) :
    (fillExact n value).bytes = value.take n := by
  simp [fillExact, Nat.min_eq_left enough]

theorem u8_to_u32_to_u8 (b : UInt8) : b.toUInt32.toUInt8 = b := by
  apply UInt8.toNat_inj.mp
  simp

theorem small_u32_to_u8_to_u32 {v : UInt32} (small : v.toNat < 256) : v.toUInt8.toUInt32 = v := by
  apply UInt32.toNat_inj.mp
  simpa using small

/-- Reading a record and writing it back reproduces the fixed-form header bytes. -/
theorem wire_of_decoded {data : List UInt8} (size : Nat)
    (enough : gmMediaHeaderBytes ≤ data.length) (fixed : FixedBytes data) :
    wireHeader (decodedFields size data) = data.take gmMediaHeaderBytes := by
  obtain ⟨⟨m0, m1, m2, m3⟩, version, flags, ⟨r0, r1, r2⟩, tail⟩ := fixed
  rw [take_eq_map_byte_at enough]
  simp only [gmMediaHeaderBytes] at enough
  have session : (fillExact 16 (data.drop 8)).bytes =
      (List.range 16).map (byteAt (data.drop 8)) := by
    have inside : 16 ≤ (data.drop 8).length := by simp; omega
    rw [fill_exact_bytes inside, take_eq_map_byte_at inside]
  have word (start : Nat) (inside : start + 8 ≤ data.length) :
      writeU64Be (readU64Be (data.drop start)) = (List.range 8).map (byteAt (data.drop start)) := by
    have inside : 8 ≤ (data.drop start).length := by simp; omega
    rw [write_read_u64_be inside, take_eq_map_byte_at inside]
  simp only [wireHeader, decodedFields, session, word 36 (by omega), word 44 (by omega),
    write_read_u32_be, u8_to_u32_to_u8]
  simp [List.range_succ, writeU16Be, List.replicate_succ, byte_at_drop, m0, m1, m2, m3, version,
    flags, r0, r1, r2, tail]

@[simp] theorem write_u16_be_length (v : UInt16) : (writeU16Be v).length = 2 := by
  simp [writeU16Be]

@[simp] theorem write_u32_be_length (v : UInt32) : (writeU32Be v).length = 4 := by
  simp [writeU32Be]

@[simp] theorem write_u64_be_length (v : UInt64) : (writeU64Be v).length = 8 := by
  simp [writeU64Be]

theorem drop_next {data field rest : List UInt8} {n m : Nat} (here : data.drop n = field ++ rest)
    (next : n + field.length = m) : data.drop m = rest := by
  rw [← next, ← List.drop_drop, here, List.drop_left]

/-- What the decoder finds at each offset of a datagram that starts with the wire form. -/
structure WireFields (h : GmMediaHeader) (data : List UInt8) : Prop where
  front : ∃ tail, data = [71, 77, 65, 49, 1, h.kind.toUInt8, 0, 0] ++ tail
  session : ∃ tail, data.drop 8 = h.sessionId.bytes ++ tail
  stream : ∃ tail, data.drop 24 = writeU32Be h.streamId ++ tail
  direction : ∃ tail, data.drop 28 = [h.direction.toUInt8] ++ tail
  reserved : ∃ tail, data.drop 29 = [0, 0, 0] ++ tail
  epoch : ∃ tail, data.drop 32 = writeU32Be h.keyEpoch ++ tail
  sequence : ∃ tail, data.drop 36 = writeU64Be h.sequence ++ tail
  timestamp : ∃ tail, data.drop 44 = writeU64Be h.mediaTimestamp ++ tail
  payload : ∃ tail, data.drop 52 = writeU32Be h.payloadLength ++ tail
  zeros : ∃ tail, data.drop 56 = List.replicate 8 0 ++ tail

theorem wire_fields (h : GmMediaHeader) (rest : List UInt8) :
    WireFields h (wireHeader h ++ rest) := by
  have flags : writeU16Be 0 = [0, 0] := by decide
  have spelled : wireHeader h ++ rest = [71, 77, 65, 49, 1, h.kind.toUInt8, 0, 0] ++
      (h.sessionId.bytes ++ (writeU32Be h.streamId ++ ([h.direction.toUInt8] ++ ([0, 0, 0] ++
        (writeU32Be h.keyEpoch ++ (writeU64Be h.sequence ++ (writeU64Be h.mediaTimestamp ++
          (writeU32Be h.payloadLength ++ (List.replicate 8 0 ++ rest))))))))) := by
    simp only [wireHeader, flags, List.append_assoc, List.cons_append, List.nil_append]
  have front : (wireHeader h ++ rest).drop 0 = _ := spelled
  have session := drop_next (m := 8) front rfl
  have stream := drop_next (m := 24) session (by rw [h.sessionId.size]; rfl)
  have direction := drop_next (m := 28) stream (by rw [write_u32_be_length])
  have reserved := drop_next (m := 29) direction rfl
  have epoch := drop_next (m := 32) reserved rfl
  have sequence := drop_next (m := 36) epoch (by rw [write_u32_be_length])
  have timestamp := drop_next (m := 44) sequence (by rw [write_u64_be_length])
  have payload := drop_next (m := 52) timestamp (by rw [write_u64_be_length])
  have zeros := drop_next (m := 56) payload (by rw [write_u32_be_length])
  exact ⟨⟨_, front⟩, ⟨_, session⟩, ⟨_, stream⟩, ⟨_, direction⟩, ⟨_, reserved⟩, ⟨_, epoch⟩,
    ⟨_, sequence⟩, ⟨_, timestamp⟩, ⟨_, payload⟩, ⟨_, zeros⟩⟩

/-- Reading back the wire form of a valid header returns every field. -/
theorem decoded_of_wire {h : GmMediaHeader} (rest : List UInt8)
    (valid : validateMediaHeaderFields h = true) :
    decodedFields h.structSize (wireHeader h ++ rest) = h := by
  obtain ⟨kindSmall, directionSmall⟩ := valid_kind_direction valid
  have version := (valid_header_size valid).2.1
  have fields := wire_fields h rest
  generalize wireHeader h ++ rest = data at fields
  have kind : byteAt data 5 = h.kind.toUInt8 := by
    obtain ⟨_, front⟩ := fields.front
    rw [front]
    rfl
  have session : fillExact gmSessionIdBytes (data.drop 8) = h.sessionId := by
    obtain ⟨tail, here⟩ := fields.session
    apply buffer_ext
    rw [here, fill_exact_bytes (by simp [h.sessionId.size]), List.take_left' h.sessionId.size]
  have stream : readU32Be (data.drop 24) = h.streamId := by
    obtain ⟨_, here⟩ := fields.stream
    rw [here, read_write_u32_be]
  have direction : byteAt data 28 = h.direction.toUInt8 := by
    obtain ⟨_, here⟩ := fields.direction
    rw [← byte_at_drop data 28 0, here]
    rfl
  have epoch : readU32Be (data.drop 32) = h.keyEpoch := by
    obtain ⟨_, here⟩ := fields.epoch
    rw [here, read_write_u32_be]
  have sequence : readU64Be (data.drop 36) = h.sequence := by
    obtain ⟨_, here⟩ := fields.sequence
    rw [here, read_write_u64_be]
  have timestamp : readU64Be (data.drop 44) = h.mediaTimestamp := by
    obtain ⟨_, here⟩ := fields.timestamp
    rw [here, read_write_u64_be]
  have length : readU32Be (data.drop 52) = h.payloadLength := by
    obtain ⟨_, here⟩ := fields.payload
    rw [here, read_write_u32_be]
  simp only [decodedFields, session, stream, epoch, sequence, timestamp, length, kind,
    direction, small_u32_to_u8_to_u32 kindSmall, small_u32_to_u8_to_u32 directionSmall]
  rw [← version]

theorem fixed_of_wire (h : GmMediaHeader) (rest : List UInt8) :
    FixedBytes (wireHeader h ++ rest) := by
  have fields := wire_fields h rest
  generalize wireHeader h ++ rest = data at fields
  obtain ⟨_, front⟩ := fields.front
  obtain ⟨_, reserved⟩ := fields.reserved
  obtain ⟨_, zeros⟩ := fields.zeros
  refine ⟨?_, ?_, ?_, ⟨?_, ?_, ?_⟩, ?_⟩
  · rw [front]
    exact ⟨rfl, rfl, rfl, rfl⟩
  · rw [front]
    rfl
  · rw [front]
    exact ⟨rfl, rfl⟩
  · rw [← byte_at_drop data 29 0, reserved]; rfl
  · rw [← byte_at_drop data 29 1, reserved]; rfl
  · rw [← byte_at_drop data 29 2, reserved]; rfl
  · intro index low high
    obtain ⟨i, rfl⟩ := Nat.exists_eq_add_of_le low
    have inside : i < (List.replicate 8 (0 : UInt8)).length := by simp; omega
    rw [← byte_at_drop, zeros, byteAt, List.getD_eq_getElem?_getD,
      List.getElem?_append_left inside, List.getElem?_replicate]
    split <;> rfl
theorem decode_iff_wire (data : List UInt8) (out h : GmMediaHeader) :
    gmMediaDecodeHeader (.view data) out = (.ok, h) ↔
      validateMediaHeaderFields h = true ∧ h.structSize = out.structSize ∧
      data.length = gmMediaHeaderBytes + h.payloadLength.toNat + gmMediaTagBytes ∧
      data.take gmMediaHeaderBytes = wireHeader h := by
  rw [decode_ok_iff]
  constructor
  · rintro ⟨low, high, fixed, same, total, valid⟩
    have enough : gmMediaHeaderBytes ≤ data.length := by simp at low ⊢; omega
    have wire := wire_of_decoded out.structSize enough fixed
    exact ⟨valid, by rw [same]; rfl, total, by rw [same, wire]⟩
  · rintro ⟨valid, size, total, wire⟩
    have split : data = wireHeader h ++ data.drop gmMediaHeaderBytes := by
      rw [← wire, List.take_append_drop]
    have payload := (valid_header_size valid).2.2
    have bound : h.payloadLength.toNat ≤ 1420 := payload
    simp only [gmMediaHeaderBytes, gmMediaTagBytes] at total
    have fields := decoded_of_wire (data.drop gmMediaHeaderBytes) valid
    have fixed := fixed_of_wire h (data.drop gmMediaHeaderBytes)
    rw [← split] at fields fixed
    rw [size] at fields
    exact ⟨by simp; omega, by simp; omega, fixed, fields.symm, by simpa using total, valid⟩

theorem encode_eq_iff_wire {h : GmMediaHeader} (valid : validateMediaHeaderFields h = true)
    (front : List UInt8) (sized : front.length = gmMediaHeaderBytes) :
    (∀ buffer : List UInt8, gmMediaHeaderBytes ≤ buffer.length →
      gmMediaEncodeHeader h (.view buffer) =
        ⟨.ok, .view (front ++ buffer.drop gmMediaHeaderBytes), some gmMediaHeaderBytes⟩) ↔
      front = wireHeader h := by
  constructor
  · intro encodes
    have blank : gmMediaHeaderBytes ≤ (List.replicate gmMediaHeaderBytes (0 : UInt8)).length := by
      simp
    have run := encodes _ blank
    rw [encode_layout h _ valid blank] at run
    simpa using run.symm
  · rintro rfl buffer room
    exact encode_layout h buffer valid room

theorem decode_iff_encode (data : List UInt8) (out h : GmMediaHeader) :
    gmMediaDecodeHeader (.view data) out = (.ok, h) ↔
      validateMediaHeaderFields h = true ∧ h.structSize = out.structSize ∧
      data.length = gmMediaHeaderBytes + h.payloadLength.toNat + gmMediaTagBytes ∧
      ∀ buffer : List UInt8, gmMediaHeaderBytes ≤ buffer.length →
        gmMediaEncodeHeader h (.view buffer) =
          ⟨.ok, .view (data.take gmMediaHeaderBytes ++ buffer.drop gmMediaHeaderBytes),
            some gmMediaHeaderBytes⟩ := by
  rw [decode_iff_wire]
  constructor
  · rintro ⟨valid, size, total, wire⟩
    have sized : (data.take gmMediaHeaderBytes).length = gmMediaHeaderBytes := by
      rw [wire, wire_header_length]
    exact ⟨valid, size, total, (encode_eq_iff_wire valid _ sized).mpr wire⟩
  · rintro ⟨valid, size, total, encodes⟩
    have sized : (data.take gmMediaHeaderBytes).length = gmMediaHeaderBytes := by
      simp [total]; omega
    exact ⟨valid, size, total, (encode_eq_iff_wire valid _ sized).mp encodes⟩

/-- Acceptance by the decoder is exactly validity, agreement of the total length,
    and equality with the encoder's bytes; the inverse laws follow. -/
theorem media_header_codec_bijection :
    (∀ (data : List UInt8) (out h : GmMediaHeader),
      gmMediaDecodeHeader (.view data) out = (.ok, h) ↔
        validateMediaHeaderFields h = true ∧ h.structSize = out.structSize ∧
        data.length = gmMediaHeaderBytes + h.payloadLength.toNat + gmMediaTagBytes ∧
        ∀ buffer : List UInt8, gmMediaHeaderBytes ≤ buffer.length →
          gmMediaEncodeHeader h (.view buffer) =
            ⟨.ok, .view (data.take gmMediaHeaderBytes ++ buffer.drop gmMediaHeaderBytes),
              some gmMediaHeaderBytes⟩) ∧
    (∀ (data : List UInt8) (out h : GmMediaHeader),
      gmMediaDecodeHeader (.view data) out = (.ok, h) →
        gmMediaMinDatagramBytes ≤ data.length ∧ data.length ≤ gmMediaMaxDatagramBytes) ∧
    (∀ (h out : GmMediaHeader) (buffer body : List UInt8),
      validateMediaHeaderFields h = true → out.structSize = h.structSize →
      gmMediaHeaderBytes ≤ buffer.length →
      body.length = h.payloadLength.toNat + gmMediaTagBytes →
        ∃ encoded, gmMediaEncodeHeader h (.view buffer) =
            ⟨.ok, .view encoded, some gmMediaHeaderBytes⟩ ∧
          gmMediaDecodeHeader (.view (encoded.take gmMediaHeaderBytes ++ body)) out = (.ok, h)) ∧
    (∀ (data buffer : List UInt8) (out h : GmMediaHeader),
      gmMediaDecodeHeader (.view data) out = (.ok, h) → gmMediaHeaderBytes ≤ buffer.length →
        gmMediaBuildAad h (.view buffer) =
          ⟨.ok, .view (data.take gmMediaHeaderBytes ++ buffer.drop gmMediaHeaderBytes),
            some gmMediaHeaderBytes⟩) ∧
    (∀ (left right : List UInt8) (out h : GmMediaHeader),
      gmMediaDecodeHeader (.view left) out = (.ok, h) →
      gmMediaDecodeHeader (.view right) out = (.ok, h) →
        left.take gmMediaHeaderBytes = right.take gmMediaHeaderBytes) := by
  refine ⟨decode_iff_encode, ?_, ?_, ?_, ?_⟩
  · intro data out h accepted
    obtain ⟨low, high, _⟩ := (decode_ok_iff data out h).mp accepted
    exact ⟨low, high⟩
  · intro h out buffer body valid size room total
    refine ⟨_, encode_layout h buffer valid room, ?_⟩
    rw [List.take_left' (wire_header_length h), decode_iff_wire]
    refine ⟨valid, size.symm, ?_, List.take_left' (wire_header_length h)⟩
    simp only [List.length_append, wire_header_length, total]
    omega
  · intro data buffer out h accepted room
    exact ((decode_iff_encode data out h).mp accepted).2.2.2 buffer room
  · intro left right out h first second
    rw [((decode_iff_wire left out h).mp first).2.2.2,
      ((decode_iff_wire right out h).mp second).2.2.2]

end GhostMedia.Media
