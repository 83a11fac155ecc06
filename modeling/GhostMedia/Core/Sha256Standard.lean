import GhostMedia.Core.Sha256
import GhostMedia.Media.HeaderCodec
import GhostMedia.Foundation.Sha2

/- `sha256_fixed` against the standard's SHA-256: constants, words, schedule, rounds and
   padding, each stage on its own, and the digest of every input that fits the buffer. -/
namespace GhostMedia.Crypto
open Media BitStrings

/-- `constant` is the fraction of the root of `n`, below its whole part. -/
def RootConstant (degree n : Nat) (constant : UInt32) : Prop :=
  ∃ whole < 8, (whole * 2 ^ 32 + constant.toNat) ^ degree ≤ n * 2 ^ (32 * degree) ∧
    n * 2 ^ (32 * degree) < (whole * 2 ^ 32 + constant.toNat + 1) ^ degree

instance (degree n : Nat) (constant : UInt32) : Decidable (RootConstant degree n constant) := by
  unfold RootConstant
  infer_instance

theorem root_constant_eq {degree n : Nat} {constant : UInt32}
    (root : RootConstant degree n constant) : constant.toBitVec = Sha2.rootFraction degree n := by
  obtain ⟨whole, _, below, above⟩ := root
  rw [Sha2.root_fraction_eq below above]
  apply BitVec.eq_of_toNat_eq
  rw [BitVec.toNat_ofNat, Nat.mul_add_mod', Nat.mod_eq_of_lt constant.toNat_lt]
  rfl

theorem root_constants_eq {degree : Nat} {ns : List Nat} {constants : List UInt32}
    (roots : List.Forall₂ (RootConstant degree) ns constants) :
    constants.map UInt32.toBitVec = ns.map (Sha2.rootFraction degree) := by
  induction roots with
  | nil => rfl
  | cons first _ ih => rw [List.map_cons, List.map_cons, ih, root_constant_eq first]

theorem round_constants_standard :
    kSha256RoundConstants.map UInt32.toBitVec = Sha2.roundConstants := by
  rw [Sha2.roundConstants, Sha2.primes_by_factor]
  exact root_constants_eq (by decide +kernel)

theorem initial_state_standard : kSha256InitialState.map UInt32.toBitVec =
    [2, 3, 5, 7, 11, 13, 17, 19].map (Sha2.rootFraction 2) :=
  root_constants_eq (by decide +kernel)

theorem rotate_right_standard (v : UInt32) {shift : UInt32} (more : 0 < shift.toNat)
    (less : shift.toNat < 32) :
    (rotateRight v shift).toBitVec = v.toBitVec.rotateRight shift.toNat := by
  have right : shift.toNat % 32 = shift.toNat := Nat.mod_eq_of_lt less
  have left : (32 - shift).toNat % 32 = 32 - shift.toNat := by
    have amount : (32 - shift).toNat = 32 - shift.toNat :=
      UInt32.toNat_sub_of_le _ _ (UInt32.le_iff_toNat_le.mpr (Nat.le_of_lt less))
    rw [amount]
    omega
  apply BitVec.eq_of_toNat_eq
  rw [BitVec.rotateRight_def, right, BitVec.toNat_or, BitVec.toNat_ushiftRight,
    BitVec.toNat_shiftLeft]
  rw [rotateRight, show (v >>> shift ||| v <<< (32 - shift)).toBitVec.toNat =
    (v >>> shift ||| v <<< (32 - shift)).toNat from rfl, UInt32.toNat_or, UInt32.toNat_shiftRight,
    UInt32.toNat_shiftLeft, right, left]
  rfl

theorem of_bit_vec_eq {v : UInt32} {x : Sha2.Word} (same : v.toBitVec = x) : v = .ofBitVec x :=
  UInt32.toBitVec_inj.mp same

theorem two_rotations (v : UInt32) {r₁ r₂ : UInt32} (range₁ : 0 < r₁.toNat ∧ r₁.toNat < 32)
    (range₂ : 0 < r₂.toNat ∧ r₂.toNat < 32) (shifted : UInt32) :
    (rotateRight v r₁ ^^^ rotateRight v r₂ ^^^ shifted).toBitVec =
      v.toBitVec.rotateRight r₁.toNat ^^^ v.toBitVec.rotateRight r₂.toNat ^^^ shifted.toBitVec := by
  rw [UInt32.toBitVec_xor, UInt32.toBitVec_xor, rotate_right_standard v range₁.1 range₁.2,
    rotate_right_standard v range₂.1 range₂.2]

theorem three_rotations (v : UInt32) {r₁ r₂ r₃ : UInt32} (range₁ : 0 < r₁.toNat ∧ r₁.toNat < 32)
    (range₂ : 0 < r₂.toNat ∧ r₂.toNat < 32) (range₃ : 0 < r₃.toNat ∧ r₃.toNat < 32) :
    (rotateRight v r₁ ^^^ rotateRight v r₂ ^^^ rotateRight v r₃).toBitVec =
      v.toBitVec.rotateRight r₁.toNat ^^^ v.toBitVec.rotateRight r₂.toNat ^^^
        v.toBitVec.rotateRight r₃.toNat := by
  rw [two_rotations v range₁ range₂, rotate_right_standard v range₃.1 range₃.2]

theorem big_sigma0_standard (v : UInt32) :
    rotateRight v 2 ^^^ rotateRight v 13 ^^^ rotateRight v 22 =
      .ofBitVec (Sha2.bigSigma0 v.toBitVec) :=
  of_bit_vec_eq (three_rotations v (by decide) (by decide) (by decide))

theorem big_sigma1_standard (v : UInt32) :
    rotateRight v 6 ^^^ rotateRight v 11 ^^^ rotateRight v 25 =
      .ofBitVec (Sha2.bigSigma1 v.toBitVec) :=
  of_bit_vec_eq (three_rotations v (by decide) (by decide) (by decide))

theorem small_sigma0_standard (v : UInt32) :
    rotateRight v 7 ^^^ rotateRight v 18 ^^^ (v >>> 3) =
      .ofBitVec (Sha2.smallSigma0 v.toBitVec) :=
  of_bit_vec_eq (two_rotations v (by decide) (by decide) (v >>> 3))

theorem small_sigma1_standard (v : UInt32) :
    rotateRight v 17 ^^^ rotateRight v 19 ^^^ (v >>> 10) =
      .ofBitVec (Sha2.smallSigma1 v.toBitVec) :=
  of_bit_vec_eq (two_rotations v (by decide) (by decide) (v >>> 10))

/-- The source's words for the standard's working variables. -/
def wordList (v : Sha2.Words) : List UInt32 :=
  [.ofBitVec v.a, .ofBitVec v.b, .ofBitVec v.c, .ofBitVec v.d, .ofBitVec v.e, .ofBitVec v.f,
    .ofBitVec v.g, .ofBitVec v.h]

theorem initial_state_words : kSha256InitialState = wordList Sha2.initial := by
  have words : kSha256InitialState =
      (kSha256InitialState.map UInt32.toBitVec).map UInt32.ofBitVec := by
    rw [List.map_map]
    exact (List.map_id _).symm
  rw [words, initial_state_standard]
  rfl

theorem sha256_round_standard (constant scheduled : UInt32) (v : Sha2.Words) :
    sha256Round (wordList v) constant scheduled =
      wordList (Sha2.round constant.toBitVec scheduled.toBitVec v) := by
  unfold sha256Round wordList
  simp only [List.getD_cons_zero, List.getD_cons_succ, big_sigma0_standard, big_sigma1_standard]
  rfl

theorem schedule_word_standard (schedule : List UInt32) :
    scheduleWord schedule =
      .ofBitVec ((schedule.getD (schedule.length - 16) 0).toBitVec +
        Sha2.smallSigma0 (schedule.getD (schedule.length - 15) 0).toBitVec +
        (schedule.getD (schedule.length - 7) 0).toBitVec +
        Sha2.smallSigma1 (schedule.getD (schedule.length - 2) 0).toBitVec) := by
  unfold scheduleWord
  simp only [small_sigma0_standard, small_sigma1_standard]
  rfl

/-- The first `count` words of the standard's schedule. -/
def standardSchedule (block : Nat → Sha2.Word) (count : Nat) : List UInt32 :=
  (List.range count).map fun t => .ofBitVec (Sha2.schedule block t)

@[simp] theorem standard_schedule_length (block : Nat → Sha2.Word) (count : Nat) :
    (standardSchedule block count).length = count := by
  simp [standardSchedule]

theorem standard_schedule_word (block : Nat → Sha2.Word) {count t : Nat} (inside : t < count) :
    (standardSchedule block count).getD t 0 = .ofBitVec (Sha2.schedule block t) := by
  simp [standardSchedule, inside]

theorem schedule_word_next (block : Nat → Sha2.Word) {t : Nat} (later : 16 ≤ t) :
    scheduleWord (standardSchedule block t) = .ofBitVec (Sha2.schedule block t) := by
  rw [schedule_word_standard, standard_schedule_length, Sha2.schedule_later block later,
    standard_schedule_word block (by omega), standard_schedule_word block (by omega),
    standard_schedule_word block (by omega), standard_schedule_word block (by omega)]
  apply congrArg UInt32.ofBitVec
  ac_rfl

theorem schedule_grows (block : Nat → Sha2.Word) (start count : Nat) :
    (List.range' start count).foldl (fun schedule _ => schedule ++ [scheduleWord schedule])
      (standardSchedule block 16) = standardSchedule block (16 + count) := by
  induction count with
  | zero => rfl
  | succ count ih =>
    rw [List.range'_concat, List.foldl_append, ih, List.foldl_cons, List.foldl_nil,
      schedule_word_next block (by omega), standardSchedule, ← Nat.add_assoc, standardSchedule,
      List.range_succ, List.map_append]
    rfl

theorem word_of_lt {v : Nat} (small : v < 256 ^ 4) :
    (UInt32.ofBitVec (BitVec.ofNat 32 v)).toNat = v := Nat.mod_eq_of_lt small

/-- A word read from four bytes is the word of their bits. -/
theorem read_u32_be_standard (bytes : List UInt8) {t : Nat} (inside : 4 * t + 4 ≤ bytes.length) :
    readU32Be (bytes.drop (t * 4)) = .ofBitVec (Sha2.blockWord (ofBytes bytes) t) := by
  have four : (bytes.drop (t * 4)).take 4 =
      [byteAt (bytes.drop (t * 4)) 0, byteAt (bytes.drop (t * 4)) 1,
        byteAt (bytes.drop (t * 4)) 2, byteAt (bytes.drop (t * 4)) 3] :=
    take_eq_map_byte_at (by rw [List.length_drop]; omega)
  have window : ((ofBytes bytes).drop (32 * t)).take 32 =
      ofBytes ((bytes.drop (t * 4)).take 4) := by
    rw [show 32 * t = 8 * (t * 4) by omega, of_bytes_drop, show 32 = 8 * 4 from rfl, of_bytes_take]
  have bound := BigEndian.value_lt ((bytes.drop (t * 4)).take 4)
  rw [four] at bound
  apply UInt32.toNat_inj.mp
  rw [read_u32_be_value, Sha2.blockWord, window, value_of_bytes, four, word_of_lt bound]

theorem sha256_schedule_standard {block : List UInt8} (size : 64 ≤ block.length) :
    sha256Schedule block = standardSchedule (Sha2.blockWord (ofBytes block)) 64 := by
  have first : (List.range 16).map (fun index => readU32Be (block.drop (index * 4))) =
      standardSchedule (Sha2.blockWord (ofBytes block)) 16 := by
    apply List.map_congr_left
    intro t member
    have early : t < 16 := List.mem_range.mp member
    rw [read_u32_be_standard block (by omega), Sha2.schedule_first _ early]
  rw [sha256Schedule, first, schedule_grows]

theorem sha256_rounds_standard (rounds : List (UInt32 × UInt32)) (v : Sha2.Words) :
    rounds.foldl (fun working round => sha256Round working round.1 round.2) (wordList v) =
      wordList (rounds.foldl (fun v round =>
        Sha2.round round.1.toBitVec round.2.toBitVec v) v) := by
  induction rounds generalizing v with
  | nil => rfl
  | cons round rounds ih => rw [List.foldl_cons, sha256_round_standard, ih, List.foldl_cons]

theorem round_constant_word (t : Nat) :
    (kSha256RoundConstants.getD t 0).toBitVec = Sha2.roundConstants.getD t 0 := by
  rw [← round_constants_standard, List.getD_eq_getElem?_getD, List.getD_eq_getElem?_getD,
    List.getElem?_map]
  cases kSha256RoundConstants[t]? <;> rfl

theorem rounds_numbered (block : Nat → Sha2.Word) :
    kSha256RoundConstants.zip (standardSchedule block 64) =
      (List.range 64).map fun t =>
        (kSha256RoundConstants.getD t 0, UInt32.ofBitVec (Sha2.schedule block t)) := by
  have numbered : kSha256RoundConstants =
      (List.range 64).map fun t => kSha256RoundConstants.getD t 0 := by decide
  rw [standardSchedule]
  conv => lhs; rw [numbered]
  rw [List.zip_map']

theorem sha256_transform_standard {block : List UInt8} (size : 64 ≤ block.length)
    (hash : Sha2.Words) :
    sha256Transform block (wordList hash) = wordList (Sha2.compress hash (ofBytes block)) := by
  have working : (kSha256RoundConstants.zip (sha256Schedule block)).foldl
      (fun working round => sha256Round working round.1 round.2) (wordList hash) =
      wordList ((List.range 64).foldl (fun v t => Sha2.round (Sha2.roundConstants.getD t 0)
        (Sha2.schedule (Sha2.blockWord (ofBytes block)) t) v) hash) := by
    rw [sha256_rounds_standard, sha256_schedule_standard size, rounds_numbered, List.foldl_map]
    simp only [round_constant_word]
  rw [sha256Transform, working]
  rfl

theorem write_behind (front old bytes : List UInt8) :
    writeAt (front ++ old) front.length bytes = front ++ bytes ++ old.drop bytes.length := by
  rw [writeAt, List.take_left, List.drop_length_add_append]

/-- The padded size leaves room for the one bit and the length, within the buffer. -/
theorem padded_size_bounds {n : Nat} (fits : n ≤ 119) :
    n + 9 ≤ paddedSize n ∧ paddedSize n ≤ 128 ∧ 64 ≤ paddedSize n := by
  unfold paddedSize
  omega

/-- The padded message in bytes. -/
def paddedMessage (input : List UInt8) : List UInt8 :=
  input ++ [0x80] ++ List.replicate (paddedSize input.length - 9 - input.length) 0 ++
    BigEndian.bytes 8 (8 * input.length)

theorem padded_message_length {input : List UInt8} (fits : input.length ≤ 119) :
    (paddedMessage input).length = paddedSize input.length := by
  have bounds := padded_size_bounds fits
  simp only [paddedMessage, List.length_append, List.length_singleton, List.length_replicate,
    BigEndian.bytes_length]
  omega

theorem sha256_padded_parts {input : List UInt8} (fits : input.length ≤ 119) :
    sha256Padded input =
      paddedMessage input ++ List.replicate (128 - paddedSize input.length) 0 := by
  have bounds := padded_size_bounds fits
  have copied : writeAt (List.replicate 128 0) 0 input =
      input ++ List.replicate (128 - input.length) 0 := by
    rw [← List.drop_replicate]
    exact write_behind [] (List.replicate 128 0) input
  have marked : writeAt (input ++ List.replicate (128 - input.length) 0) input.length [0x80] =
      input ++ [0x80] ++ List.replicate (127 - input.length) 0 := by
    rw [write_behind, List.drop_replicate, List.length_singleton, Nat.sub_right_comm]
  have split : List.replicate (127 - input.length) (0 : UInt8) =
      List.replicate (paddedSize input.length - 9 - input.length) 0 ++
        List.replicate (136 - paddedSize input.length) 0 := by
    rw [List.replicate_append_replicate]
    congr 1
    omega
  have place : paddedSize input.length - 8 =
      (input ++ [0x80] ++
        List.replicate (paddedSize input.length - 9 - input.length) (0 : UInt8)).length := by
    simp only [List.length_append, List.length_singleton, List.length_replicate]
    omega
  have size : (UInt64.ofNat input.length * 8).toNat = 8 * input.length := by
    rw [UInt64.toNat_mul, UInt64.toNat_ofNat', show (8 : UInt64).toNat = 8 from rfl]
    omega
  have rest : 136 - paddedSize input.length - 8 = 128 - paddedSize input.length := by omega
  rw [sha256Padded, copied, marked, split, ← List.append_assoc, place, write_behind,
    write_u64_be_bytes, size, List.drop_replicate, BigEndian.bytes_length, rest]
  rfl

/-- The padded message is the standard's, bit for bit. -/
theorem padded_message_standard {input : List UInt8} (fits : input.length ≤ 119) :
    ofBytes (paddedMessage input) = Sha2.pad (ofBytes input) := by
  have bounds := padded_size_bounds fits
  have one : ofBytes [0x80] = true :: List.replicate 7 false := by decide
  have fill : 7 + 8 * (paddedSize input.length - 9 - input.length) =
      Sha2.zeros (8 * input.length) := by
    unfold Sha2.zeros paddedSize
    omega
  rw [paddedMessage, of_bytes_append, of_bytes_append, of_bytes_append, one, of_bytes_zeros,
    of_bytes_bytes, List.append_assoc (ofBytes input), List.cons_append,
    List.replicate_append_replicate, fill, Sha2.pad, of_bytes_length]

theorem padded_size_blocks (n : Nat) : paddedSize n / 64 * 64 = paddedSize n := by
  unfold paddedSize
  omega

/-- A block within the padded message is the standard's. -/
theorem block_standard {input : List UInt8} (fits : input.length ≤ 119) {i : Nat}
    (inside : i < paddedSize input.length / 64) (hash : Sha2.Words) :
    sha256Transform ((sha256Padded input).drop (i * 64)) (wordList hash) =
      wordList (Sha2.compress hash (((Sha2.pad (ofBytes input)).drop (512 * i)).take 512)) := by
  have bounds := padded_size_bounds fits
  have blocks := padded_size_blocks input.length
  have size := padded_message_length fits
  have bytes : (sha256Padded input).drop (i * 64) = (paddedMessage input).drop (i * 64) ++
      List.replicate (128 - paddedSize input.length) 0 := by
    rw [sha256_padded_parts fits, List.drop_append_of_le_length (by omega)]
  have message : ofBytes ((paddedMessage input).drop (i * 64)) =
      (Sha2.pad (ofBytes input)).drop (512 * i) := by
    rw [← of_bytes_drop, padded_message_standard fits, show 8 * (i * 64) = 512 * i by omega]
  have long : 512 ≤ (ofBytes ((paddedMessage input).drop (i * 64))).length := by
    rw [of_bytes_length, List.length_drop]
    omega
  rw [bytes, sha256_transform_standard (by rw [List.length_append, List.length_drop]; omega),
    ← Sha2.compress_take, of_bytes_append, List.take_append_of_le_length long, message]

theorem hash_chain_standard {input : List UInt8} (fits : input.length ≤ 119) (count : Nat)
    (inside : count ≤ paddedSize input.length / 64) :
    (List.range count).foldl (fun state block =>
        sha256Transform ((sha256Padded input).drop (block * 64)) state) kSha256InitialState =
      wordList ((List.range count).foldl (fun hash i => Sha2.compress hash
        (((Sha2.pad (ofBytes input)).drop (512 * i)).take 512)) Sha2.initial) := by
  induction count with
  | zero => exact initial_state_words
  | succ count ih =>
    rw [List.range_succ, List.foldl_append, ih (by omega), List.foldl_append]
    exact block_standard fits (by omega) _

theorem write_words_bits (words : List UInt32) :
    ofBytes (words.flatMap writeU32Be) = words.flatMap fun word => bits 32 word.toNat := by
  induction words with
  | nil => rfl
  | cons word words ih =>
    rw [List.flatMap_cons, of_bytes_append, ih, write_u32_be_bytes, of_bytes_bytes,
      List.flatMap_cons]

/-- `sha256_fixed` is the standard's SHA-256 for every input that fits its buffer. -/
theorem sha256_fixed_standard {input : List UInt8} (fits : input.length ≤ 119) :
    ofBytes (sha256Fixed input) = Sha2.sha256 (ofBytes input) := by
  have blocks : (Sha2.pad (ofBytes input)).length / 512 = paddedSize input.length / 64 := by
    rw [← padded_message_standard fits, of_bytes_length, padded_message_length fits]
    omega
  rw [sha256Fixed, hash_chain_standard fits _ (Nat.le_refl _), write_words_bits, Sha2.sha256,
    blocks]
  rfl

end GhostMedia.Crypto
