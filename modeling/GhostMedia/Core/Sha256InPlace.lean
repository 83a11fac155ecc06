import GhostMedia.Core.Sha256Standard
import GhostMedia.Foundation.CheckedMemory

/- `sha256_fixed` on its arrays: the padded buffer of 128 bytes, the schedule, the state
   and the working words, rotated in place. Every read and write is checked; for an input
   that fits, none fails and the digest is the standard's. -/
namespace GhostMedia.Crypto
open Checked Media BitStrings

def readU32BeAt (data : List UInt8) (offset : Nat) : Option UInt32 := do
  let b₀ ← load data offset
  let b₁ ← load data (offset + 1)
  let b₂ ← load data (offset + 2)
  let b₃ ← load data (offset + 3)
  return (b₀.toUInt32 <<< 24) ||| (b₁.toUInt32 <<< 16) ||| (b₂.toUInt32 <<< 8) ||| b₃.toUInt32

def writeU32BeAt (data : List UInt8) (offset : Nat) (value : UInt32) : Option (List UInt8) := do
  let data ← store data offset ((value >>> 24) &&& 0xff).toUInt8
  let data ← store data (offset + 1) ((value >>> 16) &&& 0xff).toUInt8
  let data ← store data (offset + 2) ((value >>> 8) &&& 0xff).toUInt8
  store data (offset + 3) (value &&& 0xff).toUInt8

def scheduleTurn (index : Nat) (schedule : List UInt32) : Option (List UInt32) := do
  let w₁₅ ← load schedule (index - 15)
  let w₂ ← load schedule (index - 2)
  let w₁₆ ← load schedule (index - 16)
  let w₇ ← load schedule (index - 7)
  let smallSigma0 := rotateRight w₁₅ 7 ^^^ rotateRight w₁₅ 18 ^^^ (w₁₅ >>> 3)
  let smallSigma1 := rotateRight w₂ 17 ^^^ rotateRight w₂ 19 ^^^ (w₂ >>> 10)
  store schedule index (w₁₆ + smallSigma0 + w₇ + smallSigma1)

/-- One round: each word moves up before the one below it is overwritten. -/
def roundTurn (schedule : List UInt32) (index : Nat) (working : List UInt32) :
    Option (List UInt32) := do
  let w₄ ← load working 4
  let sum1 := rotateRight w₄ 6 ^^^ rotateRight w₄ 11 ^^^ rotateRight w₄ 25
  let choice := (w₄ &&& (← load working 5)) ^^^ (~~~w₄ &&& (← load working 6))
  let temp1 := (← load working 7) + sum1 + choice + (← load kSha256RoundConstants index) +
    (← load schedule index)
  let w₀ ← load working 0
  let sum0 := rotateRight w₀ 2 ^^^ rotateRight w₀ 13 ^^^ rotateRight w₀ 22
  let majority := (w₀ &&& (← load working 1)) ^^^ (w₀ &&& (← load working 2)) ^^^
    ((← load working 1) &&& (← load working 2))
  let temp2 := sum0 + majority
  let working ← store working 7 (← load working 6)
  let working ← store working 6 (← load working 5)
  let working ← store working 5 (← load working 4)
  let working ← store working 4 ((← load working 3) + temp1)
  let working ← store working 3 (← load working 2)
  let working ← store working 2 (← load working 1)
  let working ← store working 1 (← load working 0)
  store working 0 (temp1 + temp2)

def readTurn (padded : List UInt8) (offset index : Nat) (schedule : List UInt32) :
    Option (List UInt32) := do
  store schedule index (← readU32BeAt padded (offset + index * 4))

def addTurn (working : List UInt32) (index : Nat) (state : List UInt32) :
    Option (List UInt32) := do
  store state index ((← load state index) + (← load working index))

/-- `sha256_transform` on the block at `offset` of the padded buffer. -/
def sha256TransformInPlace (padded : List UInt8) (offset : Nat) (state : List UInt32) :
    Option (List UInt32) := do
  let schedule ← loop (readTurn padded offset) 0 16 (List.replicate 64 0)
  let schedule ← loop scheduleTurn 16 48 schedule
  let working ← copyIn (List.replicate 8 0) 0 state
  let working ← loop (roundTurn schedule) 0 64 working
  loop (addTurn working) 0 8 state

def lengthTurn (bitSize : UInt64) (paddedSize index : Nat) (padded : List UInt8) :
    Option (List UInt8) := do
  let byte ← shifted 64 (index * 8) (bitSize >>> UInt64.ofNat (index * 8))
  store padded (paddedSize - 1 - index) (byte &&& 0xff).toUInt8

def digestTurn (state : List UInt32) (index : Nat) (outDigest : List UInt8) :
    Option (List UInt8) := do
  writeU32BeAt outDigest (index * 4) (← load state index)

/-- `sha256_fixed`, writing the digest over `outDigest`. -/
def sha256FixedInPlace (input outDigest : List UInt8) : Option (List UInt8) := do
  let padded ← copyIn (List.replicate 128 0) 0 input
  let padded ← store padded input.length 0x80
  let bitSize := UInt64.ofNat input.length * 8
  let padded ← loop (lengthTurn bitSize (paddedSize input.length)) 0 8 padded
  let state ← copyIn (List.replicate 8 0) 0 kSha256InitialState
  let state ← loop (fun block => sha256TransformInPlace padded (block * 64)) 0
    (paddedSize input.length / 64) state
  loop (digestTurn state) 0 8 outDigest

theorem read_u32_be_at {data : List UInt8} {offset : Nat} (inside : offset + 4 ≤ data.length) :
    readU32BeAt data offset = some (readU32Be (data.drop offset)) := by
  have byte (i : Nat) (small : i < 4) :
      load data (offset + i) = some (byteAt (data.drop offset) i) := by
    have within : offset + i < data.length := by omega
    rw [byte_at_drop, load_eq within, byteAt, List.getD_eq_getElem?_getD,
      List.getElem?_eq_getElem within, Option.getD_some]
  have first := byte 0 (by decide)
  rw [Nat.add_zero] at first
  rw [readU32BeAt, first, byte 1 (by decide), byte 2 (by decide), byte 3 (by decide)]
  rfl

theorem schedule_turn_run {schedule : List UInt32} {t : Nat} (size : schedule.length = t)
    (later : 16 ≤ t) (rest : List UInt32) :
    scheduleTurn t (schedule ++ rest) = store (schedule ++ rest) t (scheduleWord schedule) := by
  have word (back : Nat) (small : 0 < back ∧ back ≤ 16) :
      load (schedule ++ rest) (t - back) = some (schedule.getD (schedule.length - back) 0) := by
    have inside : t - back < schedule.length := by omega
    rw [load, size, List.getElem?_append_left inside, List.getD_eq_getElem?_getD,
      List.getElem?_eq_getElem inside, Option.getD_some]
  rw [scheduleTurn, word 15 (by decide), word 2 (by decide), word 16 (by decide),
    word 7 (by decide)]
  rfl

theorem standard_schedule_take (block : Nat → Sha2.Word) {t count : Nat} (le : t ≤ count) :
    (standardSchedule block count).take t = standardSchedule block t := by
  rw [standardSchedule, ← List.map_take, List.take_range, Nat.min_eq_left le, standardSchedule]

/-- The two loops over the schedule, for the block at `offset`. -/
theorem schedule_run {padded : List UInt8} {offset : Nat} (inside : offset + 64 ≤ padded.length) :
    ∃ schedule, loop (readTurn padded offset) 0 16 (List.replicate 64 0) = some schedule ∧
      loop scheduleTurn 16 48 schedule = some (sha256Schedule (padded.drop offset)) := by
  have long : 64 ≤ (padded.drop offset).length := by
    rw [List.length_drop]
    omega
  rw [sha256_schedule_standard long]
  have read {t : Nat} (early : t < 16) : readU32BeAt padded (offset + t * 4) =
      some (.ofBitVec (Sha2.blockWord (ofBytes (padded.drop offset)) t)) := by
    rw [read_u32_be_at (by omega), ← List.drop_drop, read_u32_be_standard _ (by omega)]
  generalize Sha2.blockWord (ofBytes (padded.drop offset)) = word at read
  have size := standard_schedule_length word 64
  have same : (List.replicate 64 (0 : UInt32)).length = (standardSchedule word 64).length := by
    rw [size, List.length_replicate]
  have value {t : Nat} (inside : t < (standardSchedule word 64).length) :
      (standardSchedule word 64)[t] = .ofBitVec (Sha2.schedule word t) := by
    simp [standardSchedule]
  refine ⟨_, loop_fills (List.replicate 64 0) (standardSchedule word 64) same (by omega) ?_, ?_⟩
  · intro t _ early inside
    rw [readTurn, read (by omega), value inside, Sha2.schedule_first word (by omega)]
    rfl
  · have later : loop scheduleTurn 16 48
        ((standardSchedule word 64).take 16 ++ (List.replicate 64 0).drop 16) =
        some ((standardSchedule word 64).take (16 + 48) ++
          (List.replicate 64 0).drop (16 + 48)) := by
      apply loop_fills (List.replicate 64 0) (standardSchedule word 64) same (by omega)
      intro t late _ inside
      rw [standard_schedule_take word (by omega),
        schedule_turn_run (standard_schedule_length word t) late, schedule_word_next word late,
        value inside]
    have spent : (List.replicate 64 (0 : UInt32)).drop (16 + 48) = [] :=
      List.drop_eq_nil_of_le (by simp)
    rw [List.take_of_length_le (Nat.le_of_eq size), spent, List.append_nil] at later
    exact later

theorem eight_words {words : List UInt32} (size : words.length = 8) :
    ∃ a b c d e f g h, words = [a, b, c, d, e, f, g, h] := by
  match words, size with
  | [a, b, c, d, e, f, g, h], _ => exact ⟨a, b, c, d, e, f, g, h, rfl⟩

/-- Moving the words one by one is the round. -/
theorem round_turn_run {schedule working : List UInt32} {index : Nat} {constant scheduled : UInt32}
    (size : working.length = 8) (known : load kSha256RoundConstants index = some constant)
    (ready : load schedule index = some scheduled) :
    roundTurn schedule index working = some (sha256Round working constant scheduled) := by
  obtain ⟨a, b, c, d, e, f, g, h, rfl⟩ := eight_words size
  rw [roundTurn, known, ready]
  rfl

theorem sha256_round_length (working : List UInt32) (constant scheduled : UInt32) :
    (sha256Round working constant scheduled).length = 8 := rfl

theorem rounds_run {schedule working : List UInt32} (size : working.length = 8)
    (long : schedule.length = 64) :
    loop (roundTurn schedule) 0 64 working =
      some ((kSha256RoundConstants.zip schedule).foldl
        (fun working round => sha256Round working round.1 round.2) working) := by
  have zipped : (kSha256RoundConstants.zip schedule).length = 64 := by
    rw [List.length_zip, long]
    rfl
  refine loop_foldl (fun working => working.length = 8) ?_ _ ?_ zipped size
  · intro working round _
    exact sha256_round_length working round.1 round.2
  · intro k working eight inside
    rw [List.getElem_zip]
    exact round_turn_run eight (load_eq _) (load_eq _)

theorem copy_all {old values : List α} (same : values.length = old.length) :
    copyIn old 0 values = some values := by
  rw [copyIn, if_pos (by omega), Nat.zero_add, List.drop_eq_nil_of_le (by omega)]
  simp

/-- The transform reads its block within the buffer and is the transform of the copy. -/
theorem transform_run {padded : List UInt8} {offset : Nat} (inside : offset + 64 ≤ padded.length)
    {state : List UInt32} (size : state.length = 8) :
    sha256TransformInPlace padded offset state =
      some (sha256Transform (padded.drop offset) state) := by
  obtain ⟨schedule, first, later⟩ := schedule_run inside
  have long : (sha256Schedule (padded.drop offset)).length = 64 := by
    rw [sha256_schedule_standard (by rw [List.length_drop]; omega), standard_schedule_length]
  have rounds := rounds_run size long
  have worked := foldl_keeps (fun working (round : UInt32 × UInt32) (_ : working.length = 8) =>
    sha256_round_length working round.1 round.2)
    (kSha256RoundConstants.zip (sha256Schedule (padded.drop offset))) size
  have copied : copyIn (List.replicate 8 0) 0 state = some state :=
    copy_all (by rw [size, List.length_replicate])
  rw [sha256TransformInPlace, first]
  simp only [Option.bind_eq_bind, Option.bind_some, later, copied, rounds]
  rw [sha256Transform]
  generalize (kSha256RoundConstants.zip (sha256Schedule (padded.drop offset))).foldl
    (fun working round => sha256Round working round.1 round.2) state = working at worked
  refine loop_fills_all state _ (by simp) (by simp [size]) ?_
  intro k inside
  have small : k < 8 := by simpa using inside
  have own : load state k = some state[k] := load_eq (by omega)
  have other : load working k = some working[k] := load_eq (by omega)
  rw [addTurn, load_unfilled state _ (Nat.le_of_lt inside), own, other]
  simp [small, size, worked]

theorem write_at_length {memory bytes : List UInt8} {offset : Nat}
    (fits : offset + bytes.length ≤ memory.length) :
    (writeAt memory offset bytes).length = memory.length := by
  simp only [writeAt, List.length_append, List.length_take, List.length_drop]
  omega

theorem store_write (memory : List UInt8) {index : Nat} (inside : index < memory.length)
    (value : UInt8) : store memory index value = some (writeAt memory index [value]) := by
  rw [store_eq inside, List.set_eq_take_append_cons_drop, if_pos inside, writeAt]
  simp

/-- A byte written just below a block of bytes already written. -/
theorem store_below (memory bytes : List UInt8) {index : Nat} (inside : index < memory.length)
    (value : UInt8) :
    store (writeAt memory (index + 1) bytes) index value =
      some (writeAt memory index (value :: bytes)) := by
  have next := store_next (memory.take index) memory[index] value
    (bytes ++ memory.drop (index + 1 + bytes.length))
  rw [List.length_take_of_le (Nat.le_of_lt inside)] at next
  rw [writeAt, List.take_succ_eq_append_getElem inside]
  simp only [List.append_assoc, List.cons_append, List.nil_append]
  rw [next, writeAt, List.length_cons, Nat.add_right_comm, Nat.add_assoc, List.append_assoc]
  rfl

/-- The bytes of the size, from the lowest one up. -/
theorem length_byte (size : UInt64) {k : Nat} (small : k < 8) :
    ((size >>> UInt64.ofNat (k * 8)) &&& 0xff).toUInt8 :: (writeU64Be size).drop (8 - k) =
      (writeU64Be size).drop (8 - (k + 1)) := by
  match k, small with
  | 0, _ | 1, _ | 2, _ | 3, _ | 4, _ | 5, _ | 6, _ | 7, _ => rfl

theorem length_run {memory : List UInt8} (bitSize : UInt64) {size : Nat} (room : 8 ≤ size)
    (inside : size ≤ memory.length) :
    loop (lengthTurn bitSize size) 0 8 memory =
      some (writeAt memory (size - 8) (writeU64Be bitSize)) := by
  have start : writeAt memory (size - 0) ((writeU64Be bitSize).drop (8 - 0)) = memory := by
    rw [List.drop_eq_nil_of_le (by simp), writeAt]
    simp
  have run : loop (lengthTurn bitSize size) 0 8
      (writeAt memory (size - 0) ((writeU64Be bitSize).drop (8 - 0))) =
      some (writeAt memory (size - (0 + 8)) ((writeU64Be bitSize).drop (8 - (0 + 8)))) := by
    refine loop_follows (fun k => writeAt memory (size - k) ((writeU64Be bitSize).drop (8 - k))) ?_
    intro k _ before
    have below : size - k = size - 1 - k + 1 := by omega
    have next : size - (k + 1) = size - 1 - k := by omega
    rw [lengthTurn, shifted_eq (by omega), below, next, ← length_byte bitSize (by omega)]
    exact store_below memory _ (by omega) _
  rw [start] at run
  exact run

theorem padded_run {input : List UInt8} (fits : input.length ≤ 119) :
    ∃ copied marked, copyIn (List.replicate 128 0) 0 input = some copied ∧
      store copied input.length 0x80 = some marked ∧
      loop (lengthTurn (UInt64.ofNat input.length * 8) (paddedSize input.length)) 0 8 marked =
        some (sha256Padded input) := by
  have bounds := padded_size_bounds fits
  have buffer : (List.replicate 128 (0 : UInt8)).length = 128 := List.length_replicate
  have copied : copyIn (List.replicate 128 0) 0 input =
      some (writeAt (List.replicate 128 0) 0 input) := if_pos (by omega)
  have long : (writeAt (List.replicate 128 0) 0 input).length = 128 := by
    rw [write_at_length (by omega), buffer]
  have room : input.length < (writeAt (List.replicate 128 0) 0 input).length := by omega
  have marked := store_write _ room 0x80
  refine ⟨_, _, copied, marked, ?_⟩
  have sized : (writeAt (writeAt (List.replicate 128 0) 0 input) input.length [0x80]).length =
      128 := by
    rw [write_at_length (by rw [List.length_singleton]; omega), long]
  exact length_run _ (by omega) (by omega)

theorem write_u32_be_at (front : List UInt8) (a b c d : UInt8) (rest : List UInt8)
    (value : UInt32) :
    writeU32BeAt (front ++ a :: b :: c :: d :: rest) front.length value =
      some (front ++ (writeU32Be value ++ rest)) := by
  have place (done : List UInt8) (old new : UInt8) (later : List UInt8) :
      store (front ++ (done ++ old :: later)) (front.length + done.length) new =
        some (front ++ (done ++ new :: later)) := by
    have next := store_next (front ++ done) old new later
    rwa [List.length_append, List.append_assoc, List.append_assoc] at next
  unfold writeU32BeAt writeU32Be
  generalize ((value >>> 24) &&& 0xff).toUInt8 = v₃, ((value >>> 16) &&& 0xff).toUInt8 = v₂,
    ((value >>> 8) &&& 0xff).toUInt8 = v₁, (value &&& 0xff).toUInt8 = v₀
  have first : store (front ++ a :: b :: c :: d :: rest) front.length v₃ =
      some (front ++ v₃ :: b :: c :: d :: rest) := place [] a v₃ (b :: c :: d :: rest)
  have second : store (front ++ v₃ :: b :: c :: d :: rest) (front.length + 1) v₂ =
      some (front ++ v₃ :: v₂ :: c :: d :: rest) := place [v₃] b v₂ (c :: d :: rest)
  have third : store (front ++ v₃ :: v₂ :: c :: d :: rest) (front.length + 2) v₁ =
      some (front ++ v₃ :: v₂ :: v₁ :: d :: rest) := place [v₃, v₂] c v₁ (d :: rest)
  have fourth : store (front ++ v₃ :: v₂ :: v₁ :: d :: rest) (front.length + 3) v₀ =
      some (front ++ v₃ :: v₂ :: v₁ :: v₀ :: rest) := place [v₃, v₂, v₁] d v₀ rest
  simp only [Option.bind_eq_bind, first, second, third, fourth, Option.bind_some]
  rfl

theorem digest_run {words : List UInt32} (eight : words.length = 8) {outDigest : List UInt8}
    (size : outDigest.length = 32) :
    loop (digestTurn words) 0 8 outDigest = some (words.flatMap writeU32Be) := by
  have run : loop (digestTurn words) 0 8
      ((words.take 0).flatMap writeU32Be ++ outDigest.drop (0 * 4)) =
      some ((words.take (0 + 8)).flatMap writeU32Be ++ outDigest.drop ((0 + 8) * 4)) := by
    refine loop_follows
      (fun k => (words.take k).flatMap writeU32Be ++ outDigest.drop (k * 4)) ?_
    intro k _ before
    have inside : k < words.length := by omega
    have known : load words k = some words[k] := load_eq inside
    have place : ((words.take k).flatMap writeU32Be).length = k * 4 := by
      rw [flat_words_length, List.length_take_of_le (Nat.le_of_lt inside)]
    obtain ⟨a, b, c, d, rest, ahead⟩ : ∃ a b c d rest,
        outDigest.drop (k * 4) = a :: b :: c :: d :: rest := by
      have long : 4 ≤ (outDigest.drop (k * 4)).length := by
        rw [List.length_drop]
        omega
      match outDigest.drop (k * 4), long with
      | a :: b :: c :: d :: rest, _ => exact ⟨a, b, c, d, rest, rfl⟩
    have behind : outDigest.drop ((k + 1) * 4) = rest := by
      rw [Nat.succ_mul, ← List.drop_drop, ahead]
      rfl
    have wrote := write_u32_be_at ((words.take k).flatMap writeU32Be) a b c d rest words[k]
    rw [place] at wrote
    rw [digestTurn, known, ahead, behind, List.take_succ_eq_append_getElem inside,
      List.flatMap_append, List.append_assoc]
    simpa using wrote
  have whole : words.take (0 + 8) = words := List.take_of_length_le (Nat.le_of_eq eight)
  have spent : outDigest.drop ((0 + 8) * 4) = [] := List.drop_eq_nil_of_le (Nat.le_of_eq size)
  rw [whole, spent, List.append_nil] at run
  exact run

/-- `sha256_fixed` stays within its arrays for every input that fits, and writes the digest of
    the standard. -/
theorem sha256_fixed_exact (input outDigest : List UInt8) (fits : input.length ≤ 119)
    (size : outDigest.length = 32) :
    ∃ digest, sha256FixedInPlace input outDigest = some digest ∧
      ofBytes digest = Sha2.sha256 (ofBytes input) ∧ digest = sha256Fixed input := by
  have bounds := padded_size_bounds fits
  have buffer : (sha256Padded input).length = 128 := by
    rw [sha256_padded_parts fits, List.length_append, padded_message_length fits,
      List.length_replicate]
    omega
  obtain ⟨copied, marked, copy, mark, padded⟩ := padded_run fits
  have initial : copyIn (List.replicate 8 0) 0 kSha256InitialState = some kSha256InitialState :=
    copy_all rfl
  have kept (state : List UInt32) (block : Nat) (_ : state.length = 8) :
      (sha256Transform ((sha256Padded input).drop (block * 64)) state).length = 8 :=
    sha256_transform_length _ state
  have blocks : loop (fun block => sha256TransformInPlace (sha256Padded input) (block * 64)) 0
      (paddedSize input.length / 64) kSha256InitialState =
      some ((List.range (paddedSize input.length / 64)).foldl (fun state block =>
        sha256Transform ((sha256Padded input).drop (block * 64)) state) kSha256InitialState) := by
    refine loop_foldl (fun state => state.length = 8) kept _ ?_ List.length_range rfl
    intro k state eight inside
    have whole := padded_size_blocks input.length
    rw [List.length_range] at inside
    rw [List.getElem_range]
    exact transform_run (by omega) eight
  have eight := foldl_keeps kept (List.range (paddedSize input.length / 64))
    (show kSha256InitialState.length = 8 from rfl)
  refine ⟨sha256Fixed input, ?_, sha256_fixed_standard fits, rfl⟩
  rw [sha256FixedInPlace, copy]
  simp only [Option.bind_eq_bind, Option.bind_some, mark, padded, initial, blocks]
  exact digest_run eight size

/-- The shortest input that takes two blocks. -/
theorem sha256_fixed_two_blocks :
    ∃ digest, sha256FixedInPlace (List.replicate 56 97) (List.replicate 32 0) = some digest ∧
      ofBytes digest = Sha2.sha256 (ofBytes (List.replicate 56 97)) := by
  obtain ⟨digest, run, standard, _⟩ :=
    sha256_fixed_exact (List.replicate 56 97) (List.replicate 32 0) (by decide) (by decide)
  exact ⟨digest, run, standard⟩

end GhostMedia.Crypto
