import GhostMedia.Media.Replay
import GhostMedia.Foundation.SlidingWindow
import Mathlib.Data.Nat.Bitwise

/- The bitmap window remembers what the unbounded reference needs, so its answers
   are the reference's answers over any run. -/
namespace GhostMedia.Replay
open SlidingWindow

/-- The bit that stands for the number `i` below the highest. -/
def bitAt (bitmap : Bitmap) (i : Nat) : Bool :=
  if inside : i < 1024 then bitmap[i / 64].toNat.testBit (i % 64) else false

theorem shifted_one (k : UInt64) (small : k.toNat < 64) :
    ((1 : UInt64) <<< k).toNat = 2 ^ k.toNat := by
  simp only [UInt64.toNat_shiftLeft, UInt64.reduceToNat, Nat.one_shiftLeft,
    Nat.mod_eq_of_lt small]
  exact Nat.mod_eq_of_lt (Nat.pow_lt_pow_right (by omega) small)

theorem get_bit_eq (bitmap : Bitmap) (bit : UInt64) (inside : bit < gmReplayWindowBits) :
    getBit bitmap bit inside = bitAt bitmap bit.toNat := by
  have bound : bit.toNat < 1024 := inside
  have low : (bit % 64).toNat = bit.toNat % 64 := by simp
  have high : (bit / 64).toNat = bit.toNat / 64 := by simp
  have power := shifted_one (bit % 64) (by rw [low]; omega)
  rw [low] at power
  simp only [getBit, bitAt, bound, dite_true, high]
  rw [Bool.eq_iff_iff, bne_iff_ne, ne_eq, ← UInt64.toNat_inj, UInt64.toNat_and, power,
    Nat.and_two_pow]
  cases bitmap[bit.toNat / 64].toNat.testBit (bit.toNat % 64) <;> simp

theorem set_bit_spec (bitmap : Bitmap) (bit : UInt64) (inside : bit < gmReplayWindowBits)
    {i : Nat} (range : i < 1024) :
    bitAt (setBit bitmap bit inside) i = true ↔ i = bit.toNat ∨ bitAt bitmap i = true := by
  have bound : bit.toNat < 1024 := inside
  have low : (bit % 64).toNat = bit.toNat % 64 := by simp
  have high : (bit / 64).toNat = bit.toNat / 64 := by simp
  have power := shifted_one (bit % 64) (by rw [low]; omega)
  rw [low] at power
  simp only [bitAt, setBit, range, dite_true, high, Vector.getElem_set]
  by_cases word : bit.toNat / 64 = i / 64
  · have place : i = bit.toNat ↔ bit.toNat % 64 = i % 64 := by omega
    simp only [word, if_true, UInt64.toNat_or, power, Nat.testBit_or, Nat.testBit_two_pow, place,
      Bool.or_eq_true, decide_eq_true_eq]
    exact Or.comm
  · have other : i ≠ bit.toNat := by rintro rfl; exact word rfl
    simp only [word, if_false, other, false_or]

theorem clear_bit (i : Nat) : bitAt clearBitmap i = false := by
  simp [bitAt, clearBitmap]

/-- The value the loop gives to word `j`, from the bitmap before the shift. -/
def shiftedWord (wordShift : Nat) (bitShift : UInt64) (bitmap : Bitmap) (j : Nat)
    (inside : j < 16) : UInt64 :=
  if wordShift ≤ j then
    let value := bitmap[j - wordShift] <<< bitShift
    if bitShift != 0 && wordShift < j then
      value ||| bitmap[j - wordShift - 1] >>> (64 - bitShift)
    else value
  else 0

/-- Each step reads only words at or below the one it rewrites, so shifting in
    place agrees with shifting a copy. -/
theorem shift_words_spec (wordShift : Nat) (bitShift : UInt64) (original : Bitmap)
    (r : Nat) (inside : r ≤ 16) (bitmap : Bitmap)
    (below : ∀ j, (small : j < 16) → j < r → bitmap[j] = original[j])
    (above : ∀ j, (small : j < 16) → r ≤ j →
      bitmap[j] = shiftedWord wordShift bitShift original j small)
    (j : Nat) (small : j < 16) :
    (shiftWords wordShift bitShift r inside bitmap)[j] =
      shiftedWord wordShift bitShift original j small := by
  induction r generalizing bitmap with
  | zero => exact above j small (Nat.zero_le j)
  | succ index ih =>
    rw [shiftWords]
    apply ih
    · intro k kSmall lower
      rw [Vector.getElem_set_ne _ _ (by omega)]
      exact below k kSmall (by omega)
    · intro k kSmall higher
      by_cases here : k = index
      · subst k
        rw [Vector.getElem_set_self]
        simp only [shiftedWord]
        split
        · rw [below _ (by omega) (by omega)]
          split
          · rename_i carry
            simp only [Bool.and_eq_true, decide_eq_true_eq] at carry
            rw [below _ (by omega) (by omega)]
          · rfl
        · rfl
      · rw [Vector.getElem_set_ne _ _ (by omega)]
        exact above k kSmall (by omega)

theorem left_part_bit (word bitShift : UInt64) (small : bitShift.toNat < 64) (k : Nat)
    (inside : k < 64) : (word <<< bitShift).toNat.testBit k =
      (decide (bitShift.toNat ≤ k) && word.toNat.testBit (k - bitShift.toNat)) := by
  simp only [UInt64.toNat_shiftLeft, Nat.mod_eq_of_lt small, Nat.testBit_mod_two_pow,
    Nat.testBit_shiftLeft, inside, decide_true, Bool.true_and, ge_iff_le]

theorem carried_part_bit (word bitShift : UInt64) (small : bitShift.toNat < 64)
    (nonzero : bitShift ≠ 0) (k : Nat) : (word >>> (64 - bitShift)).toNat.testBit k =
      word.toNat.testBit (64 - bitShift.toNat + k) := by
  have positive : bitShift.toNat ≠ 0 := fun zero => nonzero (UInt64.toNat_inj.mp zero)
  have le : bitShift ≤ 64 := by
    rw [UInt64.le_iff_toNat_le]
    exact Nat.le_of_lt small
  have amount : (64 - bitShift).toNat = 64 - bitShift.toNat := UInt64.toNat_sub_of_le _ _ le
  have reduced : (64 - bitShift.toNat) % 64 = 64 - bitShift.toNat := Nat.mod_eq_of_lt (by omega)
  rw [UInt64.toNat_shiftRight, amount, reduced, Nat.testBit_shiftRight]

theorem high_bit_clear (word : UInt64) {k : Nat} (beyond : 64 ≤ k) :
    word.toNat.testBit k = false := by
  apply Nat.testBit_eq_false_of_lt
  exact Nat.lt_of_lt_of_le word.toNat_lt (Nat.pow_le_pow_right (by omega) beyond)

/-- A shifted word takes its high part from one word and its low part from the
    word before. -/
theorem shifted_word_bit (bitmap : Bitmap) (shift : UInt64) (near : shift.toNat < 1024) {i : Nat}
    (range : i < 1024) :
    (shiftedWord (shift.toNat / 64) (shift % 64) bitmap (i / 64)
        (by omega)).toNat.testBit (i % 64) = true ↔
      shift.toNat ≤ i ∧ bitAt bitmap (i - shift.toNat) = true := by
  have bits : (shift % 64).toNat = shift.toNat % 64 := by simp
  have small : (shift % 64).toNat < 64 := by rw [bits]; omega
  have source : i - shift.toNat < 1024 := by omega
  simp only [shiftedWord, bitAt, source, dite_true]
  by_cases reach : shift.toNat / 64 ≤ i / 64
  · simp only [reach, if_true]
    by_cases high : shift.toNat % 64 ≤ i % 64
    · -- the bit comes from the word `shift / 64` below, not from the carry
      have word : (i - shift.toNat) / 64 = i / 64 - shift.toNat / 64 := by omega
      have place : (i - shift.toNat) % 64 = i % 64 - shift.toNat % 64 := by omega
      have within : shift.toNat ≤ i := by omega
      have kept := left_part_bit bitmap[i / 64 - shift.toNat / 64] (shift % 64) small (i % 64)
        (by omega)
      simp only [bits, high, decide_true, Bool.true_and] at kept
      simp only [word, place, within, true_and]
      split
      · rename_i carry
        simp only [Bool.and_eq_true, bne_iff_ne, ne_eq, decide_eq_true_eq] at carry
        have dropped := carried_part_bit bitmap[i / 64 - shift.toNat / 64 - 1] (shift % 64) small
          carry.1 (i % 64)
        have beyond : 64 ≤ 64 - (shift % 64).toNat + i % 64 := by omega
        rw [high_bit_clear bitmap[i / 64 - shift.toNat / 64 - 1] beyond] at dropped
        rw [UInt64.toNat_or, Nat.testBit_or, kept, dropped, Bool.or_false]
      · rw [kept]
    · have nonzero : shift % 64 ≠ 0 := by
        intro zero
        rw [zero] at bits
        simp at bits
        omega
      have kept := left_part_bit bitmap[i / 64 - shift.toNat / 64] (shift % 64) small (i % 64)
        (by omega)
      simp only [bits, high, decide_false, Bool.false_and] at kept
      by_cases carry : shift.toNat / 64 < i / 64
      · have word : (i - shift.toNat) / 64 = i / 64 - shift.toNat / 64 - 1 := by omega
        have place : (i - shift.toNat) % 64 = 64 - shift.toNat % 64 + i % 64 := by omega
        have within : shift.toNat ≤ i := by omega
        simp only [word, place, within, true_and, bne_iff_ne, ne_eq, nonzero, not_false_eq_true,
          carry, decide_true, Bool.and_true, if_true]
        rw [UInt64.toNat_or, Nat.testBit_or, kept, carried_part_bit _ _ small nonzero, bits,
          Bool.false_or]
      · have beyond : ¬ shift.toNat ≤ i := by omega
        simp only [carry, decide_false, Bool.and_false, Bool.false_eq_true, if_false, kept,
          beyond, false_and]
  · have beyond : ¬ shift.toNat ≤ i := by omega
    simp [reach, beyond]

theorem shift_bitmap_bit (bitmap : Bitmap) (shift : UInt64) {i : Nat} (range : i < 1024) :
    bitAt (shiftBitmapLeft bitmap shift) i = true ↔
      shift.toNat ≤ i ∧ bitAt bitmap (i - shift.toNat) = true := by
  unfold shiftBitmapLeft
  split
  · rename_i far
    have far : 1024 ≤ shift.toNat := far
    simp only [clear_bit, Bool.false_eq_true, false_iff, not_and]
    omega
  · rename_i near
    have near : shift.toNat < 1024 := Nat.lt_of_not_le near
    have words : (shift / 64).toNat = shift.toNat / 64 := by simp
    have value := shift_words_spec (shift / 64).toNat (shift % 64) bitmap 16 (Nat.le_refl 16)
      bitmap (fun j _ _ => rfl) (fun j _ _ => by omega) (i / 64) (by omega)
    rw [bitAt, dif_pos range, value]
    simpa only [words] using shifted_word_bit bitmap shift near range

/-- Between calls the window agrees with the reference: empty before the first
    number, and afterwards holding the maximum and the last 1024 flags. -/
def Agrees (window : GmReplayWindow) (seen : Finset Nat) : Prop :=
  sizeofGmReplayWindow ≤ window.structSize ∧ window.abiVersion = gmAbiVersion ∧
    if window.initialized = 0 then seen = ∅
    else Remembers 1024 seen window.highestSequence.toNat (bitAt window.bitmap)

def resultOf : Verdict → GmReplayResult
  | .accepted => .accepted
  | .duplicate => .duplicate
  | .tooOld => .tooOld

theorem init_agrees {window started : GmReplayWindow}
    (init : gmReplayWindowInit window = (.ok, started)) : Agrees started ∅ := by
  unfold gmReplayWindowInit at init
  split at init
  · simp at init
  · rename_i sized
    simp only [Prod.mk.injEq, true_and] at init
    subst started
    exact ⟨Nat.le_of_not_lt sized, rfl, by simp⟩

theorem first_flags {i : Nat} (range : i < 1024) :
    bitAt (setBit clearBitmap 0 (by decide)) i = true ↔ i = 0 := by
  rw [set_bit_spec _ _ _ range]
  simp [clear_bit]

/-- One call answers as the reference does and keeps the agreement. -/
theorem accept_agrees {window : GmReplayWindow} {seen : Finset Nat} (agrees : Agrees window seen)
    (sequence : UInt64) :
    ∃ next, gmReplayWindowAccept window sequence =
        (.ok, next, some (resultOf (verdict 1024 seen sequence.toNat))) ∧
      Agrees next (record 1024 seen sequence.toNat) := by
  obtain ⟨size, version, memory⟩ := agrees
  have sized : (decide (window.structSize < sizeofGmReplayWindow) ||
      window.abiVersion != gmAbiVersion) = false := by
    simp [version]
    exact size
  unfold gmReplayWindowAccept
  rw [sized, if_neg Bool.false_ne_true]
  by_cases empty : window.initialized = 0
  · rw [if_pos empty] at memory
    subst seen
    have fresh : verdict 1024 ∅ sequence.toNat = .accepted := by simp [verdict]
    rw [if_pos empty, fresh]
    refine ⟨_, rfl, size, version, ?_⟩
    simp only [record, fresh, if_true, insert_empty_eq]
    exact remembers_first fun i range => first_flags range
  rw [if_neg empty] at memory
  have answer := verdict_of_memory (n := sequence.toNat) memory
  rw [if_neg empty]
  by_cases higher : sequence > window.highestSequence
  · have above : window.highestSequence.toNat < sequence.toNat := higher
    rw [if_pos above] at answer
    rw [if_pos higher, answer]
    refine ⟨_, rfl, size, version, ?_⟩
    simp only [record, answer, if_true, empty, if_false]
    have le : window.highestSequence ≤ sequence := UInt64.le_of_lt higher
    apply remembers_advance memory above
    intro i range
    rw [set_bit_spec _ _ _ range, shift_bitmap_bit _ _ range,
      UInt64.toNat_sub_of_le _ _ le]
    simp
  · have below : ¬ window.highestSequence.toNat < sequence.toNat := higher
    have le : sequence ≤ window.highestSequence := UInt64.not_lt.mp higher
    have distance := UInt64.toNat_sub_of_le _ _ le
    rw [if_neg below] at answer
    rw [if_neg higher]
    by_cases inside : window.highestSequence - sequence < gmReplayWindowBits
    · have near : window.highestSequence.toNat - sequence.toNat < 1024 := by
        rw [← distance]; exact inside
      rw [if_neg (by omega)] at answer
      simp only [inside, dite_true]
      by_cases known : getBit window.bitmap (window.highestSequence - sequence) inside = true
      · have flag := get_bit_eq window.bitmap _ inside
        rw [distance, known] at flag
        rw [← flag, if_pos rfl] at answer
        rw [if_pos known, answer]
        refine ⟨_, rfl, size, version, ?_⟩
        simpa only [record, answer, empty, if_false, reduceCtorEq] using memory
      · have flag := get_bit_eq window.bitmap _ inside
        rw [distance] at flag
        rw [← flag, if_neg known] at answer
        rw [if_neg known, answer]
        refine ⟨_, rfl, size, version, ?_⟩
        simp only [record, answer, if_true, empty, if_false]
        apply remembers_fill memory (Nat.le_of_not_lt below)
        intro i range
        rw [set_bit_spec _ _ _ range, distance]
    · have far : 1024 ≤ window.highestSequence.toNat - sequence.toNat := by
        rw [← distance]; exact Nat.le_of_not_lt inside
      rw [if_pos far] at answer
      simp only [inside, dite_false, answer]
      refine ⟨_, rfl, size, version, ?_⟩
      simpa only [record, answer, empty, if_false, reduceCtorEq] using memory

def acceptAll : GmReplayWindow → List UInt64 → List (GmStatus × Option GmReplayResult)
  | _, [] => []
  | window, sequence :: rest =>
    let (status, next, result) := gmReplayWindowAccept window sequence
    (status, result) :: acceptAll next rest

theorem accept_all_agrees {window : GmReplayWindow} {seen : Finset Nat}
    (agrees : Agrees window seen) (sequences : List UInt64) :
    acceptAll window sequences =
      (verdicts 1024 seen (sequences.map UInt64.toNat)).map fun v =>
        (.ok, some (resultOf v)) := by
  induction sequences generalizing window seen with
  | nil => rfl
  | cons sequence rest ih =>
    obtain ⟨next, call, kept⟩ := accept_agrees agrees sequence
    simp only [acceptAll, call, List.map_cons, verdicts, ih kept]

/-- The sequence numbers a run answers with `GM_REPLAY_ACCEPTED`, in order. -/
def acceptedSequences (window : GmReplayWindow) (sequences : List UInt64) : List UInt64 :=
  ((sequences.zip (acceptAll window sequences)).filter fun entry =>
    entry.2 = (GmStatus.ok, some GmReplayResult.accepted)).map Prod.fst

theorem accepted_sequences_eq {window : GmReplayWindow} {seen : Finset Nat}
    (agrees : Agrees window seen) (sequences : List UInt64) :
    (acceptedSequences window sequences).map UInt64.toNat =
      acceptedNumbers 1024 seen (sequences.map UInt64.toNat) := by
  induction sequences generalizing window seen with
  | nil => rfl
  | cons sequence rest ih =>
    obtain ⟨next, call, kept⟩ := accept_agrees agrees sequence
    have tail := ih kept
    simp only [acceptedSequences] at tail
    simp only [acceptedSequences, acceptAll, call, List.zip_cons_cons, List.filter_cons,
      List.map_cons, acceptedNumbers, ← tail]
    cases verdict 1024 seen sequence.toNat <;> simp [resultOf]

/-- Every run of an initialised window gives the reference's answers, and no
    sequence number is accepted twice. -/
theorem replay_window_refines_reference (window started : GmReplayWindow)
    (init : gmReplayWindowInit window = (.ok, started)) (sequences : List UInt64) :
    acceptAll started sequences =
        ((verdicts 1024 ∅ (sequences.map UInt64.toNat)).map fun v =>
          (.ok, some (resultOf v))) ∧
      (acceptedSequences started sequences).Nodup := by
  have agrees := init_agrees init
  refine ⟨accept_all_agrees agrees sequences, ?_⟩
  apply List.Nodup.of_map UInt64.toNat
  rw [accepted_sequences_eq agrees]
  exact accepted_nodup 1024 ∅ _

def blankWindow : GmReplayWindow where
  structSize := sizeofGmReplayWindow
  abiVersion := 0
  initialized := 0
  highestSequence := 0
  bitmap := clearBitmap

/-- The run of the C test: first number, duplicate, last accepted lookbehind, too old. -/
theorem replay_window_edge_run :
    acceptAll (gmReplayWindowInit blankWindow).2 [2000, 2000, 977, 976] =
        ((verdicts 1024 ∅ ([2000, 2000, 977, 976].map UInt64.toNat)).map fun v =>
          (.ok, some (resultOf v))) ∧
      (acceptedSequences (gmReplayWindowInit blankWindow).2 [2000, 2000, 977, 976]).Nodup :=
  replay_window_refines_reference blankWindow _ rfl [2000, 2000, 977, 976]

end GhostMedia.Replay
