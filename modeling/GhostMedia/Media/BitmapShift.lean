import GhostMedia.Media.ReplayRefinement
import GhostMedia.Foundation.CheckedMemory
import GhostMedia.Foundation.Words

/- `shift_bitmap_left` as arithmetic. The loop is written out once more over plain
   memory, with every read, write and shift checked, and multiplies the number in the
   sixteen words by a power of two. -/
namespace GhostMedia.Replay
open Checked

/-- One turn of the descending loop. -/
def shiftTurn (wordShift : Nat) (bitShift : UInt64) (index : Nat) (bitmap : List UInt64) :
    Option (List UInt64) := do
  if wordShift ≤ index then
    let word ← load bitmap (index - wordShift)
    let value ← shifted 64 bitShift.toNat (word <<< bitShift)
    if bitShift != 0 && wordShift < index then
      let lower ← load bitmap (index - wordShift - 1)
      let carried ← shifted 64 (64 - bitShift).toNat (lower >>> (64 - bitShift))
      store bitmap index (value ||| carried)
    else store bitmap index value
  else store bitmap index 0

def clearBitmapInPlace (bitmap : List UInt64) : Option (List UInt64) :=
  loop (fun index bitmap => store bitmap index 0) 0 16 bitmap

/-- `shift_bitmap_left` on the array of sixteen words. -/
def shiftBitmapLeftInPlace (bitmap : List UInt64) (shift : UInt64) : Option (List UInt64) :=
  if gmReplayWindowBits ≤ shift then clearBitmapInPlace bitmap
  else loopDown (shiftTurn (shift / 64).toNat (shift % 64)) 16 bitmap

theorem clear_bitmap_in_place (bitmap : Bitmap) :
    clearBitmapInPlace bitmap.toList = some clearBitmap.toList := by
  refine loop_fills_all bitmap.toList clearBitmap.toList (by simp) (by simp) ?_
  intro k inside
  have zero : clearBitmap.toList[k] = 0 :=
    List.eq_of_mem_replicate (show _ ∈ List.replicate 16 0 from List.getElem_mem inside)
  rw [zero]

theorem store_word (bitmap : Bitmap) {index : Nat} (inside : index < 16) (value : UInt64) :
    store bitmap.toList index value = some (bitmap.set index value).toList := by
  rw [store_eq (by simpa using inside), Vector.toList_set]

theorem load_word (bitmap : Bitmap) (index : Nat) (inside : index < 16) :
    load bitmap.toList index = some bitmap[index] := by
  rw [load_eq (by simpa using inside), Vector.getElem_toList]

/-- The carry is shifted by less than a word, since no carry is taken for a shift by
    whole words. -/
theorem carry_amount {bitShift : UInt64} (small : bitShift.toNat < 64) (nonzero : bitShift ≠ 0) :
    (64 - bitShift).toNat < 64 := by
  have positive : bitShift.toNat ≠ 0 := fun zero => nonzero (UInt64.toNat_inj.mp zero)
  have below : bitShift ≤ 64 := UInt64.le_iff_toNat_le.mpr (Nat.le_of_lt small)
  have amount : (64 - bitShift).toNat = 64 - bitShift.toNat := UInt64.toNat_sub_of_le _ _ below
  omega

theorem shift_turn_runs (wordShift : Nat) {bitShift : UInt64} (small : bitShift.toNat < 64)
    {index : Nat} (inside : index < 16) (bitmap : Bitmap) :
    shiftTurn wordShift bitShift index bitmap.toList =
      some (bitmap.set index (shiftedWord wordShift bitShift bitmap index inside)).toList := by
  unfold shiftTurn shiftedWord
  by_cases reach : wordShift ≤ index
  · have source := load_word bitmap (index - wordShift) (by omega)
    rw [if_pos reach, if_pos reach, source]
    by_cases carry : (bitShift != 0 && wordShift < index) = true
    · have nonzero : bitShift ≠ 0 := by
        rw [Bool.and_eq_true, bne_iff_ne] at carry
        exact carry.1
      have lower := load_word bitmap (index - wordShift - 1) (by omega)
      simp only [shifted_eq small, if_pos carry, lower,
        shifted_eq (carry_amount small nonzero), Option.bind_eq_bind, Option.bind_some]
      exact store_word bitmap inside _
    · simp only [shifted_eq small, if_neg carry, Option.bind_eq_bind, Option.bind_some]
      exact store_word bitmap inside _
  · rw [if_neg reach, if_neg reach]
    exact store_word bitmap inside 0

theorem shift_words_run (wordShift : Nat) {bitShift : UInt64} (small : bitShift.toNat < 64)
    (r : Nat) (inside : r ≤ 16) (bitmap : Bitmap) :
    loopDown (shiftTurn wordShift bitShift) r bitmap.toList =
      some (shiftWords wordShift bitShift r inside bitmap).toList := by
  induction r generalizing bitmap with
  | zero => rfl
  | succ index ih =>
    rw [loopDown, shift_turn_runs wordShift small (by omega) bitmap, shiftWords]
    exact ih (by omega) _

theorem shift_in_place_runs (bitmap : Bitmap) (shift : UInt64) :
    shiftBitmapLeftInPlace bitmap.toList shift = some (shiftBitmapLeft bitmap shift).toList := by
  unfold shiftBitmapLeftInPlace shiftBitmapLeft
  by_cases far : gmReplayWindowBits ≤ shift
  · rw [if_pos far, if_pos far]
    exact clear_bitmap_in_place bitmap
  · have small : (shift % 64).toNat < 64 := Nat.mod_lt shift.toNat (by decide)
    rw [if_neg far, if_neg far]
    exact shift_words_run _ small 16 (Nat.le_refl 16) bitmap

/-- The 1024-bit number in the sixteen words. -/
def bitmapValue (bitmap : Bitmap) : Nat := Words.value 64 (bitmap.toList.map UInt64.toNat)

theorem bitmap_value_bit (bitmap : Bitmap) (i : Nat) :
    (bitmapValue bitmap).testBit i = bitAt bitmap i := by
  have words : ∀ d ∈ bitmap.toList.map UInt64.toNat, d < 2 ^ 64 := by
    intro d member
    obtain ⟨word, _, rfl⟩ := List.mem_map.mp member
    exact word.toNat_lt
  rw [bitmapValue, Words.testBit_value (by decide) _ words, bitAt]
  by_cases inside : i < 1024
  · have word : i / 64 < 16 := by omega
    simp [inside, word]
  · have beyond : ¬ i / 64 < 16 := by omega
    simp [inside, beyond]

/-- Shifting the bitmap multiplies its number by a power of two, within 1024 bits. All
    sixteen-word reads and writes are in place and no shift is as wide as a word. -/
theorem shift_bitmap_left_multiplies (bitmap : Bitmap) (shift : UInt64) :
    ∃ result : Bitmap, shiftBitmapLeftInPlace bitmap.toList shift = some result.toList ∧
      shiftBitmapLeft bitmap shift = result ∧
      bitmapValue result = bitmapValue bitmap * 2 ^ shift.toNat % 2 ^ 1024 ∧
      (1024 ≤ shift.toNat → bitmapValue result = 0) := by
  have product : bitmapValue (shiftBitmapLeft bitmap shift) =
      bitmapValue bitmap * 2 ^ shift.toNat % 2 ^ 1024 := by
    apply Nat.eq_of_testBit_eq
    intro i
    rw [bitmap_value_bit, Nat.testBit_mod_two_pow, Nat.testBit_mul_two_pow, bitmap_value_bit]
    by_cases range : i < 1024
    · rw [Bool.eq_iff_iff, shift_bitmap_bit bitmap shift range]
      simp [range]
    · simp [bitAt, range]
  refine ⟨shiftBitmapLeft bitmap shift, shift_in_place_runs bitmap shift, rfl, product, ?_⟩
  intro far
  exact product.trans (Words.shifted_out far (bitmapValue bitmap))

end GhostMedia.Replay
