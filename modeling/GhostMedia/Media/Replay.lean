import GhostMedia.Core.Abi

/- The replay window of gm_media.cpp: a 1024-bit map in sixteen words, shifted in
   place. Bit i of the map stands for the sequence number i below the highest. -/
namespace GhostMedia.Replay

abbrev Bitmap := Vector UInt64 16

theorem word_index_lt {bit : UInt64} (inside : bit < gmReplayWindowBits) :
    (bit / 64).toNat < 16 := by
  have bound : bit.toNat < 1024 := inside
  simp only [UInt64.toNat_div, UInt64.reduceToNat]
  omega

def getBit (bitmap : Bitmap) (bit : UInt64) (inside : bit < gmReplayWindowBits) : Bool :=
  have := word_index_lt inside
  bitmap[(bit / 64).toNat] &&& ((1 : UInt64) <<< (bit % 64)) != 0

def setBit (bitmap : Bitmap) (bit : UInt64) (inside : bit < gmReplayWindowBits) : Bitmap :=
  have := word_index_lt inside
  bitmap.set (bit / 64).toNat (bitmap[(bit / 64).toNat] ||| ((1 : UInt64) <<< (bit % 64)))

def clearBitmap : Bitmap := Vector.replicate 16 0

/-- The descending loop; words from `reverseIndex` up have been rewritten. -/
def shiftWords (wordShift : Nat) (bitShift : UInt64) :
    (reverseIndex : Nat) → reverseIndex ≤ 16 → Bitmap → Bitmap
  | 0, _, bitmap => bitmap
  | index + 1, inside, bitmap =>
    let value : UInt64 :=
      if wordShift ≤ index then
        let value := bitmap[index - wordShift] <<< bitShift
        if bitShift != 0 && wordShift < index then
          value ||| bitmap[index - wordShift - 1] >>> (64 - bitShift)
        else value
      else 0
    shiftWords wordShift bitShift index (by omega) (bitmap.set index value)

def shiftBitmapLeft (bitmap : Bitmap) (shift : UInt64) : Bitmap :=
  if gmReplayWindowBits ≤ shift then clearBitmap
  else shiftWords (shift / 64).toNat (shift % 64) 16 (Nat.le_refl 16) bitmap

def gmReplayWindowInit (window : GmReplayWindow) : GmStatus × GmReplayWindow :=
  if window.structSize < sizeofGmReplayWindow then (.badArgument, window)
  else
    (.ok, { structSize := window.structSize, abiVersion := gmAbiVersion, initialized := 0,
            highestSequence := 0, bitmap := clearBitmap })

/-- `*out_result` is written only when the call returns `GM_OK`. -/
def gmReplayWindowAccept (window : GmReplayWindow) (sequence : UInt64) :
    GmStatus × GmReplayWindow × Option GmReplayResult :=
  if window.structSize < sizeofGmReplayWindow || window.abiVersion != gmAbiVersion then
    (.badArgument, window, none)
  else if window.initialized = 0 then
    (.ok, { window with
            bitmap := setBit clearBitmap 0 (by decide)
            highestSequence := sequence
            initialized := 1 }, some .accepted)
  else if sequence > window.highestSequence then
    let shifted := shiftBitmapLeft window.bitmap (sequence - window.highestSequence)
    (.ok, { window with
            bitmap := setBit shifted 0 (by decide)
            highestSequence := sequence }, some .accepted)
  else
    let delta := window.highestSequence - sequence
    if inside : delta < gmReplayWindowBits then
      if getBit window.bitmap delta inside then (.ok, window, some .duplicate)
      else (.ok, { window with bitmap := setBit window.bitmap delta inside }, some .accepted)
    else (.ok, window, some .tooOld)

end GhostMedia.Replay
