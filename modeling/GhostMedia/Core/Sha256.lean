import GhostMedia.Media.Header

/- SHA-256 of gm_crypto.cpp for inputs of at most 119 bytes, padded in one buffer of
   128. The file's own byte helpers are the ones of gm_media.cpp. -/
namespace GhostMedia.Crypto
open Media

def kSha256InitialState : List UInt32 :=
  [0x6a09e667, 0xbb67ae85, 0x3c6ef372, 0xa54ff53a, 0x510e527f, 0x9b05688c, 0x1f83d9ab, 0x5be0cd19]

def kSha256RoundConstants : List UInt32 :=
  [0x428a2f98, 0x71374491, 0xb5c0fbcf, 0xe9b5dba5, 0x3956c25b, 0x59f111f1, 0x923f82a4, 0xab1c5ed5,
    0xd807aa98, 0x12835b01, 0x243185be, 0x550c7dc3, 0x72be5d74, 0x80deb1fe, 0x9bdc06a7, 0xc19bf174,
    0xe49b69c1, 0xefbe4786, 0x0fc19dc6, 0x240ca1cc, 0x2de92c6f, 0x4a7484aa, 0x5cb0a9dc, 0x76f988da,
    0x983e5152, 0xa831c66d, 0xb00327c8, 0xbf597fc7, 0xc6e00bf3, 0xd5a79147, 0x06ca6351, 0x14292967,
    0x27b70a85, 0x2e1b2138, 0x4d2c6dfc, 0x53380d13, 0x650a7354, 0x766a0abb, 0x81c2c92e, 0x92722c85,
    0xa2bfe8a1, 0xa81a664b, 0xc24b8b70, 0xc76c51a3, 0xd192e819, 0xd6990624, 0xf40e3585, 0x106aa070,
    0x19a4c116, 0x1e376c08, 0x2748774c, 0x34b0bcb5, 0x391c0cb3, 0x4ed8aa4a, 0x5b9cca4f, 0x682e6ff3,
    0x748f82ee, 0x78a5636f, 0x84c87814, 0x8cc70208, 0x90befffa, 0xa4506ceb, 0xbef9a3f7, 0xc67178f2]

def rotateRight (value shift : UInt32) : UInt32 := (value >>> shift) ||| (value <<< (32 - shift))

/-- The word of the schedule behind those computed so far. -/
def scheduleWord (schedule : List UInt32) : UInt32 :=
  let index := schedule.length
  let w (back : Nat) := schedule.getD (index - back) 0
  let smallSigma0 := rotateRight (w 15) 7 ^^^ rotateRight (w 15) 18 ^^^ (w 15 >>> 3)
  let smallSigma1 := rotateRight (w 2) 17 ^^^ rotateRight (w 2) 19 ^^^ (w 2 >>> 10)
  w 16 + smallSigma0 + w 7 + smallSigma1

def sha256Schedule (block : List UInt8) : List UInt32 :=
  let schedule := (List.range 16).map fun index => readU32Be (block.drop (index * 4))
  (List.range' 16 48).foldl (fun schedule _ => schedule ++ [scheduleWord schedule]) schedule

/-- One round; the working words move up by one place. -/
def sha256Round (working : List UInt32) (constant scheduled : UInt32) : List UInt32 :=
  let w (index : Nat) := working.getD index 0
  let sum1 := rotateRight (w 4) 6 ^^^ rotateRight (w 4) 11 ^^^ rotateRight (w 4) 25
  let choice := (w 4 &&& w 5) ^^^ (~~~(w 4) &&& w 6)
  let temp1 := w 7 + sum1 + choice + constant + scheduled
  let sum0 := rotateRight (w 0) 2 ^^^ rotateRight (w 0) 13 ^^^ rotateRight (w 0) 22
  let majority := (w 0 &&& w 1) ^^^ (w 0 &&& w 2) ^^^ (w 1 &&& w 2)
  let temp2 := sum0 + majority
  [temp1 + temp2, w 0, w 1, w 2, w 3 + temp1, w 4, w 5, w 6]

def sha256Transform (block : List UInt8) (state : List UInt32) : List UInt32 :=
  let working := (kSha256RoundConstants.zip (sha256Schedule block)).foldl
    (fun working round => sha256Round working round.1 round.2) state
  (List.range 8).map fun index => state.getD index 0 + working.getD index 0

def paddedSize (size : Nat) : Nat := (size + 1 + 8 + 63) / 64 * 64

/-- The input, a one bit, zeros, and the size in bits as the last eight bytes. -/
def sha256Padded (input : List UInt8) : List UInt8 :=
  let padded := writeAt (List.replicate 128 0) 0 input
  let padded := writeAt padded input.length [0x80]
  writeAt padded (paddedSize input.length - 8) (writeU64Be (UInt64.ofNat input.length * 8))

def sha256Fixed (input : List UInt8) : List UInt8 :=
  let padded := sha256Padded input
  let state := (List.range (paddedSize input.length / 64)).foldl
    (fun state block => sha256Transform (padded.drop (block * 64)) state) kSha256InitialState
  state.flatMap writeU32Be

theorem sha256_transform_length (block : List UInt8) (state : List UInt32) :
    (sha256Transform block state).length = 8 := by
  simp [sha256Transform]

theorem flat_words_length (words : List UInt32) :
    (words.flatMap writeU32Be).length = words.length * 4 := by
  induction words with
  | nil => rfl
  | cons word words ih =>
    rw [List.flatMap_cons, List.length_append, ih, List.length_cons, writeU32Be]
    simp only [List.length_cons, List.length_nil]
    omega

theorem sha256_fixed_length (input : List UInt8) : (sha256Fixed input).length = 32 := by
  have words (blocks : List Nat) (state : List UInt32) (size : state.length = 8) :
      (blocks.foldl (fun state block =>
        sha256Transform ((sha256Padded input).drop (block * 64)) state) state).length = 8 := by
    induction blocks generalizing state with
    | nil => exact size
    | cons block blocks ih => exact ih _ (sha256_transform_length _ _)
  rw [sha256Fixed, flat_words_length, words _ _ rfl]

/-- The digest of the three bytes `abc`. -/
example : (sha256Fixed (ascii "abc")).take 4 = [0xba, 0x78, 0x16, 0xbf] := by decide +kernel

end GhostMedia.Crypto
