import GhostMedia.Foundation.BitStrings
import Mathlib.Analysis.SpecialFunctions.Pow.NthRootLemmas
import Mathlib.Data.Nat.Prime.Defs

/- SHA-256 of the Secure Hash Standard on bit strings: padding, parsing into blocks of
   sixteen words, the message schedule, sixty-four rounds, and the hash of the last
   block as the digest. -/
namespace Sha2
open BitStrings

abbrev Word := BitVec 32

def ch (x y z : Word) : Word := (x &&& y) ^^^ (~~~x &&& z)

def maj (x y z : Word) : Word := (x &&& y) ^^^ (x &&& z) ^^^ (y &&& z)

def bigSigma0 (x : Word) : Word := x.rotateRight 2 ^^^ x.rotateRight 13 ^^^ x.rotateRight 22

def bigSigma1 (x : Word) : Word := x.rotateRight 6 ^^^ x.rotateRight 11 ^^^ x.rotateRight 25

def smallSigma0 (x : Word) : Word := x.rotateRight 7 ^^^ x.rotateRight 18 ^^^ x >>> 3

def smallSigma1 (x : Word) : Word := x.rotateRight 17 ^^^ x.rotateRight 19 ^^^ x >>> 10

/-- The first 32 bits of the fractional part of a root of `n`. -/
def rootFraction (degree n : Nat) : Word :=
  BitVec.ofNat 32 (Nat.nthRoot degree (n * 2 ^ (32 * degree)))

/-- The first sixty-four prime numbers. -/
def primes : List Nat := (List.range 312).filter Nat.Prime

def roundConstants : List Word := primes.map (rootFraction 3)

/-- The zeros between the one bit and the length: the fewest that leave room for 64 bits at
    the end of a block of 512. -/
def zeros (length : Nat) : Nat := (447 + 512 - length % 512) % 512

def pad (message : List Bool) : List Bool :=
  message ++ true :: List.replicate (zeros message.length) false ++ bits 64 message.length

/-- Word `t` of a block. -/
def blockWord (block : List Bool) (t : Nat) : Word :=
  BitVec.ofNat 32 (value ((block.drop (32 * t)).take 32))

def schedule (word : Nat → Word) (t : Nat) : Word :=
  if t < 16 then word t
  else smallSigma1 (schedule word (t - 2)) + schedule word (t - 7) +
    smallSigma0 (schedule word (t - 15)) + schedule word (t - 16)

/-- The hash value between two blocks, and the working variables within one. -/
structure Words where
  a : Word
  b : Word
  c : Word
  d : Word
  e : Word
  f : Word
  g : Word
  h : Word

/-- From the square roots of the first eight primes. -/
def initial : Words :=
  ⟨rootFraction 2 2, rootFraction 2 3, rootFraction 2 5, rootFraction 2 7, rootFraction 2 11,
    rootFraction 2 13, rootFraction 2 17, rootFraction 2 19⟩

def round (constant scheduled : Word) (v : Words) : Words :=
  let t₁ := v.h + bigSigma1 v.e + ch v.e v.f v.g + constant + scheduled
  let t₂ := bigSigma0 v.a + maj v.a v.b v.c
  ⟨t₁ + t₂, v.a, v.b, v.c, v.d + t₁, v.e, v.f, v.g⟩

def Words.add (v w : Words) : Words :=
  ⟨v.a + w.a, v.b + w.b, v.c + w.c, v.d + w.d, v.e + w.e, v.f + w.f, v.g + w.g, v.h + w.h⟩

def compress (hash : Words) (block : List Bool) : Words :=
  hash.add ((List.range 64).foldl
    (fun v t => round (roundConstants.getD t 0) (schedule (blockWord block) t) v) hash)

def Words.toBits (v : Words) : List Bool :=
  [v.a, v.b, v.c, v.d, v.e, v.f, v.g, v.h].flatMap fun word => bits 32 word.toNat

/-- The digest of a message of fewer than `2 ^ 64` bits. -/
def sha256 (message : List Bool) : List Bool :=
  ((List.range ((pad message).length / 512)).foldl
    (fun hash i => compress hash (((pad message).drop (512 * i)).take 512)) initial).toBits

/-- The primes by their least factors, which are quicker to compute. -/
theorem primes_by_factor :
    primes = (List.range 312).filter fun n => 2 ≤ n ∧ n.minFac = n := by
  apply List.filter_congr
  intro n _
  exact decide_eq_decide.mpr Nat.prime_def_minFac

theorem schedule_first (word : Nat → Word) {t : Nat} (first : t < 16) :
    schedule word t = word t := by
  rw [schedule, if_pos first]

theorem schedule_later (word : Nat → Word) {t : Nat} (later : 16 ≤ t) :
    schedule word t = smallSigma1 (schedule word (t - 2)) + schedule word (t - 7) +
      smallSigma0 (schedule word (t - 15)) + schedule word (t - 16) := by
  rw [schedule, if_neg (by omega)]

/-- The schedule depends on the sixteen words of the block. -/
theorem schedule_congr {word other : Nat → Word} (same : ∀ t < 16, word t = other t) (t : Nat) :
    schedule word t = schedule other t := by
  induction t using Nat.strongRecOn with
  | _ t ih =>
    by_cases first : t < 16
    · rw [schedule_first word first, schedule_first other first, same t first]
    · have later : 16 ≤ t := Nat.le_of_not_lt first
      rw [schedule_later word later, schedule_later other later, ih _ (by omega), ih _ (by omega),
        ih _ (by omega), ih _ (by omega)]

theorem block_word_take (block : List Bool) {t : Nat} (inside : t < 16) :
    blockWord (block.take 512) t = blockWord block t := by
  rw [blockWord, blockWord, List.drop_take, List.take_take, Nat.min_eq_left (by omega)]

/-- Only the first 512 bits of a block count. -/
theorem compress_take (hash : Words) (block : List Bool) :
    compress hash (block.take 512) = compress hash block := by
  have same (t : Nat) : schedule (blockWord (block.take 512)) t = schedule (blockWord block) t :=
    schedule_congr (fun _ inside => block_word_take block inside) t
  simp only [compress, same]

/-- A root is known by the two powers around it. -/
theorem root_fraction_eq {degree n r : Nat} (below : r ^ degree ≤ n * 2 ^ (32 * degree))
    (above : n * 2 ^ (32 * degree) < (r + 1) ^ degree) :
    rootFraction degree n = BitVec.ofNat 32 r := by
  rw [rootFraction, Nat.nthRoot_eq_of_le_of_lt below above]

end Sha2
