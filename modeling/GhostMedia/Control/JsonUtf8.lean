import GhostMedia.Control.JsonParser
import GhostMedia.Foundation.Utf8
import Mathlib.Tactic.Ring

/- The two UTF-8 routines of gm_control.cpp against the encoding of characters:
   `is_valid_utf8` accepts exactly the encodings, `append_utf8` appends one. -/
namespace GhostMedia.Json
open Utf8

theorem above_ascii {b : UInt8} (above : 0x7f < b.toNat) : ¬ b ≤ 0x7f := by
  simpa [UInt8.le_iff_toNat_le] using above

theorem between_iff (low b high : UInt8) :
    (low ≤ b && b ≤ high) = true ↔ low.toNat ≤ b.toNat ∧ b.toNat ≤ high.toNat := by
  simp [UInt8.le_iff_toNat_le]

theorem outside_range {low b high : UInt8}
    (outside : b.toNat < low.toNat ∨ high.toNat < b.toNat) :
    ¬ (low ≤ b && b ≤ high) = true := by
  rw [between_iff]
  omega

theorem utf8_accepts_one (b : UInt8) (rest : List UInt8) (range : b.toNat ≤ 0x7f) :
    isValidUtf8 (b :: rest) = isValidUtf8 rest := by
  have small : b ≤ 0x7f := UInt8.le_iff_toNat_le.mpr range
  conv => lhs; unfold isValidUtf8
  simp only [small, ↓reduceIte]

theorem utf8_accepts_two (b₁ b₂ : UInt8) (rest : List UInt8)
    (lead : 0xc2 ≤ b₁.toNat ∧ b₁.toNat ≤ 0xdf) (second : Continuation b₂) :
    isValidUtf8 (b₁ :: b₂ :: rest) = isValidUtf8 rest := by
  have notOne := above_ascii (b := b₁) (by omega)
  have two : (0xc2 ≤ b₁ && b₁ ≤ 0xdf) = true := (between_iff _ _ _).mpr lead
  conv => lhs; unfold isValidUtf8
  simp [notOne, two, (continuation_mask b₂).mpr second]

theorem utf8_accepts_three (b₁ b₂ b₃ : UInt8) (rest : List UInt8)
    (lead : 0xe0 ≤ b₁.toNat ∧ b₁.toNat ≤ 0xef)
    (second : Continuation b₂) (third : Continuation b₃)
    (shortest : b₁.toNat = 0xe0 → 0xa0 ≤ b₂.toNat)
    (noSurrogate : b₁.toNat = 0xed → b₂.toNat < 0xa0) :
    isValidUtf8 (b₁ :: b₂ :: b₃ :: rest) = isValidUtf8 rest := by
  have notOne := above_ascii (b := b₁) (by omega)
  have notTwo : ¬ (0xc2 ≤ b₁ && b₁ ≤ 0xdf) = true :=
    outside_range (.inr (by simp only [UInt8.reduceToNat]; omega))
  have three : (0xe0 ≤ b₁ && b₁ ≤ 0xef) = true := (between_iff _ _ _).mpr lead
  have excluded : ((b₁ = 0xe0 && b₂ < 0xa0) || (b₁ = 0xed && b₂ ≥ 0xa0)) = false := by
    simp only [← UInt8.toNat_inj, UInt8.lt_iff_toNat_lt, UInt8.le_iff_toNat_le, ge_iff_le,
      UInt8.reduceToNat, Bool.or_eq_false_iff, Bool.and_eq_false_iff, decide_eq_false_iff_not]
    omega
  conv => lhs; unfold isValidUtf8
  simp only [notOne, notTwo, three, excluded, (continuation_mask b₂).mpr second,
    (continuation_mask b₃).mpr third]
  simp

theorem utf8_accepts_four (b₁ b₂ b₃ b₄ : UInt8) (rest : List UInt8)
    (lead : 0xf0 ≤ b₁.toNat ∧ b₁.toNat ≤ 0xf4)
    (second : Continuation b₂) (third : Continuation b₃) (fourth : Continuation b₄)
    (shortest : b₁.toNat = 0xf0 → 0x90 ≤ b₂.toNat)
    (inRange : b₁.toNat = 0xf4 → b₂.toNat ≤ 0x8f) :
    isValidUtf8 (b₁ :: b₂ :: b₃ :: b₄ :: rest) = isValidUtf8 rest := by
  have notOne := above_ascii (b := b₁) (by omega)
  have notTwo : ¬ (0xc2 ≤ b₁ && b₁ ≤ 0xdf) = true :=
    outside_range (.inr (by simp only [UInt8.reduceToNat]; omega))
  have notThree : ¬ (0xe0 ≤ b₁ && b₁ ≤ 0xef) = true :=
    outside_range (.inr (by simp only [UInt8.reduceToNat]; omega))
  have four : (0xf0 ≤ b₁ && b₁ ≤ 0xf4) = true := (between_iff _ _ _).mpr lead
  have excluded : ((b₁ = 0xf0 && b₂ < 0x90) || (b₁ = 0xf4 && b₂ > 0x8f)) = false := by
    simp only [← UInt8.toNat_inj, UInt8.lt_iff_toNat_lt, gt_iff_lt,
      UInt8.reduceToNat, Bool.or_eq_false_iff, Bool.and_eq_false_iff, decide_eq_false_iff_not]
    omega
  conv => lhs; unfold isValidUtf8
  simp only [notOne, notTwo, notThree, four, excluded, (continuation_mask b₂).mpr second,
    (continuation_mask b₃).mpr third, (continuation_mask b₄).mpr fourth]
  simp

theorem utf8_accepts_char (c : Char) (rest : List UInt8) :
    isValidUtf8 (String.utf8EncodeChar c ++ rest) = isValidUtf8 rest := by
  have scalar := scalar_toNat c
  simp only [Scalar] at scalar
  rcases encode_cases c with ⟨top, shape⟩ | ⟨low, top, shape⟩ | ⟨low, top, shape⟩ |
    ⟨low, top, shape⟩
  · rw [shape]
    exact utf8_accepts_one _ _ (by simp only [UInt8.toNat_ofNat']; omega)
  · rw [shape]
    exact utf8_accepts_two _ _ _ (by simp only [UInt8.toNat_ofNat']; omega)
      (continuation_ofNat _)
  · rw [shape]
    exact utf8_accepts_three _ _ _ _ (by simp only [UInt8.toNat_ofNat']; omega)
      (continuation_ofNat _) (continuation_ofNat _)
      (by simp only [UInt8.toNat_ofNat']; omega) (by simp only [UInt8.toNat_ofNat']; omega)
  · rw [shape]
    exact utf8_accepts_four _ _ _ _ _ (by simp only [UInt8.toNat_ofNat']; omega)
      (continuation_ofNat _) (continuation_ofNat _) (continuation_ofNat _)
      (by simp only [UInt8.toNat_ofNat']; omega) (by simp only [UInt8.toNat_ofNat']; omega)

theorem utf8_complete {bytes : List UInt8} (valid : Valid bytes) : isValidUtf8 bytes = true := by
  obtain ⟨chars, rfl⟩ := valid
  induction chars with
  | nil => rfl
  | cons c rest ih => simpa [utf8_accepts_char] using ih

theorem utf8_sound {bytes : List UInt8} (accepted : isValidUtf8 bytes = true) : Valid bytes := by
  fun_induction isValidUtf8 bytes with
  | case1 => exact valid_nil
  | case2 first rest small ih =>
    obtain ⟨c, _, shape⟩ := encode_one first (UInt8.le_iff_toNat_le.mp small)
    simpa [shape] using valid_append_char (c := c) (ih accepted)
  | case3 first notOne two second rest ih =>
    simp only [Bool.and_eq_true, decide_eq_true_eq, continuation_mask] at accepted
    obtain ⟨tail, ok⟩ := accepted
    obtain ⟨c, shape⟩ := encode_two first second ((between_iff _ _ _).mp two) tail
    simpa [shape] using valid_append_char (c := c) (ih ok)
  | case5 first notOne notTwo three second third rest ih =>
    simp only [Bool.and_eq_true, Bool.not_eq_true', decide_eq_true_eq, continuation_mask,
      Bool.or_eq_false_iff, Bool.and_eq_false_iff, decide_eq_false_iff_not] at accepted
    simp only [← UInt8.toNat_inj, UInt8.lt_iff_toNat_lt, ge_iff_le, UInt8.le_iff_toNat_le,
      UInt8.reduceToNat] at accepted
    obtain ⟨⟨⟨tail₂, tail₃⟩, excluded⟩, ok⟩ := accepted
    obtain ⟨c, shape⟩ := encode_three first second third ((between_iff _ _ _).mp three)
      tail₂ tail₃ (by omega) (by omega)
    simpa [shape] using valid_append_char (c := c) (ih ok)
  | case7 first notOne notTwo notThree four second third fourth rest ih =>
    simp only [Bool.and_eq_true, Bool.not_eq_true', decide_eq_true_eq, continuation_mask,
      Bool.or_eq_false_iff, Bool.and_eq_false_iff, decide_eq_false_iff_not] at accepted
    simp only [← UInt8.toNat_inj, UInt8.lt_iff_toNat_lt, gt_iff_lt, UInt8.reduceToNat] at accepted
    obtain ⟨⟨⟨⟨tail₂, tail₃⟩, tail₄⟩, excluded⟩, ok⟩ := accepted
    obtain ⟨c, shape⟩ := encode_four first second third fourth ((between_iff _ _ _).mp four)
      tail₂ tail₃ tail₄ (by omega) (by omega)
    simpa [shape] using valid_append_char (c := c) (ih ok)
  | case4 | case6 | case8 | case9 => cases accepted

/-- `is_valid_utf8` accepts exactly the encodings of character sequences. -/
theorem is_valid_utf8_iff (bytes : List UInt8) : isValidUtf8 bytes = true ↔ Valid bytes :=
  ⟨utf8_sound, utf8_complete⟩

theorem lead_byte {mark lead : UInt32} {k a : Nat} (fits : lead.toNat < 2 ^ k)
    (marked : mark.toNat = 2 ^ k * a) :
    (mark ||| lead).toUInt8 = UInt8.ofNat (lead.toNat + mark.toNat) := by
  have whole := Nat.two_pow_add_eq_or_of_lt fits a
  rw [← UInt8.toNat_inj]
  simp only [UInt32.toNat_toUInt8, UInt32.toNat_or, UInt8.toNat_ofNat', marked, ← whole]
  omega

theorem continuation_byte (bits : UInt32) :
    ((0x80 : UInt32) ||| (bits &&& 0x3f)).toUInt8 = UInt8.ofNat (bits.toNat % 64 + 0x80) := by
  have low : (bits &&& 0x3f).toNat = bits.toNat % 64 := Nat.and_two_pow_sub_one_eq_mod _ 6
  rw [lead_byte (k := 6) (a := 2) (by omega) rfl, low]
  rfl

/-- `append_utf8` appends the encoding of a character. -/
theorem append_utf8_encodes (c : Char) (out : List UInt8) :
    appendUtf8 c.val out = out ++ String.utf8EncodeChar c := by
  have value : c.val.toNat = c.toNat := rfl
  have shifted₆ : (c.val >>> 6).toNat = c.toNat / 64 := Nat.shiftRight_eq_div_pow _ 6
  have shifted₁₂ : (c.val >>> 12).toNat = c.toNat / 4096 := Nat.shiftRight_eq_div_pow _ 12
  have shifted₁₈ : (c.val >>> 18).toNat = c.toNat / 262144 := Nat.shiftRight_eq_div_pow _ 18
  have one : c.val ≤ 0x7f ↔ c.toNat ≤ 0x7f := UInt32.le_iff_toNat_le
  have two : c.val ≤ 0x7ff ↔ c.toNat ≤ 0x7ff := UInt32.le_iff_toNat_le
  have three : c.val ≤ 0xffff ↔ c.toNat ≤ 0xffff := UInt32.le_iff_toNat_le
  rcases encode_cases c with ⟨top, shape⟩ | ⟨low, top, shape⟩ | ⟨low, top, shape⟩ |
    ⟨low, top, shape⟩
  · rw [shape, appendUtf8, if_pos (one.mpr top)]
    rfl
  · rw [shape, appendUtf8, if_neg (one.not.mpr (by omega)), if_pos (two.mpr top),
      lead_byte (k := 5) (a := 6) (by omega) rfl, shifted₆, continuation_byte, value]
    rfl
  · rw [shape, appendUtf8, if_neg (one.not.mpr (by omega)), if_neg (two.not.mpr (by omega)),
      if_pos (three.mpr top), lead_byte (k := 4) (a := 14) (by omega) rfl, shifted₁₂,
      continuation_byte, continuation_byte, shifted₆, value]
    rfl
  · rw [shape, appendUtf8, if_neg (one.not.mpr (by omega)), if_neg (two.not.mpr (by omega)),
      if_neg (three.not.mpr (by omega)), lead_byte (k := 3) (a := 30) (by omega) rfl, shifted₁₈,
      continuation_byte, continuation_byte, continuation_byte, shifted₁₂, shifted₆, value]
    rfl

end GhostMedia.Json
