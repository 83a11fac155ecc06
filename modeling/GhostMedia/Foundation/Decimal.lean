import Mathlib.Data.List.Induction
import Mathlib.Tactic.Ring

/- Unsigned decimal numerals over bytes: their value, the canonical form without
   leading zeros, the rendering of a number, and the overflow test of a 64-bit
   accumulator. -/
namespace Decimal

def IsDigit (b : UInt8) : Prop := 48 ≤ b.toNat ∧ b.toNat ≤ 57

def valueFrom (start : Nat) (text : List UInt8) : Nat :=
  text.foldl (fun v b => v * 10 + (b.toNat - 48)) start

abbrev value (text : List UInt8) : Nat := valueFrom 0 text

structure Canonical (text : List UInt8) : Prop where
  nonempty : text ≠ []
  digits : ∀ b ∈ text, IsDigit b
  noLeadingZero : 1 < text.length → text.head? ≠ some 48

def render (n : Nat) : List UInt8 :=
  if n < 10 then [UInt8.ofNat (48 + n)] else render (n / 10) ++ [UInt8.ofNat (48 + n % 10)]

@[simp] theorem value_from_nil (start : Nat) : valueFrom start [] = start := rfl

@[simp] theorem value_from_cons (start : Nat) (b : UInt8) (text : List UInt8) :
    valueFrom start (b :: text) = valueFrom (start * 10 + (b.toNat - 48)) text := by
  simp only [valueFrom, List.foldl_cons]

theorem value_append_one (text : List UInt8) (b : UInt8) :
    value (text ++ [b]) = value text * 10 + (b.toNat - 48) := by
  simp [value, valueFrom]

theorem pow_le_value_from (start : Nat) (text : List UInt8) :
    start * 10 ^ text.length ≤ valueFrom start text := by
  induction text generalizing start with
  | nil => simp
  | cons b rest ih =>
    have step := ih (start * 10 + (b.toNat - 48))
    calc start * 10 ^ (b :: rest).length = start * 10 * 10 ^ rest.length := by
          simp only [List.length_cons, Nat.pow_succ]
          ring
      _ ≤ (start * 10 + (b.toNat - 48)) * 10 ^ rest.length := Nat.mul_le_mul_right _ (by omega)
      _ ≤ valueFrom start (b :: rest) := step

theorem le_value_from (start : Nat) (text : List UInt8) : start ≤ valueFrom start text :=
  (Nat.le_mul_of_pos_right start (Nat.pow_pos (by decide))).trans (pow_le_value_from start text)

theorem canonical_length {text : List UInt8} (canonical : Canonical text) {k : Nat}
    (bound : value text < 10 ^ k) (room : 0 < k) : text.length ≤ k := by
  match shape : text with
  | [] => exact absurd rfl canonical.nonempty
  | [_] => exact room
  | b :: c :: rest =>
    have digit := canonical.digits b (by simp)
    have notZero : b ≠ 48 := by
      simpa using canonical.noLeadingZero (by simp)
    have positive : 1 ≤ b.toNat - 48 := by
      have : b.toNat ≠ 48 := fun same => notZero (UInt8.toNat_inj.mp same)
      have := digit.1
      omega
    have large : 10 ^ (c :: rest).length ≤ value (b :: c :: rest) := by
      have step := pow_le_value_from (b.toNat - 48) (c :: rest)
      rw [value, value_from_cons, Nat.zero_mul, Nat.zero_add]
      exact (Nat.le_mul_of_pos_left _ positive).trans step
    have short := (Nat.pow_lt_pow_iff_right (by decide : 1 < 10)).mp (large.trans_lt bound)
    exact Nat.succ_le_of_lt short

theorem digit_ofNat {d : Nat} (small : d < 10) :
    IsDigit (UInt8.ofNat (48 + d)) ∧ (UInt8.ofNat (48 + d)).toNat - 48 = d := by
  simp only [IsDigit, UInt8.toNat_ofNat']
  omega

theorem render_value (n : Nat) : value (render n) = n := by
  fun_induction render n with
  | case1 n small =>
    have digit := (digit_ofNat small).2
    rw [value, value_from_cons, value_from_nil]
    omega
  | case2 n large ih =>
    rw [value_append_one, ih, (digit_ofNat (Nat.mod_lt n (by decide))).2]
    omega

theorem render_digits (n : Nat) : ∀ b ∈ render n, IsDigit b := by
  fun_induction render n with
  | case1 n small => simpa using (digit_ofNat small).1
  | case2 n large ih =>
    intro b member
    rcases List.mem_append.mp member with front | last
    · exact ih b front
    · rw [List.mem_singleton.mp last]
      exact (digit_ofNat (Nat.mod_lt n (by decide))).1

theorem render_head (n : Nat) : ∃ b rest, render n = b :: rest ∧ (b = 48 → n = 0) := by
  fun_induction render n with
  | case1 n small =>
    refine ⟨_, [], rfl, fun zero => ?_⟩
    have := (digit_ofNat small).2
    simp only [zero, UInt8.reduceToNat] at this
    omega
  | case2 n large ih =>
    obtain ⟨b, rest, shape, lead⟩ := ih
    refine ⟨b, rest ++ [UInt8.ofNat (48 + n % 10)], by rw [shape]; rfl, fun zero => ?_⟩
    have := lead zero
    omega

theorem render_canonical (n : Nat) : Canonical (render n) := by
  obtain ⟨b, rest, shape, lead⟩ := render_head n
  refine ⟨by simp [shape], render_digits n, fun long zero => ?_⟩
  have isZero : n = 0 := lead (by simpa [shape] using zero)
  subst isZero
  simp [render] at long

theorem render_one {d : Nat} (small : d < 10) : render d = [UInt8.ofNat (48 + d)] := by
  rw [render, if_pos small]

theorem digit_eq_ofNat {b : UInt8} (digit : IsDigit b) : b = UInt8.ofNat (48 + (b.toNat - 48)) := by
  apply UInt8.toNat_inj.mp
  have := digit.1
  have := digit.2
  rw [UInt8.toNat_ofNat']
  omega

/-- A canonical numeral is the rendering of its value. -/
theorem render_of_canonical {text : List UInt8} (canonical : Canonical text) :
    render (value text) = text := by
  induction text using List.reverseRecOn with
  | nil => exact absurd rfl canonical.nonempty
  | append_singleton front b ih =>
    have digit := canonical.digits b (by simp)
    have low := digit.1
    have high := digit.2
    rw [value_append_one]
    cases front with
    | nil =>
      rw [value, value_from_nil, Nat.zero_mul, Nat.zero_add, render_one (by omega),
        ← digit_eq_ofNat digit]
      rfl
    | cons c rest =>
      have notZero : c ≠ 48 := by simpa using canonical.noLeadingZero (by simp)
      have lead := canonical.digits c (by simp)
      have positive : 1 ≤ value (c :: rest) := by
        have large := le_value_from (c.toNat - 48) rest
        have nonzero : c.toNat ≠ 48 := fun same => notZero (UInt8.toNat_inj.mp same)
        have := lead.1
        rw [value, value_from_cons, Nat.zero_mul, Nat.zero_add]
        omega
      have shorter := ih ⟨by simp,
        fun x member => canonical.digits x (List.mem_append_left [b] member),
        fun _ => by simpa using notZero⟩
      have tens : (value (c :: rest) * 10 + (b.toNat - 48)) / 10 = value (c :: rest) := by omega
      have ones : (value (c :: rest) * 10 + (b.toNat - 48)) % 10 = b.toNat - 48 := by omega
      rw [render, if_neg (by omega), tens, ones, shorter, ← digit_eq_ofNat digit]

/-- The accumulator's test before it takes one more digit. -/
theorem overflow_guard (v d : UInt64) (digit : d.toNat ≤ 9) :
    v > (0xffffffffffffffff - d) / 10 ↔ 2 ^ 64 ≤ v.toNat * 10 + d.toNat := by
  have difference : (0xffffffffffffffff - d).toNat = 2 ^ 64 - 1 - d.toNat := by
    have below : d ≤ 0xffffffffffffffff := by
      simp only [UInt64.le_iff_toNat_le, UInt64.reduceToNat]
      omega
    rw [UInt64.toNat_sub_of_le _ _ below]
    rfl
  have ten : (10 : UInt64).toNat = 10 := rfl
  rw [gt_iff_lt, UInt64.lt_iff_toNat_lt, UInt64.toNat_div, difference, ten]
  omega

theorem accumulate_toNat (v d : UInt64) (fits : v.toNat * 10 + d.toNat < 2 ^ 64) :
    (v * 10 + d).toNat = v.toNat * 10 + d.toNat := by
  simp only [UInt64.toNat_add, UInt64.toNat_mul, UInt64.reduceToNat]
  omega

theorem digit_toUInt64 {b : UInt8} (digit : IsDigit b) :
    (b - 48).toUInt64.toNat = b.toNat - 48 ∧ (b - 48).toUInt64.toNat ≤ 9 := by
  have : (b - 48).toNat = b.toNat - 48 :=
    UInt8.toNat_sub_of_le _ _ (UInt8.le_iff_toNat_le.mpr digit.1)
  rw [UInt8.toNat_toUInt64, this]
  have := digit.2
  omega

end Decimal
