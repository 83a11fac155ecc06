import Mathlib.Data.List.Induction
import Mathlib.Tactic.Ring

/- Big-endian numerals over bytes: the value of a byte string, the fixed-width
   bytes of a number, and the two round trips. -/
namespace BigEndian

def value (bytes : List UInt8) : Nat := bytes.foldl (fun v b => v * 256 + b.toNat) 0

/-- The lowest `width` base-256 digits of a number, most significant first. -/
def bytes : Nat → Nat → List UInt8
  | 0, _ => []
  | width + 1, n => bytes width (n / 256) ++ [UInt8.ofNat n]

@[simp] theorem value_nil : value [] = 0 := rfl

@[simp] theorem value_append_one (front : List UInt8) (b : UInt8) :
    value (front ++ [b]) = value front * 256 + b.toNat := by
  simp [value]

theorem value_cons (b : UInt8) (rest : List UInt8) :
    value (b :: rest) = b.toNat * 256 ^ rest.length + value rest := by
  induction rest using List.reverseRecOn with
  | nil => simp [value]
  | append_singleton rest c ih =>
    rw [← List.cons_append, value_append_one, ih, value_append_one, List.length_append,
      List.length_singleton, Nat.pow_succ]
    ring

theorem value_lt (l : List UInt8) : value l < 256 ^ l.length := by
  induction l using List.reverseRecOn with
  | nil => simp
  | append_singleton front b ih =>
    have digit := b.toNat_lt
    simp only [value_append_one, List.length_append, List.length_cons, List.length_nil,
      Nat.zero_add, Nat.pow_succ]
    omega

@[simp] theorem bytes_length (width n : Nat) : (bytes width n).length = width := by
  induction width generalizing n with
  | zero => rfl
  | succ width ih => rw [bytes, List.length_append, ih, List.length_singleton]

theorem value_bytes (width n : Nat) : value (bytes width n) = n % 256 ^ width := by
  induction width generalizing n with
  | zero => simp [bytes, Nat.mod_one]
  | succ width ih =>
    have digit : (UInt8.ofNat n).toNat = n % 256 := by simp
    rw [bytes, value_append_one, ih, digit, Nat.pow_succ', Nat.mod_mul, Nat.mul_comm 256]
    omega

theorem value_bytes_of_lt {width n : Nat} (fits : n < 256 ^ width) :
    value (bytes width n) = n := by
  rw [value_bytes, Nat.mod_eq_of_lt fits]

theorem bytes_value (l : List UInt8) : bytes l.length (value l) = l := by
  induction l using List.reverseRecOn with
  | nil => rfl
  | append_singleton front b ih =>
    have digit := b.toNat_lt
    have high : (value front * 256 + b.toNat) / 256 = value front := by omega
    have low : UInt8.ofNat (value front * 256 + b.toNat) = b := by
      apply UInt8.toNat_inj.mp
      simp
    simp only [List.length_append, List.length_cons, List.length_nil, Nat.zero_add,
      value_append_one, bytes, high, low, ih]

/-- Each digit cut out of the number by a shift of its own. -/
theorem bytes_eq_map (width n : Nat) :
    bytes width n = (List.range width).reverse.map fun i => UInt8.ofNat (n / 256 ^ i) := by
  induction width generalizing n with
  | zero => rfl
  | succ width ih =>
    have shifted (i : Nat) : n / 256 / 256 ^ i = n / 256 ^ (i + 1) := by
      rw [Nat.div_div_eq_div_mul, Nat.pow_succ']
    rw [bytes, ih, List.range_succ_eq_map]
    simp [shifted, Function.comp_def]

theorem or_eq_add {hi lo k : Nat} (small : lo < 2 ^ k) :
    hi * 2 ^ k ||| lo = hi * 2 ^ k + lo := by
  rw [← Nat.shiftLeft_eq, ← Nat.shiftLeft_add_eq_or_of_lt small]

theorem low_byte (n : Nat) : n &&& 255 = n % 256 := Nat.and_two_pow_sub_one_eq_mod n 8

end BigEndian
