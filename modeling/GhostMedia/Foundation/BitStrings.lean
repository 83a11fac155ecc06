import GhostMedia.Foundation.BigEndian

/- Bit strings, the most significant bit first: the value of one, the bits of a number
   in a given width, and the bits of a byte string. -/
namespace BitStrings

def value (bits : List Bool) : Nat := bits.foldl (fun v b => v * 2 + b.toNat) 0

/-- The lowest `width` bits of a number. -/
def bits : Nat → Nat → List Bool
  | 0, _ => []
  | width + 1, n => bits width (n / 2) ++ [n.testBit 0]

def ofBytes (bytes : List UInt8) : List Bool := bytes.flatMap fun b => bits 8 b.toNat

@[simp] theorem value_nil : value [] = 0 := rfl

@[simp] theorem value_append_one (front : List Bool) (b : Bool) :
    value (front ++ [b]) = value front * 2 + b.toNat := by
  simp [value]

theorem value_append (left right : List Bool) :
    value (left ++ right) = value left * 2 ^ right.length + value right := by
  induction right using List.reverseRecOn with
  | nil => simp
  | append_singleton right b ih =>
    rw [← List.append_assoc, value_append_one, ih, value_append_one, List.length_append,
      List.length_singleton, Nat.pow_succ]
    ring

theorem value_lt (l : List Bool) : value l < 2 ^ l.length := by
  induction l using List.reverseRecOn with
  | nil => simp
  | append_singleton front b ih =>
    have digit := b.toNat_lt
    rw [value_append_one, List.length_append, List.length_singleton, Nat.pow_succ]
    omega

theorem value_zeros (n : Nat) : value (List.replicate n false) = 0 := by
  induction n with
  | zero => rfl
  | succ n ih =>
    rw [List.replicate_succ', value_append_one, ih]
    rfl

@[simp] theorem bits_length (width n : Nat) : (bits width n).length = width := by
  induction width generalizing n with
  | zero => rfl
  | succ width ih => rw [bits, List.length_append, ih, List.length_singleton]

theorem value_bits (width n : Nat) : value (bits width n) = n % 2 ^ width := by
  induction width generalizing n with
  | zero => simp [bits, Nat.mod_one]
  | succ width ih =>
    rw [bits, value_append_one, ih, Nat.toNat_testBit, Nat.pow_zero, Nat.div_one, Nat.pow_succ',
      Nat.mod_mul]
    omega

theorem value_bits_of_lt {width n : Nat} (fits : n < 2 ^ width) : value (bits width n) = n := by
  rw [value_bits, Nat.mod_eq_of_lt fits]

theorem bits_value (l : List Bool) : bits l.length (value l) = l := by
  induction l using List.reverseRecOn with
  | nil => rfl
  | append_singleton front b ih =>
    have digit := b.toNat_lt
    have high : (value front * 2 + b.toNat) / 2 = value front := by omega
    have low : (value front * 2 + b.toNat).testBit 0 = b := by
      cases b <;> simp
    rw [List.length_append, List.length_singleton, value_append_one, bits, high, ih, low]

theorem eq_of_value {left right : List Bool} (width : left.length = right.length)
    (same : value left = value right) : left = right := by
  rw [← bits_value left, ← bits_value right, width, same]

theorem bits_append (high low n : Nat) :
    bits (high + low) n = bits high (n / 2 ^ low) ++ bits low n := by
  induction low generalizing n with
  | zero => simp [bits]
  | succ low ih =>
    rw [← Nat.add_assoc, bits, ih, bits, Nat.div_div_eq_div_mul, Nat.pow_succ', List.append_assoc]

/-- Only the lowest bits of a number matter. -/
theorem bits_congr {width m n : Nat} (same : m % 2 ^ width = n % 2 ^ width) :
    bits width m = bits width n := by
  apply eq_of_value
  · rw [bits_length, bits_length]
  · rw [value_bits, value_bits, same]

theorem of_bytes_append (left right : List UInt8) :
    ofBytes (left ++ right) = ofBytes left ++ ofBytes right := List.flatMap_append

theorem of_bytes_cons (b : UInt8) (rest : List UInt8) :
    ofBytes (b :: rest) = bits 8 b.toNat ++ ofBytes rest := rfl

@[simp] theorem of_bytes_length (bytes : List UInt8) :
    (ofBytes bytes).length = 8 * bytes.length := by
  induction bytes with
  | nil => rfl
  | cons b bytes ih =>
    rw [of_bytes_cons, List.length_append, bits_length, ih, List.length_cons]
    omega

theorem of_bytes_zeros (n : Nat) :
    ofBytes (List.replicate n 0) = List.replicate (8 * n) false := by
  induction n with
  | zero => rfl
  | succ n ih =>
    have zero : bits 8 (0 : UInt8).toNat = List.replicate 8 false := by decide
    rw [List.replicate_succ, of_bytes_cons, ih, zero, List.replicate_append_replicate, Nat.mul_succ,
      Nat.add_comm]

theorem of_bytes_drop (bytes : List UInt8) (n : Nat) :
    (ofBytes bytes).drop (8 * n) = ofBytes (bytes.drop n) := by
  induction n generalizing bytes with
  | zero => rfl
  | succ n ih =>
    cases bytes with
    | nil => exact List.drop_nil
    | cons b rest =>
      rw [of_bytes_cons, Nat.mul_succ, Nat.add_comm, ← List.drop_drop,
        List.drop_left' (bits_length 8 b.toNat), ih, List.drop_succ_cons]

theorem of_bytes_take (bytes : List UInt8) (n : Nat) :
    (ofBytes bytes).take (8 * n) = ofBytes (bytes.take n) := by
  induction n generalizing bytes with
  | zero => rfl
  | succ n ih =>
    cases bytes with
    | nil => exact List.take_nil
    | cons b rest =>
      have eight : 8 * (n + 1) = (bits 8 b.toNat).length + 8 * n := by
        rw [bits_length]
        omega
      rw [of_bytes_cons, eight, List.take_length_add_append, ih, List.take_succ_cons, of_bytes_cons]

theorem value_of_bytes (bytes : List UInt8) : value (ofBytes bytes) = BigEndian.value bytes := by
  induction bytes using List.reverseRecOn with
  | nil => rfl
  | append_singleton front b ih =>
    have last : ofBytes [b] = bits 8 b.toNat := List.append_nil _
    rw [of_bytes_append, value_append, ih, last, value_bits_of_lt b.toNat_lt, bits_length,
      BigEndian.value_append_one]
    rfl

theorem of_bytes_bytes (width n : Nat) :
    ofBytes (BigEndian.bytes width n) = bits (8 * width) n := by
  have same : value (ofBytes (BigEndian.bytes width n)) = value (bits (8 * width) n) := by
    rw [value_of_bytes, BigEndian.value_bytes, value_bits, Nat.pow_mul]
  exact eq_of_value (by rw [of_bytes_length, bits_length, BigEndian.bytes_length]) same

end BitStrings
