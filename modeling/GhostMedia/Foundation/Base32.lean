import GhostMedia.Foundation.BitStrings

/- Base 32 without padding, in lower case: a byte string is read as bits, cut into
   groups of five, and the last group is filled up with zeros. The decoder accepts a
   text only if fewer than five bits are left over and all of them are zero. -/
namespace Base32
open BitStrings

/-- The symbols: `a` to `z`, then `2` to `7`. -/
def symbol (v : Nat) : UInt8 := UInt8.ofNat (if v < 26 then 97 + v else 24 + v)

def digit (c : UInt8) : Option Nat :=
  if 97 ≤ c.toNat ∧ c.toNat ≤ 122 then some (c.toNat - 97)
  else if 50 ≤ c.toNat ∧ c.toNat ≤ 55 then some (c.toNat - 24)
  else none

def encodeBits : List Bool → List UInt8
  | b₄ :: b₃ :: b₂ :: b₁ :: b₀ :: rest => symbol (value [b₄, b₃, b₂, b₁, b₀]) :: encodeBits rest
  | [] => []
  | last => [symbol (value (last ++ List.replicate (5 - last.length) false))]

def encode (bytes : List UInt8) : List UInt8 := encodeBits (ofBytes bytes)

def decodeBits : List UInt8 → Option (List Bool)
  | [] => some []
  | c :: text => do
    let v ← digit c
    let rest ← decodeBits text
    return bits 5 v ++ rest

def toBytes : List Bool → Option (List UInt8)
  | b₇ :: b₆ :: b₅ :: b₄ :: b₃ :: b₂ :: b₁ :: b₀ :: rest => do
    let bytes ← toBytes rest
    return UInt8.ofNat (value [b₇, b₆, b₅, b₄, b₃, b₂, b₁, b₀]) :: bytes
  | left => if left.length < 5 ∧ true ∉ left then some [] else none

def decode (text : List UInt8) : Option (List UInt8) := do toBytes (← decodeBits text)

theorem symbol_digit {v : Nat} (small : v < 32) : digit (symbol v) = some v := by
  by_cases letter : v < 26
  · have code : (symbol v).toNat = 97 + v := by
      rw [symbol, if_pos letter, UInt8.toNat_ofNat']
      omega
    rw [digit, code, if_pos (by omega)]
    simp
  · have code : (symbol v).toNat = 24 + v := by
      rw [symbol, if_neg letter, UInt8.toNat_ofNat']
      omega
    rw [digit, code, if_neg (by omega), if_pos (by omega)]
    simp

theorem decode_bits_cons (group : List Bool) (five : group.length = 5) (text : List UInt8)
    {rest : List Bool} (decoded : decodeBits text = some rest) :
    decodeBits (symbol (value group) :: text) = some (group ++ rest) := by
  have small : value group < 2 ^ 5 := five ▸ value_lt group
  have same : bits 5 (value group) = group := five ▸ bits_value group
  rw [decodeBits, symbol_digit small, decoded]
  exact congrArg (fun first => some (first ++ rest)) same

theorem encode_bits_group (v : Nat) (rest : List Bool) :
    encodeBits (bits 5 v ++ rest) = symbol (v % 32) :: encodeBits rest := by
  have five : ∃ b₄ b₃ b₂ b₁ b₀ : Bool, bits 5 v = [b₄, b₃, b₂, b₁, b₀] := ⟨_, _, _, _, _, rfl⟩
  obtain ⟨b₄, b₃, b₂, b₁, b₀, group⟩ := five
  have same : value [b₄, b₃, b₂, b₁, b₀] = v % 32 := by
    rw [← group]
    exact value_bits 5 v
  rw [group, ← same]
  rfl

/-- A last group of fewer bits takes its lowest bits as zeros. -/
theorem encode_bits_last {width : Nat} (more : 0 < width) (few : width < 5) (v : Nat) :
    encodeBits (bits width v) = [symbol (v * 2 ^ (5 - width) % 32)] := by
  have filled : value (bits width v ++ List.replicate (5 - width) false) =
      v * 2 ^ (5 - width) % 32 := by
    rw [value_append, value_zeros, value_bits, List.length_replicate, Nat.add_zero,
      ← Nat.mul_mod_mul_right, ← Nat.pow_add, Nat.add_sub_of_le (Nat.le_of_lt few)]
  rw [← filled]
  match width, more, few with
  | 1, _, _ | 2, _, _ | 3, _, _ | 4, _, _ => rfl

/-- What the last case of the encoder leaves. -/
theorem short_group {last : List Bool}
    (short : ∀ (b₄ b₃ b₂ b₁ b₀ : Bool) (rest : List Bool),
      last = b₄ :: b₃ :: b₂ :: b₁ :: b₀ :: rest → False)
    (nonempty : last = [] → False) : 0 < last.length ∧ last.length < 5 := by
  match last, short, nonempty with
  | [], _, nonempty => exact (nonempty rfl).elim
  | [_], _, _ | [_, _], _, _ | [_, _, _], _, _ | [_, _, _, _], _, _ => simp
  | b₄ :: b₃ :: b₂ :: b₁ :: b₀ :: rest, short, _ => exact (short b₄ b₃ b₂ b₁ b₀ rest rfl).elim

/-- The bits come back, with the zeros that fill the last group. -/
theorem decode_encode_bits (stream : List Bool) :
    ∃ k < 5, decodeBits (encodeBits stream) = some (stream ++ List.replicate k false) := by
  fun_induction encodeBits stream with
  | case1 b₄ b₃ b₂ b₁ b₀ rest ih =>
    obtain ⟨k, few, decoded⟩ := ih
    exact ⟨k, few, decode_bits_cons [b₄, b₃, b₂, b₁, b₀] rfl _ decoded⟩
  | case2 => exact ⟨0, by decide, rfl⟩
  | case3 last short nonempty =>
    obtain ⟨more, few⟩ := short_group short nonempty
    have filled : (last ++ List.replicate (5 - last.length) false).length = 5 := by
      rw [List.length_append, List.length_replicate]
      omega
    refine ⟨5 - last.length, by omega, ?_⟩
    rw [decode_bits_cons _ filled [] rfl, List.append_nil]

theorem byte_of_bits (b : UInt8) : ∃ b₇ b₆ b₅ b₄ b₃ b₂ b₁ b₀ : Bool,
    bits 8 b.toNat = [b₇, b₆, b₅, b₄, b₃, b₂, b₁, b₀] :=
  ⟨_, _, _, _, _, _, _, _, rfl⟩

theorem to_bytes_zeros {k : Nat} (few : k < 5) : toBytes (List.replicate k false) = some [] := by
  match k, few with
  | 0, _ | 1, _ | 2, _ | 3, _ | 4, _ => rfl

theorem to_bytes_of_bytes (bytes : List UInt8) {k : Nat} (few : k < 5) :
    toBytes (ofBytes bytes ++ List.replicate k false) = some bytes := by
  induction bytes with
  | nil => exact to_bytes_zeros few
  | cons b bytes ih =>
    obtain ⟨b₇, b₆, b₅, b₄, b₃, b₂, b₁, b₀, eight⟩ := byte_of_bits b
    have back : UInt8.ofNat (value [b₇, b₆, b₅, b₄, b₃, b₂, b₁, b₀]) = b := by
      rw [← eight, value_bits_of_lt b.toNat_lt, UInt8.ofNat_toNat]
    rw [of_bytes_cons, eight]
    simp only [List.cons_append, List.nil_append, toBytes, ih, back, Option.bind_eq_bind,
      Option.bind_some, Option.pure_def]

theorem decode_encode (bytes : List UInt8) : decode (encode bytes) = some bytes := by
  obtain ⟨k, few, decoded⟩ := decode_encode_bits (ofBytes bytes)
  rw [decode, encode, decoded]
  exact to_bytes_of_bytes bytes few

theorem encode_injective {left right : List UInt8} (same : encode left = encode right) :
    left = right := by
  have decoded := decode_encode left
  rw [same, decode_encode right] at decoded
  exact (Option.some.inj decoded).symm

theorem encode_bits_length (stream : List Bool) :
    (encodeBits stream).length = (stream.length + 4) / 5 := by
  fun_induction encodeBits stream with
  | case1 b₄ b₃ b₂ b₁ b₀ rest ih =>
    simp only [List.length_cons, ih]
    omega
  | case2 => rfl
  | case3 last short nonempty =>
    obtain ⟨more, few⟩ := short_group short nonempty
    rw [List.length_singleton]
    omega

theorem encode_bits_symbols (stream : List Bool) :
    ∀ c ∈ encodeBits stream, ∃ v < 32, c = symbol v := by
  fun_induction encodeBits stream with
  | case1 b₄ b₃ b₂ b₁ b₀ rest ih =>
    rw [List.forall_mem_cons]
    exact ⟨⟨_, value_lt [b₄, b₃, b₂, b₁, b₀], rfl⟩, ih⟩
  | case2 =>
    intro c member
    cases member
  | case3 last short nonempty =>
    obtain ⟨more, few⟩ := short_group short nonempty
    have bound := value_lt (last ++ List.replicate (5 - last.length) false)
    rw [List.length_append, List.length_replicate, Nat.add_sub_of_le (Nat.le_of_lt few)] at bound
    rw [List.forall_mem_singleton]
    exact ⟨_, bound, rfl⟩

theorem encode_length (bytes : List UInt8) :
    (encode bytes).length = (8 * bytes.length + 4) / 5 := by
  rw [encode, encode_bits_length, of_bytes_length]

end Base32
