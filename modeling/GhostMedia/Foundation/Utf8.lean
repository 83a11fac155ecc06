import Mathlib.Data.List.Basic
import Mathlib.Data.Fintype.Basic

/- UTF-8 byte strings: the encodings of lists of Unicode scalar values. A text is
   valid exactly when it is such an encoding, and one character can be peeled off
   the front by its length class. The characters are determined by the bytes, and a
   text may be cut at any byte of ASCII. Respelling bytes of ASCII in ASCII keeps a
   text valid or invalid. -/
namespace Utf8

def Valid (bytes : List UInt8) : Prop :=
  ∃ chars : List Char, bytes = chars.flatMap String.utf8EncodeChar

theorem valid_nil : Valid [] := ⟨[], rfl⟩

theorem valid_append_char {c : Char} {rest : List UInt8} (valid : Valid rest) :
    Valid (String.utf8EncodeChar c ++ rest) := by
  obtain ⟨chars, rfl⟩ := valid
  exact ⟨c :: chars, rfl⟩

/-- The characters a code point may stand for. -/
def Scalar (n : Nat) : Prop := n < 0xd800 ∨ 0xdfff < n ∧ n < 0x110000

theorem toNat_of_scalar {n : Nat} (scalar : Scalar n) : (Char.ofNat n).toNat = n := by
  have valid : n.isValidChar := scalar
  rw [Char.ofNat, dif_pos valid]
  rfl

theorem exists_char {n : Nat} (scalar : Scalar n) : ∃ c : Char, c.toNat = n :=
  ⟨Char.ofNat n, toNat_of_scalar scalar⟩

theorem scalar_toNat (c : Char) : Scalar c.toNat := c.valid

def Continuation (b : UInt8) : Prop := 0x80 ≤ b.toNat ∧ b.toNat < 0xc0

instance (b : UInt8) : Decidable (Continuation b) := by
  unfold Continuation
  infer_instance

/-- The mask 0xc0 keeps the two high bits of a byte. -/
theorem high_bits (n : Nat) : n &&& 192 = n / 64 % 4 * 64 := by
  have low : (n &&& 192) % 64 = 0 := by
    rw [show 64 = 2 ^ 6 from rfl, Nat.and_mod_two_pow]
    simp
  have high : (n &&& 192) / 64 = n / 64 % 4 := by
    rw [show 64 = 2 ^ 6 from rfl, Nat.and_div_two_pow]
    exact Nat.and_two_pow_sub_one_eq_mod (n / 2 ^ 6) 2
  omega

theorem continuation_mask (b : UInt8) : b &&& 0xc0 = 0x80 ↔ Continuation b := by
  have small := b.toNat_lt
  simp only [Continuation, ← UInt8.toNat_inj, UInt8.toNat_and, UInt8.reduceToNat, high_bits]
  omega

theorem continuation_ofNat (n : Nat) : Continuation (UInt8.ofNat (n % 64 + 128)) := by
  simp only [Continuation, UInt8.toNat_ofNat']
  omega

/-- The shape of the encoding of a character, by its length. -/
theorem encode_cases (c : Char) :
    (c.toNat ≤ 0x7f ∧ String.utf8EncodeChar c = [UInt8.ofNat c.toNat]) ∨
    (0x7f < c.toNat ∧ c.toNat ≤ 0x7ff ∧ String.utf8EncodeChar c =
      [UInt8.ofNat (c.toNat / 64 + 0xc0), UInt8.ofNat (c.toNat % 64 + 0x80)]) ∨
    (0x7ff < c.toNat ∧ c.toNat ≤ 0xffff ∧ String.utf8EncodeChar c =
      [UInt8.ofNat (c.toNat / 4096 + 0xe0), UInt8.ofNat (c.toNat / 64 % 64 + 0x80),
        UInt8.ofNat (c.toNat % 64 + 0x80)]) ∨
    (0xffff < c.toNat ∧ c.toNat < 0x110000 ∧ String.utf8EncodeChar c =
      [UInt8.ofNat (c.toNat / 262144 + 0xf0), UInt8.ofNat (c.toNat / 4096 % 64 + 0x80),
        UInt8.ofNat (c.toNat / 64 % 64 + 0x80), UInt8.ofNat (c.toNat % 64 + 0x80)]) := by
  have scalar := scalar_toNat c
  simp only [Scalar] at scalar
  by_cases one : c.toNat ≤ 0x7f
  · exact .inl ⟨one, by simp [String.utf8EncodeChar, one]⟩
  by_cases two : c.toNat ≤ 0x7ff
  · have lead : c.toNat / 64 % 32 = c.toNat / 64 := by omega
    exact .inr (.inl ⟨by omega, two, by simp [String.utf8EncodeChar, one, two, lead]⟩)
  by_cases three : c.toNat ≤ 0xffff
  · have lead : c.toNat / 4096 % 16 = c.toNat / 4096 := by omega
    exact .inr (.inr (.inl ⟨by omega, three, by
      simp [String.utf8EncodeChar, one, two, three, lead]⟩))
  · have lead : c.toNat / 262144 % 8 = c.toNat / 262144 := by omega
    exact .inr (.inr (.inr ⟨by omega, by omega, by
      simp [String.utf8EncodeChar, one, two, three, lead]⟩))

theorem ofNat_eq_of_toNat {n : Nat} {b : UInt8} (same : b.toNat = n) : UInt8.ofNat n = b := by
  simp [← same]

theorem encode_one (b : UInt8) (range : b.toNat ≤ 0x7f) :
    ∃ c : Char, c.toNat = b.toNat ∧ String.utf8EncodeChar c = [b] := by
  obtain ⟨c, value⟩ := exists_char (.inl (by omega) : Scalar b.toNat)
  refine ⟨c, value, ?_⟩
  rcases encode_cases c with ⟨_, shape⟩ | wrong | wrong | wrong
  · rw [shape, value, UInt8.ofNat_toNat]
  all_goals omega

theorem encode_two (b₁ b₂ : UInt8) (lead : 0xc2 ≤ b₁.toNat ∧ b₁.toNat ≤ 0xdf)
    (second : Continuation b₂) : ∃ c : Char, String.utf8EncodeChar c = [b₁, b₂] := by
  obtain ⟨low, high⟩ := second
  have scalar : Scalar ((b₁.toNat - 0xc0) * 64 + (b₂.toNat - 0x80)) := .inl (by omega)
  obtain ⟨c, value⟩ := exists_char scalar
  refine ⟨c, ?_⟩
  rcases encode_cases c with wrong | ⟨_, _, shape⟩ | wrong | wrong
  · omega
  · rw [shape, value, ofNat_eq_of_toNat (b := b₁) (by omega),
      ofNat_eq_of_toNat (b := b₂) (by omega)]
  all_goals omega

theorem encode_three (b₁ b₂ b₃ : UInt8) (lead : 0xe0 ≤ b₁.toNat ∧ b₁.toNat ≤ 0xef)
    (second : Continuation b₂) (third : Continuation b₃)
    (shortest : b₁.toNat = 0xe0 → 0xa0 ≤ b₂.toNat)
    (noSurrogate : b₁.toNat = 0xed → b₂.toNat < 0xa0) :
    ∃ c : Char, String.utf8EncodeChar c = [b₁, b₂, b₃] := by
  obtain ⟨low₂, high₂⟩ := second
  obtain ⟨low₃, high₃⟩ := third
  have scalar : Scalar ((b₁.toNat - 0xe0) * 4096 + (b₂.toNat - 0x80) * 64 +
      (b₃.toNat - 0x80)) := by
    simp only [Scalar]
    omega
  obtain ⟨c, value⟩ := exists_char scalar
  refine ⟨c, ?_⟩
  rcases encode_cases c with wrong | wrong | ⟨_, _, shape⟩ | wrong
  · omega
  · omega
  · rw [shape, value, ofNat_eq_of_toNat (b := b₁) (by omega),
      ofNat_eq_of_toNat (b := b₂) (by omega), ofNat_eq_of_toNat (b := b₃) (by omega)]
  · omega

theorem encode_four (b₁ b₂ b₃ b₄ : UInt8) (lead : 0xf0 ≤ b₁.toNat ∧ b₁.toNat ≤ 0xf4)
    (second : Continuation b₂) (third : Continuation b₃) (fourth : Continuation b₄)
    (shortest : b₁.toNat = 0xf0 → 0x90 ≤ b₂.toNat)
    (inRange : b₁.toNat = 0xf4 → b₂.toNat ≤ 0x8f) :
    ∃ c : Char, String.utf8EncodeChar c = [b₁, b₂, b₃, b₄] := by
  obtain ⟨low₂, high₂⟩ := second
  obtain ⟨low₃, high₃⟩ := third
  obtain ⟨low₄, high₄⟩ := fourth
  have scalar : Scalar ((b₁.toNat - 0xf0) * 262144 + (b₂.toNat - 0x80) * 4096 +
      (b₃.toNat - 0x80) * 64 + (b₄.toNat - 0x80)) := by
    simp only [Scalar]
    omega
  obtain ⟨c, value⟩ := exists_char scalar
  refine ⟨c, ?_⟩
  rcases encode_cases c with wrong | wrong | wrong | ⟨_, _, shape⟩
  · omega
  · omega
  · omega
  · rw [shape, value, ofNat_eq_of_toNat (b := b₁) (by omega),
      ofNat_eq_of_toNat (b := b₂) (by omega), ofNat_eq_of_toNat (b := b₃) (by omega),
      ofNat_eq_of_toNat (b := b₄) (by omega)]

/-- A character is one byte of ASCII, or a sequence of bytes above it. -/
theorem encode_ascii_or_high (c : Char) :
    (∃ b : UInt8, b.toNat ≤ 0x7f ∧ String.utf8EncodeChar c = [b]) ∨
      String.utf8EncodeChar c ≠ [] ∧ ∀ b ∈ String.utf8EncodeChar c, 0x7f < b.toNat := by
  have scalar := scalar_toNat c
  simp only [Scalar] at scalar
  rcases encode_cases c with ⟨top, shape⟩ | ⟨low, top, shape⟩ | ⟨low, top, shape⟩ |
    ⟨low, top, shape⟩
  · exact .inl ⟨_, by simp only [UInt8.toNat_ofNat']; omega, shape⟩
  all_goals
    rw [shape]
    refine .inr ⟨by simp, ?_⟩
    simp only [List.forall_mem_cons, UInt8.toNat_ofNat', List.not_mem_nil, false_implies,
      implies_true, and_true]
    omega

theorem valid_uncons {b : UInt8} {rest : List UInt8} (valid : Valid (b :: rest)) :
    ∃ (c : Char) (more : List UInt8), Valid more ∧ b :: rest = String.utf8EncodeChar c ++ more := by
  obtain ⟨chars, shape⟩ := valid
  cases chars with
  | nil => cases shape
  | cons c chars => exact ⟨c, _, ⟨chars, rfl⟩, shape⟩

/-- A text that starts above ASCII starts with bytes above it. -/
theorem encode_high {b : UInt8} {rest more : List UInt8} {c : Char} (above : 0x7f < b.toNat)
    (shape : b :: rest = String.utf8EncodeChar c ++ more) :
    String.utf8EncodeChar c ≠ [] ∧ ∀ x ∈ String.utf8EncodeChar c, 0x7f < x.toNat := by
  rcases encode_ascii_or_high c with ⟨a, low, one⟩ | high
  · rw [one] at shape
    obtain ⟨rfl, _⟩ := List.cons.inj shape
    omega
  · exact high

theorem length_lt_append {left right : List UInt8} (nonempty : left ≠ []) :
    right.length < (left ++ right).length := by
  rw [List.length_append]
  exact Nat.lt_add_of_pos_left (List.length_pos_of_ne_nil nonempty)

theorem valid_cons_iff {b : UInt8} {rest : List UInt8} (low : b.toNat ≤ 0x7f) :
    Valid (b :: rest) ↔ Valid rest := by
  constructor
  · intro valid
    obtain ⟨c, more, others, shape⟩ := valid_uncons valid
    rcases encode_ascii_or_high c with ⟨a, _, one⟩ | ⟨nonempty, high⟩
    · rw [one] at shape
      obtain ⟨_, rfl⟩ := List.cons.inj shape
      exact others
    · obtain ⟨first, tail, same⟩ := List.exists_cons_of_ne_nil nonempty
      have above := high first (by simp [same])
      rw [same] at shape
      obtain ⟨rfl, _⟩ := List.cons.inj shape
      omega
  · intro valid
    obtain ⟨c, _, shape⟩ := encode_one b low
    have longer := valid_append_char (c := c) valid
    rwa [shape] at longer

theorem valid_ascii_append_iff {left right : List UInt8} (low : ∀ b ∈ left, b.toNat ≤ 0x7f) :
    Valid (left ++ right) ↔ Valid right := by
  induction left with
  | nil => rfl
  | cons b left ih =>
    rw [List.forall_mem_cons] at low
    rw [List.cons_append, valid_cons_iff low.1]
    exact ih low.2

/-- The bytes of a text determine its first character, and so all of them. -/
theorem encode_append_inj {c d : Char} {left right : List UInt8}
    (same : String.utf8EncodeChar c ++ left = String.utf8EncodeChar d ++ right) :
    c = d ∧ left = right := by
  have decoded (e : Char) (rest : List UInt8) :
      (String.utf8EncodeChar e ++ rest).toByteArray.utf8DecodeChar? 0 = some e := by
    rw [List.toByteArray_append]
    exact ByteArray.utf8DecodeChar?_utf8EncodeChar_append
  have first : some c = some d := by
    rw [← decoded c left, same, decoded d right]
  obtain rfl := Option.some.inj first
  exact ⟨rfl, List.append_cancel_left same⟩

theorem encoding_unique {chars others : List Char}
    (same : chars.flatMap String.utf8EncodeChar = others.flatMap String.utf8EncodeChar) :
    chars = others := by
  induction chars generalizing others with
  | nil =>
    cases others with
    | nil => rfl
    | cons d others => simp [String.utf8EncodeChar_ne_nil] at same
  | cons c chars ih =>
    cases others with
    | nil => simp [String.utf8EncodeChar_ne_nil] at same
    | cons d others =>
      rw [List.flatMap_cons, List.flatMap_cons] at same
      obtain ⟨rfl, rest⟩ := encode_append_inj same
      rw [ih rest]

theorem valid_append {left right : List UInt8} (first : Valid left) (second : Valid right) :
    Valid (left ++ right) := by
  obtain ⟨chars, rfl⟩ := first
  obtain ⟨others, rfl⟩ := second
  exact ⟨chars ++ others, List.flatMap_append.symm⟩

/-- A byte of ASCII stands between two characters, never inside one. -/
theorem valid_split {b : UInt8} (low : b.toNat ≤ 0x7f) {left right : List UInt8}
    (valid : Valid (left ++ b :: right)) : Valid left ∧ Valid right := by
  obtain ⟨chars, shape⟩ := valid
  induction chars generalizing left with
  | nil => simp at shape
  | cons c chars ih =>
    rw [List.flatMap_cons, List.append_eq_append_iff] at shape
    rcases shape with ⟨inside, whole, rest⟩ | ⟨more, rfl, rest⟩
    · cases inside with
      | nil =>
        have others : Valid (b :: right) := ⟨chars, by simpa using rest⟩
        refine ⟨⟨[c], by simpa using whole.symm⟩, (valid_cons_iff low).mp others⟩
      | cons x inside =>
        obtain ⟨rfl, others⟩ := List.cons.inj rest
        rcases encode_ascii_or_high c with ⟨a, _, one⟩ | ⟨_, high⟩
        · rw [one] at whole
          have alone : left = [] ∧ inside = [] := by
            cases left with
            | nil => exact ⟨rfl, (List.cons.inj whole).2.symm⟩
            | cons y left => simp at whole
          obtain ⟨rfl, rfl⟩ := alone
          exact ⟨valid_nil, ⟨chars, others⟩⟩
        · have above := high b (by simp [whole])
          omega
    · obtain ⟨first, second⟩ := ih rest.symm
      exact ⟨valid_append_char first, second⟩

/-- A spelling that leaves the bytes above ASCII alone and writes the others in ASCII. -/
structure Spelling (spell : UInt8 → List UInt8) : Prop where
  nonempty : ∀ b, spell b ≠ []
  ascii : ∀ b : UInt8, b.toNat ≤ 0x7f → ∀ x ∈ spell b, x.toNat ≤ 0x7f
  high : ∀ b : UInt8, 0x7f < b.toNat → spell b = [b]

section Spelling
variable {spell : UInt8 → List UInt8}

theorem spell_high (rules : Spelling spell) {bytes : List UInt8}
    (high : ∀ b ∈ bytes, 0x7f < b.toNat) : bytes.flatMap spell = bytes := by
  induction bytes with
  | nil => rfl
  | cons b bytes ih =>
    rw [List.forall_mem_cons] at high
    rw [List.flatMap_cons, rules.high b high.1, ih high.2]
    rfl

/-- Bytes above ASCII at the front of a spelled text stand at the front of the text. -/
theorem unspell_high (rules : Spelling spell) {bytes text rest tail : List UInt8}
    (below : ∀ b ∈ tail, b.toNat ≤ 0x7f) (high : ∀ b ∈ bytes, 0x7f < b.toNat)
    (shape : text.flatMap spell ++ tail = bytes ++ rest) :
    ∃ more, text = bytes ++ more ∧ more.flatMap spell ++ tail = rest := by
  induction bytes generalizing text with
  | nil => exact ⟨text, rfl, shape⟩
  | cons b bytes ih =>
    rw [List.forall_mem_cons] at high
    cases text with
    | nil =>
      have low := below b (by simp [show tail = b :: (bytes ++ rest) from shape])
      omega
    | cons a text =>
      rw [List.flatMap_cons, List.append_assoc] at shape
      by_cases low : a.toNat ≤ 0x7f
      · obtain ⟨x, xs, same⟩ := List.exists_cons_of_ne_nil (rules.nonempty a)
        have low := rules.ascii a low x (by simp [same])
        rw [same] at shape
        obtain ⟨rfl, _⟩ := List.cons.inj shape
        omega
      · rw [rules.high a (by omega)] at shape
        obtain ⟨rfl, later⟩ := List.cons.inj shape
        obtain ⟨more, rfl, others⟩ := ih high.2 later
        exact ⟨more, rfl, others⟩

/-- A text is valid exactly when its spelling is, whatever ASCII follows it. -/
theorem valid_spelled_iff (rules : Spelling spell) {tail : List UInt8}
    (below : ∀ b ∈ tail, b.toNat ≤ 0x7f) (text : List UInt8) :
    Valid (text.flatMap spell ++ tail) ↔ Valid text := by
  induction size : text.length using Nat.strongRecOn generalizing text with
  | _ n ih =>
    cases text with
    | nil =>
      refine iff_of_true ?_ valid_nil
      have whole := (valid_ascii_append_iff below).mpr valid_nil
      simpa using whole
    | cons b rest =>
      have shorter : rest.length < n := size ▸ Nat.lt_succ_self rest.length
      by_cases low : b.toNat ≤ 0x7f
      · rw [List.flatMap_cons, List.append_assoc, valid_ascii_append_iff (rules.ascii b low),
          valid_cons_iff low]
        exact ih _ shorter rest rfl
      have first : (b :: rest).flatMap spell ++ tail = b :: (rest.flatMap spell ++ tail) := by
        rw [List.flatMap_cons, rules.high b (by omega)]
        rfl
      constructor
      · intro valid
        obtain ⟨c, more, others, shape⟩ := valid_uncons (first ▸ valid)
        obtain ⟨nonempty, high⟩ := encode_high (by omega) shape
        obtain ⟨later, split, rfl⟩ := unspell_high rules below high (first.trans shape)
        rw [split]
        refine valid_append_char ((ih _ ?_ later rfl).mp others)
        exact size ▸ split ▸ length_lt_append nonempty
      · intro valid
        obtain ⟨c, more, others, split⟩ := valid_uncons valid
        obtain ⟨nonempty, high⟩ := encode_high (by omega) split
        rw [split, List.flatMap_append, spell_high rules high, List.append_assoc]
        refine valid_append_char ((ih _ ?_ more rfl).mpr others)
        exact size ▸ split ▸ length_lt_append nonempty

end Spelling

end Utf8
