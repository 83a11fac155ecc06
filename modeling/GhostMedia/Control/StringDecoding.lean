import GhostMedia.Control.JsonStrings

/- Validated texts as sequences of code points, and the strings read out of them. A
   string may mix raw characters with escapes: its bytes are those of whole characters
   again, because a quote or a backslash never falls inside one. -/
namespace GhostMedia.Json
open StateLogic Utf8

/-- A Unicode scalar value: a code point outside the surrogates. -/
def ScalarValue (codePoint : UInt32) : Prop :=
  codePoint.toNat ≤ 0x10ffff ∧ ¬ (0xd800 ≤ codePoint.toNat ∧ codePoint.toNat ≤ 0xdfff)

/-- The outputs of `append_utf8`, one behind the other. -/
def appendAll (codePoints : List UInt32) : List UInt8 :=
  codePoints.foldl (fun out codePoint => appendUtf8 codePoint out) []

theorem scalar_value_char {codePoint : UInt32} (scalar : ScalarValue codePoint) :
    ∃ c : Char, c.val = codePoint := by
  obtain ⟨range, plain⟩ := scalar
  have valid : Scalar codePoint.toNat := by
    unfold Scalar
    omega
  obtain ⟨c, value⟩ := exists_char valid
  exact ⟨c, UInt32.toNat_inj.mp value⟩

theorem char_scalar_value (c : Char) : ScalarValue c.val := by
  have valid := scalar_toNat c
  unfold Scalar at valid
  have value : c.val.toNat = c.toNat := rfl
  constructor <;> omega

theorem scalar_values_chars {codePoints : List UInt32}
    (scalars : ∀ codePoint ∈ codePoints, ScalarValue codePoint) :
    ∃ chars : List Char, chars.map Char.val = codePoints := by
  induction codePoints with
  | nil => exact ⟨[], rfl⟩
  | cons codePoint codePoints ih =>
    rw [List.forall_mem_cons] at scalars
    obtain ⟨c, rfl⟩ := scalar_value_char scalars.1
    obtain ⟨chars, rfl⟩ := ih scalars.2
    exact ⟨c :: chars, rfl⟩

theorem append_all_from (chars : List Char) (out : List UInt8) :
    (chars.map Char.val).foldl (fun out codePoint => appendUtf8 codePoint out) out =
      out ++ chars.flatMap String.utf8EncodeChar := by
  induction chars generalizing out with
  | nil => simp
  | cons c chars ih =>
    rw [List.map_cons, List.foldl_cons, append_utf8_encodes, ih, List.flatMap_cons,
      List.append_assoc]

theorem append_all_chars (chars : List Char) :
    appendAll (chars.map Char.val) = chars.flatMap String.utf8EncodeChar :=
  append_all_from chars []

theorem is_valid_utf8_iff_appended (bytes : List UInt8) :
    isValidUtf8 bytes = true ↔ ∃ codePoints : List UInt32,
      (∀ codePoint ∈ codePoints, ScalarValue codePoint) ∧ bytes = appendAll codePoints := by
  rw [is_valid_utf8_iff]
  constructor
  · intro valid
    obtain ⟨chars, rfl⟩ := valid
    refine ⟨chars.map Char.val, ?_, (append_all_chars chars).symm⟩
    intro codePoint member
    obtain ⟨c, _, rfl⟩ := List.mem_map.mp member
    exact char_scalar_value c
  · intro decomposition
    obtain ⟨codePoints, scalars, rfl⟩ := decomposition
    obtain ⟨chars, rfl⟩ := scalar_values_chars scalars
    exact ⟨chars, append_all_chars chars⟩

theorem append_all_inj {codePoints others : List UInt32}
    (scalars : ∀ codePoint ∈ codePoints, ScalarValue codePoint)
    (scalars' : ∀ codePoint ∈ others, ScalarValue codePoint)
    (same : appendAll codePoints = appendAll others) : codePoints = others := by
  obtain ⟨chars, rfl⟩ := scalar_values_chars scalars
  obtain ⟨chars', rfl⟩ := scalar_values_chars scalars'
  rw [append_all_chars, append_all_chars] at same
  rw [encoding_unique same]

theorem hex_digit_ascii {b : UInt8} {d : Nat} (digit : HexDigit b d) : b.toNat ≤ 0x7f := by
  unfold HexDigit at digit
  omega

theorem hex_unit_ascii {digits : List UInt8} {n : Nat} (unit : HexUnit digits n) :
    ∀ b ∈ digits, b.toNat ≤ 0x7f := by
  cases unit with
  | four third second first zeroth =>
    simp only [List.forall_mem_cons]
    exact ⟨hex_digit_ascii third, hex_digit_ascii second, hex_digit_ascii first,
      hex_digit_ascii zeroth, by simp⟩

theorem short_escape_ascii {e b : UInt8} (known : (e, b) ∈ shortEscapes) :
    e.toNat ≤ 0x7f ∧ b.toNat ≤ 0x7f := by
  simp only [shortEscapes, List.mem_cons, Prod.mk.injEq, List.not_mem_nil, or_false] at known
  rcases known with ⟨rfl, rfl⟩ | ⟨rfl, rfl⟩ | ⟨rfl, rfl⟩ | ⟨rfl, rfl⟩ | ⟨rfl, rfl⟩ | ⟨rfl, rfl⟩ |
    ⟨rfl, rfl⟩ | ⟨rfl, rfl⟩ <;> decide

theorem char_valid (c : Char) : Valid (String.utf8EncodeChar c) := ⟨[c], by simp⟩

/-- An escape is written in ASCII and stands for whole characters. -/
theorem escape_text_parts {text bytes : List UInt8} (escape : EscapeText text bytes) :
    (∀ b ∈ text, b.toNat ≤ 0x7f) ∧ Valid bytes := by
  cases escape with
  | @short e b known =>
    obtain ⟨letter, plain⟩ := short_escape_ascii known
    exact ⟨by simpa using letter, (valid_cons_iff plain).mpr valid_nil⟩
  | @unit digits c unit =>
    refine ⟨?_, char_valid c⟩
    rw [List.forall_mem_cons]
    exact ⟨by decide, hex_unit_ascii unit⟩
  | @pair first second high low c firstUnit isHigh secondUnit isLow point =>
    refine ⟨?_, char_valid c⟩
    simp only [List.forall_mem_cons, List.forall_mem_append]
    exact ⟨by decide, hex_unit_ascii firstUnit, by decide, by decide, hex_unit_ascii secondUnit⟩

/-- `front` holds the bytes of a character whose other bytes are still ahead. -/
theorem string_body_valid {body value : List UInt8} (text : StringBody body value)
    (front rest : List UInt8) (valid : Valid (front ++ (body ++ 34 :: rest))) :
    Valid (front ++ value) := by
  induction text generalizing front with
  | done =>
    rw [List.append_nil]
    exact (valid_split (by decide) valid).1
  | @raw b text value plain _ ih =>
    have moved := ih (front ++ [b]) (by simpa using valid)
    simpa using moved
  | @escape escape text bytes value first _ ih =>
    obtain ⟨ascii, whole⟩ := escape_text_parts first
    rw [List.cons_append] at valid
    obtain ⟨before, after⟩ := valid_split (by decide) valid
    rw [List.append_assoc, valid_ascii_append_iff ascii] at after
    exact valid_append before (valid_append whole (ih [] after))

theorem string_text_valid {front text value rest : List UInt8} (string : StringText text value)
    (valid : Valid (front ++ (text ++ rest))) : Valid value := by
  obtain ⟨body, rfl, inside, _⟩ := string
  simp only [List.cons_append, List.append_assoc, List.nil_append] at valid
  exact string_body_valid inside [] rest (valid_split (by decide) valid).2

/-- What `parse_string` has read, wherever in the text it was called. -/
theorem parse_string_read {input value : List UInt8} {c c' : Cursor}
    (run : parseString input c = .ok value c') :
    ∃ front text rest, input = front ++ (text ++ rest) ∧ StringText text value := by
  by_cases inside : c.position ≤ input.length
  · have suffix : input.drop c.position <:+ input := List.drop_suffix _ _
    have here : cursorAt input (input.drop c.position) c.totalMembers = c := by
      rw [cursorAt, List.length_drop, Nat.sub_sub_self inside]
    have sound := parse_string_sound (t := c.totalMembers) suffix
    rw [here, run] at sound
    obtain ⟨text, rest, split, string, _⟩ := sound
    refine ⟨input.take c.position, text, rest, ?_, string⟩
    rw [← split, List.take_append_drop]
  · have stopped : moreInput input c = .ok false c := by
      rw [show moreInput input c = .ok (decide (c.position < input.length)) c from rfl,
        decide_eq_false (by omega)]
    rw [parseString, bind_ok stopped] at run
    cases run

/-- `is_valid_utf8` accepts exactly the outputs of `append_utf8` for scalar values, in
    one way only, and `parse_string` keeps a validated text's strings valid. -/
theorem utf8_validation_exact (bytes : List UInt8) :
    (isValidUtf8 bytes = true ↔ ∃ codePoints : List UInt32,
      (∀ codePoint ∈ codePoints, ScalarValue codePoint) ∧ bytes = appendAll codePoints) ∧
    (∀ codePoints others : List UInt32,
      (∀ codePoint ∈ codePoints, ScalarValue codePoint) →
      (∀ codePoint ∈ others, ScalarValue codePoint) →
      bytes = appendAll codePoints → bytes = appendAll others → codePoints = others) ∧
    (isValidUtf8 bytes = true → ∀ (c c' : Cursor) (value : List UInt8),
      parseString bytes c = .ok value c' → isValidUtf8 value = true) := by
  refine ⟨is_valid_utf8_iff_appended bytes, ?_, ?_⟩
  · intro codePoints others scalars scalars' first second
    exact append_all_inj scalars scalars' (first.symm.trans second)
  · intro accepted c c' value run
    obtain ⟨front, text, rest, rfl, string⟩ := parse_string_read run
    exact utf8_complete (string_text_valid string (utf8_sound accepted))

/-- A string of a raw character, its `\u` escape and an escaped newline. -/
def mixedString : List UInt8 := [34, 0xc3, 0xa9, 92, 117, 48, 48, 101, 57, 92, 110, 34]

theorem mixed_string_valid : isValidUtf8 [0xc3, 0xa9, 0xc3, 0xa9, 10] = true := by
  have valid : isValidUtf8 mixedString = true := by decide +kernel
  have read : Ends (fun value c => value = [0xc3, 0xa9, 0xc3, 0xa9, 10] ∧ c = ⟨12, 0⟩)
      (fun _ _ => False) (parseString mixedString ⟨0, 0⟩) := by decide +kernel
  cases run : parseString mixedString ⟨0, 0⟩ with
  | ok value c =>
    rw [run] at read
    obtain ⟨rfl, _⟩ := read
    exact (utf8_validation_exact mixedString).2.2 valid ⟨0, 0⟩ c _ run
  | error halt c =>
    rw [run] at read
    exact read.elim

end GhostMedia.Json
