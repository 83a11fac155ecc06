import GhostMedia.Control.JsonScan

/- Escapes, strings and numbers: the parser's scanners are sound and complete for
   the texts of the grammar. -/
namespace GhostMedia.Json
open StateLogic Utf8

section Strings
variable {input rest : List UInt8} {b : UInt8} {t : Nat}

theorem parse_escape_complete {e : UInt8} {text bytes : List UInt8}
    (escape : EscapeText (e :: text) bytes) (suffix : text ++ rest <:+ input)
    (out : List UInt8) :
    parseEscape input e out (cursorAt input (text ++ rest) t) =
      .ok (out ++ bytes) (cursorAt input rest t) := by
  cases escape with
  | short known => exact short_escape_run known out _
  | @unit digits c unit =>
    obtain ⟨v, value, run⟩ := parse_hex4_complete (t := t) unit suffix
    have small : c.toNat ≤ 0xffff := by
      have := hex_unit_lt unit
      omega
    rw [unicode_escape_run, bind_ok run, ← char_val_eq value]
    exact code_unit_plain small out _
  | @pair first second high low c firstUnit isHigh secondUnit isLow point =>
    simp only [List.append_assoc, List.cons_append] at suffix ⊢
    obtain ⟨v, rfl, run⟩ := parse_hex4_complete (t := t) firstUnit suffix
    rw [unicode_escape_run, bind_ok run]
    exact code_unit_pair isHigh secondUnit isLow point (suffix_append suffix) out

/-- What a successful escape has read and appended. -/
def EscapeRead (input rest : List UInt8) (t : Nat) (e : UInt8) (out out' : List UInt8)
    (c : Cursor) : Prop :=
  ∃ text rest' bytes, rest = text ++ rest' ∧ out' = out ++ bytes ∧
    EscapeText (e :: text) bytes ∧ c = cursorAt input rest' t

theorem surrogate_sound {digits : List UInt8} {high : UInt32} (unit : HexUnit digits high.toNat)
    (isHigh : (0xd800 ≤ high && high ≤ 0xdbff) = true) (suffix : digits ++ rest <:+ input)
    (out : List UInt8) :
    Meets IsStatus (EscapeRead input (digits ++ rest) t 117 out)
      (parseCodeUnit input high out (cursorAt input rest t)) := by
  have tail := suffix_append suffix
  have fits := tail.length_le
  have here : (get : Parser Cursor) (cursorAt input rest t) = .ok _ _ := rfl
  by_cases room : 6 ≤ rest.length
  · match rest, room with
    | b₁ :: b₂ :: rest, room =>
      by_cases marked : b₁ = 92 ∧ b₂ = 117
      · obtain ⟨rfl, rfl⟩ := marked
        rw [surrogate_ahead tail (by simpa using room) isHigh]
        refine meets_bind (parse_hex4_sound (suffix_tail (suffix_tail tail))) ?_
        rintro low c ⟨second, rest', rfl, lowUnit, rfl⟩
        split
        · exact fail_meets (by decide)
        · rename_i inRange
          simp only [Bool.or_eq_true, decide_eq_true_eq, gt_iff_lt, UInt32.lt_iff_toNat_lt,
            UInt32.reduceToNat, not_or, Nat.not_lt] at inRange
          have range := (unit_range _ _ _).mp isHigh
          have high_le : high.toNat ≤ 0xdbff := range.2
          have low_le := inRange.2
          have scalar : Scalar (0x10000 + (high.toNat - 0xd800) * 0x400 +
              (low.toNat - 0xdc00)) := by
            simp only [Scalar]
            omega
          obtain ⟨character, point⟩ := exists_char scalar
          rw [← char_val_eq ((pair_point range inRange).trans point.symm), append_utf8_encodes]
          exact ⟨digits ++ 92 :: 117 :: second, rest', String.utf8EncodeChar character, by simp,
            rfl, .pair unit range lowUnit inRange point, rfl⟩
      · have first : dataAt input (cursorAt input (b₁ :: b₂ :: rest) t).position
            (cursorAt input (b₁ :: b₂ :: rest) t) = .ok b₁ _ :=
          data_at (t := t) tail 0 rfl _
        have second : dataAt input ((cursorAt input (b₁ :: b₂ :: rest) t).position + 1)
            (cursorAt input (b₁ :: b₂ :: rest) t) = .ok b₂ _ := data_at tail 1 rfl _
        rw [parseCodeUnit, if_pos isHigh, bind_ok here]
        split
        · exact fail_meets (by decide)
        rw [bind_ok first]
        split
        · exact fail_meets (by decide)
        rename_i _ backslash
        rw [bind_ok second, if_pos (fun letter => marked ⟨by simpa using backslash, letter⟩)]
        exact fail_meets (by decide)
  · rw [parseCodeUnit, if_pos isHigh, bind_ok here, if_pos]
    · exact fail_meets (by decide)
    · rw [cursor_at_position]
      omega

theorem parse_code_unit_sound {digits : List UInt8} {v : UInt32} (unit : HexUnit digits v.toNat)
    (suffix : digits ++ rest <:+ input) (out : List UInt8) :
    Meets IsStatus (EscapeRead input (digits ++ rest) t 117 out)
      (parseCodeUnit input v out (cursorAt input rest t)) := by
  by_cases isHigh : (0xd800 ≤ v && v ≤ 0xdbff) = true
  · exact surrogate_sound unit isHigh suffix out
  by_cases isLow : (0xdc00 ≤ v && v ≤ 0xdfff) = true
  · rw [parseCodeUnit, if_neg isHigh, if_pos isLow]
    exact fail_meets (by decide)
  · have small := hex_unit_lt unit
    rw [unit_range] at isHigh isLow
    simp only [UInt32.reduceToNat] at isHigh isLow
    obtain ⟨c, value⟩ := exists_char (show Scalar v.toNat by simp only [Scalar]; omega)
    rw [← char_val_eq value.symm, code_unit_plain (by omega)]
    exact ⟨digits, rest, _, rfl, rfl, .unit (value ▸ unit), rfl⟩

theorem parse_escape_sound (suffix : rest <:+ input) (e : UInt8) (out : List UInt8) :
    Meets IsStatus (EscapeRead input rest t e out)
      (parseEscape input e out (cursorAt input rest t)) := by
  by_cases short : ∃ b, (e, b) ∈ shortEscapes
  · obtain ⟨b, known⟩ := short
    rw [short_escape_run known]
    exact ⟨[], rest, [b], rfl, rfl, .short known, rfl⟩
  by_cases unicode : e = 117
  · subst unicode
    rw [unicode_escape_run]
    refine meets_bind (parse_hex4_sound suffix) ?_
    rintro v c ⟨digits, rest', rfl, unit, rfl⟩
    exact parse_code_unit_sound unit suffix out
  · have refused : parseEscape input e out = failWith .badMessage := by
      simp only [shortEscapes, List.mem_cons, Prod.mk.injEq, List.not_mem_nil, or_false,
        exists_or, exists_and_left, exists_eq, and_true, not_or] at short
      simp [parseEscape, short, unicode]
    rw [refused]
    exact fail_meets (by decide)

theorem string_loop_quote (suffix : 34 :: rest <:+ input) (fuel : Nat) (out : List UInt8) :
    parseStringLoop input (fuel + 1) out (cursorAt input (34 :: rest) t) =
      .ok out (cursorAt input rest t) := by
  rw [parseStringLoop, bind_ok (more_input_cons suffix), if_pos rfl, bind_ok (take_cons suffix),
    if_pos rfl]
  rfl

theorem string_loop_raw (suffix : b :: rest <:+ input) (plain : 0x20 ≤ b ∧ b ≠ 34 ∧ b ≠ 92)
    (fuel : Nat) (out : List UInt8) :
    parseStringLoop input (fuel + 1) out (cursorAt input (b :: rest) t) =
      (if (out ++ [b]).length > gmControlMaxStringBytes then failWith .limitExceeded
        else parseStringLoop input fuel (out ++ [b])) (cursorAt input rest t) := by
  obtain ⟨printable, quote, backslash⟩ := plain
  rw [parseStringLoop, bind_ok (more_input_cons suffix), if_pos rfl, bind_ok (take_cons suffix),
    if_neg quote, if_neg (UInt8.not_lt.mpr printable), if_pos backslash]

theorem string_loop_escape {e : UInt8} (suffix : 92 :: e :: rest <:+ input) (fuel : Nat)
    (out : List UInt8) :
    parseStringLoop input (fuel + 1) out (cursorAt input (92 :: e :: rest) t) =
      (do
        let out ← parseEscape input e out
        if out.length > gmControlMaxStringBytes then failWith .limitExceeded
        else parseStringLoop input fuel out) (cursorAt input rest t) := by
  have tail := suffix_tail suffix
  rw [parseStringLoop, bind_ok (more_input_cons suffix), if_pos rfl, bind_ok (take_cons suffix),
    if_neg (by decide), if_neg (by decide), if_neg (by decide), bind_ok (more_input_cons tail),
    if_pos rfl, bind_ok (take_cons tail)]

theorem escape_text_cons {text bytes : List UInt8} (escape : EscapeText text bytes) :
    ∃ e tail, text = e :: tail := by
  cases escape <;> exact ⟨_, _, rfl⟩

theorem string_loop_complete {body value : List UInt8} (text : StringBody body value)
    (out : List UInt8) (short : (out ++ value).length ≤ 4096)
    (suffix : body ++ 34 :: rest <:+ input) (fuel : Nat) (enough : body.length < fuel) :
    parseStringLoop input fuel out (cursorAt input (body ++ 34 :: rest) t) =
      .ok (out ++ value) (cursorAt input rest t) := by
  induction text generalizing out fuel with
  | done =>
    obtain ⟨fuel, rfl⟩ := Nat.exists_eq_succ_of_ne_zero (Nat.ne_zero_of_lt enough)
    rw [List.append_nil]
    exact string_loop_quote suffix fuel out
  | @raw b text value plain _ ih =>
    obtain ⟨fuel, rfl⟩ := Nat.exists_eq_succ_of_ne_zero (Nat.ne_zero_of_lt enough)
    simp only [List.length_append, List.length_cons] at short enough
    rw [List.cons_append] at suffix ⊢
    rw [string_loop_raw suffix plain, if_neg (by simp; omega),
      ih (out ++ [b]) (by simp; omega) (suffix_tail suffix) fuel (by omega)]
    simp
  | @escape escape text bytes value first _ ih =>
    obtain ⟨fuel, rfl⟩ := Nat.exists_eq_succ_of_ne_zero (Nat.ne_zero_of_lt enough)
    obtain ⟨e, tail, rfl⟩ := escape_text_cons first
    simp only [List.length_append, List.length_cons] at short enough
    simp only [List.cons_append, List.append_assoc] at suffix ⊢
    have after := suffix_tail (suffix_tail suffix)
    rw [string_loop_escape suffix, bind_ok (parse_escape_complete first after out),
      if_neg (by simp; omega),
      ih (out ++ bytes) (by simp; omega) (suffix_append after) fuel (by omega)]
    simp

theorem string_loop_sound (suffix : rest <:+ input) (out : List UInt8)
    (short : out.length ≤ 4096) (fuel : Nat) (enough : rest.length < fuel) :
    Meets IsStatus
      (fun value c => ∃ body rest' tail, rest = body ++ 34 :: rest' ∧ value = out ++ tail ∧
        StringBody body tail ∧ value.length ≤ 4096 ∧ c = cursorAt input rest' t)
      (parseStringLoop input fuel out (cursorAt input rest t)) := by
  induction fuel generalizing rest out with
  | zero => omega
  | succ fuel ih =>
    match rest with
    | [] =>
      rw [parseStringLoop, bind_ok more_input_end]
      exact fail_meets (by decide)
    | b :: rest =>
      simp only [List.length_cons] at enough
      by_cases quote : b = 34
      · subst quote
        rw [string_loop_quote suffix]
        exact ⟨[], rest, [], rfl, (List.append_nil _).symm, .done, short, rfl⟩
      by_cases control : b < 0x20
      · rw [parseStringLoop, bind_ok (more_input_cons suffix), if_pos rfl,
          bind_ok (take_cons suffix), if_neg quote, if_pos control]
        exact fail_meets (by decide)
      by_cases backslash : b = 92
      · subst backslash
        match rest with
        | [] =>
          rw [parseStringLoop, bind_ok (more_input_cons suffix), if_pos rfl,
            bind_ok (take_cons suffix), if_neg quote, if_neg control, if_neg (by simp),
            bind_ok more_input_end]
          exact fail_meets (by decide)
        | e :: rest =>
          rw [string_loop_escape suffix]
          refine meets_bind (parse_escape_sound (suffix_tail (suffix_tail suffix)) e out) ?_
          rintro out' c ⟨text, rest', bytes, rfl, rfl, escape, rfl⟩
          split
          · exact fail_meets (by decide)
          rename_i fits
          simp only [gmControlMaxStringBytes, Nat.not_lt] at fits
          simp only [List.length_cons, List.length_append] at enough
          have after := suffix_append (suffix_tail (suffix_tail suffix))
          refine meets_mono (ih after (out ++ bytes) fits (by omega)) ?_
          rintro value c ⟨body, rest'', tail, rfl, rfl, string, bound, rfl⟩
          exact ⟨92 :: (e :: text ++ body), rest'', bytes ++ tail, by simp, by simp,
            .escape escape string, bound, rfl⟩
      · have plain : 0x20 ≤ b ∧ b ≠ 34 ∧ b ≠ 92 := ⟨UInt8.not_lt.mp control, quote, backslash⟩
        rw [string_loop_raw suffix plain]
        split
        · exact fail_meets (by decide)
        rename_i fits
        simp only [gmControlMaxStringBytes, Nat.not_lt] at fits
        refine meets_mono (ih (suffix_tail suffix) (out ++ [b]) fits (by omega)) ?_
        rintro value c ⟨body, rest', tail, rfl, rfl, string, bound, rfl⟩
        exact ⟨b :: body, rest', b :: tail, rfl, by simp, .raw plain string, bound, rfl⟩

theorem parse_string_complete {text value : List UInt8} (string : StringText text value)
    (suffix : text ++ rest <:+ input) :
    parseString input (cursorAt input (text ++ rest) t) =
      .ok value (cursorAt input rest t) := by
  obtain ⟨body, rfl, inside, short⟩ := string
  simp only [List.cons_append, List.append_assoc, List.nil_append] at suffix ⊢
  have fits := suffix.length_le
  simp only [List.length_append, List.length_cons] at fits
  rw [parseString, bind_ok (more_input_cons suffix), if_pos rfl, bind_ok (peek_cons suffix),
    if_neg (by simp), bind_ok (advance_cons suffix)]
  exact string_loop_complete inside [] short (suffix_tail suffix) _ (by omega)

theorem parse_string_sound (suffix : rest <:+ input) :
    Meets IsStatus
      (fun value c => ∃ text rest', rest = text ++ rest' ∧ StringText text value ∧
        c = cursorAt input rest' t)
      (parseString input (cursorAt input rest t)) := by
  match rest with
  | [] =>
    rw [parseString, bind_ok more_input_end]
    exact fail_meets (by decide)
  | b :: rest =>
    have fits := suffix.length_le
    simp only [List.length_cons] at fits
    rw [parseString, bind_ok (more_input_cons suffix), if_pos rfl, bind_ok (peek_cons suffix)]
    split
    · exact fail_meets (by decide)
    rename_i quote
    obtain rfl : b = 34 := by simpa using quote
    rw [bind_ok (advance_cons suffix)]
    refine meets_mono (string_loop_sound (suffix_tail suffix) [] (by simp) _ (by omega)) ?_
    rintro value c ⟨body, rest', tail, rfl, rfl, string, bound, rfl⟩
    exact ⟨34 :: (body ++ [34]), rest', by simp, ⟨body, rfl, string, bound⟩, rfl⟩

end Strings

end GhostMedia.Json
