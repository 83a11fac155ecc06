import GhostMedia.Control.JsonCursor
import GhostMedia.Control.JsonGrammar
import GhostMedia.Control.JsonUtf8

/- The parser's scanners against the grammar's tokens. A `sound` theorem gives the
   text read by a successful scan and excludes the two faults; a `complete` theorem
   runs the scanner over a text of the grammar. -/
namespace GhostMedia.Json
open StateLogic Utf8

/-- The statuses a text is refused with: errors, and not the one about a session's state. -/
abbrev Refusal (status : GmStatus) : Prop := status ≠ .ok ∧ status ≠ .stateConflict

/-- A stop with an error status, neither an out-of-bounds read nor an exhausted bound. -/
def IsStatus : Halt → Prop
  | .status status => Refusal status
  | _ => False

section Scan
variable {input rest : List UInt8} {b : UInt8} {t : Nat}

theorem fail_meets {α : Type} {post : α → Cursor → Prop} {status : GmStatus} {c : Cursor}
    (error : Refusal status) :
    Meets IsStatus post ((failWith status : Parser α) c) := error

theorem whitespace_iff (b : UInt8) :
    isJsonWhitespace b = true ↔ b ∈ ([0x20, 0x09, 0x0a, 0x0d] : List UInt8) := by
  simp [isJsonWhitespace, or_assoc]

theorem skip_ws_loop_run (suffix : rest <:+ input) (fuel : Nat) (enough : rest.length < fuel) :
    skipWsLoop input fuel (cursorAt input rest t) =
      .ok () (cursorAt input (rest.dropWhile isJsonWhitespace) t) := by
  induction fuel generalizing rest with
  | zero => omega
  | succ fuel ih =>
    cases rest with
    | nil =>
      rw [skipWsLoop, bind_ok more_input_end]
      rfl
    | cons b rest =>
      rw [skipWsLoop, bind_ok (more_input_cons suffix), if_pos rfl, bind_ok (peek_cons suffix)]
      cases white : isJsonWhitespace b with
      | false =>
        rw [if_neg (by simp), List.dropWhile_cons_of_neg (by simp [white])]
        rfl
      | true =>
        rw [if_pos rfl, bind_ok (advance_cons suffix), List.dropWhile_cons_of_pos white]
        exact ih (suffix_tail suffix) (by simpa using enough)

theorem skip_ws_run (suffix : rest <:+ input) :
    skipWs input (cursorAt input rest t) =
      .ok () (cursorAt input (rest.dropWhile isJsonWhitespace) t) :=
  skip_ws_loop_run suffix _ (Nat.lt_succ_of_le suffix.length_le)

theorem skip_ws_sound (suffix : rest <:+ input) :
    Meets IsStatus
      (fun _ c => ∃ w rest', rest = w ++ rest' ∧ Blank w ∧ c = cursorAt input rest' t)
      (skipWs input (cursorAt input rest t)) := by
  rw [skip_ws_run suffix]
  refine ⟨rest.takeWhile isJsonWhitespace, rest.dropWhile isJsonWhitespace,
    List.takeWhile_append_dropWhile.symm, ?_, rfl⟩
  intro b member
  exact (whitespace_iff b).mp (List.mem_takeWhile_imp member)

/-- The text ahead does not start with whitespace. -/
def Settled (rest : List UInt8) : Prop := ∀ b ∈ rest.head?, isJsonWhitespace b = false

theorem settled_nil : Settled [] := by
  intro b member
  cases member

theorem settled_cons {b : UInt8} (black : isJsonWhitespace b = false) : Settled (b :: rest) := by
  intro c member
  rw [List.head?_cons, Option.mem_some_iff] at member
  exact member ▸ black

theorem skip_ws_complete {w : List UInt8} (blank : Blank w) (settled : Settled rest)
    (suffix : w ++ rest <:+ input) :
    skipWs input (cursorAt input (w ++ rest) t) = .ok () (cursorAt input rest t) := by
  have stop : rest.dropWhile isJsonWhitespace = rest := by
    cases rest with
    | nil => rfl
    | cons b rest => exact List.dropWhile_cons_of_neg (by simp [settled b (by simp)])
  rw [skip_ws_run suffix, List.dropWhile_append_of_pos, stop]
  intro b member
  exact (whitespace_iff b).mpr (blank b member)

theorem match_literal_run (suffix : rest <:+ input) (literal : List UInt8) :
    matchLiteral input literal (cursorAt input rest t) =
      if literal <+: rest then .ok true (cursorAt input (rest.drop literal.length) t)
      else .ok false (cursorAt input rest t) := by
  have fits := suffix.length_le
  have here : (get : Parser Cursor) (cursorAt input rest t) = .ok _ _ := rfl
  have ahead : input.drop (cursorAt input rest t).position = rest := suffix_drop suffix
  rw [matchLiteral, bind_ok here]
  by_cases found : literal <+: rest
  · have room : ¬ (cursorAt input rest t).position + literal.length > input.length := by
      have := found.length_le
      rw [cursor_at_position]
      omega
    have same : ¬ (input.drop (cursorAt input rest t).position).take literal.length ≠
        literal := by
      rw [ahead]
      simpa using (List.prefix_iff_eq_take.mp found).symm
    obtain ⟨tail, rfl⟩ := found
    rw [if_neg room, if_neg same, if_pos (List.prefix_append literal tail),
      bind_ok (advance_append suffix literal.length rfl), List.drop_left]
    rfl
  · have other : (input.drop (cursorAt input rest t).position).take literal.length ≠
        literal := by
      rw [ahead]
      exact fun same => found (List.prefix_iff_eq_take.mpr same.symm)
    rw [if_neg found, if_pos other, ite_self]
    rfl

theorem hex_digit_iff (b : UInt8) : isHexDigit b = true ↔
    48 ≤ b.toNat ∧ b.toNat ≤ 57 ∨ 97 ≤ b.toNat ∧ b.toNat ≤ 102 ∨
      65 ≤ b.toNat ∧ b.toNat ≤ 70 := by
  simp only [isHexDigit, Bool.or_eq_true, Bool.and_eq_true, decide_eq_true_eq, or_assoc,
    UInt8.le_iff_toNat_le, UInt8.reduceToNat]

theorem hex_value_cases {b : UInt8} (accepted : isHexDigit b = true) :
    48 ≤ b.toNat ∧ b.toNat ≤ 57 ∧ (hexValue b).toNat = b.toNat - 48 ∨
    97 ≤ b.toNat ∧ b.toNat ≤ 102 ∧ (hexValue b).toNat = b.toNat - 87 ∨
    65 ≤ b.toNat ∧ b.toNat ≤ 70 ∧ (hexValue b).toNat = b.toNat - 55 := by
  simp only [hexValue, Bool.and_eq_true, decide_eq_true_eq, UInt8.le_iff_toNat_le,
    UInt8.reduceToNat]
  have small := b.toNat_lt
  rcases (hex_digit_iff b).mp accepted with digit | lower | upper
  · rw [if_pos digit]
    simp only [UInt8.toNat_toUInt32, UInt8.toNat_sub, UInt8.reduceToNat]
    omega
  · rw [if_neg (by omega), if_pos lower]
    simp only [UInt32.toNat_add, UInt8.toNat_toUInt32, UInt8.toNat_sub, UInt8.reduceToNat,
      UInt32.reduceToNat]
    omega
  · rw [if_neg (by omega), if_neg (by omega)]
    simp only [UInt32.toNat_add, UInt8.toNat_toUInt32, UInt8.toNat_sub, UInt8.reduceToNat,
      UInt32.reduceToNat]
    omega

theorem hex_digit_value {b : UInt8} {d : Nat} (digit : HexDigit b d) :
    isHexDigit b = true ∧ (hexValue b).toNat = d := by
  have accepted : isHexDigit b = true := by
    rw [hex_digit_iff]
    rcases digit with ⟨_, _⟩ | ⟨_, _, _⟩ <;> omega
  refine ⟨accepted, ?_⟩
  have value := hex_value_cases accepted
  rcases digit with ⟨_, _⟩ | ⟨_, _, _⟩ <;> omega

theorem hex_digit_of {b : UInt8} (accepted : isHexDigit b = true) :
    HexDigit b (hexValue b).toNat := by
  have value := hex_value_cases accepted
  rw [HexDigit]
  omega

theorem hex_digit_lt {b : UInt8} {d : Nat} (digit : HexDigit b d) : d < 16 := by
  rcases digit with ⟨_, _⟩ | ⟨_, _, _⟩ <;> omega

theorem hex_shift (v w : UInt32) (fits : v.toNat < 2 ^ 28) (digit : w.toNat < 16) :
    ((v <<< 4) ||| w).toNat = v.toNat * 16 + w.toNat := by
  have whole := Nat.two_pow_add_eq_or_of_lt (show w.toNat < 2 ^ 4 by omega) v.toNat
  have shifted : (v <<< 4).toNat = 2 ^ 4 * v.toNat := by
    have step : (v <<< 4).toNat = (v.toNat <<< 4) % 2 ^ 32 := UInt32.toNat_shiftLeft v 4
    rw [step, Nat.shiftLeft_eq]
    omega
  rw [UInt32.toNat_or, shifted, ← whole]
  omega

theorem hex4_step (suffix : b :: rest <:+ input) (count : Nat) (v : UInt32) :
    parseHex4Loop input (count + 1) v (cursorAt input (b :: rest) t) =
      (if !isHexDigit b then failWith .badMessage
        else parseHex4Loop input count ((v <<< 4) ||| hexValue b))
        (cursorAt input rest t) := by
  rw [parseHex4Loop, bind_ok (take_cons suffix)]

theorem hex4_digit {d : Nat} (suffix : b :: rest <:+ input) (digit : HexDigit b d)
    (count : Nat) (v : UInt32) (fits : v.toNat < 2 ^ 28) :
    ∃ w : UInt32, w.toNat = v.toNat * 16 + d ∧
      parseHex4Loop input (count + 1) v (cursorAt input (b :: rest) t) =
        parseHex4Loop input count w (cursorAt input rest t) := by
  obtain ⟨accepted, rfl⟩ := hex_digit_value digit
  refine ⟨_, hex_shift v (hexValue b) fits (hex_digit_lt digit), ?_⟩
  rw [hex4_step suffix, if_neg (by simp [accepted])]

theorem parse_hex4_run (suffix : rest <:+ input) (room : 4 ≤ rest.length) :
    parseHex4 input (cursorAt input rest t) =
      parseHex4Loop input 4 0 (cursorAt input rest t) := by
  have fits := suffix.length_le
  have here : (get : Parser Cursor) (cursorAt input rest t) = .ok _ _ := rfl
  rw [parseHex4, bind_ok here, if_neg]
  rw [cursor_at_position]
  omega

theorem parse_hex4_complete {digits : List UInt8} {n : Nat} (unit : HexUnit digits n)
    (suffix : digits ++ rest <:+ input) :
    ∃ v : UInt32, v.toNat = n ∧
      parseHex4 input (cursorAt input (digits ++ rest) t) =
        .ok v (cursorAt input rest t) := by
  cases unit with
  | @four b₃ b₂ b₁ b₀ d₃ d₂ d₁ d₀ third second first zeroth =>
    have small₃ := hex_digit_lt third
    have small₂ := hex_digit_lt second
    have small₁ := hex_digit_lt first
    have suffix₂ := suffix_tail suffix
    have suffix₁ := suffix_tail suffix₂
    have suffix₀ := suffix_tail suffix₁
    obtain ⟨v₃, value₃, run₃⟩ := hex4_digit (t := t) suffix third 3 0 (by decide)
    have zero : (0 : UInt32).toNat = 0 := rfl
    obtain ⟨v₂, value₂, run₂⟩ := hex4_digit (t := t) suffix₂ second 2 v₃ (by omega)
    obtain ⟨v₁, value₁, run₁⟩ := hex4_digit (t := t) suffix₁ first 1 v₂ (by omega)
    obtain ⟨v₀, value₀, run₀⟩ := hex4_digit (t := t) suffix₀ zeroth 0 v₁ (by omega)
    refine ⟨v₀, by omega, ?_⟩
    rw [parse_hex4_run suffix (by simp)]
    exact (run₃.trans run₂).trans (run₁.trans run₀)

theorem hex_unit_of {text : List UInt8} (long : text.length = 4)
    (digits : ∀ b ∈ text, isHexDigit b = true) : ∃ n, HexUnit text n := by
  match text, long with
  | [b₃, b₂, b₁, b₀], _ =>
    exact ⟨_, .four (hex_digit_of (digits b₃ (by simp))) (hex_digit_of (digits b₂ (by simp)))
      (hex_digit_of (digits b₁ (by simp))) (hex_digit_of (digits b₀ (by simp)))⟩

theorem hex4_loop_reject {text : List UInt8} {post : UInt32 → Cursor → Prop} (v : UInt32)
    (suffix : text ++ rest <:+ input) (bad : ¬ ∀ b ∈ text, isHexDigit b = true) :
    Meets IsStatus post
      (parseHex4Loop input text.length v (cursorAt input (text ++ rest) t)) := by
  induction text generalizing v with
  | nil => simp at bad
  | cons b text ih =>
    rw [List.cons_append] at suffix ⊢
    rw [List.length_cons, hex4_step suffix]
    cases digit : isHexDigit b with
    | false => exact fail_meets (by decide)
    | true =>
      rw [if_neg (by simp)]
      exact ih _ (suffix_tail suffix) (by simpa [digit] using bad)

theorem parse_hex4_sound (suffix : rest <:+ input) :
    Meets IsStatus
      (fun v c => ∃ digits rest', rest = digits ++ rest' ∧ HexUnit digits v.toNat ∧
        c = cursorAt input rest' t)
      (parseHex4 input (cursorAt input rest t)) := by
  have fits := suffix.length_le
  have here : (get : Parser Cursor) (cursorAt input rest t) = .ok _ _ := rfl
  by_cases room : 4 ≤ rest.length
  · obtain ⟨text, tail, rfl, long⟩ : ∃ text tail, rest = text ++ tail ∧ text.length = 4 :=
      ⟨rest.take 4, rest.drop 4, (List.take_append_drop 4 rest).symm, by simpa using room⟩
    by_cases digits : ∀ b ∈ text, isHexDigit b = true
    · obtain ⟨n, unit⟩ := hex_unit_of long digits
      obtain ⟨v, rfl, run⟩ := parse_hex4_complete (t := t) unit suffix
      rw [run]
      exact ⟨text, tail, rfl, unit, rfl⟩
    · rw [parse_hex4_run suffix room, ← long]
      exact hex4_loop_reject 0 suffix digits
  · rw [parseHex4, bind_ok here, if_pos]
    · exact fail_meets (by decide)
    · rw [cursor_at_position]
      omega

/-- A character is determined by its code point. -/
theorem char_val_eq {c : Char} {v : UInt32} (same : v.toNat = c.toNat) : c.val = v :=
  (UInt32.toNat_inj.mp same).symm

theorem pair_point {high low : UInt32} (isHigh : 0xd800 ≤ high.toNat ∧ high.toNat ≤ 0xdbff)
    (isLow : 0xdc00 ≤ low.toNat ∧ low.toNat ≤ 0xdfff) :
    ((0x10000 : UInt32) + (((high - 0xd800) <<< 10) ||| (low - 0xdc00))).toNat =
      0x10000 + (high.toNat - 0xd800) * 0x400 + (low.toNat - 0xdc00) := by
  have highTen : (high - 0xd800).toNat = high.toNat - 0xd800 :=
    UInt32.toNat_sub_of_le _ _ (UInt32.le_iff_toNat_le.mpr isHigh.1)
  have lowTen : (low - 0xdc00).toNat = low.toNat - 0xdc00 :=
    UInt32.toNat_sub_of_le _ _ (UInt32.le_iff_toNat_le.mpr isLow.1)
  have shifted : ((high - 0xd800) <<< 10).toNat = 2 ^ 10 * (high.toNat - 0xd800) := by
    have step : ((high - 0xd800) <<< 10).toNat = ((high - 0xd800).toNat <<< 10) % 2 ^ 32 :=
      UInt32.toNat_shiftLeft _ 10
    rw [step, Nat.shiftLeft_eq, highTen]
    omega
  have whole := Nat.two_pow_add_eq_or_of_lt (show low.toNat - 0xdc00 < 2 ^ 10 by omega)
    (high.toNat - 0xd800)
  have base : (0x10000 : UInt32).toNat = 0x10000 := rfl
  rw [UInt32.toNat_add, UInt32.toNat_or, shifted, lowTen, ← whole, base]
  omega

theorem unit_range (low v high : UInt32) :
    (low ≤ v && v ≤ high) = true ↔ low.toNat ≤ v.toNat ∧ v.toNat ≤ high.toNat := by
  simp [UInt32.le_iff_toNat_le]

theorem code_unit_plain {c : Char} (small : c.toNat ≤ 0xffff) (out : List UInt8)
    (s : Cursor) :
    parseCodeUnit input c.val out s = .ok (out ++ String.utf8EncodeChar c) s := by
  have scalar := scalar_toNat c
  have value : c.val.toNat = c.toNat := rfl
  simp only [Scalar] at scalar
  have notHigh : ¬ (0xd800 ≤ c.val && c.val ≤ 0xdbff) = true := by
    rw [unit_range, value]
    simp only [UInt32.reduceToNat]
    omega
  have notLow : ¬ (0xdc00 ≤ c.val && c.val ≤ 0xdfff) = true := by
    rw [unit_range, value]
    simp only [UInt32.reduceToNat]
    omega
  rw [parseCodeUnit, if_neg notHigh, if_neg notLow, append_utf8_encodes]
  rfl

theorem surrogate_ahead (suffix : 92 :: 117 :: rest <:+ input) (room : 4 ≤ rest.length)
    {high : UInt32} (isHigh : (0xd800 ≤ high && high ≤ 0xdbff) = true) (out : List UInt8) :
    parseCodeUnit input high out (cursorAt input (92 :: 117 :: rest) t) =
      (do
        let low ← parseHex4 input
        if low < 0xdc00 || low > 0xdfff then failWith .badMessage
        else return appendUtf8 ((0x10000 : UInt32) + (((high - 0xd800) <<< 10) |||
          (low - 0xdc00))) out) (cursorAt input rest t) := by
  have fits := suffix.length_le
  simp only [List.length_cons] at fits
  have here : (get : Parser Cursor) (cursorAt input (92 :: 117 :: rest) t) = .ok _ _ := rfl
  have backslash : dataAt input (cursorAt input (92 :: 117 :: rest) t).position
      (cursorAt input (92 :: 117 :: rest) t) = .ok 92 _ := data_at (t := t) suffix 0 rfl _
  have letter : dataAt input ((cursorAt input (92 :: 117 :: rest) t).position + 1)
      (cursorAt input (92 :: 117 :: rest) t) = .ok 117 _ := data_at suffix 1 rfl _
  have step := advance_append (t := t) (w := [92, 117]) suffix 2 rfl
  rw [parseCodeUnit, if_pos isHigh, bind_ok here, if_neg, bind_ok backslash, if_neg (by simp),
    bind_ok letter, if_neg (by simp)]
  · exact bind_ok step
  · rw [cursor_at_position]
    simp only [List.length_cons]
    omega

theorem hex_unit_length {digits : List UInt8} {n : Nat} (unit : HexUnit digits n) :
    digits.length = 4 := by
  cases unit
  rfl

theorem hex_unit_lt {digits : List UInt8} {n : Nat} (unit : HexUnit digits n) : n < 65536 := by
  cases unit with
  | four third second first zeroth =>
    have := hex_digit_lt third
    have := hex_digit_lt second
    have := hex_digit_lt first
    have := hex_digit_lt zeroth
    omega

theorem code_unit_pair {digits : List UInt8} {high : UInt32} {low : Nat} {c : Char}
    (isHigh : 0xd800 ≤ high.toNat ∧ high.toNat ≤ 0xdbff) (second : HexUnit digits low)
    (isLow : 0xdc00 ≤ low ∧ low ≤ 0xdfff)
    (point : c.toNat = 0x10000 + (high.toNat - 0xd800) * 0x400 + (low - 0xdc00))
    (suffix : 92 :: 117 :: (digits ++ rest) <:+ input) (out : List UInt8) :
    parseCodeUnit input high out (cursorAt input (92 :: 117 :: (digits ++ rest)) t) =
      .ok (out ++ String.utf8EncodeChar c) (cursorAt input rest t) := by
  have long := hex_unit_length second
  obtain ⟨v, rfl, run⟩ := parse_hex4_complete (t := t) second
    (suffix_tail (suffix_tail suffix))
  have inRange : ¬ (v < 0xdc00 || v > 0xdfff) = true := by
    simp only [Bool.or_eq_true, decide_eq_true_eq, gt_iff_lt, UInt32.lt_iff_toNat_lt,
      UInt32.reduceToNat]
    omega
  rw [surrogate_ahead suffix (by simp [long]) ((unit_range _ _ _).mpr isHigh), bind_ok run,
    if_neg inRange, ← char_val_eq ((pair_point isHigh isLow).trans point.symm),
    append_utf8_encodes]
  rfl

theorem short_escape_run {e b : UInt8} (known : (e, b) ∈ shortEscapes) (out : List UInt8)
    (s : Cursor) : parseEscape input e out s = .ok (out ++ [b]) s := by
  simp only [shortEscapes, List.mem_cons, Prod.mk.injEq, List.not_mem_nil, or_false] at known
  rcases known with ⟨rfl, rfl⟩ | ⟨rfl, rfl⟩ | ⟨rfl, rfl⟩ | ⟨rfl, rfl⟩ | ⟨rfl, rfl⟩ | ⟨rfl, rfl⟩ |
    ⟨rfl, rfl⟩ | ⟨rfl, rfl⟩ <;> rfl

theorem unicode_escape_run (out : List UInt8) :
    parseEscape input 117 out = (do
      let codeUnit ← parseHex4 input
      parseCodeUnit input codeUnit out) := rfl

end Scan

end GhostMedia.Json
