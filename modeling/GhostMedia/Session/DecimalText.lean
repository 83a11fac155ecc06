import GhostMedia.Session.Responses

/- Decimal texts between the writer in gm_state.cpp and the reader in gm_control.cpp: the
   digit loop of a ping over its own buffer, and the comparison of start timestamps. -/
namespace GhostMedia.Session
open CString Control Decimal Runs

/-- The digit loop over its buffer and `write_index`; nothing where a turn would write
    before the buffer. -/
def digitsBuffer : Nat → UInt64 → List UInt8 → Option (Nat × List UInt8)
  | 0, _, _ => none
  | writeIndex + 1, remaining, digits =>
    let digits := digits.set writeIndex (48 + (remaining % 10).toUInt8)
    let remaining := remaining / 10
    if remaining ≠ 0 && writeIndex > 0 then digitsBuffer writeIndex remaining digits
    else some (writeIndex, digits)

theorem drop_set_self {digits : List UInt8} {k : Nat} (room : k < digits.length) (b : UInt8) :
    (digits.set k b).drop k = b :: digits.drop (k + 1) := by
  rw [List.set_eq_take_append_cons_drop, if_pos room, List.drop_left' (by simp; omega)]

/-- As many turns as the numeral has digits, from the last one to the first. -/
theorem digits_buffer_render (k : Nat) (v : UInt64) (digits : List UInt8)
    (small : v.toNat < 10 ^ (k + 1)) (room : k < digits.length) :
    ∃ writeIndex written, digitsBuffer (k + 1) v digits = some (writeIndex, written) ∧
      writeIndex + (render v.toNat).length = k + 1 ∧ written.length = digits.length ∧
      written.drop writeIndex = render v.toNat ++ digits.drop (k + 1) := by
  have quotient : (v / 10).toNat = v.toNat / 10 := UInt64.toNat_div v 10
  induction k generalizing v digits with
  | zero =>
    have one : v.toNat < 10 := by simpa using small
    have written := drop_set_self room (UInt8.ofNat (48 + v.toNat))
    refine ⟨0, digits.set 0 (UInt8.ofNat (48 + v.toNat)), ?_, ?_, List.length_set, ?_⟩
    · rw [digitsBuffer, if_neg (by simp), digit_byte, Nat.mod_eq_of_lt one]
    · rw [render_one one]
      rfl
    · rw [render_one one, written]
      rfl
  | succ k ih =>
    have written := drop_set_self room (UInt8.ofNat (48 + v.toNat % 10))
    rw [digitsBuffer, digit_byte]
    by_cases one : v.toNat < 10
    · have last : v / 10 = 0 := by
        apply UInt64.toNat_inj.mp
        rw [quotient, Nat.div_eq_of_lt one]
        rfl
      rw [Nat.mod_eq_of_lt one] at written ⊢
      refine ⟨k + 1, _, by rw [if_neg (by simp [last])], ?_, List.length_set, ?_⟩
      · rw [render_one one]
        rfl
      · rw [render_one one, written]
        rfl
    · have more : v / 10 ≠ 0 := fun zero => by
        have tens : v.toNat / 10 = 0 := quotient.symm.trans (congrArg UInt64.toNat zero)
        omega
      obtain ⟨writeIndex, filled, run, index, length, text⟩ :=
        ih (v / 10) (digits.set (k + 1) (UInt8.ofNat (48 + v.toNat % 10)))
          (by rw [quotient]; omega) (by rw [List.length_set]; omega) (UInt64.toNat_div _ 10)
      rw [if_pos (by simp [more])]
      refine ⟨writeIndex, filled, run, ?_, length.trans List.length_set, ?_⟩
      · rw [render, if_neg one, List.length_append, ← quotient, List.length_singleton]
        omega
      · rw [text, written, quotient, render.eq_def v.toNat, if_neg one, List.append_assoc]
        rfl

theorem clock_digits (nowNs : UInt64) :
    digitsLoop gmControlDecimalU64MaxBytes nowNs [] = render nowNs.toNat := by
  have bound : nowNs.toNat < 10 ^ 20 := nowNs.toNat_lt.trans (by decide)
  rw [digits_loop_render 19 nowNs [] bound, List.append_nil]

/-- The reader accepts the rendering of a 64-bit number, and nothing else. -/
theorem parse_decimal_render (text : List UInt8) (n : UInt64) :
    parseDecimalU64String text = some n ↔ text = render n.toNat := by
  rw [parse_decimal_iff]
  constructor
  · rintro ⟨canonical, same⟩
    rw [← same, render_of_canonical canonical]
  · rintro rfl
    exact ⟨render_canonical _, render_value _⟩

theorem same_c_string_numbers {n m : Nat} {left : Buffer n} {right : Buffer m} {a b : UInt64}
    (readLeft : parseDecimalU64String left.text = some a)
    (readRight : parseDecimalU64String right.text = some b) :
    sameCString left.bytes right.bytes = true ↔ a = b := by
  rw [sameCString, decide_eq_true_eq]
  constructor
  · intro same
    rw [Buffer.text, same] at readLeft
    exact Option.some.inj (readLeft.symm.trans readRight)
  · rintro rfl
    rw [parse_decimal_render] at readLeft readRight
    exact readLeft.trans readRight.symm

theorem ping_action_text {s : GmControlSession} {jsonText : GmBytes} {nowNs : UInt64}
    {outAction : GmControlAction} {reply : Reply}
    (made : (step s (.ingest jsonText nowNs outAction)).1 = reply) (ok : reply.status = .ok)
    (ping : reply.action.kind = .sendPingResult) :
    reply.action.monotonicNs.text = render nowNs.toNat := by
  obtain ⟨m, kind, next, edit, _, _, grants, result⟩ := accepted_step (made ▸ ok)
  rw [result] at made
  subst made
  cases grants with
  | ping => exact clock_text nowNs _ rfl
  | _ => cases ping

/-- The numerals are read and written in one way: the reader accepts the canonical numeral
    of each 64-bit number and returns it; the writer fills its buffer from behind with all
    the digits, which reach the action whole; and two timestamps are the same text exactly
    when they are the same number, in particular where a running stream is started again. -/
theorem decimal_text_bijection :
    (∀ (text : List UInt8) (n : UInt64),
      (parseDecimalU64String text = some n ↔ Canonical text ∧ value text = n.toNat) ∧
      (parseDecimalU64String text = some n ↔ text = render n.toNat)) ∧
    (∀ nowNs : UInt64, ∃ writeIndex digits,
      digitsBuffer gmControlDecimalU64MaxBytes nowNs
          (List.replicate (gmControlDecimalU64MaxBytes + 1) 0) = some (writeIndex, digits) ∧
        digits.length = gmControlDecimalU64MaxBytes + 1 ∧
        digits.drop writeIndex = render nowNs.toNat ++ [0] ∧
        CString.text (digits.drop writeIndex) =
          digitsLoop gmControlDecimalU64MaxBytes nowNs []) ∧
    (∀ (s : GmControlSession) (jsonText : GmBytes) (nowNs : UInt64) (outAction : GmControlAction)
      (reply : Reply),
      (step s (.ingest jsonText nowNs outAction)).1 = reply → reply.status = .ok →
      reply.action.kind = .sendPingResult →
        reply.action.monotonicNs.text = render nowNs.toNat ∧
          parseDecimalU64String reply.action.monotonicNs.text = some nowNs) ∧
    (∀ (n m : Nat) (left : Buffer n) (right : Buffer m) (a b : UInt64),
      parseDecimalU64String left.text = some a → parseDecimalU64String right.text = some b →
        (sameCString left.bytes right.bytes = true ↔ a = b)) ∧
    ∀ (config : GmControlSessionConfig) (blank start : GmControlSession) (calls : List Call)
      (s : GmControlSession) (jsonText : GmBytes) (m : GmControlMessageInfo),
      gmControlSessionInit config blank = (.ok, start) → s = final step start calls →
      s.state = .streaming → Arrives s jsonText m → m.kind = .requestStreamStart →
        ∃ a b, parseDecimalU64String s.firstMediaTimestamp.text = some a ∧
          parseDecimalU64String m.firstMediaTimestamp.text = some b ∧
          (sameCString s.firstMediaTimestamp.bytes m.firstMediaTimestamp.bytes = true ↔ a = b) := by
  refine ⟨fun text n => ⟨parse_decimal_iff text n, parse_decimal_render text n⟩, ?_, ?_, ?_, ?_⟩
  · intro nowNs
    have bound : nowNs.toNat < 10 ^ (19 + 1) := nowNs.toNat_lt.trans (by decide)
    obtain ⟨writeIndex, digits, run, _, length, text⟩ :=
      digits_buffer_render 19 nowNs (List.replicate 21 0) bound (by simp)
    have clean := (decimal_plain (render_decimal nowNs)).2
    refine ⟨writeIndex, digits, run, length.trans List.length_replicate, text, ?_⟩
    rw [text, clock_digits]
    exact (text_append_zero _ 1).trans (text_of_no_nul clean)
  · intro s jsonText nowNs outAction reply made ok ping
    have text := ping_action_text made ok ping
    exact ⟨text, (parse_decimal_render _ nowNs).mpr text⟩
  · intro n m left right a b
    exact same_c_string_numbers
  · rintro config blank start calls s jsonText m init rfl streaming arrives kind
    have stored := (run_invariant init calls).timestamp streaming
    have arrived := (start_arrives arrives kind).1
    obtain ⟨a, readStored⟩ := Option.isSome_iff_exists.mp ((decimal_u64_iff _).mpr stored)
    obtain ⟨b, readArrived⟩ := Option.isSome_iff_exists.mp ((decimal_u64_iff _).mpr arrived)
    exact ⟨a, b, readStored, readArrived, same_c_string_numbers readStored readArrived⟩

end GhostMedia.Session
