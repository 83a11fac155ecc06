import GhostMedia.Control.RecordRules

/- Everything the parser and the UTF-8 check record is allowed. Each function has one
   theorem: it ends as the plain one does, and adds only allowed events. The loops go by
   their fuel, which exceeds the bytes ahead; the nested values go by the levels below. -/
namespace GhostMedia.Json
open StateLogic Recording

section Scanners
variable {input : List UInt8} {s : State Cursor Event}

theorem skip_ws_loop_safe (fuel : Nat) (fine : Fine input.length s)
    (enough : input.length < s.state.position + fuel) :
    Progresses input.length 0 (Recorded.skipWsLoop input fuel) (skipWsLoop input fuel) s := by
  induction fuel generalizing s with
  | zero =>
    have inside := fine_inside fine
    omega
  | succ fuel ih =>
    unfold Recorded.skipWsLoop skipWsLoop
    refine follows_more ?_ ?_
    · intro inside
      refine follows_peek (step_refl fine) inside ?_
      intro b s₁ peeked same
      refine follows_ite ?_ ?_
      · intro _
        refine follows_enter ?_
        refine follows_advance (step_refl (fine_enter peeked.fine)) Nat.one_pos
          (same_room same inside) ?_
        intro s₂ moved _
        refine follows_turn ?_
        have turned := step_turn peeked moved (fun _ => Nat.one_pos) (by simp)
        have onward := turned.onward
        exact follows_last turned (ih turned.fine (by omega)) (by omega)
      · intro _
        exact follows_pure peeked
    · intro _
      exact follows_pure (step_refl fine)

theorem skip_ws_safe (fine : Fine input.length s) :
    Progresses input.length 0 (Recorded.skipWs input) (skipWs input) s :=
  skip_ws_loop_safe (input.length + 1) fine (by omega)

theorem follows_range {α : Type} {p : Recorded.Recorder α} {q : Parser α}
    {post : α → State Cursor Event → Prop} {failed : Halt → State Cursor Event → Prop} {k : Nat}
    {s₀ : State Cursor Event} (first count : Nat) (now : Step input.length k s₀ s)
    (inside : first + count ≤ input.length)
    (next : ∀ s', Step input.length k s₀ s' → s'.state = s.state → Follows post failed p q s') :
    Follows post failed (Recorded.readRange first count >>= fun _ => p) q s := by
  induction count generalizing first s with
  | zero => exact next s now rfl
  | succ count ih => exact ih (first + 1) (step_read now (by omega)) (by omega) next

theorem match_literal_safe (literal : List UInt8) (some : 0 < literal.length)
    (fine : Fine input.length s) :
    Progresses input.length 0 (Recorded.matchLiteral input literal)
      (matchLiteral input literal) s := by
  unfold Recorded.matchLiteral matchLiteral
  refine follows_here ?_
  refine follows_ite ?_ ?_
  · intro _
    exact follows_pure (step_refl fine)
  · intro room
    refine follows_range s.state.position literal.length (step_refl fine) (by omega) ?_
    intro s₁ read same
    refine follows_ite ?_ ?_
    · intro _
      exact follows_pure read
    · intro _
      refine follows_advance read some (same_room same (by omega)) ?_
      intro s₂ moved _
      exact follows_pure (step_weaken moved (Nat.zero_le _))

theorem parse_hex4_loop_safe (count : Nat) (value : UInt32) (fine : Fine input.length s)
    (room : s.state.position + count ≤ input.length) :
    Progresses input.length count (Recorded.parseHex4Loop input count value)
      (parseHex4Loop input count value) s := by
  induction count generalizing value s with
  | zero => exact follows_pure (step_refl fine)
  | succ count ih =>
    unfold Recorded.parseHex4Loop parseHex4Loop
    refine follows_enter ?_
    refine follows_take (step_refl (fine_enter fine)) (by rw [noted_state]; omega) ?_
    intro b s₁ taken next
    refine follows_reject taken (by decide) ?_
    intro _
    refine follows_turn ?_
    have turned := step_turn (step_refl fine) taken (fun _ => by omega) (by simp)
    simp only [noted_state] at next
    exact follows_last turned (ih _ turned.fine (by rw [noted_state]; omega)) (by omega)

theorem parse_hex4_safe (fine : Fine input.length s) :
    Progresses input.length 4 (Recorded.parseHex4 input) (parseHex4 input) s := by
  unfold Recorded.parseHex4 parseHex4
  refine follows_here ?_
  refine follows_reject (step_refl fine) (by decide) ?_
  intro room
  exact parse_hex4_loop_safe 4 0 fine (by omega)

theorem parse_code_unit_safe (codeUnit : UInt32) (out : List UInt8) (fine : Fine input.length s) :
    Progresses input.length 0 (Recorded.parseCodeUnit input codeUnit out)
      (parseCodeUnit input codeUnit out) s := by
  unfold Recorded.parseCodeUnit parseCodeUnit
  refine follows_ite ?_ ?_
  · intro _
    refine follows_here ?_
    refine follows_reject (step_refl fine) (by decide) ?_
    intro room
    refine follows_data (step_refl fine) (by omega) ?_
    intro s₁ backslash same₁
    refine follows_reject backslash (by decide) ?_
    intro _
    refine follows_data backslash (by omega) ?_
    intro s₂ letter same₂
    refine follows_reject letter (by decide) ?_
    intro _
    refine follows_advance letter Nat.two_pos (same_room (same₂.trans same₁) (by omega)) ?_
    intro s₃ moved _
    refine follows_call moved (parse_hex4_safe moved.fine) ?_
    intro low s₄ called
    refine follows_reject called (by decide) ?_
    intro _
    exact follows_pure (step_weaken called (Nat.zero_le _))
  · intro _
    refine follows_reject (step_refl fine) (by decide) ?_
    intro _
    exact follows_pure (step_refl fine)

theorem parse_escape_safe (escape : UInt8) (out : List UInt8) (fine : Fine input.length s) :
    Progresses input.length 0 (Recorded.parseEscape input escape out)
      (parseEscape input escape out) s := by
  have appended (b : UInt8) : Progresses input.length 0 (pure (out ++ [b]))
      (pure (out ++ [b])) s := follows_pure (step_refl fine)
  unfold Recorded.parseEscape parseEscape
  refine follows_ite (fun _ => appended _) fun _ => ?_
  refine follows_ite (fun _ => appended _) fun _ => ?_
  refine follows_ite (fun _ => appended _) fun _ => ?_
  refine follows_ite (fun _ => appended _) fun _ => ?_
  refine follows_ite (fun _ => appended _) fun _ => ?_
  refine follows_ite (fun _ => appended _) fun _ => ?_
  refine follows_ite ?_ ?_
  · intro _
    refine follows_call (step_refl fine) (parse_hex4_safe fine) ?_
    intro codeUnit s₁ called
    exact follows_last called (parse_code_unit_safe codeUnit out called.fine) (Nat.zero_le _)
  · intro _
    exact follows_fail (step_refl fine) (by decide)

theorem parse_string_loop_safe (fuel : Nat) (out : List UInt8) (fine : Fine input.length s)
    (enough : input.length < s.state.position + fuel) :
    Progresses input.length 0 (Recorded.parseStringLoop input fuel out)
      (parseStringLoop input fuel out) s := by
  induction fuel generalizing out s with
  | zero =>
    have inside := fine_inside fine
    omega
  | succ fuel ih =>
    have now := step_refl fine
    unfold Recorded.parseStringLoop parseStringLoop
    refine follows_more ?_ ?_
    · intro inside
      refine follows_enter ?_
      refine follows_take (step_refl (fine_enter fine)) inside ?_
      intro value s₁ taken _
      refine follows_ite ?_ ?_
      · intro _
        refine follows_turn ?_
        have turned := step_turn now taken (fun _ => by omega) (by simp)
        exact follows_pure (step_weaken turned (Nat.zero_le _))
      intro _
      refine follows_reject taken (by decide) ?_
      intro _
      refine follows_ite ?_ ?_
      · intro _
        refine follows_reject taken (by decide) ?_
        intro _
        refine follows_turn ?_
        have turned := step_turn now taken (fun _ => by omega) (by simp)
        have onward := turned.onward
        exact follows_last turned (ih _ turned.fine (by omega)) (Nat.zero_le _)
      · intro _
        refine follows_more ?_ ?_
        · intro more
          refine follows_take taken more ?_
          intro escape s₂ escaped _
          refine follows_call escaped (parse_escape_safe escape out escaped.fine) ?_
          intro out s₃ called
          refine follows_reject called (by decide) ?_
          intro _
          refine follows_turn ?_
          have turned := step_turn now called (fun _ => by omega) (by simp)
          have onward := turned.onward
          exact follows_last turned (ih out turned.fine (by omega)) (Nat.zero_le _)
        · intro _
          exact follows_fail taken (by decide)
    · intro _
      exact follows_fail now (by decide)

theorem parse_string_safe (fine : Fine input.length s) :
    Progresses input.length 1 (Recorded.parseString input) (parseString input) s := by
  unfold Recorded.parseString parseString
  refine follows_more ?_ ?_
  · intro inside
    refine follows_peek (step_refl fine) inside ?_
    intro quote s₁ peeked same
    refine follows_reject peeked (by decide) ?_
    intro _
    refine follows_advance peeked Nat.one_pos (same_room same inside) ?_
    intro s₂ moved _
    have loop := parse_string_loop_safe (input.length + 1) [] moved.fine (by omega)
    exact follows_last moved loop (by omega)
  · intro _
    exact follows_fail (step_refl fine) (by decide)

theorem parse_digits_safe (fuel : Nat) (value : UInt64) (fine : Fine input.length s)
    (enough : input.length < s.state.position + fuel) :
    Progresses input.length 0 (Recorded.parseDigits input fuel value)
      (parseDigits input fuel value) s := by
  induction fuel generalizing value s with
  | zero =>
    have inside := fine_inside fine
    omega
  | succ fuel ih =>
    unfold Recorded.parseDigits parseDigits
    refine follows_more ?_ ?_
    · intro inside
      refine follows_peek (step_refl fine) inside ?_
      intro byte s₁ peeked same
      refine follows_ite ?_ ?_
      · intro _
        refine follows_enter ?_
        refine follows_reject (step_refl (fine_enter peeked.fine)) (by decide) ?_
        intro _
        refine follows_advance (step_refl (fine_enter peeked.fine)) Nat.one_pos
          (same_room same inside) ?_
        intro s₂ moved _
        refine follows_turn ?_
        have turned := step_turn peeked moved (fun _ => Nat.one_pos) (by simp)
        have onward := turned.onward
        exact follows_last turned (ih _ turned.fine (by omega)) (by omega)
      · intro _
        exact follows_pure peeked
    · intro _
      exact follows_pure (step_refl fine)

/-- A byte that must not come next. -/
theorem reject_byte_safe (forbidden : UInt8 → Bool) (fine : Fine input.length s) :
    Progresses input.length 0
      (do
        if ← Recorded.moreInput input then
          if forbidden (← Recorded.peek input) then Recorded.failWith .badMessage)
      (do
        if ← moreInput input then
          if forbidden (← peek input) then failWith .badMessage) s := by
  refine follows_more ?_ ?_
  · intro inside
    refine follows_peek (step_refl fine) inside ?_
    intro byte s₁ peeked _
    exact follows_reject peeked (by decide) fun _ => follows_pure peeked
  · intro _
    exact follows_pure (step_refl fine)

theorem reject_digit_safe (fine : Fine input.length s) :
    Progresses input.length 0 (Recorded.rejectDigit input) (rejectDigit input) s :=
  reject_byte_safe isDigit fine

theorem reject_fraction_safe (fine : Fine input.length s) :
    Progresses input.length 0 (Recorded.rejectFraction input) (rejectFraction input) s :=
  reject_byte_safe (fun byte => byte = 46 || byte = 101 || byte = 69) fine

theorem parse_number_safe (fine : Fine input.length s) :
    Progresses input.length 0 (Recorded.parseNumber input) (parseNumber input) s := by
  unfold Recorded.parseNumber parseNumber
  refine follows_more ?_ ?_
  · intro inside
    refine follows_peek (step_refl fine) inside ?_
    intro first s₁ peeked same
    refine follows_reject peeked (by decide) ?_
    intro _
    refine follows_ite ?_ ?_
    · intro _
      refine follows_advance peeked Nat.one_pos (same_room same inside) ?_
      intro s₂ moved _
      refine follows_call moved (reject_digit_safe moved.fine) ?_
      intro _ s₃ single
      refine follows_call single (reject_fraction_safe single.fine) ?_
      intro _ s₄ ended
      exact follows_pure (step_weaken ended (Nat.zero_le _))
    · intro _
      refine follows_call peeked (parse_digits_safe (input.length + 1) 0 peeked.fine (by omega)) ?_
      intro value s₂ read
      refine follows_call read (reject_fraction_safe read.fine) ?_
      intro _ s₃ ended
      exact follows_pure ended
  · intro _
    exact follows_fail (step_refl fine) (by decide)

/-- The loop over the names leaves the cursor where it is. -/
theorem reject_name_safe (name : List UInt8) (members : List (List UInt8 × JsonValue))
    (fine : Fine input.length s) :
    Follows (fun _ s' => Step input.length 0 s s' ∧ s'.state = s.state) (Stopped input.length)
      (Recorded.rejectName name members)
      (if members.any fun member => member.1 = name then failWith .badMessage else pure ()) s := by
  induction members generalizing s with
  | nil => exact follows_pure ⟨step_refl fine, rfl⟩
  | cons member members ih =>
    unfold Recorded.rejectName
    refine follows_enter ?_
    have entered : Fine input.length (s.noted (.enter .names s.state.position)) := fine_enter fine
    by_cases same : member.1 = name
    · simp only [same, List.any_cons, decide_true, Bool.true_or, if_true]
      exact follows_fail (step_refl entered) (by decide)
    · simp only [same, List.any_cons, decide_false, Bool.false_or, if_false]
      refine follows_turn ?_
      have turned := step_turn (step_refl fine) (step_refl entered)
        (fun other => absurd rfl other) fun _ => rfl
      refine follows_mono (ih turned.fine) ?_ fun _ _ stopped => stopped
      rintro _ s' ⟨later, still⟩
      exact ⟨step_trans turned later, still⟩

theorem follows_new_name {α : Type} {p : Recorded.Recorder α} {q : Parser α}
    {post : α → State Cursor Event → Prop} {k : Nat} {s₀ : State Cursor Event} (name : List UInt8)
    (members : List (List UInt8 × JsonValue)) (now : Step input.length k s₀ s)
    (next : ∀ s', Step input.length k s₀ s' → Follows post (Stopped input.length) p q s') :
    Follows post (Stopped input.length) (Recorded.rejectName name members >>= fun _ => p)
      (if members.any fun member => member.1 = name then failWith .badMessage else q) s := by
  have tested : (if members.any fun member => member.1 = name then failWith .badMessage else q) =
      ((if members.any fun member => member.1 = name then failWith .badMessage else pure ()) >>=
        fun _ => q) := by
    split
    · rfl
    · rfl
  rw [tested]
  refine follows_bind (reject_name_safe name members now.fine) ?_
  rintro _ s' ⟨later, _⟩
  exact next s' (step_trans now later)

theorem parse_member_name_safe (members : List (List UInt8 × JsonValue))
    (fine : Fine input.length s) :
    Progresses input.length 1 (Recorded.parseMemberName input members)
      (parseMemberName input members) s := by
  unfold Recorded.parseMemberName parseMemberName
  refine follows_get ?_
  refine follows_reject (step_refl fine) (by decide) ?_
  intro _
  refine follows_call (step_refl fine) (parse_string_safe fine) ?_
  intro name s₁ named
  refine follows_new_name name members named ?_
  intro s₂ new
  refine follows_count new ?_
  intro s₃ counted
  refine follows_call counted (skip_ws_safe counted.fine) ?_
  intro _ s₄ skipped
  refine follows_more ?_ ?_
  · intro more
    refine follows_peek skipped more ?_
    intro colon s₅ peeked same
    refine follows_reject peeked (by decide) ?_
    intro _
    refine follows_advance peeked Nat.one_pos (same_room same more) ?_
    intro s₆ moved _
    refine follows_call moved (skip_ws_safe moved.fine) ?_
    intro _ s₇ ready
    exact follows_pure (step_weaken ready (by omega))
  · intro _
    exact follows_fail skipped (by decide)

theorem parse_separator_safe (close : UInt8) (fine : Fine input.length s) :
    Progresses input.length 1 (Recorded.parseSeparator input close)
      (parseSeparator input close) s := by
  unfold Recorded.parseSeparator parseSeparator
  refine follows_call (step_refl fine) (skip_ws_safe fine) ?_
  intro _ s₁ skipped
  refine follows_more ?_ ?_
  · intro more
    refine follows_peek skipped more ?_
    intro byte s₂ peeked same
    refine follows_ite ?_ ?_
    · intro _
      refine follows_advance peeked Nat.one_pos (same_room same more) ?_
      intro s₃ moved _
      exact follows_pure moved
    intro _
    refine follows_reject peeked (by decide) ?_
    intro _
    refine follows_advance peeked Nat.one_pos (same_room same more) ?_
    intro s₃ moved _
    refine follows_call moved (skip_ws_safe moved.fine) ?_
    intro _ s₄ ready
    exact follows_pure ready
  · intro _
    exact follows_fail skipped (by decide)

end Scanners

section Values
variable {input : List UInt8} {s : State Cursor Event} {calls : Nat}
  {recordedValue : Recorded.Recorder JsonValue} {value : Parser JsonValue}

/-- A nested value, read with so many calls of `parse_value` in progress. -/
def SafeValue (size calls : Nat) (recordedValue : Recorded.Recorder JsonValue)
    (value : Parser JsonValue) : Prop :=
  ∀ s, Fine size s → callsOpen s.record = calls → Progresses size 0 recordedValue value s

/-- Behind the member or the element: the iteration is turned, and the loop returns or goes
    round. -/
theorem round_ends {recordedRest : Recorded.Recorder JsonValue} {rest : Parser JsonValue}
    {loop : Loop} {k : Nat} {s₁ : State Cursor Event} (close : UInt8) (contents : JsonValue)
    (other : loop ≠ .names) (fine : Fine input.length s)
    (body : Step input.length k (s.noted (.enter loop s.state.position)) s₁)
    (again : ∀ s', Step input.length 1 s s' → Progresses input.length 0 recordedRest rest s') :
    Follows (fun _ s' => Step input.length 0 s s') (Stopped input.length)
      (do
        let closed ← Recorded.parseSeparator input close
        Recorded.turn loop s.state.position
        if closed then return contents else recordedRest)
      (do if ← parseSeparator input close then return contents else rest) s₁ := by
  refine follows_call body (parse_separator_safe close body.fine) ?_
  intro closed s₂ separated
  refine follows_turn ?_
  have turned := step_turn (step_refl fine) separated (fun _ => by omega)
    fun same => absurd same other
  refine follows_ite ?_ ?_
  · intro _
    exact follows_pure (step_weaken turned (Nat.zero_le _))
  · intro _
    exact follows_last turned (again _ (step_weaken turned (by omega))) (Nat.zero_le _)

theorem parse_object_loop_safe (nested : SafeValue input.length calls recordedValue value)
    (fuel : Nat) (members : List (List UInt8 × JsonValue)) (fine : Fine input.length s)
    (opened : callsOpen s.record = calls) (enough : input.length < s.state.position + fuel) :
    Progresses input.length 0 (Recorded.parseObjectLoop input recordedValue fuel members)
      (parseObjectLoop input value fuel members) s := by
  induction fuel generalizing members s with
  | zero =>
    have inside := fine_inside fine
    omega
  | succ fuel ih =>
    unfold Recorded.parseObjectLoop parseObjectLoop
    refine follows_more ?_ ?_
    · intro _
      refine follows_enter ?_
      have entered : Fine input.length (s.noted (.enter .object s.state.position)) :=
        fine_enter fine
      refine follows_call (step_refl entered) (parse_member_name_safe members entered) ?_
      intro name s₁ named
      refine follows_call named (nested s₁ named.fine (named.calls.trans opened)) ?_
      intro v s₂ valued
      refine round_ends 125 _ (by decide) fine valued ?_
      intro s₃ turned
      have onward := turned.onward
      exact ih _ turned.fine (turned.calls.trans opened) (by omega)
    · intro _
      exact follows_fail (step_refl fine) (by decide)

theorem parse_array_loop_safe (nested : SafeValue input.length calls recordedValue value)
    (fuel : Nat) (elements : List JsonValue) (fine : Fine input.length s)
    (opened : callsOpen s.record = calls) (enough : input.length < s.state.position + fuel) :
    Progresses input.length 0 (Recorded.parseArrayLoop input recordedValue fuel elements)
      (parseArrayLoop input value fuel elements) s := by
  induction fuel generalizing elements s with
  | zero =>
    have inside := fine_inside fine
    omega
  | succ fuel ih =>
    unfold Recorded.parseArrayLoop parseArrayLoop
    refine follows_more ?_ ?_
    · intro _
      refine follows_enter ?_
      have entered : Fine input.length (s.noted (.enter .array s.state.position)) :=
        fine_enter fine
      refine follows_reject (step_refl entered) (by decide) ?_
      intro _
      refine follows_call (step_refl entered) (nested _ entered opened) ?_
      intro v s₁ valued
      refine round_ends 93 _ (by decide) fine valued ?_
      intro s₂ turned
      have onward := turned.onward
      exact ih _ turned.fine (turned.calls.trans opened) (by omega)
    · intro _
      exact follows_fail (step_refl fine) (by decide)

theorem parse_container_safe {recordedLoop : Recorded.Recorder JsonValue}
    {loop : Parser JsonValue} (close : UInt8) (empty : JsonValue) (fine : Fine input.length s)
    (opened : callsOpen s.record = calls) (inside : s.state.position < input.length)
    (contents : SafeValue input.length calls recordedLoop loop) :
    Progresses input.length 0 (Recorded.parseContainer input close empty recordedLoop)
      (parseContainer input close empty loop) s := by
  unfold Recorded.parseContainer parseContainer
  refine follows_advance (step_refl fine) Nat.one_pos inside ?_
  intro s₁ moved _
  refine follows_call moved (skip_ws_safe moved.fine) ?_
  intro _ s₂ skipped
  refine follows_more ?_ ?_
  · intro more
    refine follows_peek skipped more ?_
    intro byte s₃ peeked same
    refine follows_ite ?_ ?_
    · intro _
      refine follows_advance peeked Nat.one_pos (same_room same more) ?_
      intro s₄ closed _
      exact follows_pure (step_weaken closed (Nat.zero_le _))
    · intro _
      exact follows_last peeked (contents s₃ peeked.fine (peeked.calls.trans opened))
        (Nat.zero_le _)
  · intro _
    exact follows_last skipped (contents s₂ skipped.fine (skipped.calls.trans opened))
      (Nat.zero_le _)

theorem parse_object_safe (nested : SafeValue input.length calls recordedValue value)
    (fine : Fine input.length s) (opened : callsOpen s.record = calls)
    (inside : s.state.position < input.length) :
    Progresses input.length 0 (Recorded.parseObject input recordedValue)
      (parseObject input value) s := by
  refine parse_container_safe 125 _ fine opened inside ?_
  intro s₁ fine₁ opened₁
  exact parse_object_loop_safe nested (input.length + 1) [] fine₁ opened₁ (by omega)

theorem parse_array_safe (nested : SafeValue input.length calls recordedValue value)
    (fine : Fine input.length s) (opened : callsOpen s.record = calls)
    (inside : s.state.position < input.length) :
    Progresses input.length 0 (Recorded.parseArray input recordedValue)
      (parseArray input value) s := by
  refine parse_container_safe 93 _ fine opened inside ?_
  intro s₁ fine₁ opened₁
  exact parse_array_loop_safe nested (input.length + 1) [] fine₁ opened₁ (by omega)

/-- A call keeps the record fine when its body does. -/
theorem follows_nested (fine : Fine input.length s) (room : callsOpen s.record < 17)
    (body : Fine input.length (s.noted .call) →
      Progresses input.length 0 recordedValue value (s.noted .call)) :
    Progresses input.length 0 (between .call .leave recordedValue) value s := by
  refine follows_between (follows_mono (body (fine_call room fine)) ?_ ?_)
  · intro _ s' onward
    exact step_call onward
  · intro halt s' stopped
    exact ⟨stopped.1, ⟨trivial, stopped.2.sound⟩, stopped.2.cursor⟩

/-- The two literals are tried last. -/
theorem parse_literal_safe (fine : Fine input.length s) :
    Progresses input.length 0
      (do
        if ← Recorded.matchLiteral input (ascii "true") then return .boolean true
        else if ← Recorded.matchLiteral input (ascii "false") then return .boolean false
        else Recorded.failWith .badMessage : Recorded.Recorder JsonValue)
      (do
        if ← matchLiteral input (ascii "true") then return .boolean true
        else if ← matchLiteral input (ascii "false") then return .boolean false
        else failWith .badMessage : Parser JsonValue) s := by
  refine follows_call (step_refl fine) (match_literal_safe (ascii "true") (by decide) fine) ?_
  intro isTrue s₁ first
  refine follows_ite ?_ ?_
  · intro _
    exact follows_pure first
  intro _
  refine follows_call first (match_literal_safe (ascii "false") (by decide) first.fine) ?_
  intro isFalse s₂ second
  refine follows_ite ?_ ?_
  · intro _
    exact follows_pure second
  · intro _
    exact follows_fail second (by decide)

/-- A call at depth `calls + 1`, with `levels` more below it. -/
theorem parse_value_safe (levels calls : Nat) (sum : calls + levels = 16) :
    SafeValue input.length calls (Recorded.parseValue input (levels + 1) (calls + 1))
      (parseValue input (levels + 1) (calls + 1)) := by
  induction levels generalizing calls with
  | zero =>
    intro s fine opened
    unfold Recorded.parseValue parseValue
    refine follows_nested fine (by omega) ?_
    intro called
    refine follows_reject (step_refl called) (by decide) ?_
    intro allowed
    simp only [gmControlMaxDepth] at allowed
    omega
  | succ levels ih =>
    intro s fine opened
    have nested := ih (calls + 1) (by omega)
    unfold Recorded.parseValue parseValue
    refine follows_nested fine (by omega) ?_
    intro called
    refine follows_reject (step_refl called) (by decide) ?_
    intro _
    refine follows_more ?_ ?_
    · intro inside
      refine follows_peek (step_refl called) inside ?_
      intro first s₁ peeked same
      have opened₁ : callsOpen s₁.record = calls + 1 :=
        peeked.calls.trans (congrArg (· + 1) opened)
      have inside₁ : s₁.state.position < input.length := by
        rw [same]
        exact inside
      refine follows_ite ?_ ?_
      · intro _
        exact follows_last peeked (parse_object_safe nested peeked.fine opened₁ inside₁)
          (Nat.zero_le _)
      intro _
      refine follows_ite ?_ ?_
      · intro _
        exact follows_last peeked (parse_array_safe nested peeked.fine opened₁ inside₁)
          (Nat.zero_le _)
      intro _
      refine follows_ite ?_ ?_
      · intro _
        refine follows_call peeked (parse_string_safe peeked.fine) ?_
        intro string s₂ read
        exact follows_pure (step_weaken read (Nat.zero_le _))
      intro _
      refine follows_ite ?_ ?_
      · intro _
        refine follows_call peeked (parse_number_safe peeked.fine) ?_
        intro number s₂ read
        exact follows_pure read
      · intro _
        exact follows_last peeked (parse_literal_safe peeked.fine) (Nat.zero_le _)
    · intro _
      exact follows_fail (step_refl called) (by decide)

theorem start_fine (size : Nat) : Fine size Recorded.start := ⟨trivial, rfl⟩

theorem parse_safe :
    Progresses input.length 0 (Recorded.parse input) (parse input) Recorded.start := by
  have began := step_refl (start_fine input.length)
  unfold Recorded.parse parse
  refine follows_call began (skip_ws_safe began.fine) ?_
  intro _ s₁ skipped
  refine follows_call skipped (parse_value_safe 16 0 rfl s₁ skipped.fine skipped.calls) ?_
  intro out s₂ read
  refine follows_call read (skip_ws_safe read.fine) ?_
  intro _ s₃ ended
  refine follows_here ?_
  refine follows_ite ?_ ?_
  · intro _
    exact follows_pure ended
  · intro _
    exact follows_fail ended (by decide)

end Values

section Utf8
variable {input rest : List UInt8} {first : UInt8} {s s₁ : State Cursor Event}

theorem utf8_two (second : UInt8) (notOne : ¬ first ≤ 0x7f)
    (two : (0xc2 ≤ first && first ≤ 0xdf) = true) :
    isValidUtf8 (first :: second :: rest) =
      (decide (second &&& 0xc0 = 0x80) && isValidUtf8 rest) := by
  conv => lhs; unfold isValidUtf8
  rw [if_neg notOne, if_pos two]

theorem utf8_three (second third : UInt8) (notOne : ¬ first ≤ 0x7f)
    (notTwo : ¬ (0xc2 ≤ first && first ≤ 0xdf) = true)
    (three : (0xe0 ≤ first && first ≤ 0xef) = true) :
    isValidUtf8 (first :: second :: third :: rest) =
      (decide (second &&& 0xc0 = 0x80) && decide (third &&& 0xc0 = 0x80) &&
        !((first = 0xe0 && second < 0xa0) || (first = 0xed && second ≥ 0xa0)) &&
        isValidUtf8 rest) := by
  conv => lhs; unfold isValidUtf8
  rw [if_neg notOne, if_neg notTwo, if_pos three]

theorem utf8_four (second third fourth : UInt8) (notOne : ¬ first ≤ 0x7f)
    (notTwo : ¬ (0xc2 ≤ first && first ≤ 0xdf) = true)
    (notThree : ¬ (0xe0 ≤ first && first ≤ 0xef) = true)
    (four : (0xf0 ≤ first && first ≤ 0xf4) = true) :
    isValidUtf8 (first :: second :: third :: fourth :: rest) =
      (decide (second &&& 0xc0 = 0x80) && decide (third &&& 0xc0 = 0x80) &&
        decide (fourth &&& 0xc0 = 0x80) &&
        !((first = 0xf0 && second < 0x90) || (first = 0xf4 && second > 0x8f)) &&
        isValidUtf8 rest) := by
  conv => lhs; unfold isValidUtf8
  rw [if_neg notOne, if_neg notTwo, if_neg notThree, if_pos four]

/-- A character cut off by the end of the input. -/
theorem utf8_cut (notOne : ¬ first ≤ 0x7f)
    (short : rest = [] ∨ ¬ (0xc2 ≤ first && first ≤ 0xdf) = true ∧ (rest.length < 2 ∨
      ¬ (0xe0 ≤ first && first ≤ 0xef) = true ∧ rest.length < 3)) :
    isValidUtf8 (first :: rest) = false := by
  conv => lhs; unfold isValidUtf8
  rw [if_neg notOne]
  cases rest with
  | nil => simp
  | cons second rest =>
    obtain none | ⟨notTwo, few⟩ := short
    · cases none
    rw [if_neg notTwo]
    cases rest with
    | nil => simp
    | cons third rest =>
      obtain few | ⟨notThree, few⟩ := few
      · simp only [List.length_cons] at few
        omega
      rw [if_neg notThree]
      cases rest with
      | nil => simp
      | cons fourth rest =>
        simp only [List.length_cons] at few
        omega

theorem utf8_no_lead (notOne : ¬ first ≤ 0x7f)
    (notTwo : ¬ (0xc2 ≤ first && first ≤ 0xdf) = true)
    (notThree : ¬ (0xe0 ≤ first && first ≤ 0xef) = true)
    (notFour : ¬ (0xf0 ≤ first && first ≤ 0xf4) = true) :
    isValidUtf8 (first :: rest) = false := by
  conv => lhs; unfold isValidUtf8
  rw [if_neg notOne, if_neg notTwo, if_neg notThree, if_neg notFour]

/-- The check gives this verdict, by allowed events, and leaves an iteration without a
    turn only to refuse the input. -/
def Checks (input : List UInt8) (verdict : Bool) (p : Recorded.Recorder Bool)
    (s : State Cursor Event) : Prop :=
  Ends (fun valid s' => valid = verdict ∧ Fine input.length s' ∧
    (valid = true → turnsOwed s'.record = 0)) (fun _ _ => False) (p s)

/-- The loop checks the bytes ahead of any cursor within reach of its fuel. -/
def ChecksAhead (input : List UInt8) (fuel : Nat) : Prop :=
  ∀ s, Fine input.length s → turnsOwed s.record = 0 → input.length < s.state.position + fuel →
    Checks input (isValidUtf8 (input.drop s.state.position))
      (Recorded.isValidUtf8Loop input fuel) s

/-- An iteration entered at `s` that has only looked at the input so far. -/
structure Looking (input : List UInt8) (fuel : Nat) (s s₁ : State Cursor Event) : Prop where
  fine : Fine input.length s
  settled : turnsOwed s.record = 0
  enough : input.length < s.state.position + (fuel + 1)
  looked : Step input.length 0 (s.noted (.enter .utf8 s.state.position)) s₁
  same : s₁.state = s.state

section Looking
variable {p p' : Recorded.Recorder Bool} {fuel : Nat} {verdict : Bool}

theorem checks_more
    (yes : s.state.position < input.length → Checks input verdict p s)
    (no : ¬ s.state.position < input.length → Checks input verdict p' s) :
    Checks input verdict (do if ← Recorded.moreInput input then p else p') s := by
  have asked : Recorded.moreInput input s =
    .ok (decide (s.state.position < input.length)) s := rfl
  unfold Checks
  rw [bind_ok asked]
  refine ends_ite ?_ ?_
  · intro more
    exact yes (of_decide_eq_true more)
  · intro more
    exact no fun inside => more (decide_eq_true inside)

theorem checks_data {index : Nat} {f : UInt8 → Recorded.Recorder Bool}
    (now : Looking input fuel s s₁) (inside : index < input.length)
    (next : ∀ s₂, Looking input fuel s s₂ → Checks input verdict (f input[index]) s₂) :
    Checks input verdict (Recorded.dataAt input index >>= f) s₁ := by
  have looked : lift (dataAt input index) (s₁.noted (.read index)) =
      .ok input[index] (s₁.noted (.read index)) := by
    simp only [lift, data_at_run inside]
  have run : Recorded.dataAt input index s₁ = .ok input[index] (s₁.noted (.read index)) := looked
  unfold Checks
  rw [bind_ok run]
  exact next _ { now with looked := step_read now.looked inside }

theorem checks_unless {c : Prop} [Decidable c] (now : Looking input fuel s s₁)
    (refused : c → verdict = false) (next : ¬ c → Checks input verdict p s₁) :
    Checks input verdict (if c then pure false else p) s₁ := by
  refine ends_ite ?_ next
  intro holds
  exact ⟨(refused holds).symm, now.looked.fine, fun valid => absurd valid Bool.false_ne_true⟩

/-- A character of `width` bytes is passed and the rest is checked. -/
theorem checks_next {width : Nat} (ahead : ChecksAhead input fuel)
    (now : Looking input fuel s s₁) (some : 0 < width)
    (room : s.state.position + width ≤ input.length)
    (passed : verdict = isValidUtf8 (input.drop (s.state.position + width))) :
    Checks input verdict (do
      Recorded.advance width
      Recorded.turn .utf8 s.state.position
      Recorded.isValidUtf8Loop input fuel) s₁ := by
  have moved := step_move now.looked some (same_room now.same room)
  have turned := step_turn (step_refl now.fine) moved (fun _ => by omega) (by simp)
  have place : s₁.state.position + width = s.state.position + width := by rw [now.same]
  have enough := now.enough
  rw [passed, ← place]
  refine ahead _ turned.fine (turned.turns.trans now.settled) ?_
  simp only [noted_state]
  omega

end Looking

theorem utf8_loop_safe (fuel : Nat) : ChecksAhead input fuel := by
  induction fuel with
  | zero =>
    intro s fine _ enough
    have inside := fine_inside fine
    omega
  | succ fuel ih =>
    intro s fine settled enough
    have split {i : Nat} (inside : i < input.length) :
        input.drop i = input[i] :: input.drop (i + 1) := List.drop_eq_getElem_cons inside
    unfold Recorded.isValidUtf8Loop
    refine checks_more ?_ ?_
    · intro inside
      have entered : Looking input fuel s (s.noted (.enter .utf8 s.state.position)) :=
        ⟨fine, settled, enough, step_refl (fine_enter fine), rfl⟩
      refine checks_data entered inside ?_
      intro s₁ now
      rw [split inside]
      refine ends_ite ?_ ?_
      · intro one
        exact checks_next ih now Nat.one_pos inside
          (utf8_accepts_one _ _ (UInt8.le_iff_toNat_le.mp one))
      intro notOne
      refine ends_ite ?_ ?_
      · intro two
        refine checks_unless now ?_ ?_
        · intro short
          exact utf8_cut notOne (.inl (List.drop_eq_nil_of_le short))
        intro room
        rw [split (by omega), utf8_two _ notOne two]
        refine checks_data now (by omega) ?_
        intro s₂ now
        refine checks_unless now (by grind) ?_
        intro good
        exact checks_next ih now Nat.two_pos (by omega) (by grind)
      intro notTwo
      refine ends_ite ?_ ?_
      · intro three
        refine checks_unless now ?_ ?_
        · intro short
          refine utf8_cut notOne (.inr ⟨notTwo, .inl ?_⟩)
          rw [List.length_drop]
          omega
        intro room
        rw [split (by omega), split (by omega), utf8_three _ _ notOne notTwo three]
        refine checks_data now (by omega) ?_
        intro s₂ now
        refine checks_data now (by omega) ?_
        intro s₃ now
        refine checks_unless now (by grind) ?_
        intro good
        refine checks_unless now (by grind) ?_
        intro inRange
        exact checks_next ih now (by omega) (by omega) (by grind)
      intro notThree
      refine ends_ite ?_ ?_
      · intro four
        refine checks_unless now ?_ ?_
        · intro short
          refine utf8_cut notOne (.inr ⟨notTwo, .inr ⟨notThree, ?_⟩⟩)
          rw [List.length_drop]
          omega
        intro room
        rw [split (by omega), split (by omega), split (by omega),
          utf8_four _ _ _ notOne notTwo notThree four]
        refine checks_data now (by omega) ?_
        intro s₂ now
        refine checks_data now (by omega) ?_
        intro s₃ now
        refine checks_data now (by omega) ?_
        intro s₄ now
        refine checks_unless now (by grind) ?_
        intro good
        refine checks_unless now (by grind) ?_
        intro inRange
        exact checks_next ih now (by omega) (by omega) (by grind)
      · intro notFour
        rw [utf8_no_lead notOne notTwo notThree notFour]
        exact ⟨rfl, now.looked.fine, fun valid => absurd valid Bool.false_ne_true⟩
    · intro outside
      rw [List.drop_eq_nil_of_le (by omega)]
      exact ⟨rfl, fine, fun _ => settled⟩

end Utf8

/-- Whatever the bytes, `is_valid_utf8` and `JsonParser::parse` end, as the plain model does
    and with a verdict, a value or an error status. They read below the size only, the
    cursor moves forward and not past the end, an iteration advances it unless the input is
    refused there (or names are compared), and seventeen calls of `parse_value` at most are
    in progress. -/
theorem parsing_safe (bytes : GmBytes) (readable : hasReadableData bytes = true) :
    (∃ s, Recorded.isValidUtf8 bytes.data Recorded.start = .ok (isValidUtf8 bytes.data) s ∧
      Fine bytes.size s ∧ (isValidUtf8 bytes.data = true → turnsOwed s.record = 0)) ∧
    Ends
      (fun value s => parse bytes.data ⟨0, 0⟩ = .ok value s.state ∧ Fine bytes.size s ∧
        turnsOwed s.record = 0 ∧ callsOpen s.record = 0)
      (fun halt s => parse bytes.data ⟨0, 0⟩ = .error halt s.state ∧ IsStatus halt ∧
        Fine bytes.size s)
      (Recorded.parse bytes.data Recorded.start) := by
  have size : bytes.size = bytes.data.length := by
    cases bytes with
    | null n => exact of_decide_eq_true readable
    | view text => rfl
  rw [size]
  constructor
  · have checked := utf8_loop_safe (bytes.data.length + 1) Recorded.start
      (start_fine bytes.data.length) rfl (by omega)
    cases run : Recorded.isValidUtf8 bytes.data Recorded.start with
    | ok valid s =>
      rw [Recorded.isValidUtf8] at run
      rw [Checks, run] at checked
      obtain ⟨verdict, fine, turned⟩ := checked
      refine ⟨s, ?_, fine, ?_⟩
      · rw [verdict]
        rfl
      · intro accepted
        exact turned (verdict.trans accepted)
    | error halt s =>
      rw [Recorded.isValidUtf8] at run
      rw [Checks, run] at checked
      exact checked.elim
  · refine ends_mono parse_safe ?_ (fun _ _ stopped => stopped)
    intro value s ended
    exact ⟨ended.1, ended.2.fine, ended.2.turns, ended.2.calls⟩

/-- The member names `a` and `b` are compared once. -/
def twoMembers : List UInt8 := ascii "\x7b\"a\":1,\"b\":2\x7d"

def strayLetter : List UInt8 := ascii "[x"

theorem two_members_safe :
    ∃ s, Recorded.isValidUtf8 twoMembers Recorded.start = .ok true s ∧ Fine 13 s := by
  have valid : isValidUtf8 twoMembers = true := by decide +kernel
  have size : twoMembers.length = 13 := by decide +kernel
  obtain ⟨s, run, fine, _⟩ := (parsing_safe (.view twoMembers) rfl).1
  rw [view_data, valid] at run
  rw [view_size, size] at fine
  exact ⟨s, run, fine⟩

/-- Comparing names moves nothing, and neither does an array's iteration whose element is
    refused at its first byte. -/
theorem iterations_without_advance :
    (¬ ∀ loop start stop,
      Event.turn loop start stop ∈ recordOf (Recorded.parse twoMembers Recorded.start) →
        start < stop) ∧
    ¬ ∀ loop start,
      Event.enter loop start ∈ recordOf (Recorded.parse strayLetter Recorded.start) →
        start < reached (recordOf (Recorded.parse strayLetter Recorded.start)) := by
  constructor
  · intro every
    exact Nat.lt_irrefl 10 (every .names 10 10 (by decide +kernel))
  · intro every
    have advanced := every .array 1 (by decide +kernel)
    have stands : reached (recordOf (Recorded.parse strayLetter Recorded.start)) = 1 := by
      decide +kernel
    rw [stands] at advanced
    exact Nat.lt_irrefl 1 advanced

end GhostMedia.Json
