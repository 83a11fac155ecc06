import GhostMedia.Control.JsonScan
import GhostMedia.Control.ParserRecord

/- What a record of the parser may hold: reads inside the input, moves forward and within
   it, iterations that advance, at most seventeen calls at a time. A step leads from one
   allowed record to a longer one; each primitive has a rule that extends the step made so
   far and follows the plain parser. -/
namespace GhostMedia.Json
open StateLogic Recording

/-- Where the cursor stands after these events. -/
def reached : List Event → Nat
  | [] => 0
  | .move _ stop :: _ => stop
  | _ :: earlier => reached earlier

def callsOpen : List Event → Nat
  | [] => 0
  | .call :: earlier => callsOpen earlier + 1
  | .leave :: earlier => callsOpen earlier - 1
  | _ :: earlier => callsOpen earlier

/-- The iterations entered and not turned. -/
def turnsOwed : List Event → Nat
  | [] => 0
  | .enter _ _ :: earlier => turnsOwed earlier + 1
  | .turn _ _ _ :: earlier => turnsOwed earlier - 1
  | _ :: earlier => turnsOwed earlier

/-- What the parser may do on an input of `size` bytes, after the earlier events. -/
def Allowed (size : Nat) (earlier : List Event) : Event → Prop
  | .read index => index < size
  | .move start stop => start = reached earlier ∧ start < stop ∧ stop ≤ size
  | .enter _ start => start = reached earlier
  | .turn loop start stop =>
    stop = reached earlier ∧ if loop = .names then start = stop else start < stop
  | .call => callsOpen earlier < 17
  | .leave => True

/-- An allowed record that accounts for the cursor. -/
structure Fine (size : Nat) (s : State Cursor Event) : Prop where
  sound : Sound (Allowed size) s.record
  cursor : s.state.position = reached s.record

/-- From `s` to `s'` the cursor has advanced by `least` bytes or more, and every call
    made and iteration entered on the way has come to its end. -/
structure Step (size least : Nat) (s s' : State Cursor Event) : Prop where
  fine : Fine size s'
  onward : s.state.position + least ≤ s'.state.position
  calls : callsOpen s'.record = callsOpen s.record
  turns : turnsOwed s'.record = turnsOwed s.record

def Stopped (size : Nat) (halt : Halt) (s : State Cursor Event) : Prop :=
  IsStatus halt ∧ Fine size s

section Steps
variable {size m n : Nat} {s s' s'' : State Cursor Event} {loop : Loop}

theorem reached_le {record : List Event} (sound : Sound (Allowed size) record) :
    reached record ≤ size := by
  induction record with
  | nil => exact Nat.zero_le size
  | cons event earlier ih =>
    have before := ih sound.2
    cases event with
    | move start stop => exact sound.1.2.2
    | _ => exact before

theorem fine_inside (fine : Fine size s) : s.state.position ≤ size := by
  rw [fine.cursor]
  exact reached_le fine.sound

theorem step_refl (fine : Fine size s) : Step size 0 s s :=
  ⟨fine, Nat.le_refl _, rfl, rfl⟩

theorem step_trans (first : Step size m s s') (second : Step size n s' s'') :
    Step size (m + n) s s'' := by
  have there := first.onward
  have onward := second.onward
  exact ⟨second.fine, by omega, second.calls.trans first.calls, second.turns.trans first.turns⟩

theorem step_weaken (step : Step size m s s') (fewer : n ≤ m) : Step size n s s' := by
  have onward := step.onward
  exact ⟨step.fine, by omega, step.calls, step.turns⟩

theorem step_read {index : Nat} (step : Step size m s s') (inside : index < size) :
    Step size m s (s'.noted (.read index)) :=
  ⟨⟨⟨inside, step.fine.sound⟩, step.fine.cursor⟩, step.onward, step.calls, step.turns⟩

theorem step_move {count : Nat} (step : Step size m s s') (some : 0 < count)
    (fits : s'.state.position + count ≤ size) :
    Step size (m + count) s
      ((⟨{ s'.state with position := s'.state.position + count }, s'.record⟩ :
        State Cursor Event).noted (.move s'.state.position (s'.state.position + count))) := by
  have onward := step.onward
  refine ⟨⟨⟨⟨step.fine.cursor, by omega, fits⟩, step.fine.sound⟩, rfl⟩, ?_, step.calls, step.turns⟩
  simp only [noted_state]
  omega

theorem fine_enter (fine : Fine size s) : Fine size (s.noted (.enter loop s.state.position)) :=
  ⟨⟨fine.cursor, fine.sound⟩, fine.cursor⟩

theorem step_turn (step : Step size m s s')
    (body : Step size n (s'.noted (.enter loop s'.state.position)) s'')
    (moved : loop ≠ .names → 0 < n) (stood : loop = .names → s''.state = s'.state) :
    Step size (m + n) s (s''.noted (.turn loop s'.state.position s''.state.position)) := by
  have there := step.onward
  have onward := body.onward
  have turns := body.turns
  simp only [noted_state, noted_record, turnsOwed] at onward turns
  refine ⟨⟨⟨⟨body.fine.cursor, ?_⟩, body.fine.sound⟩, body.fine.cursor⟩, ?_, ?_, ?_⟩
  · by_cases names : loop = .names
    · rw [if_pos names, stood names]
    · have some := moved names
      rw [if_neg names]
      omega
  · simp only [noted_state]
    omega
  · exact body.calls.trans step.calls
  · have before := step.turns
    simp only [noted_record, turnsOwed]
    omega

theorem step_call (body : Step size m (s.noted .call) s') :
    Step size m s (s'.noted .leave) := by
  have calls := body.calls
  simp only [noted_record, callsOpen] at calls
  refine ⟨⟨⟨trivial, body.fine.sound⟩, body.fine.cursor⟩, body.onward, ?_, body.turns⟩
  simp only [noted_record, callsOpen]
  omega

theorem fine_call (room : callsOpen s.record < 17) (fine : Fine size s) :
    Fine size (s.noted .call) := ⟨⟨room, fine.sound⟩, fine.cursor⟩

end Steps

/-- A look at the input leaves the same room ahead. -/
theorem same_room {size n : Nat} {s s' : State Cursor Event} (same : s'.state = s.state)
    (room : s.state.position + n ≤ size) : s'.state.position + n ≤ size := by
  rw [same]
  exact room

section Rules
variable {α β : Type} {input : List UInt8} {size k n : Nat} {s₀ s s' : State Cursor Event}
  {p p' : Recorded.Recorder α} {q q' : Parser α} {f : UInt8 → Recorded.Recorder α}
  {g : UInt8 → Parser α} {post : α → State Cursor Event → Prop}
  {failed : Halt → State Cursor Event → Prop}

/-- `p` ends as `q` does, and advances by `least` bytes when it succeeds. -/
def Progresses (size least : Nat) (p : Recorded.Recorder α) (q : Parser α)
    (s : State Cursor Event) : Prop :=
  Follows (fun _ s' => Step size least s s') (Stopped size) p q s

theorem follows_fail {status : GmStatus} (now : Step size k s₀ s) (error : Refusal status) :
    Follows post (Stopped size) (Recorded.failWith status : Recorded.Recorder α)
      (failWith status) s :=
  follows_throw ⟨error, now.fine⟩

/-- An error return when `c` holds. -/
theorem follows_reject {c : Prop} [Decidable c] {status : GmStatus} (now : Step size k s₀ s)
    (error : Refusal status) (next : ¬ c → Follows post (Stopped size) p q s) :
    Follows post (Stopped size) (if c then Recorded.failWith status else p)
      (if c then failWith status else q) s :=
  follows_ite (fun _ => follows_fail now error) next

theorem follows_more
    (yes : s.state.position < input.length → Follows post failed p q s)
    (no : ¬ s.state.position < input.length → Follows post failed p' q' s) :
    Follows post failed (do if ← Recorded.moreInput input then p else p')
      (do if ← moreInput input then q else q') s := by
  have here : moreInput input s.state =
    .ok (decide (s.state.position < input.length)) s.state := rfl
  have asked : Follows (fun more t => more = decide (s.state.position < input.length) ∧ t = s)
      failed (Recorded.moreInput input) (moreInput input) s := follows_lift here ⟨rfl, rfl⟩
  refine follows_bind asked ?_
  rintro more t ⟨rfl, rfl⟩
  refine follows_ite ?_ ?_
  · intro more
    exact yes (of_decide_eq_true more)
  · intro more
    exact no fun inside => more (decide_eq_true inside)

theorem data_at_run {index : Nat} (inside : index < input.length) (c : Cursor) :
    dataAt input index c = .ok input[index] c := by
  simp [dataAt, inside, pure, EStateM.pure]

theorem follows_data {index : Nat} (now : Step input.length k s₀ s) (inside : index < input.length)
    (next : ∀ s', Step input.length k s₀ s' → s'.state = s.state →
      Follows post failed (f input[index]) (g input[index]) s') :
    Follows post failed (Recorded.dataAt input index >>= f) (dataAt input index >>= g) s := by
  have read : Follows
      (fun b s' => b = input[index] ∧ Step input.length k s₀ s' ∧ s'.state = s.state) failed
      (Recorded.dataAt input index) (dataAt input index) s :=
    follows_note (follows_lift (data_at_run inside s.state) ⟨rfl, step_read now inside, rfl⟩)
  refine follows_bind read ?_
  rintro b s' ⟨rfl, after, same⟩
  exact next s' after same

theorem follows_peek (now : Step input.length k s₀ s) (inside : s.state.position < input.length)
    (next : ∀ b s', Step input.length k s₀ s' → s'.state = s.state →
      Follows post failed (f b) (g b) s') :
    Follows post failed (Recorded.peek input >>= f) (peek input >>= g) s :=
  follows_data now inside fun s' after same => next _ s' after same

theorem follows_advance (now : Step input.length k s₀ s) (some : 0 < n)
    (fits : s.state.position + n ≤ input.length)
    (next : ∀ s', Step input.length (k + n) s₀ s' →
      s'.state = { s.state with position := s.state.position + n } →
      Follows post failed p q s') :
    Follows post failed (Recorded.advance n >>= fun _ => p) (advance n >>= fun _ => q) s :=
  next _ (step_move now some fits) rfl

theorem follows_take (now : Step input.length k s₀ s) (inside : s.state.position < input.length)
    (next : ∀ b s', Step input.length (k + 1) s₀ s' →
      s'.state.position = s.state.position + 1 → Follows post failed (f b) (g b) s') :
    Follows post failed (Recorded.take input >>= f) (take input >>= g) s := by
  have taken : Follows (fun _ s' => Step input.length (k + 1) s₀ s' ∧
      s'.state.position = s.state.position + 1) failed (Recorded.take input) (take input) s := by
    refine follows_peek now inside ?_
    intro b s₁ peeked same
    refine follows_advance peeked Nat.one_pos (same_room same inside) ?_
    intro s₂ moved next
    exact follows_pure ⟨moved, by rw [next, same]⟩
  refine follows_bind taken ?_
  intro b s' after
  exact next b s' after.1 after.2

theorem follows_here {f : Nat → Recorded.Recorder α} {g : Cursor → Parser α}
    (next : Follows post failed (f s.state.position) (g s.state) s) :
    Follows post failed (Recorded.here >>= f) (get >>= g) s := next

theorem follows_get {f : State Cursor Event → Recorded.Recorder α} {g : Cursor → Parser α}
    (next : Follows post failed (f s) (g s.state) s) :
    Follows post failed (get >>= f) (get >>= g) s := next

/-- The member counter is no concern of the record. -/
theorem follows_count (now : Step size k s₀ s)
    (next : ∀ s', Step size k s₀ s' → Follows post failed p q s') :
    Follows post failed
      (lift (modify fun c => { c with totalMembers := c.totalMembers + 1 }) >>= fun _ => p)
      ((modify fun c => { c with totalMembers := c.totalMembers + 1 }) >>= fun _ => q) s :=
  next ⟨{ s.state with totalMembers := s.state.totalMembers + 1 }, s.record⟩
    ⟨⟨now.fine.sound, now.fine.cursor⟩, now.onward, now.calls, now.turns⟩

theorem follows_enter {f : Nat → Recorded.Recorder α} {loop : Loop}
    (next : Follows post failed (f s.state.position) q
      (s.noted (.enter loop s.state.position))) :
    Follows post failed (Recorded.enter loop >>= f) q s := next

theorem follows_turn {loop : Loop} {start : Nat}
    (next : Follows post failed p q (s.noted (.turn loop start s.state.position))) :
    Follows post failed (Recorded.turn loop start >>= fun _ => p) q s := next

theorem follows_call {p : Recorded.Recorder β} {q : Parser β} {f : β → Recorded.Recorder α}
    {g : β → Parser α} (now : Step size k s₀ s) (call : Progresses size n p q s)
    (next : ∀ b s', Step size (k + n) s₀ s' → Follows post (Stopped size) (f b) (g b) s') :
    Follows post (Stopped size) (p >>= f) (q >>= g) s := by
  refine follows_bind call ?_
  intro b s' onward
  exact next b s' (step_trans now onward)

/-- The last computation of a function. -/
theorem follows_last {least : Nat} (now : Step size k s₀ s) (last : Progresses size n p q s)
    (enough : least ≤ k + n) :
    Follows (fun _ s' => Step size least s₀ s') (Stopped size) p q s := by
  refine follows_mono last ?_ (fun _ _ stopped => stopped)
  intro a s' onward
  exact step_weaken (step_trans now onward) enough

end Rules

end GhostMedia.Json
