import Mathlib.Data.List.Basic

/- Runs of a deterministic machine with outputs. A run is recorded as its events; a
   property of the past and the current state holds of every run when each step
   extends it. `Since` is the past operator: one event, and only good ones after it.
   A run with insertions tags the inputs of the run `inl` and the inserted ones `inr`. -/
namespace Runs

structure Event (State Input Output : Type) where
  before : State
  input : Input
  output : Output
  after : State

section Machine
variable {State Input Output : Type} (step : State → Input → Output × State)

def event (s : State) (i : Input) : Event State Input Output :=
  ⟨s, i, (step s i).1, (step s i).2⟩

def final : State → List Input → State
  | s, [] => s
  | s, i :: is => final (step s i).2 is

def events : State → List Input → List (Event State Input Output)
  | _, [] => []
  | s, i :: is => event step s i :: events (step s i).2 is

@[simp] theorem final_nil (s : State) : final step s [] = s := rfl
@[simp] theorem events_nil (s : State) : events step s [] = [] := rfl

theorem final_append (s : State) (xs ys : List Input) :
    final step s (xs ++ ys) = final step (final step s xs) ys := by
  induction xs generalizing s with
  | nil => rfl
  | cons i xs ih => exact ih (step s i).2

theorem final_snoc (s : State) (xs : List Input) (i : Input) :
    final step s (xs ++ [i]) = (step (final step s xs) i).2 := final_append step s xs [i]

theorem events_append (s : State) (xs ys : List Input) :
    events step s (xs ++ ys) = events step s xs ++ events step (final step s xs) ys := by
  induction xs generalizing s with
  | nil => rfl
  | cons i xs ih => exact congrArg (event step s i :: ·) (ih (step s i).2)

theorem events_length (s : State) (inputs : List Input) :
    (events step s inputs).length = inputs.length := by
  induction inputs generalizing s with
  | nil => rfl
  | cons i is ih => exact congrArg Nat.succ (ih (step s i).2)

/-- An event of a run is a step from the state its prefix ends in. -/
theorem events_split {s : State} {inputs : List Input}
    {past later : List (Event State Input Output)} {e : Event State Input Output}
    (split : events step s inputs = past ++ e :: later) :
    ∃ xs i ys, inputs = xs ++ i :: ys ∧ past = events step s xs ∧
      e = event step (final step s xs) i := by
  induction inputs generalizing s past with
  | nil => simp at split
  | cons i is ih =>
    cases past with
    | nil =>
      obtain ⟨rfl, _⟩ := List.cons.inj split
      exact ⟨[], i, is, rfl, rfl, rfl⟩
    | cons first past =>
      obtain ⟨rfl, rest⟩ := List.cons.inj split
      obtain ⟨xs, j, ys, rfl, rfl, last⟩ := ih rest
      exact ⟨i :: xs, j, ys, rfl, rfl, last⟩

theorem event_of_mem {s : State} {inputs : List Input} {e : Event State Input Output}
    (member : e ∈ events step s inputs) :
    ∃ xs i ys, inputs = xs ++ i :: ys ∧ e = event step (final step s xs) i := by
  obtain ⟨past, later, split⟩ := List.append_of_mem member
  obtain ⟨xs, i, ys, inputs, _, last⟩ := events_split step split
  exact ⟨xs, i, ys, inputs, last⟩

/-- An event seen in another machine's states. -/
def Event.seen {State' : Type} (view : State → State') (e : Event State Input Output) :
    Event State' Input Output := ⟨view e.before, e.input, e.output, view e.after⟩

theorem events_seen {State' : Type} {step' : State' → Input → Output × State'}
    {view : State → State'} (same : ∀ s i, (step s i).1 = (step' (view s) i).1 ∧
      view (step s i).2 = (step' (view s) i).2) (s : State) (inputs : List Input) :
    (events step s inputs).map (Event.seen view) = events step' (view s) inputs := by
  induction inputs generalizing s with
  | nil => rfl
  | cons i is ih =>
    obtain ⟨output, next⟩ := same s i
    rw [events, List.map_cons, ih, events, next, Event.seen, event, event, output, next]

/-- What every good step extends holds at the end of every run of good steps. -/
theorem history_of_good {start : State} (Good : Event State Input Output → Prop)
    (History : List (Event State Input Output) → State → Prop) (initial : History [] start)
    (extend : ∀ past s i, Good (event step s i) → History past s →
      History (past ++ [event step s i]) (step s i).2)
    {inputs : List Input} (good : ∀ e ∈ events step start inputs, Good e) :
    History (events step start inputs) (final step start inputs) := by
  have general : ∀ (is : List Input) (past : List (Event State Input Output)) (s : State),
      (∀ e ∈ events step s is, Good e) → History past s →
        History (past ++ events step s is) (final step s is) := by
    intro is
    induction is with
    | nil =>
      intro past s _ held
      simpa using held
    | cons i is ih =>
      intro past s good held
      rw [events, List.forall_mem_cons] at good
      have next := ih _ _ good.2 (extend past s i good.1 held)
      simpa [events, final] using next
  simpa using general inputs [] start good initial

theorem history_of_run {start : State}
    (History : List (Event State Input Output) → State → Prop) (initial : History [] start)
    (extend : ∀ past s i, History past s → History (past ++ [event step s i]) (step s i).2)
    (inputs : List Input) : History (events step start inputs) (final step start inputs) :=
  history_of_good step (fun _ => True) History initial (fun past s i _ => extend past s i)
    fun _ _ => trivial

theorem invariant_of_run {start : State} (Inv : State → Prop) (initial : Inv start)
    (preserved : ∀ s i, Inv s → Inv (step s i).2) (inputs : List Input) :
    Inv (final step start inputs) :=
  history_of_run step (fun _ s => Inv s) initial (fun _ s i => preserved s i) inputs

end Machine

section Insertion
variable {State Input Output : Type} (step : State → Input → Output × State)

def kept : List (Input ⊕ Input) → List Input
  | [] => []
  | .inl i :: rest => i :: kept rest
  | .inr _ :: rest => kept rest

def whole : List (Input ⊕ Input) → List Input
  | [] => []
  | .inl i :: rest => i :: whole rest
  | .inr i :: rest => i :: whole rest

/-- The events of the run's own inputs, without the insertions and with them. -/
def keptPairs : State → State → List (Input ⊕ Input) →
    List (Event State Input Output × Event State Input Output)
  | _, _, [] => []
  | s, t, .inl i :: rest =>
    (event step s i, event step t i) :: keptPairs (step s i).2 (step t i).2 rest
  | s, t, .inr i :: rest => keptPairs s (step t i).2 rest

def insertedEvents : State → List (Input ⊕ Input) → List (Event State Input Output)
  | _, [] => []
  | s, .inl i :: rest => insertedEvents (step s i).2 rest
  | s, .inr i :: rest => event step s i :: insertedEvents (step s i).2 rest

/-- Silent insertions change no output of a run as long as its own inputs are taken alike in
    states that are the same. -/
theorem insertions_invisible (Same : State → State → Prop)
    {Silent : Event State Input Output → Prop}
    {Alike : Event State Input Output × Event State Input Output → Prop}
    (silent : ∀ s t i, Same s t → Silent (event step t i) → Same s (step t i).2)
    (alike : ∀ s t i, Same s t → Alike (event step s i, event step t i) →
      (step s i).1 = (step t i).1 ∧ Same (step s i).2 (step t i).2)
    {s t : State} (same : Same s t) {run : List (Input ⊕ Input)}
    (quiet : ∀ e ∈ insertedEvents step t run, Silent e)
    (taken : ∀ p ∈ keptPairs step s t run, Alike p) :
    (∀ p ∈ keptPairs step s t run, p.1.output = p.2.output) ∧
      Same (final step s (kept run)) (final step t (whole run)) := by
  induction run generalizing s t with
  | nil => exact ⟨by simp [keptPairs], same⟩
  | cons tagged rest ih =>
    cases tagged with
    | inl i =>
      rw [keptPairs, List.forall_mem_cons] at taken
      obtain ⟨output, next⟩ := alike s t i same taken.1
      obtain ⟨outputs, last⟩ := ih next quiet taken.2
      refine ⟨?_, last⟩
      rw [keptPairs, List.forall_mem_cons]
      exact ⟨output, outputs⟩
    | inr i =>
      rw [insertedEvents, List.forall_mem_cons] at quiet
      exact ih (silent s t i same quiet.1) quiet.2 taken

end Insertion

section Past
variable {Entry : Type}

/-- Some entry satisfies `P` with what came before it, and all later ones satisfy `Q`. -/
def Since (P : List Entry → Entry → Prop) (Q : Entry → Prop) (past : List Entry) : Prop :=
  ∃ before e after, past = before ++ e :: after ∧ P before e ∧ ∀ x ∈ after, Q x

theorem since_nil {P : List Entry → Entry → Prop} {Q : Entry → Prop} : ¬ Since P Q [] := by
  rintro ⟨before, e, after, split, _⟩
  simp at split

theorem since_now {P : List Entry → Entry → Prop} {Q : Entry → Prop} {past : List Entry}
    {e : Entry} (now : P past e) : Since P Q (past ++ [e]) :=
  ⟨past, e, [], rfl, now, by simp⟩

theorem since_later {P : List Entry → Entry → Prop} {Q : Entry → Prop} {past : List Entry}
    {e : Entry} (held : Since P Q past) (good : Q e) : Since P Q (past ++ [e]) := by
  obtain ⟨before, first, after, rfl, start, rest⟩ := held
  refine ⟨before, first, after ++ [e], by simp, start, ?_⟩
  intro x member
  rcases List.mem_append.mp member with earlier | last
  · exact rest x earlier
  · rw [List.mem_singleton.mp last]
    exact good

theorem since_snoc_iff {P : List Entry → Entry → Prop} {Q : Entry → Prop} {past : List Entry}
    {e : Entry} : Since P Q (past ++ [e]) ↔ P past e ∨ Since P Q past ∧ Q e := by
  constructor
  · rintro ⟨before, first, after, split, start, rest⟩
    rcases List.eq_nil_or_concat after with rfl | ⟨after, last, rfl⟩
    · obtain ⟨rfl, same⟩ := List.append_inj' split rfl
      cases same
      exact .inl start
    · have longer : past ++ [e] = (before ++ first :: after) ++ [last] := by simpa using split
      obtain ⟨rfl, same⟩ := List.append_inj' longer rfl
      cases same
      rw [List.concat_eq_append, List.forall_mem_append, List.forall_mem_singleton] at rest
      exact .inr ⟨⟨before, first, after, rfl, start, rest.1⟩, rest.2⟩
  · rintro (now | ⟨held, good⟩)
    · exact since_now now
    · exact since_later held good

end Past

end Runs
