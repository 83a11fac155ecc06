import GhostMedia.Foundation.StateLogic

/- Computations that keep a record of what they do, the latest event first. One judgement
   says of a recording computation that it ends as the plain one does and what holds of
   its record then. An event is judged by the record it is added to. -/
namespace Recording
open StateLogic
variable {ε σ ι α β : Type}

structure State (σ ι : Type) where
  state : σ
  record : List ι

def State.noted (s : State σ ι) (event : ι) : State σ ι := ⟨s.state, event :: s.record⟩

@[simp] theorem noted_state (s : State σ ι) (event : ι) : (s.noted event).state = s.state := rfl

@[simp] theorem noted_record (s : State σ ι) (event : ι) :
    (s.noted event).record = event :: s.record := rfl

def note (event : ι) : EStateM ε (State σ ι) Unit := modify fun s => s.noted event

/-- A plain computation, with nothing to record. -/
def lift (p : EStateM ε σ α) : EStateM ε (State σ ι) α := fun s =>
  match p s.state with
  | .ok a t => .ok a ⟨t, s.record⟩
  | .error e t => .error e ⟨t, s.record⟩

/-- A computation between two events, the second noted however it ends. -/
def between (before after : ι) (p : EStateM ε (State σ ι) α) : EStateM ε (State σ ι) α := fun s =>
  match p (s.noted before) with
  | .ok a s' => .ok a (s'.noted after)
  | .error e s' => .error e (s'.noted after)

def recordOf : EStateM.Result ε (State σ ι) α → List ι
  | .ok _ s => s.record
  | .error _ s => s.record

/-- Every event was allowed by those before it. -/
def Sound (allowed : List ι → ι → Prop) : List ι → Prop
  | [] => True
  | event :: earlier => allowed earlier event ∧ Sound allowed earlier

section Follows
variable {recorded recorded' : EStateM ε (State σ ι) α} {plain plain' : EStateM ε σ α}
  {f : α → EStateM ε (State σ ι) β} {g : α → EStateM ε σ β}
  {mid post : α → State σ ι → Prop} {post' : β → State σ ι → Prop}
  {failed : ε → State σ ι → Prop} {s : State σ ι}

/-- The recording computation ends as the plain one, in a state of which the conditions hold. -/
def Follows (post : α → State σ ι → Prop) (failed : ε → State σ ι → Prop)
    (recorded : EStateM ε (State σ ι) α) (plain : EStateM ε σ α) (s : State σ ι) : Prop :=
  Ends (fun a s' => plain s.state = .ok a s'.state ∧ post a s')
    (fun e s' => plain s.state = .error e s'.state ∧ failed e s') (recorded s)

theorem follows_pure {a : α} (held : post a s) : Follows post failed (pure a) (pure a) s :=
  ⟨rfl, held⟩

theorem follows_throw {e : ε} (held : failed e s) :
    Follows post failed (throw e : EStateM ε (State σ ι) α) (throw e) s := ⟨rfl, held⟩

theorem follows_bind (first : Follows mid failed recorded plain s)
    (next : ∀ a s', mid a s' → Follows post' failed (f a) (g a) s') :
    Follows post' failed (recorded >>= f) (plain >>= g) s := by
  unfold Follows
  refine ends_bind (ends_mono first (fun _ _ held => held) ?_) ?_
  · intro e s' ended
    exact ⟨bind_error ended.1, ended.2⟩
  · intro a s' ended
    rw [bind_ok ended.1]
    exact next a s' ended.2

theorem follows_ite {c : Prop} [Decidable c] (yes : c → Follows post failed recorded plain s)
    (no : ¬ c → Follows post failed recorded' plain' s) :
    Follows post failed (if c then recorded else recorded') (if c then plain else plain') s := by
  by_cases holds : c
  · simp only [if_pos holds]
    exact yes holds
  · simp only [if_neg holds]
    exact no holds

theorem follows_mono {weak : α → State σ ι → Prop} {failed' : ε → State σ ι → Prop}
    (follows : Follows post failed recorded plain s) (weaken : ∀ a s', post a s' → weak a s')
    (allow : ∀ e s', failed e s' → failed' e s') : Follows weak failed' recorded plain s :=
  ends_mono follows (fun a s' ended => ⟨ended.1, weaken a s' ended.2⟩)
    fun e s' ended => ⟨ended.1, allow e s' ended.2⟩

theorem follows_lift {a : α} {t : σ} (run : plain s.state = .ok a t) (held : post a ⟨t, s.record⟩) :
    Follows post failed (lift plain) plain s := by
  unfold Follows
  simp only [lift, run]
  exact ⟨rfl, held⟩

/-- What is noted is no step of the plain computation. -/
theorem follows_note {event : ι} (next : Follows post failed recorded plain (s.noted event)) :
    Follows post failed (note event >>= fun _ => recorded) plain s := next

theorem follows_between {before after : ι}
    (inside : Follows (fun a s' => post a (s'.noted after)) (fun e s' => failed e (s'.noted after))
      recorded plain (s.noted before)) :
    Follows post failed (between before after recorded) plain s := by
  unfold Follows at inside ⊢
  cases run : recorded (s.noted before) with
  | ok a s' =>
    rw [run] at inside
    simp only [between, run]
    exact inside
  | error e s' =>
    rw [run] at inside
    simp only [between, run]
    exact inside

end Follows

end Recording
