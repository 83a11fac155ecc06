import Mathlib.Data.List.Basic

/- Programs that call their environment and go on with its answer: what a program honours
   whatever it is answered, and two programs in conversation, whose calls a network answers
   from what both have done so far. -/
namespace Dialogue

inductive Program {Call : Type} (Answer : Call → Type) (ε α : Type) where
  | done (a : α)
  | fail (error : ε)
  | call (c : Call) (rest : Answer c → Program Answer ε α)

/-- A call with its answer. -/
structure Event {Call : Type} (Answer : Call → Type) where
  call : Call
  answer : Answer call

namespace Program
variable {Call : Type} {Answer : Call → Type} {ε δ α β : Type}

def bind : Program Answer ε α → (α → Program Answer ε β) → Program Answer ε β
  | .done a, next => next a
  | .fail error, _ => .fail error
  | .call c rest, next => .call c fun answer => (rest answer).bind next

instance : Monad (Program Answer ε) where
  pure := .done
  bind := bind

def ofExcept : Except ε α → Program Answer ε α
  | .ok a => .done a
  | .error error => .fail error

@[simp] theorem pure_eq (a : α) : (Pure.pure a : Program Answer ε α) = .done a := rfl

@[simp] theorem done_bind (a : α) (next : α → Program Answer ε β) :
    Program.done a >>= next = next a := rfl

@[simp] theorem fail_bind (error : ε) (next : α → Program Answer ε β) :
    Program.fail error >>= next = .fail error := rfl

@[simp] theorem call_bind (c : Call) (rest : Answer c → Program Answer ε α)
    (next : α → Program Answer ε β) :
    Program.call c rest >>= next = .call c fun answer => rest answer >>= next := rfl

@[simp] theorem of_except_ok (a : α) : (ofExcept (.ok a) : Program Answer ε α) = .done a := rfl

@[simp] theorem of_except_error (error : ε) :
    (ofExcept (.error error) : Program Answer ε α) = .fail error := rfl

end Program

section Invariants
variable {Call : Type} {Answer : Call → Type} {ε α β : Type}

/-- What has become of a program with some calls behind it. -/
inductive Reaches (p : Program Answer ε α) : List (Event Answer) → Program Answer ε α → Prop
  | start : Reaches p [] p
  | answered {past c rest} (before : Reaches p past (.call c rest)) (answer : Answer c) :
    Reaches p (past ++ [⟨c, answer⟩]) (rest answer)

theorem reaches_cons {c : Call} {rest : Answer c → Program Answer ε α} {answer : Answer c}
    {past : List (Event Answer)} {q : Program Answer ε α} (run : Reaches (rest answer) past q) :
    Reaches (.call c rest) (⟨c, answer⟩ :: past) q := by
  induction run with
  | start => exact .answered .start answer
  | answered _ next ih => exact .answered ih next

theorem reaches_fail {error : ε} {past : List (Event Answer)} {q : Program Answer ε α}
    (run : Reaches (.fail error) past q) : past = [] ∧ q = .fail error := by
  induction run with
  | start => exact ⟨rfl, rfl⟩
  | answered before answer ih => cases ih.2

/-- Whatever a program is answered, its past keeps an invariant and it ends as stated. -/
def Upholds (Inv : List (Event Answer) → Prop) (post : List (Event Answer) → α → Prop)
    (failed : List (Event Answer) → ε → Prop) :
    List (Event Answer) → Program Answer ε α → Prop
  | past, .done a => post past a
  | past, .fail error => failed past error
  | past, .call c rest => ∀ answer, Inv (past ++ [⟨c, answer⟩]) ∧
      Upholds Inv post failed (past ++ [⟨c, answer⟩]) (rest answer)

variable {Inv : List (Event Answer) → Prop} {failed : List (Event Answer) → ε → Prop}
  {past : List (Event Answer)} {p : Program Answer ε α}

theorem upholds_bind {mid : List (Event Answer) → α → Prop}
    {post : List (Event Answer) → β → Prop} {next : α → Program Answer ε β}
    (first : Upholds Inv mid failed past p)
    (after : ∀ past a, mid past a → Upholds Inv post failed past (next a)) :
    Upholds Inv post failed past (p >>= next) := by
  induction p generalizing past with
  | done a => exact after past a first
  | fail error => exact first
  | call c rest ih => exact fun answer => ⟨(first answer).1, ih answer (first answer).2⟩

theorem upholds_except {post : List (Event Answer) → α → Prop} {step : Except ε α}
    (ok : ∀ a, step = .ok a → post past a) (error : ∀ e, step = .error e → failed past e) :
    Upholds Inv post failed past (Program.ofExcept step) := by
  cases step with
  | ok a => exact ok a rfl
  | error e => exact error e rfl

theorem upholds_except_then {post : List (Event Answer) → β → Prop} {step : Except ε α}
    {next : α → Program Answer ε β}
    (ok : ∀ a, step = .ok a → Upholds Inv post failed past (next a))
    (error : ∀ e, step = .error e → failed past e) :
    Upholds Inv post failed past (Program.ofExcept step >>= next) := by
  cases step with
  | ok a => exact ok a rfl
  | error e => exact error e rfl

theorem upholds_reaches {post : List (Event Answer) → α → Prop} {q : Program Answer ε α}
    (upholds : Upholds Inv post failed [] p) (start : Inv []) (run : Reaches p past q) :
    Inv past ∧ Upholds Inv post failed past q := by
  induction run with
  | start => exact ⟨start, upholds⟩
  | answered _ answer ih => exact ih.2 answer

end Invariants

section Scripts
variable {Call : Type} {Answer : Call → Type} {ε α β : Type}

/-- The answers that a call may get where another one is expected. -/
abbrev Answers {Call : Type} (Answer : Call → Type) :=
  (expected : Event Answer) → Answer expected.call → Prop

/-- A program that makes the calls of a script and returns, as long as its answers are those
    of the script. Any other answer that it may get makes it fail at once. -/
def Scripted (may : Answers Answer) (a : α) : List (Event Answer) → Program Answer ε α → Prop
  | [], p => p = .done a
  | ⟨c, expected⟩ :: script, p => ∃ rest, p = .call c rest ∧
      Scripted may a script (rest expected) ∧
      ∀ answer, may ⟨c, expected⟩ answer → answer ≠ expected → ∃ error, rest answer = .fail error

variable {may : Answers Answer} {script : List (Event Answer)} {p : Program Answer ε α} {a : α}

theorem scripted_mono {fewer : Answers Answer} (scripted : Scripted may a script p)
    (less : ∀ e ∈ script, ∀ answer, fewer e answer → may e answer) :
    Scripted fewer a script p := by
  induction script generalizing p with
  | nil => exact scripted
  | cons expected script ih =>
    obtain ⟨rest, here, after, others⟩ := scripted
    have later := ih after fun e member => less e (.tail _ member)
    exact ⟨rest, here, later, fun answer allowed =>
      others answer (less expected List.mem_cons_self answer allowed)⟩

theorem scripted_bind {more : List (Event Answer)} {b : β} {next : α → Program Answer ε β}
    (first : Scripted may a script p) (after : Scripted may b more (next a)) :
    Scripted may b (script ++ more) (p >>= next) := by
  induction script generalizing p with
  | nil =>
    obtain rfl := first
    exact after
  | cons expected script ih =>
    obtain ⟨rest, rfl, following, others⟩ := first
    refine ⟨fun answer => rest answer >>= next, rfl, ih following, ?_⟩
    intro answer allowed other
    obtain ⟨error, fails⟩ := others answer allowed other
    exact ⟨error, congrArg (· >>= next) fails⟩

theorem scripted_reaches {before : List (Event Answer)} {q : Program Answer ε α}
    (run : Reaches q before p) (scripted : Scripted may a script p) :
    Reaches q (before ++ script) (.done a) := by
  induction script generalizing before p with
  | nil =>
    obtain rfl := scripted
    rwa [List.append_nil]
  | cons expected script ih =>
    obtain ⟨rest, rfl, following, _⟩ := scripted
    have later := ih (run.answered expected.answer) following
    rwa [List.append_assoc] at later

theorem scripted_here {b : β} {next : α → Program Answer ε β} (first : p = .done a)
    (after : Scripted may b script (next a)) : Scripted may b script (p >>= next) := by
  subst first
  exact after

theorem scripted_then {b : β} {next : α → Program Answer ε β} (first : Scripted may a script p)
    (after : next a = .done b) : Scripted may b script (p >>= next) := by
  have whole : Scripted may b (script ++ []) (p >>= next) := scripted_bind first after
  rwa [List.append_nil] at whole

theorem scripted_call {b : β} {c : Call} {expected : Answer c}
    {next : Answer c → Program Answer ε β} (after : Scripted may b script (next expected))
    (others : ∀ answer, may ⟨c, expected⟩ answer → answer ≠ expected →
      ∃ error, next answer = .fail error) :
    Scripted may b (⟨c, expected⟩ :: script) (Program.call c .done >>= next) :=
  ⟨next, rfl, after, others⟩

theorem scripted_step {e : Event Answer} {b : β} {next : α → Program Answer ε β}
    (first : Scripted may a [e] p) (after : Scripted may b script (next a)) :
    Scripted may b (e :: script) (p >>= next) :=
  scripted_bind first after

/-- How far a program has come: on its script, or off it at the last answer, and failed. -/
inductive Along (may : Answers Answer) (a : α) (script : List (Event Answer)) :
    List (Event Answer) → Program Answer ε α → Prop
  | on {past rest p} (split : past ++ rest = script) (scripted : Scripted may a rest p) :
    Along may a script past p
  | off {past c expected rest answer error} (split : past ++ ⟨c, expected⟩ :: rest = script)
      (allowed : may ⟨c, expected⟩ answer) (other : answer ≠ expected) :
    Along may a script (past ++ [⟨c, answer⟩]) (.fail error)

variable {past : List (Event Answer)}

theorem along_call {c : Call} {rest : Answer c → Program Answer ε α}
    (along : Along may a script past (.call c rest)) :
    ∃ expected tail, past ++ ⟨c, expected⟩ :: tail = script ∧
      ∀ answer, may ⟨c, expected⟩ answer →
        Along may a script (past ++ [⟨c, answer⟩]) (rest answer) := by
  cases along with
  | @on _ ahead _ split scripted =>
    cases ahead with
    | nil =>
      have ends : Program.call c rest = .done a := scripted
      cases ends
    | cons expected tail =>
      obtain ⟨next, same, following, others⟩ := scripted
      obtain ⟨e, value⟩ := expected
      cases same
      refine ⟨value, tail, split, fun answer allowed => ?_⟩
      by_cases usual : answer = value
      · cases usual
        exact .on (by rw [List.append_assoc]; exact split) following
      · obtain ⟨error, fails⟩ := others answer allowed usual
        rw [fails]
        exact .off split allowed usual

theorem along_done {b : α} (along : Along may a script past (.done b : Program Answer ε α)) :
    past = script ∧ b = a := by
  cases along with
  | @on _ ahead _ split scripted =>
    cases ahead with
    | nil =>
      obtain rfl : b = a := Program.done.inj scripted
      exact ⟨by rw [← split, List.append_nil], rfl⟩
    | cons expected tail =>
      obtain ⟨_, calls, _⟩ := scripted
      cases calls

/-- On its script or off it, a program makes no other calls. -/
theorem along_calls (along : Along may a script past p) :
    past.map Event.call <+: script.map Event.call := by
  cases along with
  | on split _ => exact split ▸ (List.prefix_append _ _).map _
  | off split _ _ =>
    subst split
    simp only [List.map_append, List.map_cons, List.map_nil]
    exact (List.prefix_append_right_inj _).mpr (List.cons_prefix_cons.mpr ⟨rfl, List.nil_prefix⟩)

/-- Up to its last answer a program has followed its script. -/
theorem along_reached (along : Along may a script past p) {i : Nat} (reached : i < past.length) :
    script.take i <+: past := by
  cases along with
  | on split _ =>
    subst split
    rw [List.take_append_of_le_length (Nat.le_of_lt reached)]
    exact List.take_prefix _ _
  | @off front _ _ _ _ _ split _ _ =>
    subst split
    rw [List.length_append, List.length_singleton] at reached
    rw [List.take_append_of_le_length (Nat.le_of_lt_succ reached)]
    exact (List.take_prefix _ _).trans (List.prefix_append _ _)

/-- With only the expected answers a program stays on its script. -/
theorem along_expected (along : Along (fun e answer => answer = e.answer) a script past p) :
    ∃ rest, past ++ rest = script ∧ Scripted (fun e answer => answer = e.answer) a rest p := by
  cases along with
  | on split scripted => exact ⟨_, split, scripted⟩
  | off _ allowed other => exact absurd allowed other

end Scripts

section Conversations
variable {C₁ C₂ : Type} {A₁ : C₁ → Type} {A₂ : C₂ → Type} {ε₁ ε₂ α β : Type}

structure System (A₁ : C₁ → Type) (A₂ : C₂ → Type) (ε₁ ε₂ α β : Type) where
  left : Program A₁ ε₁ α
  right : Program A₂ ε₂ β
  leftPast : List (Event A₁) := []
  rightPast : List (Event A₂) := []

/-- The answers that a network may give, after what both sides have done. -/
structure Network (A₁ : C₁ → Type) (A₂ : C₂ → Type) where
  toLeft : List (Event A₁) → List (Event A₂) → Event A₁ → Prop
  toRight : List (Event A₁) → List (Event A₂) → Event A₂ → Prop

inductive Step (network : Network A₁ A₂) :
    System A₁ A₂ ε₁ ε₂ α β → System A₁ A₂ ε₁ ε₂ α β → Prop
  | left {c rest answer right leftPast rightPast}
      (answered : network.toLeft leftPast rightPast ⟨c, answer⟩) :
    Step network ⟨.call c rest, right, leftPast, rightPast⟩
      ⟨rest answer, right, leftPast ++ [⟨c, answer⟩], rightPast⟩
  | right {left c rest answer leftPast rightPast}
      (answered : network.toRight leftPast rightPast ⟨c, answer⟩) :
    Step network ⟨left, .call c rest, leftPast, rightPast⟩
      ⟨left, rest answer, leftPast, rightPast ++ [⟨c, answer⟩]⟩

/-- So many steps. -/
inductive Steps (network : Network A₁ A₂) :
    Nat → System A₁ A₂ ε₁ ε₂ α β → System A₁ A₂ ε₁ ε₂ α β → Prop
  | refl (s) : Steps network 0 s s
  | tail {n s t u} (before : Steps network n s t) (last : Step network t u) :
    Steps network (n + 1) s u

variable {network : Network A₁ A₂} {s t : System A₁ A₂ ε₁ ε₂ α β} {n : Nat}

theorem steps_head {u : System A₁ A₂ ε₁ ε₂ α β} (first : Step network s t)
    (rest : Steps network n t u) : Steps network (n + 1) s u := by
  induction rest with
  | refl => exact .tail (.refl _) first
  | tail _ last ih => exact .tail (ih first) last

theorem steps_stuck {u : System A₁ A₂ ε₁ ε₂ α β} (stuck : ∀ t, ¬ Step network s t)
    (run : Steps network n s u) : s = u := by
  induction run with
  | refl => rfl
  | tail _ last ih =>
    obtain rfl := ih stuck
    exact absurd last (stuck _)

theorem steps_mono {other : Network A₁ A₂}
    (left : ∀ past rest e, network.toLeft past rest e → other.toLeft past rest e)
    (right : ∀ past rest e, network.toRight past rest e → other.toRight past rest e)
    (run : Steps network n s t) : Steps other n s t := by
  induction run with
  | refl => exact .refl _
  | tail _ last ih =>
    cases last with
    | left given => exact .tail ih (.left (left _ _ _ given))
    | right given => exact .tail ih (.right (right _ _ _ given))

/-- Every answer in a past was given by the network after what the sides had done by then. -/
structure Answered (network : Network A₁ A₂) (s : System A₁ A₂ ε₁ ε₂ α β) : Prop where
  left : ∀ front e back, s.leftPast = front ++ e :: back →
    ∃ early, early <+: s.rightPast ∧ network.toLeft front early e
  right : ∀ front e back, s.rightPast = front ++ e :: back →
    ∃ early, early <+: s.leftPast ∧ network.toRight early front e

theorem split_last {γ : Type} {past front back : List γ} {last e : γ}
    (split : past ++ [last] = front ++ e :: back) :
    (front = past ∧ e = last) ∨ ∃ rest, past = front ++ e :: rest := by
  rcases List.eq_nil_or_concat back with rfl | ⟨rest, final, rfl⟩
  · obtain ⟨same, ends⟩ := List.append_inj' split rfl
    exact .inl ⟨same.symm, (List.cons.inj ends).1.symm⟩
  · rw [List.concat_eq_append, ← List.cons_append, ← List.append_assoc] at split
    exact .inr ⟨rest, (List.append_inj' split rfl).1⟩

theorem answered_step (answered : Answered network s) (step : Step network s t) :
    Answered network t := by
  cases step with
  | left given =>
    constructor
    · intro front e back split
      rcases split_last split with ⟨rfl, rfl⟩ | ⟨rest, earlier⟩
      · exact ⟨_, List.prefix_rfl, given⟩
      · exact answered.left front e rest earlier
    · intro front e back split
      obtain ⟨early, before, allowed⟩ := answered.right front e back split
      exact ⟨early, before.trans (List.prefix_append _ _), allowed⟩
  | right given =>
    constructor
    · intro front e back split
      obtain ⟨early, before, allowed⟩ := answered.left front e back split
      exact ⟨early, before.trans (List.prefix_append _ _), allowed⟩
    · intro front e back split
      rcases split_last split with ⟨rfl, rfl⟩ | ⟨rest, earlier⟩
      · exact ⟨_, List.prefix_rfl, given⟩
      · exact answered.right front e rest earlier

/-- A network that gives two scripted programs only answers that they may get, as long as
    both keep to the calls of their scripts. -/
structure Keeps (network : Network A₁ A₂) (leftMay : Answers A₁) (rightMay : Answers A₂)
    (leftScript : List (Event A₁)) (rightScript : List (Event A₂)) : Prop where
  left : ∀ past other c expected tail answer, past ++ ⟨c, expected⟩ :: tail = leftScript →
    other.map Event.call <+: rightScript.map Event.call →
    network.toLeft past other ⟨c, answer⟩ → leftMay ⟨c, expected⟩ answer
  right : ∀ past other c expected tail answer, past ++ ⟨c, expected⟩ :: tail = rightScript →
    other.map Event.call <+: leftScript.map Event.call →
    network.toRight other past ⟨c, answer⟩ → rightMay ⟨c, expected⟩ answer

/-- Where two scripted programs stand in a conversation. -/
structure Conversing (network : Network A₁ A₂) (leftMay : Answers A₁) (rightMay : Answers A₂)
    (leftScript : List (Event A₁)) (rightScript : List (Event A₂)) (a : α) (b : β) (n : Nat)
    (s : System A₁ A₂ ε₁ ε₂ α β) : Prop where
  left : Along leftMay a leftScript s.leftPast s.left
  right : Along rightMay b rightScript s.rightPast s.right
  answered : Answered network s
  count : n = s.leftPast.length + s.rightPast.length

variable {leftMay : Answers A₁} {rightMay : Answers A₂} {leftScript : List (Event A₁)}
  {rightScript : List (Event A₂)} {a : α} {b : β}

theorem conversing_starts {p : Program A₁ ε₁ α} {q : Program A₂ ε₂ β}
    (left : Scripted leftMay a leftScript p) (right : Scripted rightMay b rightScript q) :
    Conversing network leftMay rightMay leftScript rightScript a b 0 ⟨p, q, [], []⟩ where
  left := .on rfl left
  right := .on rfl right
  answered := ⟨fun _ _ _ split => by simp at split, fun _ _ _ split => by simp at split⟩
  count := rfl

theorem conversing_step (keeps : Keeps network leftMay rightMay leftScript rightScript)
    (conversing : Conversing network leftMay rightMay leftScript rightScript a b n s)
    (step : Step network s t) :
    Conversing network leftMay rightMay leftScript rightScript a b (n + 1) t := by
  have answered := answered_step conversing.answered step
  have count := conversing.count
  cases step with
  | left given =>
    obtain ⟨expected, tail, split, goesOn⟩ := along_call conversing.left
    have allowed := keeps.left _ _ _ _ _ _ split (along_calls conversing.right) given
    exact ⟨goesOn _ allowed, conversing.right, answered, by
      rw [count, List.length_append]; exact Nat.add_right_comm _ _ _⟩
  | right given =>
    obtain ⟨expected, tail, split, goesOn⟩ := along_call conversing.right
    have allowed := keeps.right _ _ _ _ _ _ split (along_calls conversing.left) given
    exact ⟨conversing.left, goesOn _ allowed, answered, by rw [count, List.length_append]; rfl⟩

theorem conversing_run (keeps : Keeps network leftMay rightMay leftScript rightScript)
    {p : Program A₁ ε₁ α} {q : Program A₂ ε₂ β} (left : Scripted leftMay a leftScript p)
    (right : Scripted rightMay b rightScript q) (run : Steps network n ⟨p, q, [], []⟩ s) :
    Conversing network leftMay rightMay leftScript rightScript a b n s := by
  generalize start : (⟨p, q, [], []⟩ : System A₁ A₂ ε₁ ε₂ α β) = first at run
  induction run with
  | refl => exact start ▸ conversing_starts left right
  | tail _ last ih => exact conversing_step keeps (ih start) last

/-- Wherever two programs stand on their scripts, the network answers one of them. -/
def Live (network : Network A₁ A₂) (leftScript : List (Event A₁))
    (rightScript : List (Event A₂)) : Prop :=
  ∀ past rest other ahead, past ++ rest = leftScript → other ++ ahead = rightScript →
    (∃ e tail, rest = e :: tail ∧ network.toLeft past other e) ∨
      (∃ e tail, ahead = e :: tail ∧ network.toRight past other e) ∨ rest = [] ∧ ahead = []

/-- From wherever they stand two programs on their scripts can come to the end of both. -/
theorem live_completes (live : Live network leftScript rightScript) {past rest : List (Event A₁)}
    {other ahead : List (Event A₂)} (left : past ++ rest = leftScript)
    (right : other ++ ahead = rightScript) {p : Program A₁ ε₁ α} {q : Program A₂ ε₂ β}
    (leftScripted : Scripted leftMay a rest p) (rightScripted : Scripted rightMay b ahead q) :
    Steps network (rest.length + ahead.length) ⟨p, q, past, other⟩
      ⟨.done a, .done b, leftScript, rightScript⟩ := by
  obtain ⟨size, sized⟩ : ∃ size, size = rest.length + ahead.length := ⟨_, rfl⟩
  induction size generalizing past rest other ahead p q with
  | zero =>
    obtain rfl := List.length_eq_zero_iff.mp (Nat.eq_zero_of_add_eq_zero sized.symm).1
    obtain rfl := List.length_eq_zero_iff.mp (Nat.eq_zero_of_add_eq_zero sized.symm).2
    obtain rfl : p = .done a := leftScripted
    obtain rfl : q = .done b := rightScripted
    rw [List.append_nil] at left right
    subst left right
    exact .refl _
  | succ size ih =>
    rcases live past rest other ahead left right with
      ⟨e, tail, rfl, given⟩ | ⟨e, tail, rfl, given⟩ | ⟨rfl, rfl⟩
    · obtain ⟨next, rfl, following, _⟩ := leftScripted
      have moved : past ++ [e] ++ tail = leftScript := by rw [List.append_assoc]; exact left
      have shorter : size = tail.length + ahead.length := by
        rw [List.length_cons] at sized
        omega
      have finish := ih moved right following rightScripted shorter
      rw [← sized, shorter]
      exact steps_head (.left given) finish
    · obtain ⟨next, rfl, following, _⟩ := rightScripted
      have moved : other ++ [e] ++ tail = rightScript := by rw [List.append_assoc]; exact right
      have shorter : size = rest.length + tail.length := by
        rw [List.length_cons] at sized
        omega
      have finish := ih left moved leftScripted following shorter
      rw [← sized, shorter]
      exact steps_head (.right given) finish
    · cases sized

end Conversations

end Dialogue
