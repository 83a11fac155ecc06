/- Outcomes of computations with a state and an error: how a sequence runs, and a
   judgement `Meets` with a postcondition for results and a condition on errors. `Ends`
   also speaks of the state that an error leaves behind, and `Twin` compares two runs. -/
namespace StateLogic
variable {ε σ α β : Type}

theorem bind_ok {p : EStateM ε σ α} {f : α → EStateM ε σ β} {s s' : σ} {a : α}
    (run : p s = .ok a s') : (p >>= f) s = f a s' := by
  simp only [bind, EStateM.bind, run]

theorem bind_error {p : EStateM ε σ α} {f : α → EStateM ε σ β} {s s' : σ} {e : ε}
    (run : p s = .error e s') : (p >>= f) s = .error e s' := by
  simp only [bind, EStateM.bind, run]

@[simp] theorem throw_not_ok (e : ε) (s s' : σ) (a : α) :
    (throw e : EStateM ε σ α) s ≠ .ok a s' := by
  intro same
  cases same

theorem then_ok_iff (step : Except ε α) (next : α → Except ε β) (b : β) :
    (step >>= next) = .ok b ↔ ∃ a, step = .ok a ∧ next a = .ok b := by
  cases step with
  | error _ => simp [bind, Except.bind]
  | ok _ => simp [bind, Except.bind]

def Meets (allowed : ε → Prop) (post : α → σ → Prop) : EStateM.Result ε σ α → Prop
  | .ok a s => post a s
  | .error e _ => allowed e

theorem meets_bind {allowed : ε → Prop} {mid : α → σ → Prop} {post : β → σ → Prop}
    {p : EStateM ε σ α} {f : α → EStateM ε σ β} {s : σ} (first : Meets allowed mid (p s))
    (next : ∀ a s', mid a s' → Meets allowed post (f a s')) :
    Meets allowed post ((p >>= f) s) := by
  cases run : p s with
  | ok a s' =>
    rw [run] at first
    rw [bind_ok run]
    exact next a s' first
  | error e s' =>
    rw [run] at first
    rw [bind_error run]
    exact first

theorem meets_mono {allowed : ε → Prop} {strong weak : α → σ → Prop}
    {r : EStateM.Result ε σ α} (meets : Meets allowed strong r)
    (weaken : ∀ a s, strong a s → weak a s) : Meets allowed weak r := by
  cases r with
  | ok a s => exact weaken a s meets
  | error e s => exact meets

def Ends (post : α → σ → Prop) (failed : ε → σ → Prop) : EStateM.Result ε σ α → Prop
  | .ok a s => post a s
  | .error e s => failed e s

instance {post : α → σ → Prop} {failed : ε → σ → Prop} [∀ a s, Decidable (post a s)]
    [∀ e s, Decidable (failed e s)] (r : EStateM.Result ε σ α) :
    Decidable (Ends post failed r) :=
  match r with
  | .ok a s => inferInstanceAs (Decidable (post a s))
  | .error e s => inferInstanceAs (Decidable (failed e s))

theorem ends_bind {mid : α → σ → Prop} {post : β → σ → Prop} {failed : ε → σ → Prop}
    {p : EStateM ε σ α} {f : α → EStateM ε σ β} {s : σ} (first : Ends mid failed (p s))
    (next : ∀ a s', mid a s' → Ends post failed (f a s')) : Ends post failed ((p >>= f) s) := by
  cases run : p s with
  | ok a s' =>
    rw [run] at first
    rw [bind_ok run]
    exact next a s' first
  | error e s' =>
    rw [run] at first
    rw [bind_error run]
    exact first

theorem ends_ite {post : α → σ → Prop} {failed : ε → σ → Prop} {c : Prop} [Decidable c]
    {p q : EStateM ε σ α} {s : σ} (yes : c → Ends post failed (p s))
    (no : ¬ c → Ends post failed (q s)) : Ends post failed ((if c then p else q) s) := by
  by_cases holds : c
  · simp only [if_pos holds]
    exact yes holds
  · simp only [if_neg holds]
    exact no holds

theorem ends_mono {strong weak : α → σ → Prop} {failed allowed : ε → σ → Prop}
    {r : EStateM.Result ε σ α} (ends : Ends strong failed r)
    (weaken : ∀ a s, strong a s → weak a s) (allow : ∀ e s, failed e s → allowed e s) :
    Ends weak allowed r := by
  cases r with
  | ok a s => exact weaken a s ends
  | error e s => exact allow e s ends

theorem ends_and {post post' : α → σ → Prop} {failed failed' : ε → σ → Prop}
    {r : EStateM.Result ε σ α} (left : Ends post failed r) (right : Ends post' failed' r) :
    Ends (fun a s => post a s ∧ post' a s) (fun e s => failed e s ∧ failed' e s) r := by
  cases r with
  | ok a s => exact ⟨left, right⟩
  | error e s => exact ⟨left, right⟩

/-- However it ends, the computation keeps `P`. -/
def Keeps (P : σ → Prop) (p : EStateM ε σ α) : Prop :=
  ∀ s, P s → Ends (fun _ => P) (fun _ => P) (p s)

section Keeps
variable {P : σ → Prop} {p q : EStateM ε σ α} {f : α → EStateM ε σ β}

theorem keeps_pure (a : α) : Keeps P (pure a : EStateM ε σ α) := fun _ held => held

theorem keeps_throw (e : ε) : Keeps P (throw e : EStateM ε σ α) := fun _ held => held

theorem keeps_bind (first : Keeps P p) (next : ∀ a, Keeps P (f a)) : Keeps P (p >>= f) :=
  fun s held => ends_bind (first s held) fun a s' => next a s'

theorem keeps_ite {c : Prop} [Decidable c] (yes : Keeps P p) (no : Keeps P q) :
    Keeps P (if c then p else q) := by
  split
  · exact yes
  · exact no

end Keeps

section Twin
variable {τ : Type} {related : σ → τ → Prop}

/-- The same result or the same error, in related states. -/
def Twin (related : σ → τ → Prop) : EStateM.Result ε σ α → EStateM.Result ε τ α → Prop
  | .ok a s, .ok b t => a = b ∧ related s t
  | .error e s, .error f t => e = f ∧ related s t
  | _, _ => False

theorem twin_bind {p : EStateM ε σ α} {q : EStateM ε τ α} {f : α → EStateM ε σ β}
    {g : α → EStateM ε τ β} {s : σ} {t : τ} (first : Twin related (p s) (q t))
    (next : ∀ a s' t', related s' t' → Twin related (f a s') (g a t')) :
    Twin related ((p >>= f) s) ((q >>= g) t) := by
  cases left : p s with
  | ok a s' =>
    cases right : q t with
    | ok b t' =>
      rw [left, right] at first
      obtain ⟨rfl, same⟩ := first
      rw [bind_ok left, bind_ok right]
      exact next a s' t' same
    | error e t' =>
      rw [left, right] at first
      exact first.elim
  | error e s' =>
    cases right : q t with
    | ok b t' =>
      rw [left, right] at first
      exact first.elim
    | error f t' =>
      rw [left, right] at first
      rw [bind_error left, bind_error right]
      exact first

theorem twin_ite {c : Prop} [Decidable c] {p q : EStateM ε σ α} {p' q' : EStateM ε τ α} {s : σ}
    {t : τ} (yes : c → Twin related (p s) (p' t)) (no : ¬ c → Twin related (q s) (q' t)) :
    Twin related ((if c then p else q) s) ((if c then p' else q') t) := by
  by_cases holds : c
  · simp only [if_pos holds]
    exact yes holds
  · simp only [if_neg holds]
    exact no holds

end Twin

section Outcome
variable {γ : Type}

/-- A result as an output and the next state of a machine. -/
def outcome (output : α → γ) : EStateM.Result ε σ α → Except ε γ × σ
  | .ok a s => (.ok (output a), s)
  | .error e s => (.error e, s)

theorem outcome_ends (output : α → γ) {post : α → σ → Prop} {failed : ε → σ → Prop}
    {r : EStateM.Result ε σ α} (ends : Ends post failed r) :
    (∃ a, (outcome output r).1 = .ok (output a) ∧ post a (outcome output r).2) ∨
      ∃ e, (outcome output r).1 = .error e ∧ failed e (outcome output r).2 := by
  cases r with
  | ok a s => exact .inl ⟨a, rfl, ends⟩
  | error e s => exact .inr ⟨e, rfl, ends⟩

theorem outcome_twin {τ : Type} (output : α → γ) {related : σ → τ → Prop}
    {r : EStateM.Result ε σ α} {r' : EStateM.Result ε τ α} (twin : Twin related r r') :
    (outcome output r).1 = (outcome output r').1 ∧
      related (outcome output r).2 (outcome output r').2 := by
  cases r with
  | ok a s =>
    cases r' with
    | ok b t =>
      obtain ⟨rfl, same⟩ := twin
      exact ⟨rfl, same⟩
    | error e t => exact twin.elim
  | error e s =>
    cases r' with
    | ok b t => exact twin.elim
    | error f t =>
      obtain ⟨rfl, same⟩ := twin
      exact ⟨rfl, same⟩

end Outcome

end StateLogic
