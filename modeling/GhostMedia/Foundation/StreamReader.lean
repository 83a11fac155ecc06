import Mathlib.Data.List.Basic

/- Readers that are fed a stream in pieces and asked for the next item. When a
   verdict never changes as more input arrives, what is read depends on the stream
   alone, not on how it was cut. -/
namespace StreamReader

/-- An empty reader state is fed with `append`; `next` reads an item, finds none yet,
    or fails. -/
structure Reader (State Symbol Item Failure : Type) where
  append : State → List Symbol → State
  next : State → EStateM.Result Failure State (Option Item)
  size : State → Nat

section Reading
variable {State Symbol Item Failure : Type} (r : Reader State Symbol Item Failure)

def take : Nat → State → List Item × State
  | 0, s => ([], s)
  | requests + 1, s =>
    match r.next s with
    | .ok (some item) t => (item :: (take requests t).1, (take requests t).2)
    | .ok none t => ([], t)
    | .error _ t => ([], t)

def drain (s : State) : List Item × State := take r (r.size s + 1) s

def feed : State → List (List Symbol) → List Item × State
  | s, [] => ([], s)
  | s, piece :: pieces =>
    let first := drain r (r.append s piece)
    let later := feed first.2 pieces
    (first.1 ++ later.1, later.2)

/-- No item is left to read, whether for lack of input or for a failure. -/
def Exhausted (s : State) : Prop := ∀ item t, r.next s ≠ .ok (some item) t

/-- Items are read off the front of what has been appended, and verdicts are final. -/
structure Incremental : Prop where
  append_nil : ∀ s, r.append s [] = s
  append_append : ∀ s xs ys, r.append (r.append s xs) ys = r.append s (xs ++ ys)
  read : ∀ {s item t}, r.next s = .ok (some item) t →
    r.size t < r.size s ∧ ∀ more, r.next (r.append s more) = .ok (some item) (r.append t more)
  wait : ∀ {s t}, r.next s = .ok none t → t = s
  fail : ∀ {s t e}, r.next s = .error e t →
    t = s ∧ ∀ more, r.next (r.append s more) = .error e (r.append s more)

end Reading

section Laws
variable {State Symbol Item Failure : Type} {r : Reader State Symbol Item Failure}

theorem take_exhausted (laws : Incremental r) {s : State} (done : Exhausted r s) (n : Nat) :
    take r n s = ([], s) := by
  cases n with
  | zero => rfl
  | succ n =>
    cases run : r.next s with
    | ok found t =>
      cases found with
      | some item => exact absurd run (done item t)
      | none => rw [take, run, laws.wait run]
    | error e t => rw [take, run, (laws.fail run).1]

theorem take_enough (laws : Incremental r) {n : Nat} {s : State} (enough : r.size s < n) :
    Exhausted r (take r n s).2 ∧ ∀ m, n ≤ m → take r m s = take r n s := by
  induction n generalizing s with
  | zero => omega
  | succ n ih =>
    cases run : r.next s with
    | ok found t =>
      cases found with
      | some item =>
        obtain ⟨done, same⟩ := ih (s := t) (by have := (laws.read run).1; omega)
        refine ⟨?_, fun m large => ?_⟩
        · rw [take, run]
          exact done
        · obtain ⟨m, rfl⟩ : ∃ k, m = k + 1 := ⟨m - 1, by omega⟩
          rw [take, take, run]
          simp only
          rw [same m (by omega)]
      | none =>
        have done : Exhausted r s := by
          intro item u found
          cases run.symm.trans found
        rw [take_exhausted laws done]
        exact ⟨done, fun m _ => take_exhausted laws done m⟩
    | error e t =>
      have done : Exhausted r s := by
        intro item u found
        cases run.symm.trans found
      rw [take_exhausted laws done]
      exact ⟨done, fun m _ => take_exhausted laws done m⟩

theorem drain_exhausted (laws : Incremental r) (s : State) : Exhausted r (drain r s).2 :=
  (take_enough laws (Nat.lt_succ_self _)).1

theorem drain_of_exhausted (laws : Incremental r) {s : State} (done : Exhausted r s) :
    drain r s = ([], s) := take_exhausted laws done _

theorem drain_read (laws : Incremental r) {s t : State} {item : Item}
    (run : r.next s = .ok (some item) t) :
    drain r s = (item :: (drain r t).1, (drain r t).2) := by
  have smaller := (laws.read run).1
  have same := (take_enough laws (Nat.lt_succ_self (r.size t))).2 (r.size s) (by omega)
  rw [drain, take, run]
  simp only
  rw [same]
  rfl

/-- Reading now and reading the rest after more input is reading once, after it. -/
theorem drain_append (laws : Incremental r) (s : State) (more : List Symbol) :
    drain r (r.append s more) =
      ((drain r s).1 ++ (drain r (r.append (drain r s).2 more)).1,
        (drain r (r.append (drain r s).2 more)).2) := by
  induction size : r.size s using Nat.strongRecOn generalizing s with
  | _ n ih =>
    cases run : r.next s with
    | ok found t =>
      cases found with
      | some item =>
        obtain ⟨smaller, later⟩ := laws.read run
        rw [drain_read laws (later more), ih (r.size t) (by omega) t rfl, drain_read laws run]
        rfl
      | none =>
        have done : Exhausted r s := by
          intro item u found
          cases run.symm.trans found
        rw [drain_of_exhausted laws done]
        rfl
    | error e t =>
      have done : Exhausted r s := by
        intro item u found
        cases run.symm.trans found
      rw [drain_of_exhausted laws done]
      rfl

theorem drain_grows (laws : Incremental r) (s : State) (more : List Symbol) :
    (drain r s).1 <+: (drain r (r.append s more)).1 := by
  rw [drain_append laws]
  exact List.prefix_append _ _

def Failed (r : Reader State Symbol Item Failure) (s : State) : Prop :=
  ∃ e t, r.next s = .error e t

theorem failed_exhausted {s : State} (failed : Failed r s) : Exhausted r s := by
  intro item t found
  obtain ⟨e, u, thrown⟩ := failed
  cases thrown.symm.trans found

theorem failed_append (laws : Incremental r) {s : State} (failed : Failed r s)
    (more : List Symbol) : Failed r (r.append s more) := by
  obtain ⟨e, t, thrown⟩ := failed
  exact ⟨e, _, (laws.fail thrown).2 more⟩

theorem drain_failed (laws : Incremental r) {s : State} (failed : Failed r (drain r s).2)
    (more : List Symbol) :
    (drain r (r.append s more)).1 = (drain r s).1 ∧ Failed r (drain r (r.append s more)).2 := by
  have later := failed_append laws failed more
  rw [drain_append laws, drain_of_exhausted laws (failed_exhausted later)]
  exact ⟨List.append_nil _, later⟩

theorem feed_flatten (laws : Incremental r) (pieces : List (List Symbol)) {s : State}
    (done : Exhausted r s) : feed r s pieces = drain r (r.append s pieces.flatten) := by
  induction pieces generalizing s with
  | nil =>
    rw [List.flatten_nil, laws.append_nil, drain_of_exhausted laws done]
    rfl
  | cons piece pieces ih =>
    have rest := ih (drain_exhausted laws (r.append s piece))
    rw [List.flatten_cons, ← laws.append_append, drain_append laws (r.append s piece), ← rest]
    rfl

/-- Two ways of cutting one stream read the same items and end in the same state. -/
theorem feed_independent (laws : Incremental r) {s : State} (done : Exhausted r s)
    {pieces others : List (List Symbol)} (same : pieces.flatten = others.flatten) :
    feed r s pieces = feed r s others := by
  rw [feed_flatten laws pieces done, feed_flatten laws others done, same]

end Laws

end StreamReader
