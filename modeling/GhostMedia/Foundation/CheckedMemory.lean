/- Computations on arrays that stop where a program's behaviour would be undefined: a
   read or write outside the array, a shift by the width of the word or more. A loop
   that follows a sequence of states to its end has gone wrong nowhere. -/
namespace Checked
variable {α σ : Type}

def load (memory : List α) (index : Nat) : Option α := memory[index]?

def store (memory : List α) (index : Nat) (value : α) : Option (List α) :=
  if index < memory.length then some (memory.set index value) else none

def shifted (width amount : Nat) (result : α) : Option α :=
  if amount < width then some result else none

/-- `memcpy(memory + offset, values, n)`. -/
def copyIn (memory : List α) (offset : Nat) (values : List α) : Option (List α) :=
  if offset + values.length ≤ memory.length then
    some (memory.take offset ++ values ++ memory.drop (offset + values.length))
  else none

/-- `for (i = first; i < first + count; ++i)`. -/
def loop (body : Nat → σ → Option σ) (first : Nat) : Nat → σ → Option σ
  | 0, state => some state
  | count + 1, state => do loop body (first + 1) count (← body first state)

/-- `for (i = count; i > 0; --i)`, with `i - 1` given to the body. -/
def loopDown (body : Nat → σ → Option σ) : Nat → σ → Option σ
  | 0, state => some state
  | index + 1, state => do loopDown body index (← body index state)

theorem load_eq {memory : List α} {index : Nat} (inside : index < memory.length) :
    load memory index = some memory[index] := List.getElem?_eq_getElem inside

theorem store_eq {memory : List α} {index : Nat} (inside : index < memory.length) (value : α) :
    store memory index value = some (memory.set index value) := if_pos inside

theorem shifted_eq {width amount : Nat} (small : amount < width) (result : α) :
    shifted width amount result = some result := if_pos small

theorem store_next (front : List α) (old value : α) (rest : List α) :
    store (front ++ old :: rest) front.length value = some (front ++ value :: rest) := by
  rw [store_eq (by simp)]
  simp

theorem loop_follows {body : Nat → σ → Option σ} (states : Nat → σ) {first count : Nat}
    (turn : ∀ k, first ≤ k → k < first + count → body k (states k) = some (states (k + 1))) :
    loop body first count (states first) = some (states (first + count)) := by
  induction count generalizing first with
  | zero => rfl
  | succ count ih =>
    rw [loop, turn first (Nat.le_refl first) (by omega)]
    rw [show first + (count + 1) = first + 1 + count by omega]
    exact ih fun k after before => turn k (by omega) (by omega)

theorem foldl_keeps {β : Type} {Inv : σ → Prop} {f : σ → β → σ}
    (kept : ∀ state b, Inv state → Inv (f state b)) (values : List β) {state : σ}
    (start : Inv state) : Inv (values.foldl f state) := by
  induction values generalizing state with
  | nil => exact start
  | cons b values ih => exact ih (kept state b start)

theorem loop_foldl {β : Type} {body : Nat → σ → Option σ} {f : σ → β → σ} (Inv : σ → Prop)
    (kept : ∀ state b, Inv state → Inv (f state b)) (values : List β)
    (turn : ∀ k state, Inv state → (inside : k < values.length) →
      body k state = some (f state values[k])) {count : Nat} (size : values.length = count)
    {state : σ} (start : Inv state) :
    loop body 0 count state = some (values.foldl f state) := by
  subst size
  have run : loop body 0 values.length ((values.take 0).foldl f state) =
      some ((values.take (0 + values.length)).foldl f state) := by
    refine loop_follows (fun k => (values.take k).foldl f state) ?_
    intro k _ before
    have inside : k < values.length := by omega
    have held := foldl_keeps kept (values.take k) start
    rw [turn k _ held inside, List.take_succ_eq_append_getElem inside, List.foldl_append]
    rfl
  rw [Nat.zero_add, List.take_length] at run
  exact run

/-- A loop that writes `target[k]` at each place `k` puts the target over the old values. -/
theorem loop_fills {body : Nat → List α → Option (List α)} (old target : List α)
    (same : old.length = target.length) {first count : Nat}
    (fits : first + count ≤ target.length)
    (turn : ∀ k, first ≤ k → k < first + count → (inside : k < target.length) →
      body k (target.take k ++ old.drop k) = store (target.take k ++ old.drop k) k target[k]) :
    loop body first count (target.take first ++ old.drop first) =
      some (target.take (first + count) ++ old.drop (first + count)) := by
  refine loop_follows (fun k => target.take k ++ old.drop k) ?_
  intro k after before
  have inside : k < target.length := by omega
  have inside' : k < old.length := by omega
  have place : (target.take k).length = k := List.length_take_of_le (Nat.le_of_lt inside)
  have next := store_next (target.take k) old[k] target[k] (old.drop (k + 1))
  rw [place, ← List.drop_eq_getElem_cons inside'] at next
  rw [turn k after before inside, next, List.take_succ_eq_append_getElem inside, List.append_assoc]
  rfl

theorem load_unfilled (old target : List α) {k : Nat} (inside : k ≤ target.length) :
    load (target.take k ++ old.drop k) k = load old k := by
  have place : (target.take k).length = k := List.length_take_of_le inside
  rw [load, List.getElem?_append_right (Nat.le_of_eq place), place, Nat.sub_self,
    List.getElem?_drop, Nat.add_zero, load]

theorem loop_fills_all {body : Nat → List α → Option (List α)} (old target : List α)
    {count : Nat} (size : target.length = count) (same : old.length = target.length)
    (turn : ∀ k, (inside : k < target.length) →
      body k (target.take k ++ old.drop k) = store (target.take k ++ old.drop k) k target[k]) :
    loop body 0 count old = some target := by
  subst size
  have filled : loop body 0 target.length (target.take 0 ++ old.drop 0) =
      some (target.take (0 + target.length) ++ old.drop (0 + target.length)) :=
    loop_fills old target same (by omega) fun k _ _ inside => turn k inside
  have spent : old.drop target.length = [] := List.drop_eq_nil_of_le (Nat.le_of_eq same)
  rw [Nat.zero_add, List.take_length, spent, List.append_nil] at filled
  exact filled

end Checked
