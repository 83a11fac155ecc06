import GhostMedia.Foundation.Dialogue

/- Monitors of what a program calls: a state that follows its calls and their answers, and the
   calls that are allowed in each state. A program obeys a monitor that allows every call it
   makes, whatever it is answered. -/
namespace Dialogue

structure Monitor {Call : Type} (Answer : Call → Type) (M : Type) where
  allows : M → Call → Prop
  next : M → Event Answer → M

namespace Monitor
variable {Call : Type} {Answer : Call → Type} {ε α β M : Type} (monitor : Monitor Answer M)

def after (m : M) (past : List (Event Answer)) : M := past.foldl monitor.next m

/-- Every call of a past was allowed when it was made. -/
def Allowed (m : M) (past : List (Event Answer)) : Prop :=
  ∀ front e back, past = front ++ e :: back → monitor.allows (monitor.after m front) e.call

def Obeys (post : M → α → Prop) (failed : M → ε → Prop) : M → Program Answer ε α → Prop
  | m, .done a => post m a
  | m, .fail error => failed m error
  | m, .call c rest => monitor.allows m c ∧
      ∀ answer, Obeys post failed (monitor.next m ⟨c, answer⟩) (rest answer)

variable {monitor} {m : M} {past : List (Event Answer)} {post : M → α → Prop}
  {failed : M → ε → Prop} {p : Program Answer ε α}

@[simp] theorem after_nil (m : M) : monitor.after m [] = m := rfl

@[simp] theorem after_snoc (m : M) (past : List (Event Answer)) (e : Event Answer) :
    monitor.after m (past ++ [e]) = monitor.next (monitor.after m past) e := by
  rw [after, List.foldl_append]
  rfl

theorem after_append (m : M) (past more : List (Event Answer)) :
    monitor.after m (past ++ more) = monitor.after (monitor.after m past) more :=
  List.foldl_append

theorem allowed_nil (m : M) : monitor.Allowed m [] := by
  intro front e back split
  simp at split

theorem allowed_snoc {e : Event Answer} (allowed : monitor.Allowed m past)
    (here : monitor.allows (monitor.after m past) e.call) : monitor.Allowed m (past ++ [e]) := by
  intro front d back split
  rcases split_last split with ⟨rfl, rfl⟩ | ⟨rest, earlier⟩
  · exact here
  · exact allowed front d rest earlier

theorem allowed_append {more : List (Event Answer)} (first : monitor.Allowed m past)
    (second : monitor.Allowed (monitor.after m past) more) : monitor.Allowed m (past ++ more) := by
  intro front e back split
  rcases List.append_eq_append_iff.mp split with ⟨middle, rfl, later⟩ | ⟨middle, earlier, later⟩
  · rw [after_append]
    exact second middle e back later
  · cases middle with
    | nil =>
      rw [List.append_nil] at earlier
      subst earlier
      exact second [] e back later.symm
    | cons d middle =>
      obtain ⟨rfl, -⟩ := List.cons.inj later
      exact first front e middle earlier

/-- One monitor follows another one, seen through a view of its states. -/
structure Follows {N : Type} (monitor : Monitor Answer M) (other : Monitor Answer N)
    (view : M → N) : Prop where
  allows : ∀ m c, monitor.allows m c → other.allows (view m) c
  next : ∀ m e, view (monitor.next m e) = other.next (view m) e

theorem after_follows {N : Type} {other : Monitor Answer N} {view : M → N}
    (follows : Follows monitor other view) (m : M) (past : List (Event Answer)) :
    view (monitor.after m past) = other.after (view m) past := by
  induction past generalizing m with
  | nil => rfl
  | cons e past ih => exact (ih _).trans (congrArg (other.after · past) (follows.next m e))

theorem allowed_follows {N : Type} {other : Monitor Answer N} {view : M → N}
    (follows : Follows monitor other view) (allowed : monitor.Allowed m past) :
    other.Allowed (view m) past := by
  intro front e back split
  rw [← after_follows follows]
  exact follows.allows _ _ (allowed front e back split)

theorem obeys_bind {mid : M → α → Prop} {post : M → β → Prop} {next : α → Program Answer ε β}
    (first : monitor.Obeys mid failed m p)
    (after : ∀ m a, mid m a → monitor.Obeys post failed m (next a)) :
    monitor.Obeys post failed m (p >>= next) := by
  induction p generalizing m with
  | done a => exact after m a first
  | fail error => exact first
  | call c rest ih => exact ⟨first.1, fun answer => ih answer (first.2 answer)⟩

theorem obeys_mono {weaker : M → α → Prop} {worse : M → ε → Prop}
    (obeys : monitor.Obeys post failed m p) (ends : ∀ m a, post m a → weaker m a)
    (fails : ∀ m error, failed m error → worse m error) : monitor.Obeys weaker worse m p := by
  induction p generalizing m with
  | done a => exact ends m a obeys
  | fail error => exact fails m error obeys
  | call c rest ih => exact ⟨obeys.1, fun answer => ih answer (obeys.2 answer)⟩

theorem obeys_reaches {q : Program Answer ε α} (obeys : monitor.Obeys post failed m p)
    (run : Reaches p past q) :
    monitor.Allowed m past ∧ monitor.Obeys post failed (monitor.after m past) q := by
  induction run with
  | start => exact ⟨allowed_nil m, obeys⟩
  | answered _ answer ih =>
    obtain ⟨allowed, here, goesOn⟩ := ih
    rw [after_snoc]
    exact ⟨allowed_snoc allowed here, goesOn answer⟩

end Monitor

end Dialogue
