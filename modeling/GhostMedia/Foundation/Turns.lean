import Mathlib.Data.List.Basic

/- Turns of two parties over channels that keep the order: the numbered items each of them
   sends and receives, what it does on its own, and whether they can get stuck. -/
namespace Turns

inductive Turn (Channel Own : Type) where
  | send (channel : Channel) (item : Nat)
  | receive (channel : Channel) (item : Nat)
  | own (call : Own)

section Items
variable {Channel Own Other : Type} [DecidableEq Channel]

def sentItem (channel : Channel) : Turn Channel Own → Option Nat
  | .send other item => if other = channel then some item else none
  | _ => none

def receivedItem (channel : Channel) : Turn Channel Own → Option Nat
  | .receive other item => if other = channel then some item else none
  | _ => none

def sentItems (channel : Channel) (turns : List (Turn Channel Own)) : List Nat :=
  turns.filterMap (sentItem channel)

def receivedItems (channel : Channel) (turns : List (Turn Channel Own)) : List Nat :=
  turns.filterMap (receivedItem channel)

/-- After some turns of both parties, what the next one waits for has been sent. -/
def Ready (mine : List (Turn Channel Own)) (others : List (Turn Channel Other)) :
    Turn Channel Own → Prop
  | .receive channel item => receivedItems channel mine ++ [item] <+: sentItems channel others
  | .send .. => True
  | .own _ => True

instance (mine : List (Turn Channel Own)) (others : List (Turn Channel Other)) :
    (turn : Turn Channel Own) → Decidable (Ready mine others turn)
  | .receive .. => inferInstanceAs (Decidable (_ <+: _))
  | .send .. => instDecidableTrue
  | .own _ => instDecidableTrue

/-- The next of the turns that are left can be taken. -/
def Moves (mine : List (Turn Channel Own)) (others : List (Turn Channel Other)) :
    List (Turn Channel Own) → Prop
  | [] => False
  | next :: _ => Ready mine others next

instance (mine : List (Turn Channel Own)) (others : List (Turn Channel Other)) :
    (ahead : List (Turn Channel Own)) → Decidable (Moves mine others ahead)
  | [] => instDecidableFalse
  | next :: _ => inferInstanceAs (Decidable (Ready mine others next))

/-- Wherever the parties stand, one of them can go on or both are through. -/
def DeadlockFree (mine : List (Turn Channel Own)) (others : List (Turn Channel Other)) : Prop :=
  ∀ i ≤ mine.length, ∀ j ≤ others.length,
    Moves (mine.take i) (others.take j) (mine.drop i) ∨
      Moves (others.take j) (mine.take i) (others.drop j) ∨
      i = mine.length ∧ j = others.length

instance (mine : List (Turn Channel Own)) (others : List (Turn Channel Other)) :
    Decidable (DeadlockFree mine others) :=
  inferInstanceAs (Decidable (∀ i ≤ _, ∀ j ≤ _, _))

theorem moves_iff {mine : List (Turn Channel Own)} {others : List (Turn Channel Other)}
    {ahead : List (Turn Channel Own)} :
    Moves mine others ahead ↔ ∃ next rest, ahead = next :: rest ∧ Ready mine others next := by
  cases ahead with
  | nil => simp [Moves]
  | cons next rest => simp [Moves]

theorem deadlock_free_cases {mine past rest : List (Turn Channel Own)}
    {others done ahead : List (Turn Channel Other)} (free : DeadlockFree mine others)
    (left : past ++ rest = mine) (right : done ++ ahead = others) :
    Moves past done rest ∨ Moves done past ahead ∨ rest = [] ∧ ahead = [] := by
  subst left right
  have here := free past.length (by simp) done.length (by simp)
  rw [List.take_left, List.take_left, List.drop_left, List.drop_left] at here
  simpa using here

theorem received_next {past rest turns : List (Turn Channel Own)} {channel : Channel} {item : Nat}
    (split : past ++ .receive channel item :: rest = turns) :
    receivedItems channel past ++ [item] <+: receivedItems channel turns := by
  subst split
  refine ⟨receivedItems channel rest, ?_⟩
  simp [receivedItems, receivedItem]

omit [DecidableEq Channel] in
theorem script_split {Event : Type} {event : Turn Channel Own → Event}
    {turns : List (Turn Channel Own)} {past tail : List Event} {e : Event}
    (split : past ++ e :: tail = turns.map event) :
    ∃ done next rest, done ++ next :: rest = turns ∧ past = done.map event ∧ e = event next := by
  obtain ⟨done, ahead, rfl, rfl, same⟩ := List.map_eq_append_iff.mp split.symm
  obtain ⟨next, rest, rfl, rfl, _⟩ := List.map_eq_cons_iff.mp same
  exact ⟨done, next, rest, rfl, rfl, rfl⟩

omit [DecidableEq Channel] in
/-- What a script shows of the turns it is made of. -/
theorem items_shown {Event Shown : Type} {event : Turn Channel Own → Event}
    {shown : Event → Option Shown} {item : Turn Channel Own → Option Nat} {value : Nat → Shown}
    (each : ∀ turn, shown (event turn) = (item turn).map value) (turns : List (Turn Channel Own)) :
    (turns.map event).filterMap shown = (turns.filterMap item).map value := by
  rw [List.filterMap_map, List.map_filterMap]
  exact congrArg (turns.filterMap ·) (funext each)

/-- What follows some items in their order is the next one. -/
theorem next_shown {Shown : Type} {value : Nat → Shown} {items all : List Nat} {item : Nat}
    {shown : Shown} (next : items ++ [item] <+: all)
    (follows : items.map value ++ [shown] <+: all.map value) : shown = value item := by
  have expected := next.map value
  rw [List.map_append, List.map_singleton] at expected
  have same := (List.prefix_of_prefix_length_le follows expected (by simp)).eq_of_length (by simp)
  exact List.singleton_inj.mp (List.append_cancel_left same)

end Items

end Turns
