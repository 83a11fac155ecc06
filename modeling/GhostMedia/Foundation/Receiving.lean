import GhostMedia.Foundation.StateLogic
import GhostMedia.Foundation.StreamReader

/- Receivers that fetch a stream by themselves, in pieces of their own choice, and hand out
   the items that one reader finds in it. Two of them on one stream agree up to the first
   point where either stops, however each of them fetches. -/
namespace StreamReader
open StateLogic

section Receiving
variable {State Symbol Item Failure σ ε : Type} (r : Reader State Symbol Item Failure)
  (held : σ → State) (log : σ → List Symbol) (rejection : ε) (allowed : ε → Prop)
  (lossless : Prop)

/-- A call that cannot give an item: the reader fails and the call rejects, or the reader
    waits. What was fetched last may be lost. -/
structure Stops (s : σ) (error : ε) (s' : σ) (fetched lost : List Symbol) : Prop where
  logged : log s' = log s ++ fetched ++ lost
  kept : lossless → lost = []
  allowed : allowed error
  rejects : error = rejection ↔ Failed r (r.append (held s) fetched)
  exhausted : Exhausted r (r.append (held s) fetched)

/-- A call of a receiver gives the item that the reader finds in what has been fetched. -/
def Receives (s : σ) : EStateM.Result ε σ Item → Prop :=
  Ends (fun item s' => ∃ fetched, log s' = log s ++ fetched ∧
      r.next (r.append (held s) fetched) = .ok (some item) (held s'))
    fun error s' => ∃ fetched lost,
      Stops r held log rejection allowed lossless s error s' fetched lost

structure Receipt (ε σ Item : Type) where
  items : List Item
  stop : Option ε
  state : σ

def receiveUpTo (call : EStateM ε σ Item) : Nat → σ → Receipt ε σ Item
  | 0, s => ⟨[], none, s⟩
  | calls + 1, s =>
    match call s with
    | .ok item s' =>
      let rest := receiveUpTo call calls s'
      ⟨item :: rest.items, rest.stop, rest.state⟩
    | .error error s' => ⟨[], some error, s'⟩

/-- What a number of calls gives is what the reader finds in all that they have fetched. -/
structure Follows (calls : Nat) (s : σ) (run : Receipt ε σ Item) (fetched lost : List Symbol) :
    Prop where
  logged : log run.state = log s ++ fetched ++ lost
  kept : lossless → lost = []
  items : run.items = (drain r (r.append (held s) fetched)).1.take calls
  running : run.stop = none → run.items.length = calls
  stopped : ∀ error, run.stop = some error → allowed error ∧ run.items.length < calls ∧
    (error = rejection ↔ Failed r (drain r (r.append (held s) fetched)).2) ∧
    run.items = (drain r (r.append (held s) fetched)).1

variable {r held log rejection allowed lossless}

theorem receives_after (laws : Incremental r) {s s' : σ} (fetched : List Symbol)
    {result : EStateM.Result ε σ Item} (logged : log s' = log s ++ fetched)
    (appended : held s' = r.append (held s) fetched)
    (receives : Receives r held log rejection allowed lossless s' result) :
    Receives r held log rejection allowed lossless s result := by
  have same (more : List Symbol) :
      r.append (held s') more = r.append (held s) (fetched ++ more) := by
    rw [appended, laws.append_append]
  refine ends_mono receives (fun item t found => ?_) fun error t stops => ?_
  · obtain ⟨more, next, read⟩ := found
    refine ⟨fetched ++ more, ?_, ?_⟩
    · rw [next, logged, List.append_assoc]
    · rw [← same, read]
  · obtain ⟨more, lost, stops⟩ := stops
    refine ⟨fetched ++ more, lost, ?_, stops.kept, stops.allowed, ?_, ?_⟩
    · rw [stops.logged, logged, List.append_assoc (log s)]
    · rw [← same]
      exact stops.rejects
    · rw [← same]
      exact stops.exhausted

theorem run_follows (laws : Incremental r) {call : EStateM ε σ Item}
    (receives : ∀ s, Receives r held log rejection allowed lossless s (call s)) (calls : Nat)
    (s : σ) : ∃ fetched lost, Follows r held log rejection allowed lossless calls s
      (receiveUpTo call calls s) fetched lost := by
  induction calls generalizing s with
  | zero =>
    refine ⟨[], [], ?_, fun _ => rfl, rfl, fun _ => rfl, ?_⟩
    · rw [List.append_nil, List.append_nil]
      rfl
    · intro error stop
      cases stop
  | succ calls ih =>
    have first := receives s
    cases run : call s with
    | error error s' =>
      rw [run] at first
      obtain ⟨fetched, lost, stops⟩ := first
      have empty := drain_of_exhausted laws stops.exhausted
      rw [receiveUpTo, run]
      refine ⟨fetched, lost, stops.logged, stops.kept, ?_, ?_, ?_⟩
      · rw [empty]
        rfl
      · intro stop
        cases stop
      · intro other stop
        cases stop
        rw [empty]
        exact ⟨stops.allowed, Nat.succ_pos _, stops.rejects, rfl⟩
    | ok item s' =>
      rw [run] at first
      obtain ⟨fetched, logged, read⟩ := first
      obtain ⟨more, lost, follows⟩ := ih s'
      -- the reader finds the item first, then what it finds after it
      have whole : drain r (r.append (held s) (fetched ++ more)) =
          (item :: (drain r (r.append (held s') more)).1,
            (drain r (r.append (held s') more)).2) := by
        rw [← laws.append_append]
        exact drain_read laws ((laws.read read).2 more)
      rw [receiveUpTo, run]
      refine ⟨fetched ++ more, lost, ?_, follows.kept, ?_, ?_, ?_⟩
      · rw [← List.append_assoc, ← logged]
        exact follows.logged
      · rw [whole, List.take_succ_cons, ← follows.items]
      · intro stop
        exact congrArg Nat.succ (follows.running stop)
      · intro error stop
        obtain ⟨permitted, fewer, rejects, items⟩ := follows.stopped error stop
        rw [whole]
        exact ⟨permitted, Nat.succ_lt_succ fewer, rejects, congrArg (List.cons item) items⟩

section Follows
variable {calls : Nat} {s : σ} {run : Receipt ε σ Item} {fetched lost : List Symbol}

theorem follows_short
    (follows : Follows r held log rejection allowed lossless calls s run fetched lost) :
    run.items.length ≤ calls := by
  rw [follows.items, List.length_take]
  exact Nat.min_le_left _ _

theorem follows_rejects_iff
    (follows : Follows r held log rejection allowed lossless calls s run fetched lost) :
    run.stop = some rejection ↔ (drain r (r.append (held s) fetched)).1.length < calls ∧
      Failed r (drain r (r.append (held s) fetched)).2 := by
  constructor
  · intro stop
    obtain ⟨_, fewer, rejects, items⟩ := follows.stopped rejection stop
    exact ⟨items ▸ fewer, rejects.mp rfl⟩
  · intro failed
    obtain ⟨fewer, failed⟩ := failed
    cases stop : run.stop with
    | none =>
      have enough := follows.running stop
      rw [follows.items, List.length_take] at enough
      omega
    | some error =>
      obtain ⟨_, _, rejects, _⟩ := follows.stopped error stop
      rw [rejects.mpr failed]

theorem follows_front (laws : Incremental r) {stream : List Symbol}
    (follows : Follows r held log rejection allowed lossless calls s run fetched lost)
    (start : log s = []) (sent : log run.state <+: stream) :
    ∃ rest, stream = fetched ++ rest ∧
      run.items <+: (drain r (r.append (held s) stream)).1 := by
  obtain ⟨rest, rfl⟩ := sent
  refine ⟨lost ++ rest, ?_, ?_⟩
  · rw [follows.logged, start, List.nil_append, List.append_assoc]
  · rw [follows.logged, start, List.nil_append, List.append_assoc, ← laws.append_append,
      follows.items]
    exact (List.take_prefix _ _).trans (drain_grows laws _ _)

end Follows

end Receiving

section Agreement
variable {State Symbol Item Failure σ τ ε δ : Type} {r : Reader State Symbol Item Failure}

/-- As far as one receiver has come, the other has given the same items or has stopped; and
    where one rejects, the other rejects too, unless it has stopped before for another reason. -/
structure Confirms (rejection : ε) (rejection' : δ) (one : Receipt ε σ Item)
    (other : Receipt δ τ Item) : Prop where
  unstopped : one.stop = none → other.items <+: one.items ∧
    (other.stop = none → other.items = one.items)
  rejected : one.stop = some rejection → other.items <+: one.items ∧
    ((other.stop = some rejection' ∧ other.items = one.items) ∨
      ∃ error, error ≠ rejection' ∧ other.stop = some error)

variable {held : σ → State} {log : σ → List Symbol} {rejection : ε} {allowed : ε → Prop}
  {lossless : Prop} {held' : τ → State} {log' : τ → List Symbol} {rejection' : δ}
  {allowed' : δ → Prop} {lossless' : Prop} {calls : Nat} {s : σ} {t : τ}
  {one : Receipt ε σ Item} {other : Receipt δ τ Item} {fetched lost fetched' lost' : List Symbol}
  (follows : Follows r held log rejection allowed lossless calls s one fetched lost)
  (follows' : Follows r held' log' rejection' allowed' lossless' calls t other fetched' lost')
  (start : log s = []) (start' : log' t = []) (alike : held s = held' t)
include follows follows' start start' alike

theorem follows_confirms (laws : Incremental r) {stream : List Symbol}
    (sent : log one.state <+: stream) (sent' : log' other.state <+: stream) :
    Confirms rejection rejection' one other := by
  obtain ⟨rest, rfl, front⟩ := follows_front laws follows start sent
  obtain ⟨rest', cut', front'⟩ := follows_front laws follows' start' sent'
  rw [← alike] at front'
  constructor
  · intro running
    have all := follows.running running
    have shorter := follows_short follows'
    have within := List.prefix_of_prefix_length_le front' front (by omega)
    refine ⟨within, fun running' => ?_⟩
    exact within.eq_of_length ((follows'.running running').trans all.symm)
  · intro stop
    obtain ⟨_, fewer, rejects, items⟩ := follows.stopped rejection stop
    have final := drain_failed laws (rejects.mp rfl) rest
    rw [laws.append_append] at final
    have within : other.items <+: one.items := by
      rw [items, ← final.1]
      exact front'
    refine ⟨within, ?_⟩
    cases stop' : other.stop with
    | none =>
      have all' := follows'.running stop'
      have := within.length_le
      omega
    | some error =>
      by_cases rejects' : error = rejection'
      · obtain ⟨_, _, failed', items'⟩ := follows'.stopped error stop'
        have final' := drain_failed laws (failed'.mp rejects') rest'
        rw [laws.append_append, ← cut', ← alike] at final'
        refine .inl ⟨congrArg some rejects', ?_⟩
        rw [items', items, ← final.1, final'.1, alike]
      · exact .inr ⟨error, rejects', rfl⟩

theorem follows_comparable (laws : Incremental r) {stream : List Symbol}
    (sent : log one.state <+: stream) (sent' : log' other.state <+: stream) :
    one.items <+: other.items ∨ other.items <+: one.items := by
  obtain ⟨_, _, front⟩ := follows_front laws follows start sent
  obtain ⟨_, _, front'⟩ := follows_front laws follows' start' sent'
  rw [← alike] at front'
  exact List.prefix_or_prefix_of_prefix front front'

theorem follows_same (kept : lossless) (kept' : lossless')
    (same : log one.state = log' other.state) :
    one.items = other.items ∧ (one.stop = some rejection ↔ other.stop = some rejection') := by
  have cut : fetched = fetched' := by
    have both := follows.logged.symm.trans (same.trans follows'.logged)
    rwa [start, start', follows.kept kept, follows'.kept kept', List.append_nil,
      List.append_nil, List.nil_append, List.nil_append] at both
  subst cut
  rw [follows_rejects_iff follows, follows_rejects_iff follows', follows.items, follows'.items,
    alike]
  exact ⟨rfl, Iff.rfl⟩

end Agreement

end StreamReader
