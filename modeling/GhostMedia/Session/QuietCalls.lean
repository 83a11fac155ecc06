import GhostMedia.Session.Bookkeeping
import GhostMedia.Session.Representation

/- Conflicts and queries change nothing but bookkeeping and metrics, so a run with such
   calls inserted goes on like the run without them. -/
namespace GhostMedia.Session
open CString Control Runs

/-- A call answered with a conflict, or an accepted message that is not mutating. -/
def Quiet (e : Event GmControlSession Call Reply) : Prop :=
  e.output.status = .stateConflict ∨
    e.output.status = .ok ∧ ∃ m, Carries e.input m ∧ m.mutating = 0

/-- A request id that is new in the run without insertions is still new in the run with
    them. -/
def StillNew (p : Event GmControlSession Call Reply × Event GmControlSession Call Reply) : Prop :=
  ∀ m, Requests p.1.input m → p.1.before.lastRequestId < m.id → p.2.before.lastRequestId < m.id

section Steps
variable {s t : GmControlSession}

theorem query_kind {jsonText : GmBytes} {m : GmControlMessageInfo} (arrives : Arrives s jsonText m)
    (query : m.mutating = 0) : m.kind = .requestStatusGet ∨ m.kind = .requestPing := by
  have request := ((ensure_request_iff s m).mp arrives.2).1
  obtain ⟨members, message, _, rfl⟩ := arrives_message arrives
  rw [info_kind] at request ⊢
  cases message with
  | statusGet => exact .inl rfl
  | ping => exact .inr rfl
  | sessionClose id reason => cases reason <;> simp [Message.info] at query
  | sessionHello | transportBind | streamOpen | streamStart | streamStop | streamClose
  | streamRekey => simp [Message.info] at query
  | result _ body => cases body <;> simp [Message.kind, GmControlMessageKind.code] at request
  | _ => simp [Message.kind, GmControlMessageKind.code] at request

theorem query_grants {m : GmControlMessageInfo} {nowNs : UInt64} {kind next edit}
    (query : m.kind = .requestStatusGet ∨ m.kind = .requestPing)
    (grants : Grants s m nowNs kind next edit) : next = s := by
  cases grants with
  | status | ping | openAgain | closeAgain | rekeyAgain => rfl
  | hello other | bind other | «open» other | start other | stop other | close other
  | rekey other | sessionCloseActive other | sessionCloseIdle other =>
    rcases query with same | same <;> cases same.symm.trans other

theorem quiet_core {call : Call} (quiet : Quiet (Runs.event step s call)) :
    core (step s call).2 = core s := by
  have out := step_steps s call
  rw [Runs.event, Quiet] at quiet
  generalize step s call = result at out quiet
  obtain ⟨reply, next⟩ := result
  dsimp only at out quiet ⊢
  cases out with
  | invalidIngest | invalidMark | closed | conflict | unmatched => rfl
  | refused _ _ _ _ _ error =>
    rcases quiet with conflict | ⟨ok, _⟩
    · exact absurd conflict error.2
    · exact absurd ok error.1
  | granted m _ _ arrives grants =>
    rcases quiet with conflict | ⟨_, n, carries, query⟩
    · cases conflict
    · cases arrives.1.symm.trans carries
      rw [query_grants (query_kind arrives query) grants, core_counted, core_received]
  | validated =>
    rcases quiet with conflict | ⟨_, n, carries, _⟩
    · cases conflict
    · exact carries.elim

/-- The session of the run with insertions, up to bookkeeping and metrics, and it has seen
    no smaller request ids. -/
def Follows (s t : GmControlSession) : Prop :=
  core s = core t ∧ s.lastRequestId ≤ t.lastRequestId

theorem quiet_follows {call : Call} (follows : Follows s t)
    (quiet : Quiet (Runs.event step t call)) : Follows s (step t call).2 :=
  ⟨follows.1.trans (quiet_core quiet).symm,
    UInt32.le_trans follows.2 (last_request_id_le t call)⟩

theorem brings_congr (same : core s = core t) {call : Call}
    (ids : ∀ m, Requests call m → (s.lastRequestId < m.id ↔ t.lastRequestId < m.id))
    {m : GmControlMessageInfo} (brings : Brings s call m) : Brings t call m := by
  cases call with
  | markPathValidated => exact brings.elim
  | ingest jsonText nowNs outAction =>
    obtain ⟨valid, arrives⟩ := brings
    obtain ⟨requests, fresh⟩ := (arrives_iff nowNs outAction m).mp arrives
    refine ⟨?_, (arrives_iff nowNs outAction m).mpr ⟨requests, (ids m requests).mp fresh⟩⟩
    rw [rebooked_of_core same]
    exact valid

theorem still_new_follows {call : Call} (follows : Follows s t)
    (new : StillNew (Runs.event step s call, Runs.event step t call)) :
    (step s call).1 = (step t call).1 ∧ Follows (step s call).2 (step t call).2 := by
  have ids (m) (requests : Requests call m) : s.lastRequestId < m.id ↔ t.lastRequestId < m.id :=
    ⟨new m requests, UInt32.lt_of_le_of_lt follows.2⟩
  obtain ⟨reply, nexts⟩ := step_congr follows.1 call ids
  refine ⟨reply, nexts, ?_⟩
  have state : (core s).state = (core t).state := congrArg GmControlSession.state follows.1
  cases step_admits s call with
  | none no kept =>
    rw [kept]
    exact UInt32.le_trans follows.2 (last_request_id_le t call)
  | request m brings live taken =>
    have other := brings_congr follows.1 ids brings
    cases step_admits t call with
    | none no => exact absurd (no m other) (state ▸ live)
    | request n brings' _ taken' =>
      rw [taken, taken', brings_unique other brings']
      exact UInt32.le_refl _

end Steps

/-- Conflicts and queries keep the protocol state, and inserted anywhere in a run they change
    no reply to its calls up to the first call whose request id they made old. -/
theorem quiet_calls_insertable (s : GmControlSession) :
    (∀ call, Quiet (Runs.event step s call) → core (step s call).2 = core s) ∧
      ∀ run, (∀ e ∈ insertedEvents step s run, Quiet e) →
        (∀ p ∈ keptPairs step s s run, StillNew p) →
        (∀ p ∈ keptPairs step s s run, p.1.output = p.2.output) ∧
          core (final step s (kept run)) = core (final step s (whole run)) := by
  refine ⟨fun call => quiet_core, fun run quiet new => ?_⟩
  obtain ⟨outputs, last⟩ := insertions_invisible step Follows
    (fun s t call => quiet_follows) (fun s t call => still_new_follows) ⟨rfl, UInt32.le_refl _⟩
    quiet new
  exact ⟨outputs, last.1⟩

def samplePinged : List (Call ⊕ Call) :=
  [.inl (sampleOpen "3"), .inr samplePing, .inl (sampleOpen "8")]

def pinged (s : GmControlSession) : GmControlSession :=
  { s with
    lastRequestId := 7
    validRequests := s.validRequests + 1
    actionsEmitted := s.actionsEmitted + 1 }

theorem session_pinged {s : GmControlSession} (valid : validSessionForIngest s blankAction = true)
    (begun : GmControlSessionState.hello.code ≤ s.state.code) (old : s.lastRequestId < 7)
    (now : s.lastUpdateNs = 1000) :
    (step s samplePing).1.status = .ok ∧ (step s samplePing).2 = pinged s := by
  obtain ⟨_, _, _, ping, _⟩ := sample_requests_carry
  have live : s.state ≠ .closed := by
    intro closed
    rw [closed] at begun
    exact absurd begun (by decide)
  have late : s.state ≠ .tlsReady := by
    intro ready
    rw [ready] at begun
    exact absurd begun (by decide)
  have granted : step s samplePing = _ := granted_step valid live
    ⟨ping, (ensure_request_iff s _).mpr ⟨⟨by decide, by decide⟩, old⟩⟩ (.inr late)
    (.ping rfl begun)
  have next : counted (received s ((Message.ping 7 (ascii "abc")).info 928) 1000) = pinged s := by
    cases s
    cases now
    rfl
  exact ⟨congrArg (·.1.status) granted, (congrArg Prod.snd granted).trans next⟩

theorem opened_session_pinged : (step openedSession samplePing).1.status = .ok ∧
    (step openedSession samplePing).2 = pinged openedSession :=
  session_pinged (by decide) (by decide) (by decide) rfl

theorem bound_session_pinged : (step boundSession samplePing).1.status = .ok ∧
    (step boundSession samplePing).2 = pinged boundSession :=
  session_pinged (by decide) (by decide) (by decide) rfl

theorem quiet_calls_insertable_sample :
    (∀ p ∈ keptPairs step boundSession boundSession samplePinged, p.1.output = p.2.output) ∧
      core (final step boundSession (kept samplePinged)) =
        core (final step boundSession (whole samplePinged)) := by
  obtain ⟨_, _, _, ping, open8⟩ := sample_requests_carry
  refine (quiet_calls_insertable boundSession).2 samplePinged ?_ ?_
  · simp only [samplePinged, insertedEvents, bound_session_opens, List.forall_mem_singleton]
    exact .inr ⟨opened_session_pinged.1, _, ping, rfl⟩
  · simp only [samplePinged, keptPairs, bound_session_opens, opened_session_pinged.2,
      List.forall_mem_cons]
    refine ⟨fun m requests => id, fun m requests _ => ?_, by simp⟩
    cases requests.1.symm.trans open8
    decide

theorem stale_opening_closes :
    final step sampleSession [sampleHello, sampleBind, samplePing, sampleOpen "3"] =
      aborted (pinged boundSession) .badMessage := by
  obtain ⟨_, _, open3, _⟩ := sample_requests_carry
  have run := final_append step sampleSession [sampleHello, sampleBind] [samplePing, sampleOpen "3"]
  rw [sample_bound, final, final, final_nil, bound_session_pinged.2] at run
  have stale : step (pinged boundSession) (sampleOpen "3") = _ :=
    stale_step (by decide) (by decide) open3 (by decide)
  exact run.trans (congrArg Prod.snd stale)

/-- A ping inserted before the second opening takes its request id, so the session closes and a
    later request with a new id is rejected. -/
theorem inserted_ping_closes_session :
    gmControlSessionInit sampleConfig sampleSession = (.ok, sampleSession) ∧
      Quiet (Runs.event step (final step sampleSession [sampleHello, sampleBind]) samplePing) ∧
      (∀ m, Requests (sampleOpen "8") m →
        (final step sampleSession
          [sampleHello, sampleBind, samplePing, sampleOpen "3"]).lastRequestId < m.id) ∧
      (step (final step sampleSession [sampleHello, sampleBind, sampleOpen "3"])
        (sampleOpen "8")).1.status = .ok ∧
      (step (final step sampleSession [sampleHello, sampleBind, samplePing, sampleOpen "3"])
        (sampleOpen "8")).1.status = .stateConflict := by
  obtain ⟨_, _, _, ping, open8⟩ := sample_requests_carry
  have again : step openedSession (sampleOpen "8") = _ := granted_step (by decide) (by decide)
    ⟨open8, by decide⟩ (.inr (by decide)) (.openAgain rfl (.inl rfl) (by decide) rfl)
  rw [stale_opening_closes, sample_bound]
  refine ⟨sample_init, .inr ⟨bound_session_pinged.1, _, ping, rfl⟩, fun m requests => ?_, ?_, rfl⟩
  · cases requests.1.symm.trans open8
    decide
  · have opened : final step sampleSession [sampleHello, sampleBind, sampleOpen "3"] =
        openedSession := sample_opened
    rw [opened]
    exact congrArg (·.1.status) again

end GhostMedia.Session
