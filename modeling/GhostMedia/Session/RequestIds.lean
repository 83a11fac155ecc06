import GhostMedia.Session.QuietCalls

/- Request ids: an answer carries the id of its request, a larger one than any before, and
   a request with an old id closes the session without any other effect. -/
namespace GhostMedia.Session
open CString Control Runs

/-- An ingest in a session that is not closed, answered by anything but an error that
    closes it. -/
def Answered (e : Event GmControlSession Call Reply) : Prop :=
  match e.input with
  | .ingest _ _ outAction =>
    validSessionForIngest e.before outAction = true ∧ e.before.state ≠ .closed ∧
      e.output.action.kind ≠ .sendErrorClose
  | .markPathValidated .. => False

instance : (e : Event GmControlSession Call Reply) → Decidable (Answered e)
  | ⟨s, .ingest _ _ outAction, reply, _⟩ =>
    inferInstanceAs (Decidable (validSessionForIngest s outAction = true ∧ s.state ≠ .closed ∧
      reply.action.kind ≠ .sendErrorClose))
  | ⟨_, .markPathValidated .., _, _⟩ => instDecidableFalse

/-- An ingest whose request was accepted. -/
def Executed (e : Event GmControlSession Call Reply) : Prop :=
  match e.input with
  | .ingest .. => e.output.status = .ok
  | .markPathValidated .. => False

instance : (e : Event GmControlSession Call Reply) → Decidable (Executed e)
  | ⟨_, .ingest .., reply, _⟩ => inferInstanceAs (Decidable (reply.status = .ok))
  | ⟨_, .markPathValidated .., _, _⟩ => instDecidableFalse

def answeredIds (past : List (Event GmControlSession Call Reply)) : List UInt32 :=
  (past.filter Answered).map (·.output.action.responseId)

def executedIds (past : List (Event GmControlSession Call Reply)) : List UInt32 :=
  (past.filter Executed).map (·.output.action.responseId)

/-- A well-formed request with an id that is not larger than the last one, in a session that
    is not closed. -/
def Repeats (e : Event GmControlSession Call Reply) (m : GmControlMessageInfo) : Prop :=
  match e.input with
  | .ingest _ _ outAction =>
    validSessionForIngest e.before outAction = true ∧ e.before.state ≠ .closed ∧
      Requests e.input m ∧ m.id ≤ e.before.lastRequestId
  | .markPathValidated .. => False

section Steps
variable {s : GmControlSession}

theorem answered_step {call : Call} (answered : Answered (Runs.event step s call)) :
    ∃ m, Requests call m ∧ s.lastRequestId < m.id ∧
      (step s call).1.action.responseId = m.id ∧ (step s call).2.lastRequestId = m.id := by
  have out := step_steps s call
  rw [Runs.event] at answered
  generalize step s call = result at out answered
  obtain ⟨reply, next⟩ := result
  dsimp only at out answered ⊢
  cases out with
  | invalidIngest invalid => exact absurd answered.1 (by simp [invalid])
  | closed _ state => exact absurd state answered.2.1
  | refused => exact absurd rfl answered.2.2
  | conflict m _ _ arrives =>
    obtain ⟨requests, fresh⟩ := (arrives_iff _ _ m).mp arrives
    exact ⟨m, requests, fresh, rfl, rfl⟩
  | granted m _ _ arrives grants =>
    obtain ⟨requests, fresh⟩ := (arrives_iff _ _ m).mp arrives
    refine ⟨m, requests, fresh, ?_, grants_last grants⟩
    cases grants <;> rfl
  | invalidMark | unmatched | validated => exact answered.elim

theorem executed_answered {call : Call} (executed : Executed (Runs.event step s call)) :
    Answered (Runs.event step s call) := by
  have out := step_steps s call
  rw [Runs.event] at executed ⊢
  generalize step s call = result at out executed
  obtain ⟨reply, next⟩ := result
  dsimp only at out executed ⊢
  cases out with
  | invalidIngest | closed | conflict => cases executed
  | refused _ _ _ _ _ error => exact absurd executed error.1
  | granted m valid live _ grants =>
    refine ⟨valid, live, ?_⟩
    cases grants <;> exact fun same => by cases same
  | invalidMark | unmatched | validated => exact executed.elim

theorem repeats_step {call : Call} {m : GmControlMessageInfo}
    (repeats : Repeats (Runs.event step s call) m) :
    (step s call).1.action.kind = .sendErrorClose ∧
      (step s call).2 = aborted s .badMessage := by
  cases call with
  | markPathValidated => exact repeats.elim
  | ingest jsonText nowNs outAction =>
    obtain ⟨valid, live, requests, old⟩ := repeats
    have stale : ensureRequest s m = false := by
      rw [Bool.eq_false_iff, ne_eq, ensure_request_iff]
      exact fun fresh => absurd fresh.2 (UInt32.not_lt.mpr old)
    rw [stale_step (s := s) valid live requests.1 stale]
    exact ⟨rfl, rfl⟩

end Steps

theorem answered_ids_increase (s : GmControlSession) (calls : List Call) :
    (answeredIds (events step s calls)).Pairwise (· < ·) ∧
      ∀ id ∈ answeredIds (events step s calls), s.lastRequestId < id := by
  induction calls generalizing s with
  | nil => simp [answeredIds]
  | cons call calls ih =>
    obtain ⟨increasing, above⟩ := ih (step s call).2
    rw [events, answeredIds]
    by_cases answered : Answered (Runs.event step s call)
    · obtain ⟨m, _, larger, response, last⟩ := answered_step answered
      rw [List.filter_cons_of_pos (by simpa using answered), List.map_cons, List.pairwise_cons,
        List.forall_mem_cons]
      have first : (Runs.event step s call).output.action.responseId = m.id := response
      rw [first]
      rw [last] at above
      exact ⟨⟨above, increasing⟩, larger, fun id member => UInt32.lt_trans larger (above id member)⟩
    · rw [List.filter_cons_of_neg (by simpa using answered)]
      exact ⟨increasing, fun id member =>
        UInt32.lt_of_le_of_lt (last_request_id_le s call) (above id member)⟩

theorem executed_ids_sublist (s : GmControlSession) (calls : List Call) :
    (executedIds (events step s calls)).Sublist (answeredIds (events step s calls)) := by
  have both : (events step s calls).filter Executed =
      ((events step s calls).filter Answered).filter Executed := by
    rw [List.filter_filter]
    refine List.filter_congr fun e member => ?_
    obtain ⟨xs, call, ys, _, rfl⟩ := event_of_mem step member
    by_cases executed : Executed (Runs.event step (final step s xs) call)
    · simp [executed, executed_answered executed]
    · simp [executed]
  rw [executedIds, answeredIds, both]
  exact List.filter_sublist.map _

/-- The discipline of request ids over whole runs. -/
theorem request_id_discipline (s : GmControlSession) (calls : List Call) :
    (answeredIds (events step s calls)).Pairwise (· < ·) ∧
      (∀ e ∈ events step s calls, Answered e → ∃ m, Requests e.input m ∧
        e.output.action.responseId = m.id ∧ e.after.lastRequestId = m.id) ∧
      (∀ e ∈ events step s calls, ∀ m, Repeats e m →
        e.output.action.kind = .sendErrorClose ∧ e.after = aborted e.before .badMessage) ∧
      (answeredIds (events step s calls)).Nodup ∧ (executedIds (events step s calls)).Nodup := by
  have increasing := (answered_ids_increase s calls).1
  have distinct : (answeredIds (events step s calls)).Nodup :=
    increasing.imp fun less => UInt32.ne_of_lt less
  refine ⟨increasing, fun e member answered => ?_, fun e member m repeats => ?_, distinct,
    (executed_ids_sublist s calls).nodup distinct⟩
  · obtain ⟨xs, call, ys, rfl, rfl⟩ := event_of_mem step member
    obtain ⟨m, requests, _, response, last⟩ := answered_step answered
    exact ⟨m, requests, response, last⟩
  · obtain ⟨xs, call, ys, rfl, rfl⟩ := event_of_mem step member
    exact repeats_step repeats

/-- The bound session answers a ping under its id, and is then closed by an older one. -/
theorem request_id_discipline_sample :
    (∃ m, Requests samplePing m ∧ (step boundSession samplePing).1.action.responseId = m.id ∧
      (step boundSession samplePing).2.lastRequestId = m.id) ∧
      (step (pinged boundSession) (sampleOpen "3")).2 =
        aborted (pinged boundSession) .badMessage := by
  obtain ⟨_, _, open3, _⟩ := sample_requests_carry
  have answered := bound_session_pinged
  obtain ⟨text7, seventh⟩ : ∃ text, samplePing = .ingest text 1000 blankAction := ⟨_, rfl⟩
  obtain ⟨text3, third⟩ : ∃ text, sampleOpen "3" = .ingest text 1000 blankAction := ⟨_, rfl⟩
  rw [third] at open3 ⊢
  rw [seventh] at answered ⊢
  obtain ⟨_, answers, closes, _⟩ := request_id_discipline boundSession
    [.ingest text7 1000 blankAction, .ingest text3 1000 blankAction]
  rw [events, events, events_nil, answered.2] at answers closes
  have executed : Executed (Runs.event step boundSession (.ingest text7 1000 blankAction)) :=
    answered.1
  have valid : validSessionForIngest (pinged boundSession) blankAction = true := by decide
  have live : (pinged boundSession).state ≠ .closed := by decide
  have old : ((Message.streamOpen 3 .pcmS16le 40).info 928).id ≤
      (pinged boundSession).lastRequestId := by decide
  have stale : Repeats (Runs.event step (pinged boundSession) (.ingest text3 1000 blankAction)) _ :=
    ⟨valid, live, ⟨open3, by decide, by decide⟩, old⟩
  exact ⟨answers _ List.mem_cons_self (executed_answered executed),
    (closes _ (List.mem_cons_of_mem _ List.mem_cons_self) _ stale).2⟩

/-- The session that a stale request has closed answers the same request with a conflict. -/
theorem stale_request_after_close :
    let s := final step sampleSession [sampleHello, sampleBind, samplePing, sampleOpen "3"]
    gmControlSessionInit sampleConfig sampleSession = (.ok, sampleSession) ∧
      Requests (sampleOpen "3") ((Message.streamOpen 3 .pcmS16le 40).info 928) ∧
      3 ≤ s.lastRequestId ∧ (step s (sampleOpen "3")).1.status = .stateConflict ∧
      (step s (sampleOpen "3")).1.action.kind = .sendErrorResult := by
  obtain ⟨_, _, open3, _⟩ := sample_requests_carry
  rw [stale_opening_closes]
  exact ⟨sample_init, ⟨open3, by decide, by decide⟩, by decide, rfl, rfl⟩

end GhostMedia.Session
