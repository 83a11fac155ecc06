import GhostMedia.Session.Requests

/- Two sessions that differ only in request bookkeeping and metrics answer a call alike,
   unless the last request id decides about it. -/
namespace GhostMedia.Session
open CString Control

/-- The session `s` with the request bookkeeping and the metrics of `t`. -/
def rebooked (s t : GmControlSession) : GmControlSession :=
  { s with
    lastRequestId := t.lastRequestId
    lastUpdateNs := t.lastUpdateNs
    validRequests := t.validRequests
    rejectedRequests := t.rejectedRequests
    actionsEmitted := t.actionsEmitted
    stateConflicts := t.stateConflicts
    protocolErrors := t.protocolErrors
    streamsStarted := t.streamsStarted
    streamsStopped := t.streamsStopped
    streamsClosed := t.streamsClosed
    rekeysCommitted := t.rekeysCommitted }

theorem rebooked_of_core {s t : GmControlSession} (same : core s = core t) :
    t = rebooked s t := by
  have kept : rebooked (core t) t = rebooked (core s) t := by rw [same]
  exact kept

section Congruence
variable {s t : GmControlSession} {m : GmControlMessageInfo} {nowNs : UInt64}
  {kind : GmControlActionKind} {next : GmControlSession}
  {edit : GmControlAction → GmControlAction}

theorem fill_action_core (same : core s = core t) (action : GmControlAction)
    (kind : GmControlActionKind) (id : UInt32) (status : GmStatus) (terminal : UInt8) :
    fillAction action s kind id status terminal = fillAction action t kind id status terminal := by
  rw [rebooked_of_core same]
  rfl

theorem grants_congr (grants : Grants s m nowNs kind next edit) (same : core s = core t) :
    ∃ next', Grants t m nowNs kind next' edit ∧ core next = core next' := by
  rw [rebooked_of_core same]
  generalize t = b
  cases grants with
  | hello kind state => exact ⟨_, .hello kind state, rfl⟩
  | bind kind state same port => exact ⟨_, .bind kind state same port, rfl⟩
  | «open» kind state => exact ⟨_, .open kind state, rfl⟩
  | openAgain kind state profile playout => exact ⟨_, .openAgain kind state profile playout, rfl⟩
  | start kind active validated again => exact ⟨_, .start kind active validated again, rfl⟩
  | stop kind active => exact ⟨_, .stop kind active, rfl⟩
  | close kind active => exact ⟨_, .close kind active, rfl⟩
  | closeAgain kind state last => exact ⟨_, .closeAgain kind state last, rfl⟩
  | rekey kind active next => exact ⟨_, .rekey kind active next, rfl⟩
  | rekeyAgain kind active new current last =>
    exact ⟨_, .rekeyAgain kind active new current last, rfl⟩
  | status kind state => exact ⟨_, .status kind state, rfl⟩
  | ping kind state => exact ⟨_, .ping kind state, rfl⟩
  | sessionCloseActive kind active => exact ⟨_, .sessionCloseActive kind active, rfl⟩
  | sessionCloseIdle kind idle => exact ⟨_, .sessionCloseIdle kind idle, rfl⟩

theorem answer_congr (same : core s = core t) (m : GmControlMessageInfo) (action : GmControlAction)
    (kind : GmControlActionKind) (edit : GmControlAction → GmControlAction) :
    answer s m action kind edit = answer t m action kind edit := by
  rw [rebooked_of_core same]
  rfl

end Congruence

/-- The same reply, and the same session up to bookkeeping and metrics. -/
def Alike (a b : Reply × GmControlSession) : Prop := a.1 = b.1 ∧ core a.2 = core b.2

section Calls
variable {s t : GmControlSession} {m : GmControlMessageInfo} {nowNs : UInt64}

theorem reject_conflict_congr (same : core s = core t) (action : GmControlAction) (id : UInt32) :
    Alike (rejectConflict s action id).split (rejectConflict t action id).split := by
  rw [rebooked_of_core same]
  exact ⟨rfl, rfl⟩

theorem reject_close_congr (same : core s = core t) (action : GmControlAction) (id : UInt32)
    (status : GmStatus) :
    Alike (rejectClose s action id status).split (rejectClose t action id status).split := by
  rw [reject_close_split, reject_close_split, rebooked_of_core same]
  exact ⟨rfl, rfl⟩

/-- The switch grants a request in both sessions or in neither. -/
theorem handle_request_congr (same : core s = core t) (first : ensureRequest s m = true)
    (second : ensureRequest t m = true) (action : GmControlAction) :
    Alike (handleRequest (received s m nowNs) m nowNs action).split
      (handleRequest (received t m nowNs) m nowNs action).split := by
  have arrived : core (received s m nowNs) = core (received t m nowNs) := same
  rcases handle_request_decides nowNs action first with left | ⟨kind, next, edit, grants, left⟩
  · rcases handle_request_decides nowNs action second with right | ⟨kind, next, edit, grants, _⟩
    · rw [left, right]
      exact reject_conflict_congr arrived action m.id
    · obtain ⟨_, grants, _⟩ := grants_congr grants arrived.symm
      have granted := grants_handled grants action
      rw [left, reject_conflict_split] at granted
      cases congrArg (fun result => result.1.status) granted
  · obtain ⟨_, grants, nexts⟩ := grants_congr grants arrived
    rw [left, grants_handled grants action, answer_congr nexts]
    exact ⟨rfl, nexts⟩

theorem ingest_congr (same : core s = core t) {jsonText : GmBytes} {outAction : GmControlAction}
    (ids : ∀ m, gmControlParseMessage jsonText (clearedInfo sizeofGmControlMessageInfo) = .ok m →
      ensureRequest s m = ensureRequest t m) :
    Alike (gmControlSessionIngest s jsonText nowNs outAction).split
      (gmControlSessionIngest t jsonText nowNs outAction).split := by
  have valid : validSessionForIngest t outAction = validSessionForIngest s outAction := by
    rw [rebooked_of_core same]
    rfl
  have state : t.state = s.state := (congrArg GmControlSession.state same).symm
  have filled := fill_action_core same outAction .none 0 .ok 0
  rw [gmControlSessionIngest, gmControlSessionIngest, valid, ← filled]
  split
  · exact ⟨rfl, same⟩
  dsimp only
  by_cases closed : s.state = .closed
  · rw [if_pos closed, if_pos (state.trans closed)]
    exact reject_conflict_congr same _ 0
  rw [if_neg closed, if_neg (state.trans_ne closed)]
  cases parsed : gmControlParseMessage jsonText (clearedInfo sizeofGmControlMessageInfo) with
  | error status => exact reject_close_congr same _ 0 status
  | ok m =>
    have request := ids m parsed
    dsimp only
    rw [← request]
    by_cases refused : (!ensureRequest s m) = true
    · rw [if_pos refused, if_pos refused]
      exact reject_close_congr same _ m.id .badMessage
    · rw [if_neg refused, if_neg refused]
      have accepted : ensureRequest s m = true := by simpa using refused
      by_cases early : (m.kind ≠ .requestSessionHello && s.state = .tlsReady) = true
      · rw [if_pos early, if_pos (by rw [state]; exact early)]
        exact reject_conflict_congr (s := received s m nowNs) (t := received t m nowNs) same _ m.id
      · rw [if_neg early, if_neg (by rw [state]; exact early)]
        exact handle_request_congr same accepted (request.symm.trans accepted) _

theorem mark_path_validated_congr (same : core s = core t) (streamId keyEpoch : UInt32)
    (outAction : GmControlAction) :
    Alike (gmControlSessionMarkPathValidated s streamId keyEpoch outAction).split
      (gmControlSessionMarkPathValidated t streamId keyEpoch outAction).split := by
  rw [rebooked_of_core same]
  generalize t = b
  rw [gmControlSessionMarkPathValidated, gmControlSessionMarkPathValidated]
  by_cases invalid : (!validSessionForIngest s outAction) = true
  · rw [if_pos invalid, if_pos (show (!validSessionForIngest (rebooked s b) outAction) = true
      from invalid)]
    exact ⟨rfl, rfl⟩
  · rw [if_neg invalid, if_neg (show ¬ (!validSessionForIngest (rebooked s b) outAction) = true
      from invalid)]
    dsimp only
    by_cases other : (!activeStreamMatches s streamId || s.keyEpoch ≠ keyEpoch) = true
    · rw [if_pos other, if_pos (show (!activeStreamMatches (rebooked s b) streamId ||
        (rebooked s b).keyEpoch ≠ keyEpoch) = true from other)]
      exact ⟨rfl, rfl⟩
    · rw [if_neg other, if_neg (show ¬ (!activeStreamMatches (rebooked s b) streamId ||
        (rebooked s b).keyEpoch ≠ keyEpoch) = true from other)]
      exact ⟨rfl, rfl⟩

end Calls

/-- The request that the payload of a call holds. -/
def Requests (call : Call) (m : GmControlMessageInfo) : Prop :=
  Carries call m ∧ GmControlMessageKind.requestSessionHello.code ≤ m.kind.code ∧
    m.kind.code ≤ GmControlMessageKind.requestSessionClose.code

theorem ensure_request_iff (s : GmControlSession) (m : GmControlMessageInfo) :
    ensureRequest s m = true ↔
      (GmControlMessageKind.requestSessionHello.code ≤ m.kind.code ∧
        m.kind.code ≤ GmControlMessageKind.requestSessionClose.code) ∧
        s.lastRequestId < m.id := by
  simp only [ensureRequest, Bool.and_eq_true, Bool.not_eq_true', Bool.or_eq_false_iff,
    decide_eq_false_iff_not, Nat.not_lt, gt_iff_lt, UInt32.not_le]

theorem arrives_iff {s : GmControlSession} {jsonText : GmBytes} (nowNs : UInt64)
    (outAction : GmControlAction) (m : GmControlMessageInfo) :
    Arrives s jsonText m ↔
      Requests (.ingest jsonText nowNs outAction) m ∧ s.lastRequestId < m.id := by
  rw [Arrives, ensure_request_iff, Requests, Carries, ← and_assoc]

/-- Sessions alike up to bookkeeping answer a call alike, unless its request id is new to
    one of them only. -/
theorem step_congr {s t : GmControlSession} (same : core s = core t) (call : Call)
    (ids : ∀ m, Requests call m → (s.lastRequestId < m.id ↔ t.lastRequestId < m.id)) :
    Alike (step s call) (step t call) := by
  cases call with
  | ingest jsonText nowNs outAction =>
    refine ingest_congr same fun m parsed => ?_
    rw [Bool.eq_iff_iff, ensure_request_iff, ensure_request_iff]
    exact and_congr_right fun request => ids m ⟨parsed, request⟩
  | markPathValidated streamId keyEpoch outAction =>
    exact mark_path_validated_congr same streamId keyEpoch outAction

/-- A call lets in at most one request, and then its id is the last one. -/
inductive Admits (s : GmControlSession) (call : Call) (last : UInt32) : Prop
  | request (m : GmControlMessageInfo) (brings : Brings s call m) (live : s.state ≠ .closed)
      (taken : last = m.id)
  | none (no : ∀ m, Brings s call m → s.state = .closed) (kept : last = s.lastRequestId)

theorem grants_last {s next : GmControlSession} {m : GmControlMessageInfo} {nowNs : UInt64}
    {kind edit} (grants : Grants (received s m nowNs) m nowNs kind next edit) :
    (counted next).lastRequestId = m.id := by
  cases grants <;> rfl

theorem step_admits (s : GmControlSession) (call : Call) :
    Admits s call (step s call).2.lastRequestId := by
  have out := step_steps s call
  generalize step s call = result at out
  obtain ⟨reply, next⟩ := result
  dsimp only at out ⊢
  cases out with
  | invalidIngest invalid =>
    refine .none (fun m brings => ?_) rfl
    cases invalid.symm.trans brings.1
  | closed _ state => exact .none (fun _ _ => state) rfl
  | refused _ _ _ _ bad => exact .none (fun m brings => absurd ⟨m, brings.2⟩ bad) rfl
  | conflict m valid live arrives => exact .request m ⟨valid, arrives⟩ live rfl
  | granted m valid live arrives grants =>
    exact .request m ⟨valid, arrives⟩ live (grants_last grants)
  | invalidMark | unmatched | validated => exact .none (fun _ brings => brings.elim) rfl

theorem last_request_id_le (s : GmControlSession) (call : Call) :
    s.lastRequestId ≤ (step s call).2.lastRequestId := by
  cases step_admits s call with
  | request m brings _ taken =>
    cases call with
    | ingest => exact taken ▸ UInt32.le_of_lt ((ensure_request_iff s m).mp brings.2.2).2
    | markPathValidated => exact brings.elim
  | none _ kept => exact kept ▸ UInt32.le_refl _

end GhostMedia.Session
