import GhostMedia.Session.Responses

/- The ids that error actions answer with: which calls present the id of a message, and
   what the peer's parser makes of an error message with that id. -/
namespace GhostMedia.Session
open CString Control Json Runs

/-- The text of an error message with an id, whatever its code and message. -/
def ErrorText (id : UInt32) (text : List UInt8) : Prop :=
  ∃ (members inner : Members) (code message : List UInt8) (retryable : Bool),
    Acceptable text (.object members) ∧
    members.Perm (numbered id (ascii "error") [(ascii "error", .object inner)]) ∧
    inner.Perm [(ascii "code", .string code), (ascii "message", .string message),
      (ascii "retryable", .boolean retryable)] ∧
    ErrorCode code ∧ message.length ≤ 256

def SendsError (s : GmControlSession) (call : Call) : Prop :=
  validSessionForIngest s call.outAction = true ∧
    ((step s call).1.action.kind = .sendErrorResult ∨
      (step s call).1.action.kind = .sendErrorClose)

/-- The call brings a message of one of the request kinds. -/
def CarriesRequest (call : Call) (m : GmControlMessageInfo) : Prop :=
  Carries call m ∧ GmControlMessageKind.requestSessionHello.code ≤ m.kind.code ∧
    m.kind.code ≤ GmControlMessageKind.requestSessionClose.code

/-- An error action carries the id of the request it answers, with which every error
    message is accepted by the peer. -/
def Correlated (s : GmControlSession) (call : Call) : Prop :=
  SendsError s call →
    (∃ m, CarriesRequest call m ∧ 1 ≤ m.id ∧ (step s call).1.action.responseId = m.id) ∧
    ∀ text, ErrorText (step s call).1.action.responseId text →
      ∃ info, gmControlParseMessage (.view text) (clearedInfo sizeofGmControlMessageInfo) =
        .ok info

/-- The calls whose errors can be answered: a request on a live session, and a path
    validation for the active stream and its epoch. -/
def Answerable (s : GmControlSession) (call : Call) : Prop :=
  validSessionForIngest s call.outAction = true →
    match call with
    | .ingest .. => s.state ≠ .closed ∧ ∃ m, CarriesRequest call m
    | .markPathValidated streamId keyEpoch _ =>
      activeStreamMatches s streamId = true ∧ s.keyEpoch = keyEpoch

section Texts
variable {id : UInt32} {text : List UInt8}

theorem described_id_positive {members : Members} {message : Message}
    (described : message.Describes members) (found : message.numbers.lookup .id = some id) :
    1 ≤ id := by
  cases message with
  | sessionHello | transportBind | streamStart | streamStop | streamClose | streamRekey | ping =>
    obtain rfl := Option.some.inj found
    exact described.2.1
  | statusGet =>
    obtain rfl := Option.some.inj found
    exact described.2
  | streamOpen =>
    obtain rfl := Option.some.inj found
    obtain ⟨_, _, _, positive, _⟩ := described
    exact positive
  | sessionClose _ reason =>
    obtain rfl := Option.some.inj found
    cases reason with
    | none => exact described.2
    | some _ => exact described.2.1
  | error =>
    obtain rfl := Option.some.inj found
    obtain ⟨_, _, _, _, _, _, positive, _⟩ := described
    exact positive
  | result =>
    obtain rfl := Option.some.inj found
    obtain ⟨_, _, _, positive⟩ := described
    exact positive
  | streamStarted | streamStopped | outputState | sessionExpiring => cases found

/-- The peer accepts an error message exactly when its id is one. -/
theorem error_text_iff (spelled : ErrorText id text) :
    (∃ info, gmControlParseMessage (.view text) (clearedInfo sizeofGmControlMessageInfo) =
      .ok info) ↔ 1 ≤ id := by
  obtain ⟨members, inner, code, message, retryable, accepted, outer, fields, known, short⟩ :=
    spelled
  constructor
  · rintro ⟨info, parsed⟩
    obtain ⟨_, others, found, read, described, _⟩ := (parse_message_iff text _ _).mp parsed
    have same := (parse_json_complete accepted.long accepted.short accepted.utf8
      accepted.document).symm.trans
        (parse_json_complete read.long read.short read.utf8 read.document)
    cases same
    have names := document_distinct_names accepted.document
    have member : (ascii "id", number id) ∈ members := outer.mem_iff.mpr (by simp [numbered])
    have stored := (described_carries names found described).numbers .id
    have present := (find_member_iff (document_distinct accepted.document) _ _).mpr member
    rw [decodedNumber, getNumber, present] at stored
    obtain ⟨other, here, value⟩ := Option.map_eq_some_iff.mp stored.symm
    obtain rfl : other = id := by
      apply UInt32.toNat_inj.mp
      simpa using congrArg UInt64.toNat value
    exact described_id_positive described here
  · intro positive
    have described : (Message.error id).Describes members :=
      ⟨code, message, retryable, inner, fields, outer, positive, known, short⟩
    exact ⟨_, (parse_message_iff text _ _).mpr ⟨le_rfl, members, _, accepted, described, rfl⟩⟩

end Texts

section Calls
variable {s : GmControlSession} {call : Call}

theorem granted_no_error {m : GmControlMessageInfo} {nowNs : UInt64} {kind : GmControlActionKind}
    {next : GmControlSession} {edit : GmControlAction → GmControlAction}
    (grants : Grants s m nowNs kind next edit) (outAction : GmControlAction) :
    (answer next m outAction kind edit).action.kind ≠ .sendErrorResult ∧
      (answer next m outAction kind edit).action.kind ≠ .sendErrorClose := by
  cases grants <;> exact ⟨by simp [answer, fillAction], by simp [answer, fillAction]⟩

theorem zero_not_correlated (sends : SendsError s call)
    (zero : (step s call).1.action.responseId = 0) : ¬ Correlated s call := by
  intro correlated
  obtain ⟨⟨m, _, positive, same⟩, _⟩ := correlated sends
  rw [← same, zero] at positive
  exact absurd positive (by decide)

theorem request_id_positive {m : GmControlMessageInfo} (request : CarriesRequest call m) :
    1 ≤ m.id := by
  obtain ⟨carries, low, high⟩ := request
  cases call with
  | markPathValidated => exact carries.elim
  | ingest jsonText nowNs outAction =>
    obtain ⟨_, members, message, _, described, rfl⟩ := parse_message_described carries
    rw [info_kind] at low high
    refine described_id_positive described ?_
    cases message with
    | sessionClose id reason => cases reason <;> rfl
    | result | error | streamStarted | streamStopped | outputState | sessionExpiring =>
      simp [Message.kind, GmControlMessageKind.code] at low high
    | _ => rfl

theorem answered_correlated {m : GmControlMessageInfo} (request : CarriesRequest call m)
    (same : (step s call).1.action.responseId = m.id) : Correlated s call := by
  have positive := request_id_positive request
  intro _
  refine ⟨⟨m, request, positive, same⟩, fun text spelled => ?_⟩
  rw [same] at spelled
  exact (error_text_iff spelled).mpr positive

end Calls

section Ingest
variable {s : GmControlSession} {jsonText : GmBytes} {nowNs : UInt64}
  {outAction : GmControlAction}

theorem closed_ingest (jsonText : GmBytes) (nowNs : UInt64)
    (valid : validSessionForIngest s outAction = true) (closed : s.state = .closed) :
    step s (.ingest jsonText nowNs outAction) =
      (rejectConflict s (fillAction outAction s .none 0 .ok 0) 0).split := by
  simp only [step, gmControlSessionIngest, valid, Bool.not_true, Bool.false_eq_true, if_false,
    closed, if_true]

theorem unparsed_ingest (nowNs : UInt64) (valid : validSessionForIngest s outAction = true)
    (live : s.state ≠ .closed) {status : GmStatus}
    (failed : gmControlParseMessage jsonText (clearedInfo sizeofGmControlMessageInfo) =
      .error status) :
    step s (.ingest jsonText nowNs outAction) =
      (rejectClose s (fillAction outAction s .none 0 .ok 0) 0 status).split := by
  simp only [step, gmControlSessionIngest, valid, Bool.not_true, Bool.false_eq_true, if_false,
    live, failed]

/-- A message on a live session is answered, if by an error, under its own id. -/
theorem carried_response_id {m : GmControlMessageInfo}
    (valid : validSessionForIngest s outAction = true) (live : s.state ≠ .closed)
    (carries : Carries (.ingest jsonText nowNs outAction) m)
    (sends : SendsError s (.ingest jsonText nowNs outAction)) :
    (step s (.ingest jsonText nowNs outAction)).1.action.responseId = m.id := by
  cases request : ensureRequest s m with
  | false =>
    rw [stale_step valid live carries request]
    rfl
  | true =>
    have out := step_steps s (.ingest jsonText nowNs outAction)
    have kind := sends.2
    generalize step s (.ingest jsonText nowNs outAction) = result at out kind
    obtain ⟨reply, next⟩ := result
    dsimp only at out kind ⊢
    cases out with
    | invalidIngest invalid => exact absurd valid (by simp [invalid])
    | closed _ state => exact absurd state live
    | refused _ _ _ _ bad => exact absurd ⟨m, carries, request⟩ bad
    | conflict other _ _ arrives =>
      have same : other = m := Except.ok.inj (arrives.1.symm.trans carries)
      rw [← same]
      rfl
    | granted _ _ _ _ grants =>
      obtain ⟨result, close⟩ := granted_no_error grants outAction
      exact kind.elim (absurd · result) (absurd · close)

theorem ingest_correlated_iff :
    Correlated s (.ingest jsonText nowNs outAction) ↔
      Answerable s (.ingest jsonText nowNs outAction) := by
  by_cases valid : validSessionForIngest s outAction = true
  · by_cases closed : s.state = .closed
    · have run := closed_ingest jsonText nowNs valid closed
      constructor
      · exact fun correlated => absurd correlated
          (zero_not_correlated ⟨valid, by rw [run]; exact .inl rfl⟩ (by rw [run]; rfl))
      · exact fun answerable => absurd closed (answerable valid).1
    cases parsed : gmControlParseMessage jsonText (clearedInfo sizeofGmControlMessageInfo) with
    | error status =>
      have run := unparsed_ingest nowNs valid closed parsed
      constructor
      · exact fun correlated => absurd correlated
          (zero_not_correlated ⟨valid, by rw [run]; exact .inr rfl⟩ (by rw [run]; rfl))
      · intro answerable
        obtain ⟨_, m, carries, _⟩ := answerable valid
        cases parsed.symm.trans carries
    | ok m =>
      have carries : Carries (.ingest jsonText nowNs outAction) m := parsed
      constructor
      · intro correlated _
        refine ⟨closed, m, carries, ?_⟩
        cases request : ensureRequest s m with
        | true =>
          simp only [ensureRequest, Bool.and_eq_true, Bool.not_eq_true', Bool.or_eq_false_iff,
            decide_eq_false_iff_not, Nat.not_lt] at request
          exact request.1
        | false =>
          have run := stale_step valid closed carries request
          obtain ⟨⟨other, ⟨found, kind⟩, _⟩, _⟩ :=
            correlated ⟨valid, by rw [run]; exact .inr rfl⟩
          obtain rfl : m = other := Except.ok.inj (carries.symm.trans found)
          exact kind
      · intro answerable sends
        obtain ⟨_, other, found, kind⟩ := answerable valid
        obtain rfl : m = other := Except.ok.inj (carries.symm.trans found)
        exact answered_correlated ⟨carries, kind⟩
          (carried_response_id valid closed carries sends) sends
  · exact ⟨fun _ holds => absurd holds valid, fun _ sends => absurd sends.1 valid⟩

theorem mark_correlated_iff {streamId keyEpoch : UInt32} :
    Correlated s (.markPathValidated streamId keyEpoch outAction) ↔
      Answerable s (.markPathValidated streamId keyEpoch outAction) := by
  by_cases valid : validSessionForIngest s outAction = true
  case neg => exact ⟨fun _ holds => absurd holds valid, fun _ sends => absurd sends.1 valid⟩
  have out := step_steps s (.markPathValidated streamId keyEpoch outAction)
  constructor
  · intro correlated _
    unfold Correlated SendsError at correlated
    generalize step s (.markPathValidated streamId keyEpoch outAction) = result at out correlated
    obtain ⟨reply, next⟩ := result
    dsimp only at out correlated
    cases out with
    | invalidMark invalid => cases invalid.symm.trans valid
    | unmatched =>
      obtain ⟨⟨_, ⟨carries, _⟩, _⟩, _⟩ := correlated ⟨valid, .inl rfl⟩
      exact carries.elim
    | validated _ active current => exact ⟨active, current⟩
  · intro answerable sends
    obtain ⟨active, current⟩ := answerable valid
    have kind := sends.2
    generalize step s (.markPathValidated streamId keyEpoch outAction) = result at out kind
    obtain ⟨reply, next⟩ := result
    dsimp only at out kind
    cases out with
    | invalidMark invalid => cases invalid.symm.trans valid
    | unmatched _ other => simp [active, current] at other
    | validated => simp [fillAction] at kind

end Ingest

/-- In every run, exactly the calls that bring no request, or have nothing to answer, lead to
    an error action that cannot be correlated. -/
theorem send_errors_correlated_iff (start : GmControlSession) (calls : List Call) :
    (∀ e ∈ events step start calls, Correlated e.before e.input) ↔
      ∀ e ∈ events step start calls, Answerable e.before e.input := by
  have each (e : Event GmControlSession Call Reply) :
      Correlated e.before e.input ↔ Answerable e.before e.input := by
    cases e.input with
    | ingest => exact ingest_correlated_iff
    | markPathValidated => exact mark_correlated_iff
  exact forall₂_congr fun e _ => each e

theorem garbage_answered_with_zero :
    let call := Call.ingest (.view (ascii "\x7b")) 0 blankAction
    gmControlSessionInit sampleConfig sampleSession = (.ok, sampleSession) ∧
      (step sampleSession call).1.action.kind = .sendErrorClose ∧
      (step sampleSession call).1.action.responseId = 0 ∧ ¬ Correlated sampleSession call := by
  intro call
  have kind : (step sampleSession call).1.action.kind = .sendErrorClose := by decide +kernel
  have zero : (step sampleSession call).1.action.responseId = 0 := by decide +kernel
  exact ⟨sample_init, kind, zero, zero_not_correlated ⟨by decide, .inr kind⟩ zero⟩

end GhostMedia.Session
