import GhostMedia.Session.ProtocolAnswers

/- The C session carries out the protocol: over every run each reply shows what the protocol
   answers to what the call said, and the fields hold the protocol's state. -/
namespace GhostMedia.Session.Protocol
open Control CString Runs

/-- What a reply shows of a reaction. -/
def Shows (config : GmControlSessionConfig) (call : Call) : Reaction → Reply → Prop
  | .ignored, reply => reply = ⟨.badArgument, call.outAction⟩
  | .granted id answer, reply =>
    reply.status = .ok ∧ reply.action.status = .ok ∧ reply.action.kind = answer.kind ∧
      reply.action.responseId.toNat = id ∧ (reply.action.terminal = 1 ↔ answer = .goodbye) ∧
      Shown config reply.action answer
  | .conflict id, reply =>
    reply.status = .stateConflict ∧ reply.action.status = .stateConflict ∧
      reply.action.kind = .sendErrorResult ∧ reply.action.responseId.toNat = id ∧
      reply.action.terminal = 0
  | .hangUp id, reply =>
    Json.Refusal reply.status ∧ reply.action.status = reply.status ∧
      reply.action.kind = .sendErrorClose ∧ reply.action.responseId.toNat = id ∧
      reply.action.terminal = 1
  | .validated id keyEpoch, reply =>
    reply.status = .ok ∧ reply.action.status = .ok ∧ reply.action.kind = .pathValidated ∧
      reply.action.responseId = 0 ∧ reply.action.terminal = 0 ∧
      reply.action.streamId.toNat = id.val ∧ reply.action.keyEpoch.toNat = keyEpoch ∧
      reply.action.pathState.text = ascii "validated"

/-- The session holds the protocol's state. -/
structure Related (config : GmControlSessionConfig) (s : GmControlSession)
    (t : State (server config).firstKeyEpoch) : Prop where
  proper : sizeofGmControlSession ≤ s.structSize ∧ s.abiVersion = gmAbiVersion
  inv : Invariant config s
  fields : StateFields s t

section Requests
variable {config : GmControlSessionConfig} {s : GmControlSession}
  {l : Live (server config).firstKeyEpoch} {message : Message} {members : Members}
  {body : Request}

theorem request_agrees (nowNs : UInt64) (valid : ValidConfig config) (inv : Invariant config s)
    (fields : LiveFields s l) (described : message.Describes members)
    (makes : Makes message body) :
    Agrees config s (message.info sizeofGmControlMessageInfo) nowNs
      (serve (server config) l nowNs.toNat body) := by
  cases makes with
  | hello same => exact hello_agrees valid inv fields rfl same
  | bind same =>
    obtain ⟨_, _, shape, _⟩ := described
    obtain ⟨short, clean⟩ := session_id_plain shape
    have named := (fill_text (Nat.lt_succ_of_le short)).trans (text_of_no_nul clean)
    exact bind_agrees valid inv fields rfl named same
  | «open» same => exact open_agrees inv fields rfl rfl same
  | start same stamp =>
    subst stamp
    obtain ⟨_, _, _, decimal⟩ := described
    obtain ⟨short, clean⟩ := decimal_plain decimal
    have stored := (fill_text (Nat.lt_succ_of_le short)).trans (text_of_no_nul clean)
    exact start_agrees inv fields rfl same stored
  | stop same => exact stop_agrees inv fields rfl same
  | close same => exact close_agrees inv fields rfl same
  | rekey same =>
    obtain ⟨_, _, _, positive⟩ := described
    exact rekey_agrees inv fields rfl same positive
  | status => exact status_agrees inv fields rfl
  | ping =>
    obtain ⟨_, _, token⟩ := described
    exact ping_agrees fields rfl token.2.1 (fill_text (Nat.lt_succ_of_le token.2.1))
  | leave => exact leave_agrees fields (info_kind _ _)

theorem serve_ends {server : Server} {l : Live server.firstKeyEpoch} {nowNs : ℕ} {answer : Answer}
    {t : State server.firstKeyEpoch} (served : serve server l nowNs body = some (answer, t)) :
    t = .closed ↔ answer = .goodbye := by
  unfold serve at served
  repeat' split at served
  all_goals cases served
  all_goals simp [Live.at, Live.close]

theorem granted_frame {m : GmControlMessageInfo} {nowNs : UInt64} {kind next edit}
    (grants : Grants s m nowNs kind next edit) (action : GmControlAction) :
    (edit action).status = action.status ∧ (edit action).kind = action.kind ∧
      (edit action).responseId = action.responseId ∧
      (edit action).terminal = action.terminal := by
  cases grants <;> exact ⟨rfl, rfl, rfl, rfl⟩

theorem received_fields (fields : LiveFields s l) (message : Message) (nowNs : UInt64) :
    LiveFields (received s (message.info sizeofGmControlMessageInfo) nowNs)
      { l with lastRequestId := idOf message } :=
  ⟨info_id _ message, fields.next, fields.closed, fields.state, fields.port,
    fun stream member => { fields.stream stream member with }⟩

theorem counted_fields {t : State (server config).firstKeyEpoch} (fields : StateFields s t) :
    StateFields (counted s) t := by
  cases t with
  | closed => exact fields
  | live l =>
    exact ⟨fields.request, fields.next, fields.closed, fields.state, fields.port,
      fun stream member => { fields.stream stream member with }⟩

theorem conflicted_fields {t : State (server config).firstKeyEpoch} (fields : StateFields s t) :
    StateFields (conflicted s) t := by
  cases t with
  | closed => exact fields
  | live l =>
    exact ⟨fields.request, fields.next, fields.closed, fields.state, fields.port,
      fun stream member => { fields.stream stream member with }⟩

theorem live_state (fields : LiveFields s l) : s.state ≠ .closed := by
  intro closed
  have same := (state_closed_iff (t := .live l) fields).mp closed
  cases same

end Requests

section Calls
variable {config : GmControlSessionConfig} {s : GmControlSession} {jsonText : GmBytes}
  {nowNs : UInt64} {outAction : GmControlAction}

theorem sized_valid {t : State (server config).firstKeyEpoch} (related : Related config s t)
    (sized : sizeofGmControlAction ≤ outAction.structSize) :
    validSessionForIngest s outAction = true := by
  simp [validSessionForIngest, related.proper.1, related.proper.2, sized]

/-- Whatever payload a closed session gets, it stays closed. -/
theorem closed_reacts (valid : validSessionForIngest s outAction = true)
    (closed : s.state = .closed) :
    Shows config (.ingest jsonText nowNs outAction) (.conflict 0)
        (step s (.ingest jsonText nowNs outAction)).1 ∧
      (step s (.ingest jsonText nowNs outAction)).2.state = .closed := by
  rw [closed_ingest jsonText nowNs valid closed, reject_conflict_split]
  exact ⟨⟨rfl, rfl, rfl, rfl, rfl⟩, closed⟩

theorem unparsed_reacts (valid : validSessionForIngest s outAction = true)
    (live : s.state ≠ .closed) (none : ∀ message, ¬ Holds jsonText message) :
    Shows config (.ingest jsonText nowNs outAction) (.hangUp 0)
        (step s (.ingest jsonText nowNs outAction)).1 ∧
      (step s (.ingest jsonText nowNs outAction)).2.state = .closed := by
  obtain ⟨status, failed⟩ := garbage_errs none
  rw [unparsed_ingest nowNs valid live failed, reject_close_split]
  exact ⟨⟨parse_message_errs _ _ status failed, rfl, rfl, rfl, rfl⟩, rfl⟩

theorem stale_reacts {message : Message} (valid : validSessionForIngest s outAction = true)
    (live : s.state ≠ .closed) (holds : Holds jsonText message)
    (stale : ensureRequest s (message.info sizeofGmControlMessageInfo) = false) :
    Shows config (.ingest jsonText nowNs outAction) (.hangUp (idOf message))
        (step s (.ingest jsonText nowNs outAction)).1 ∧
      (step s (.ingest jsonText nowNs outAction)).2.state = .closed := by
  rw [stale_step valid live (held_parsed holds) stale]
  have refusal : Json.Refusal .badMessage := by decide
  exact ⟨⟨refusal, rfl, rfl, info_id _ message, rfl⟩, rfl⟩

/-- A request that is not grantable is a conflict. -/
theorem ungrantable_step {m : GmControlMessageInfo}
    (valid : validSessionForIngest s outAction = true) (live : s.state ≠ .closed)
    (arrives : Arrives s jsonText m) (refused : ¬ Grantable s m) :
    step s (.ingest jsonText nowNs outAction) =
      (⟨.stateConflict,
          fillAction outAction (conflicted (received s m nowNs)) .sendErrorResult m.id
            .stateConflict 0⟩,
        conflicted (received s m nowNs)) := by
  have denied : (step s (.ingest jsonText nowNs outAction)).1.status ≠ .ok := by
    intro accepted
    obtain ⟨_, other, also, grantable⟩ := (ingest_ok_iff valid).mp accepted
    cases arrives_unique arrives also
    exact refused grantable
  have out := step_steps s (.ingest jsonText nowNs outAction)
  generalize step s (.ingest jsonText nowNs outAction) = result at out denied
  obtain ⟨reply, next⟩ := result
  dsimp only at out denied
  cases out with
  | invalidIngest invalid => cases invalid.symm.trans valid
  | closed _ closed => exact absurd closed live
  | refused _ _ _ _ bad => exact absurd ⟨m, arrives⟩ bad
  | conflict other _ _ also =>
    cases arrives_unique arrives also
    rfl
  | granted => exact absurd rfl denied

theorem request_reacts {l : Live (server config).firstKeyEpoch} {message : Message}
    {body : Request} (config_valid : ValidConfig config)
    (valid : validSessionForIngest s outAction = true) (inv : Invariant config s)
    (fields : LiveFields s l) (holds : Holds jsonText message) (makes : Makes message body) :
    Shows config (.ingest jsonText nowNs outAction)
        (react (server config) (.live l) (.request (idOf message) nowNs.toNat body)).1
        (step s (.ingest jsonText nowNs outAction)).1 ∧
      StateFields (step s (.ingest jsonText nowNs outAction)).2
        (react (server config) (.live l) (.request (idOf message) nowNs.toNat body)).2 := by
  have live := live_state fields
  have kinds := makes_kind makes
  have number := info_id sizeofGmControlMessageInfo message
  have fresh : ensureRequest s (message.info sizeofGmControlMessageInfo) = true ↔
      ¬ idOf message ≤ l.lastRequestId := by
    rw [ensure_request_iff, info_kind, and_iff_right kinds, UInt32.lt_iff_toNat_lt, number,
      fields.request]
    exact Nat.not_le.symm
  by_cases old : idOf message ≤ l.lastRequestId
  · have stale : ensureRequest s (message.info sizeofGmControlMessageInfo) = false := by
      simpa using fun new => fresh.mp new old
    simp only [react, if_pos old]
    exact stale_reacts valid live holds stale
  have arrives : Arrives s jsonText (message.info sizeofGmControlMessageInfo) :=
    ⟨held_parsed holds, fresh.mpr old⟩
  obtain ⟨_, members, _, _, described⟩ := holds
  have inv := invariant_congr inv
    (core_received s (message.info sizeofGmControlMessageInfo) nowNs).symm
  have agrees := request_agrees nowNs config_valid inv (received_fields fields message nowNs)
    described makes
  simp only [react, if_neg old]
  cases served : serve (server config) { l with lastRequestId := idOf message } nowNs.toNat
      body with
  | none =>
    rw [served] at agrees
    rw [ungrantable_step valid live arrives agrees]
    exact ⟨⟨rfl, rfl, rfl, number, rfl⟩,
      conflicted_fields (t := .live _) (received_fields fields message nowNs)⟩
  | some result =>
    obtain ⟨answer, t⟩ := result
    rw [served] at agrees
    obtain ⟨next, edit, granted⟩ := agrees
    obtain ⟨status, kind, responseId, terminal⟩ := granted_frame granted.grants
      (fillAction outAction next answer.kind (message.info sizeofGmControlMessageInfo).id .ok
        (if next.state = .closed then 1 else 0))
    rw [granted_step valid live arrives granted.begun granted.grants]
    refine ⟨⟨rfl, status, kind, (congrArg UInt32.toNat responseId).trans number, ?_,
      granted.shown _ _⟩, counted_fields granted.fields⟩
    rw [← serve_ends served, ← state_closed_iff granted.fields]
    refine (iff_of_eq (congrArg (· = 1) terminal)).trans ?_
    simp [fillAction]

theorem validation_reacts {l : Live (server config).firstKeyEpoch} {streamId keyEpoch : UInt32}
    (valid : validSessionForIngest s outAction = true) (inv : Invariant config s)
    (fields : LiveFields s l) :
    Shows config (.markPathValidated streamId keyEpoch outAction)
        (react (server config) (.live l) (.validated streamId.toNat keyEpoch.toNat)).1
        (step s (.markPathValidated streamId keyEpoch outAction)).1 ∧
      StateFields (step s (.markPathValidated streamId keyEpoch outAction)).2
        (react (server config) (.live l) (.validated streamId.toNat keyEpoch.toNat)).2 := by
  have out := step_steps s (.markPathValidated streamId keyEpoch outAction)
  generalize step s (.markPathValidated streamId keyEpoch outAction) = result at out
  obtain ⟨reply, next⟩ := result
  dsimp only at out ⊢
  cases out with
  | invalidMark invalid => cases invalid.symm.trans valid
  | unmatched _ other =>
    have conflict : react (server config) (.live l) (.validated streamId.toNat keyEpoch.toNat) =
        (.conflict 0, .live l) := by
      cases phase : l.phase with
      | owning port stream =>
        have owns := (owning_state fields phase).2
        have held := (owning_fields fields phase).2
        have current : s.streamId.toNat = l.next.val := (inv.owned owns).streamId ▸ fields.next
        have unfit : ¬ (streamId.toNat = l.next.val ∧ keyEpoch.toNat = stream.keyEpoch) := by
          rintro ⟨named, epoch⟩
          have active : activeStreamMatches s streamId = true := (active_iff s streamId).mpr
            ⟨(inv.owned owns).nonzero, UInt32.toNat_inj.mp (current.trans named.symm), owns⟩
          have same : s.keyEpoch = keyEpoch :=
            UInt32.toNat_inj.mp (held.keyEpoch.trans epoch.symm)
          simp [active, same] at other
        simp only [react, phase, if_neg unfit]
      | _ => simp only [react, phase]
    rw [conflict]
    exact ⟨⟨rfl, rfl, rfl, rfl, rfl⟩, conflicted_fields (t := .live l) fields⟩
  | validated _ active same =>
    obtain ⟨_, named, owns⟩ := (active_iff s streamId).mp active
    cases phase : l.phase with
    | owning port stream =>
      have held := (owning_fields fields phase).2
      have current : s.streamId.toNat = l.next.val := (inv.owned owns).streamId ▸ fields.next
      have fits : streamId.toNat = l.next.val ∧ keyEpoch.toNat = stream.keyEpoch :=
        ⟨named ▸ current, same ▸ held.keyEpoch⟩
      simp only [react, phase, if_pos fits]
      refine ⟨⟨rfl, rfl, rfl, rfl, rfl, current, congrArg UInt32.toNat same,
        copy_literal_text (by decide) (by decide)⟩, ?_⟩
      have validated : StreamFields
          { s with pathValidated := 1, actionsEmitted := s.actionsEmitted + 1 } stream.validate :=
        ⟨held.keyEpoch, held.profile, held.playout, by simp [Stream.validate], held.timestamp⟩
      exact ⟨fields.request, fields.next, fields.closed, (owning_state fields phase).1,
        of_one_member (owning_fields fields phase).1, of_one_member validated⟩
    | _ => exact absurd active (idle_inactive fields (by simp [phase]) streamId)

/-- One call: the reply shows the reaction, and the fields follow. -/
theorem call_reacts {t : State (server config).firstKeyEpoch} {call : Call} {input : Input}
    (config_valid : ValidConfig config) (related : Related config s t) (said : Says call input) :
    Shows config call (react (server config) t input).1 (step s call).1 ∧
      StateFields (step s call).2 (react (server config) t input).2 := by
  have fields := related.fields
  cases said with
  | misuse small =>
    have invalid : ¬ validSessionForIngest s call.outAction = true := by
      simp [validSessionForIngest, Nat.not_le.mpr small]
    have out := step_steps s call
    generalize step s call = result at out
    obtain ⟨reply, next⟩ := result
    rw [react]
    cases out with
    | invalidIngest | invalidMark => exact ⟨rfl, fields⟩
    | closed valid | refused _ _ valid | conflict _ valid | granted _ valid | unmatched valid
    | validated valid => exact absurd valid invalid
  | garbage sized none =>
    have valid := sized_valid related sized
    cases t with
    | closed => exact closed_reacts valid fields
    | live l => exact unparsed_reacts valid (live_state fields) none
  | stray sized holds other =>
    have valid := sized_valid related sized
    cases t with
    | closed => exact closed_reacts valid fields
    | live l =>
      refine stale_reacts valid (live_state fields) holds ?_
      obtain ⟨_, members, _, _, described⟩ := holds
      rw [← Bool.not_eq_true, ensure_request_iff, info_kind]
      rintro ⟨⟨low, high⟩, _⟩
      obtain ⟨body, makes⟩ := described_makes described low high
      exact other body makes
  | request sized holds makes =>
    have valid := sized_valid related sized
    cases t with
    | closed => exact closed_reacts valid fields
    | live l => exact request_reacts config_valid valid related.inv fields holds makes
  | @validated streamId keyEpoch outAction sized =>
    have valid := sized_valid related sized
    cases t with
    | live l => exact validation_reacts valid related.inv fields
    | closed =>
      have out := step_steps s (.markPathValidated streamId keyEpoch outAction)
      generalize step s (.markPathValidated streamId keyEpoch outAction) = result at out
      obtain ⟨reply, next⟩ := result
      cases out with
      | invalidMark invalid => cases invalid.symm.trans valid
      | unmatched => exact ⟨⟨rfl, rfl, rfl, rfl, rfl⟩, fields⟩
      | validated _ active =>
        obtain ⟨_, _, owns⟩ := (active_iff s _).mp active
        exact absurd fields (owns_live owns)

theorem session_simulates (config_valid : ValidConfig config) :
    Simulates step (react (server config)) Says (Shows config) (Related config) where
  shown related said := (call_reacts config_valid related said).1
  kept {s} {_} {call} {_} related said := by
    obtain ⟨size, version⟩ := step_record s call
    refine ⟨?_, step_invariant call related.inv, (call_reacts config_valid related said).2⟩
    rw [size, version]
    exact related.proper

end Calls

/-- The id that the first stream gets. -/
def firstStream (config : GmControlSessionConfig) : StreamId :=
  ⟨(streamIdOrDefault config.streamId).toNat,
    below_limits ((nonzero_iff _).mp (stream_id_or_default_nonzero config.streamId))⟩

theorem init_related {config : GmControlSessionConfig} {blank start : GmControlSession}
    (init : gmControlSessionInit config blank = (.ok, start)) :
    Related config start (begin (server config) (firstStream config)) := by
  obtain ⟨valid, size, rfl⟩ := init_ok init
  refine ⟨⟨size, rfl⟩, initial_invariant valid _, rfl, rfl, fun id => ?_, rfl, of_no_member,
    of_no_member⟩
  have positive := id.property.1
  simp only [initialSession, UInt32.reduceToNat, reduceCtorEq, iff_false]
  omega

/-- Whatever the calls of a run say, the session reacts as the protocol does. -/
theorem session_follows_protocol {config : GmControlSessionConfig} {blank start : GmControlSession}
    (init : gmControlSessionInit config blank = (.ok, start)) (calls : List Call) :
    (∃ inputs, List.Forall₂ Says calls inputs) ∧
      ∀ inputs, List.Forall₂ Says calls inputs →
        List.Forall₂ (Explains Says (Shows config)) (events step start calls)
            (events (react (server config)) (begin (server config) (firstStream config))
              inputs) ∧
          StateFields (final step start calls)
            (final (react (server config)) (begin (server config) (firstStream config))
              inputs) := by
  refine ⟨requests_exist call_said calls, fun inputs said => ?_⟩
  obtain ⟨explained, related⟩ :=
    run_simulated (session_simulates (init_ok init).1) said (init_related init)
  exact ⟨explained, related.fields⟩

theorem sample_follows_protocol :
    ∃ inputs, List.Forall₂ Says sampleOpening inputs ∧
      List.Forall₂ (Explains Says (Shows sampleConfig)) (events step sampleSession sampleOpening)
        (events (react (server sampleConfig))
          (begin (server sampleConfig) (firstStream sampleConfig)) inputs) ∧
      StateFields openedSession
        (final (react (server sampleConfig))
          (begin (server sampleConfig) (firstStream sampleConfig)) inputs) := by
  obtain ⟨⟨inputs, said⟩, follows⟩ := session_follows_protocol sample_init sampleOpening
  obtain ⟨explained, fields⟩ := follows inputs said
  rw [sample_opened] at fields
  exact ⟨inputs, said, explained, fields⟩

end GhostMedia.Session.Protocol
