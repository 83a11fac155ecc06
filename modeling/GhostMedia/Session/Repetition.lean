import GhostMedia.Session.QuietCalls

/- A request repeated under a new id is granted again on what its first execution left
   behind, with the same answer and no further effect. -/
namespace GhostMedia.Session
open CString Control Runs

/-- The requests that open, drive and close a stream, and the bind. -/
def repeatable : List GmControlMessageKind :=
  [.requestTransportBind, .requestStreamOpen, .requestStreamStart, .requestStreamStop,
    .requestStreamClose, .requestStreamRekey]

section Grants
variable {s t next : GmControlSession} {m : GmControlMessageInfo} {nowNs : UInt64}
  {kind : GmControlActionKind} {edit : GmControlAction → GmControlAction}

theorem same_profile_refl (profile : GmAudioProfile) : sameProfile profile profile = true := by
  simp [sameProfile]

theorem active_owns (active : activeStreamMatches s m.streamId = true) : OwnsStream s :=
  ((active_iff s m.streamId).mp active).2.2

theorem stop_repeated {s : GmControlSession} (kind : m.kind = .requestStreamStop)
    (active : activeStreamMatches s m.streamId = true) (state : s.state = .streamOpen) :
    Grants s m nowNs .sendStreamStopResult s
      fun a => { a with state := copyLiteral _ (ascii "stopped") } := by
  have repeated : Grants s m nowNs .sendStreamStopResult _ _ := Grants.stop kind active
  have other : s.state ≠ .streaming := by simp [state]
  rw [if_neg other, ← state] at repeated
  exact repeated

theorem start_repeated {s : GmControlSession} (kind : m.kind = .requestStreamStart)
    (active : activeStreamMatches s m.streamId = true) (validated : s.pathValidated ≠ 0)
    (state : s.state = .streaming)
    (stored : copyCString _ m.firstMediaTimestamp.bytes = s.firstMediaTimestamp)
    (same : sameCString s.firstMediaTimestamp.bytes m.firstMediaTimestamp.bytes = true) :
    Grants s m nowNs .sendStreamStartResult s
      fun a =>
        { a with
          state := copyLiteral _ (ascii "started")
          firstMediaTimestamp := copyCString _ m.firstMediaTimestamp.bytes } := by
  have repeated : Grants s m nowNs .sendStreamStartResult _ _ :=
    Grants.start kind active validated fun _ => same
  rw [if_neg (not_not.mpr state), stored, ← state] at repeated
  rw [stored]
  exact repeated

/-- A granted request that can be repeated leaves a session past the hello. -/
theorem repeatable_state (grants : Grants s m nowNs kind next edit)
    (again : m.kind ∈ repeatable) : GmControlSessionState.hello.code ≤ next.state.code := by
  cases grants with
  | hello other | status other | ping other | sessionCloseActive other | sessionCloseIdle other =>
    exact absurd (other ▸ again) (by decide)
  | bind _ state =>
    by_cases hello : s.state = .hello
    · simp [hello, GmControlSessionState.code]
    · simpa [hello] using state
  | «open» | start | stop | close => simp [GmControlSessionState.code]
  | openAgain _ owns => exact owns_past_hello owns
  | rekey _ active | rekeyAgain _ active => exact owns_past_hello (active_owns active)
  | closeAgain _ state => simp [state, GmControlSessionState.code]

/-- The first execution is recognised: the request is granted again and changes nothing. -/
theorem grants_again (grants : Grants s m nowNs kind next edit) (again : m.kind ∈ repeatable)
    (plain : m.kind = .requestStreamStart →
      copyCString _ m.firstMediaTimestamp.bytes = m.firstMediaTimestamp)
    (same : core next = core t) (id : UInt32) (laterNs : UInt64) :
    Grants t { m with id := id } laterNs kind t edit := by
  rw [rebooked_of_core same]
  generalize t = b
  cases grants with
  | hello other | status other | ping other | sessionCloseActive other | sessionCloseIdle other =>
    exact absurd (other ▸ again) (by decide)
  | bind kind state sessionId port =>
    by_cases hello : s.state = .hello
    · simp only [if_pos hello]
      exact .bind (s := rebooked { s with state := .bound } b) kind
        (by simp [rebooked, GmControlSessionState.code]) sessionId port
    · simp only [if_neg hello]
      have repeated : Grants (rebooked s b) { m with id := id } laterNs .sendTransportBindResult
          _ _ := Grants.bind kind state sessionId port
      have other : (rebooked s b).state ≠ .hello := hello
      rw [if_neg other] at repeated
      exact repeated
  | «open» kind state => exact .openAgain kind (.inl rfl) (same_profile_refl m.profile) rfl
  | openAgain kind state profile playout => exact .openAgain kind state profile playout
  | start kind active validated =>
    have copied := plain kind
    refine start_repeated (m := { m with id := id }) kind ?_ validated rfl rfl ?_
    · simp only [activeStreamMatches, Bool.and_eq_true] at active ⊢
      exact ⟨active.1, rfl⟩
    · rw [copied]
      simp [rebooked, sameCString]
  | stop kind active =>
    refine stop_repeated (m := { m with id := id }) kind ?_ rfl
    simp only [activeStreamMatches, Bool.and_eq_true] at active ⊢
    exact ⟨active.1, rfl⟩
  | close kind active => exact .closeAgain kind rfl rfl
  | closeAgain kind state last => exact .closeAgain kind state last
  | rekey kind active =>
    refine .rekeyAgain kind active ?_ rfl rfl
    simp [rebooked]
  | rekeyAgain kind active new current last => exact .rekeyAgain kind active new current last

/-- Apart from the id it answers, an answer depends on neither the record it is written to
    nor bookkeeping and metrics. -/
theorem answer_again (grants : Grants s m nowNs kind next edit) (same : core next = core t)
    (id : UInt32) (first second : GmControlAction) :
    (answer t { m with id := id } second kind edit).action =
      { (answer next m first kind edit).action with
        structSize := second.structSize
        responseId := id } := by
  rw [rebooked_of_core same]
  cases grants <;> rfl

theorem valid_again (grants : Grants s m nowNs kind next edit) (same : core next = core t)
    {first second : GmControlAction} (valid : validSessionForIngest s first = true)
    (size : sizeofGmControlAction ≤ second.structSize) : validSessionForIngest t second = true := by
  have record : next.structSize = s.structSize ∧ next.abiVersion = s.abiVersion := by
    cases grants <;> exact ⟨rfl, rfl⟩
  rw [rebooked_of_core same]
  simp only [validSessionForIngest, rebooked, record, Bool.and_eq_true, decide_eq_true_eq,
    ge_iff_le] at valid ⊢
  exact ⟨⟨valid.1.1, size⟩, valid.2⟩

end Grants

/-- The second execution of a request: granted with the answer of the first under its own id,
    and only the bookkeeping of a granted request besides. -/
theorem request_repeats {s t next : GmControlSession} {m : GmControlMessageInfo}
    {jsonText : GmBytes} {nowNs laterNs : UInt64} {first second : GmControlAction} {kind edit}
    {id : UInt32} (grants : Grants s m nowNs kind next edit) (again : m.kind ∈ repeatable)
    (plain : m.kind = .requestStreamStart →
      copyCString _ m.firstMediaTimestamp.bytes = m.firstMediaTimestamp)
    (same : core next = core t) (valid : validSessionForIngest t second = true)
    (arrives : Arrives t jsonText { m with id := id }) :
    step t (.ingest jsonText laterNs second) =
      (⟨.ok,
        { (answer next m first kind edit).action with
          structSize := second.structSize
          responseId := id }⟩,
        counted (received t { m with id := id } laterNs)) := by
  have state : (core next).state = (core t).state := congrArg GmControlSession.state same
  have past : GmControlSessionState.hello.code ≤ t.state.code :=
    (repeatable_state grants again).trans_eq (congrArg GmControlSessionState.code state)
  have live : t.state ≠ .closed := by
    intro closed
    exact absurd (closed ▸ past) (by decide)
  have begun : t.state ≠ .tlsReady := by
    intro ready
    exact absurd (ready ▸ past) (by decide)
  have repeated := grants_again grants again plain
    (t := received t { m with id := id } laterNs) same id laterNs
  rw [granted_step valid live arrives (.inr begun) repeated]
  have answered := answer_again grants (t := received t { m with id := id } laterNs) same id first
    second
  exact congrArg₂ Prod.mk (congrArg (Reply.mk .ok) answered) rfl

theorem quiet_run {s : GmControlSession} {between : List Call}
    (quiet : ∀ e ∈ events step s between, Quiet e) : core (final step s between) = core s := by
  induction between generalizing s with
  | nil => rfl
  | cons call between ih =>
    rw [events, List.forall_mem_cons] at quiet
    exact (ih quiet.2).trans (quiet_core quiet.1)

/-- An accepted bind or stream request, repeated under a new id after any quiet calls, is
    accepted with the same action and counted, and that is all it does. -/
theorem repeated_request_idempotent (s : GmControlSession) (jsonText : GmBytes) (nowNs : UInt64)
    (outAction : GmControlAction) (m : GmControlMessageInfo)
    (carries : Carries (.ingest jsonText nowNs outAction) m) (repeats : m.kind ∈ repeatable)
    (accepted : (step s (.ingest jsonText nowNs outAction)).1.status = .ok) (between : List Call)
    (quiet : ∀ e ∈ events step (step s (.ingest jsonText nowNs outAction)).2 between, Quiet e)
    (laterText : GmBytes) (laterNs : UInt64) (laterAction : GmControlAction) (id : UInt32)
    (again : Carries (.ingest laterText laterNs laterAction) { m with id := id })
    (size : sizeofGmControlAction ≤ laterAction.structSize)
    (larger :
      (final step (step s (.ingest jsonText nowNs outAction)).2 between).lastRequestId < id) :
    let t := final step (step s (.ingest jsonText nowNs outAction)).2 between
    step t (.ingest laterText laterNs laterAction) =
      (⟨.ok,
        { (step s (.ingest jsonText nowNs outAction)).1.action with
          structSize := laterAction.structSize
          responseId := id }⟩,
        { t with
          lastRequestId := id
          lastUpdateNs := laterNs
          validRequests := t.validRequests + 1
          actionsEmitted := t.actionsEmitted + 1 }) := by
  obtain ⟨n, kind, next, edit, brings, _, grants, first⟩ := accepted_step accepted
  cases carries.symm.trans brings.2.1
  rw [first] at quiet larger ⊢
  intro t
  have same : core next = core t := (quiet_run quiet).symm
  have plain (start : m.kind = .requestStreamStart) := (start_arrives brings.2 start).2
  have valid : validSessionForIngest t laterAction = true :=
    valid_again grants same brings.1 size
  have arrives : Arrives t laterText { m with id := id } := by
    refine (arrives_iff laterNs laterAction _).mpr ⟨⟨again, ?_⟩, larger⟩
    exact ((ensure_request_iff s m).mp brings.2.2).1
  exact request_repeats grants repeats plain same valid arrives

theorem repeated_request_idempotent_sample :
    step (pinged openedSession) (sampleOpen "8") =
      (⟨.ok, { (step boundSession (sampleOpen "3")).1.action with
          structSize := sizeofGmControlAction
          responseId := 8 }⟩,
        { pinged openedSession with
          lastRequestId := 8
          lastUpdateNs := 1000
          validRequests := 5
          actionsEmitted := 5 }) := by
  obtain ⟨_, _, open3, ping, open8⟩ := sample_requests_carry
  have opens := bound_session_opens
  obtain ⟨text3, first⟩ : ∃ text, sampleOpen "3" = .ingest text 1000 blankAction := ⟨_, rfl⟩
  obtain ⟨text8, second⟩ : ∃ text, sampleOpen "8" = .ingest text 1000 blankAction := ⟨_, rfl⟩
  rw [first] at open3 opens ⊢
  rw [second] at open8 ⊢
  have accepted : (step boundSession (.ingest text3 1000 blankAction)).1.status = .ok :=
    congrArg (·.1.status) (granted_step (by decide) (by decide) ⟨open3, by decide⟩
      (.inr (by decide)) (.open rfl rfl))
  have last : final step (step boundSession (.ingest text3 1000 blankAction)).2 [samplePing] =
      pinged openedSession := by
    rw [opens, final, final_nil, opened_session_pinged.2]
  have quiet : ∀ e ∈ events step (step boundSession (.ingest text3 1000 blankAction)).2
      [samplePing], Quiet e := by
    rw [opens, events, events_nil, List.forall_mem_singleton]
    exact .inr ⟨opened_session_pinged.1, _, ping, rfl⟩
  have repeated := repeated_request_idempotent boundSession text3 1000 blankAction _ open3
    (by decide) accepted [samplePing] quiet text8 1000 blankAction 8 open8 (Nat.le_refl _)
    (by rw [last]; decide)
  rw [last] at repeated
  exact repeated

end GhostMedia.Session
