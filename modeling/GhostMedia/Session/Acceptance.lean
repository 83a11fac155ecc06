import GhostMedia.Session.Bookkeeping

/- Which calls a session accepts, as a condition on the payload and the session before the
   call. -/
namespace GhostMedia.Session
open CString Control

/-- The guards of a request, kind by kind. -/
def Grantable (s : GmControlSession) (m : GmControlMessageInfo) : Prop :=
  match m.kind with
  | .requestSessionHello => s.state = .tlsReady
  | .requestTransportBind =>
    GmControlSessionState.hello.code ≤ s.state.code ∧
      sameCStringWithin (gmControlSessionIdHexBytes + 1) m.sessionId.bytes s.sessionId.bytes =
        true ∧
      m.udpPort = s.windowsUdpPort
  | .requestStreamOpen =>
    s.state = .bound ∨
      (s.state = .streamOpen ∨ s.state = .streaming) ∧ sameProfile s.profile m.profile = true ∧
        s.playoutTargetMs = m.playoutTargetMs
  | .requestStreamStart =>
    activeStreamMatches s m.streamId = true ∧ s.pathValidated ≠ 0 ∧
      (s.state = .streaming →
        sameCString s.firstMediaTimestamp.bytes m.firstMediaTimestamp.bytes = true)
  | .requestStreamStop => activeStreamMatches s m.streamId = true
  | .requestStreamClose =>
    activeStreamMatches s m.streamId = true ∨ s.state = .bound ∧ m.streamId = s.lastClosedStreamId
  | .requestStreamRekey =>
    activeStreamMatches s m.streamId = true ∧
      (m.keyEpoch = s.keyEpoch + 1 ∨ m.keyEpoch = s.keyEpoch ∧ m.keyEpoch = s.lastRekeyEpoch)
  | .requestStatusGet | .requestPing => GmControlSessionState.hello.code ≤ s.state.code
  | .requestSessionClose => s.state ≠ .tlsReady
  | _ => False

/-- A well-formed request with a new id whose guards hold, in a session that is not closed. -/
def AcceptsPayload (s : GmControlSession) (jsonText : GmBytes) : Prop :=
  s.state ≠ .closed ∧ ∃ m, Arrives s jsonText m ∧ Grantable s m

section Guards
variable {s : GmControlSession} {m : GmControlMessageInfo} {nowNs : UInt64}

theorem grants_grantable {kind next edit}
    (begun : m.kind = .requestSessionHello ∨ s.state ≠ .tlsReady)
    (grants : Grants s m nowNs kind next edit) : Grantable s m := by
  cases grants with
  | hello kind state => simpa only [Grantable, kind] using state
  | bind kind state same port => simpa only [Grantable, kind] using ⟨state, same, port⟩
  | «open» kind state => simpa only [Grantable, kind] using Or.inl state
  | openAgain kind state profile playout =>
    simpa only [Grantable, kind] using Or.inr ⟨state, profile, playout⟩
  | start kind active validated again =>
    simpa only [Grantable, kind] using ⟨active, validated, again⟩
  | stop kind active => simpa only [Grantable, kind] using active
  | close kind active => simpa only [Grantable, kind] using Or.inl active
  | closeAgain kind state last => simpa only [Grantable, kind] using Or.inr ⟨state, last⟩
  | rekey kind active next => simpa only [Grantable, kind] using ⟨active, Or.inl next⟩
  | rekeyAgain kind active _ current last =>
    simpa only [Grantable, kind] using ⟨active, Or.inr ⟨current, last⟩⟩
  | status kind state | ping kind state => simpa only [Grantable, kind] using state
  | sessionCloseActive kind | sessionCloseIdle kind =>
    rcases begun with hello | begun
    · cases hello.symm.trans kind
    · simpa only [Grantable, kind] using begun

variable (nowNs) in
theorem grantable_grants (grantable : Grantable s m) :
    ∃ kind next edit, Grants s m nowNs kind next edit := by
  cases kind : m.kind with
  | requestSessionHello =>
    simp only [Grantable, kind] at grantable
    exact ⟨_, _, _, .hello kind grantable⟩
  | requestTransportBind =>
    simp only [Grantable, kind] at grantable
    obtain ⟨state, same, port⟩ := grantable
    exact ⟨_, _, _, .bind kind state same port⟩
  | requestStreamOpen =>
    simp only [Grantable, kind] at grantable
    rcases grantable with state | ⟨state, profile, playout⟩
    · exact ⟨_, _, _, .open kind state⟩
    · exact ⟨_, _, _, .openAgain kind state profile playout⟩
  | requestStreamStart =>
    simp only [Grantable, kind] at grantable
    obtain ⟨active, validated, again⟩ := grantable
    exact ⟨_, _, _, .start kind active validated again⟩
  | requestStreamStop =>
    simp only [Grantable, kind] at grantable
    exact ⟨_, _, _, .stop kind grantable⟩
  | requestStreamClose =>
    simp only [Grantable, kind] at grantable
    rcases grantable with active | ⟨state, last⟩
    · exact ⟨_, _, _, .close kind active⟩
    · exact ⟨_, _, _, .closeAgain kind state last⟩
  | requestStreamRekey =>
    simp only [Grantable, kind] at grantable
    obtain ⟨active, epoch⟩ := grantable
    by_cases next : m.keyEpoch = s.keyEpoch + 1
    · exact ⟨_, _, _, .rekey kind active next⟩
    · obtain ⟨current, last⟩ := epoch.resolve_left next
      exact ⟨_, _, _, .rekeyAgain kind active next current last⟩
  | requestStatusGet =>
    simp only [Grantable, kind] at grantable
    exact ⟨_, _, _, .status kind grantable⟩
  | requestPing =>
    simp only [Grantable, kind] at grantable
    exact ⟨_, _, _, .ping kind grantable⟩
  | requestSessionClose =>
    by_cases active : activeStreamMatches s s.streamId = true
    · exact ⟨_, _, _, .sessionCloseActive kind active⟩
    · exact ⟨_, _, _, .sessionCloseIdle kind (by simpa using active)⟩
  | _ => simp only [Grantable, kind] at grantable

theorem grantable_begun (grantable : Grantable s m) :
    m.kind = .requestSessionHello ∨ s.state ≠ .tlsReady := by
  have late (begun : GmControlSessionState.hello.code ≤ s.state.code) : s.state ≠ .tlsReady := by
    intro ready
    rw [ready] at begun
    exact absurd begun (by decide)
  have owner {streamId : UInt32} (active : activeStreamMatches s streamId = true) :
      s.state ≠ .tlsReady := by
    intro ready
    simp [activeStreamMatches, ready] at active
  obtain ⟨_, _, _, grants⟩ := grantable_grants 0 grantable
  cases grants with
  | hello kind => exact .inl kind
  | bind _ state | status _ state | ping _ state => exact .inr (late state)
  | «open» _ state | closeAgain _ state => exact .inr (by simp [state])
  | openAgain _ owns =>
    refine .inr fun ready => ?_
    rcases owns with state | state
    · cases state.symm.trans ready
    · cases state.symm.trans ready
  | start _ active | stop _ active | close _ active | rekey _ active | rekeyAgain _ active =>
    exact .inr (owner active)
  | sessionCloseActive kind | sessionCloseIdle kind =>
    exact .inr (by simpa only [Grantable, kind] using grantable)

end Guards

theorem ingest_ok_iff {s : GmControlSession} {jsonText : GmBytes} {nowNs : UInt64}
    {outAction : GmControlAction} (valid : validSessionForIngest s outAction = true) :
    (step s (.ingest jsonText nowNs outAction)).1.status = .ok ↔ AcceptsPayload s jsonText := by
  constructor
  · intro accepted
    obtain ⟨m, kind, next, edit, ⟨_, arrives⟩, live, grants, _⟩ := accepted_step accepted
    have begun : m.kind = .requestSessionHello ∨ s.state ≠ .tlsReady := by
      by_contra early
      obtain ⟨other, ready⟩ := not_or.mp early
      have conflict : (step s (.ingest jsonText nowNs outAction)).1.status = .stateConflict :=
        early_step valid arrives other (not_not.mp ready)
      cases conflict.symm.trans accepted
    exact ⟨live, m, arrives, grants_grantable (s := received s m nowNs) begun grants⟩
  · rintro ⟨live, m, arrives, grantable⟩
    obtain ⟨kind, next, edit, grants⟩ :=
      grantable_grants (s := received s m nowNs) nowNs grantable
    rw [granted_step valid live arrives (grantable_begun grantable) grants]
    rfl

theorem mark_path_validated_ok_iff {s : GmControlSession} {streamId keyEpoch : UInt32}
    {outAction : GmControlAction} (valid : validSessionForIngest s outAction = true) :
    (step s (.markPathValidated streamId keyEpoch outAction)).1.status = .ok ↔
      activeStreamMatches s streamId = true ∧ s.keyEpoch = keyEpoch := by
  have out := step_steps s (.markPathValidated streamId keyEpoch outAction)
  generalize step s (.markPathValidated streamId keyEpoch outAction) = result at out
  obtain ⟨reply, next⟩ := result
  dsimp only at out ⊢
  cases out with
  | invalidMark invalid => cases invalid.symm.trans valid
  | unmatched _ other =>
    refine iff_of_false (by simp) fun both => ?_
    simp [both] at other
  | validated _ active current => exact iff_of_true rfl ⟨active, current⟩

end GhostMedia.Session
