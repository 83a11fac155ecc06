import GhostMedia.Session.ProtocolFields

/- One request, served by the protocol and decided by the C session: the session grants it
   exactly when the protocol has an answer, shows that answer in its action, and keeps the
   state that follows. -/
namespace GhostMedia.Session.Protocol
open Control CString

def Answer.kind : Answer → GmControlActionKind
  | .greeting => .sendSessionHelloResult
  | .pathBound => .sendTransportBindResult
  | .opened .. => .sendStreamOpenResult
  | .started .. => .sendStreamStartResult
  | .stopped .. => .sendStreamStopResult
  | .streamClosed .. => .sendStreamCloseResult
  | .rekeying .. => .sendStreamRekeyResult
  | .status .. => .sendStatusResult
  | .pong .. => .sendPingResult
  | .goodbye => .sendSessionCloseResult

def Activity.text : Activity → List UInt8
  | .none => ascii "none"
  | .open => ascii "open"
  | .started => ascii "started"

/-- What an action shows of an answer. A ping's token ends at its first NUL. -/
def Shown (config : GmControlSessionConfig) (action : GmControlAction) : Answer → Prop
  | .greeting =>
    action.serverId.text = config.serverId.text ∧ action.sessionId.text = config.sessionId.text ∧
      action.bootId.text = config.bootId.text ∧ action.udpPort = config.appleUdpPort ∧
      action.state.text = ascii "hello"
  | .pathBound => action.udpPort = config.appleUdpPort ∧ action.pathState.text = ascii "bound"
  | .opened id keyEpoch codec playout =>
    action.streamId.toNat = id.val ∧ action.keyEpoch.toNat = keyEpoch ∧
      action.profile = codec.profile ∧ action.packetIntervalUs = codec.profile.packetIntervalUs ∧
      action.playoutTargetMs.toNat = playout.val ∧ action.pathState.text = ascii "probing"
  | .started id timestamp =>
    action.streamId.toNat = id.val ∧ action.firstMediaTimestamp.text = timestamp.val ∧
      action.state.text = ascii "started"
  | .stopped id => action.streamId.toNat = id.val ∧ action.state.text = ascii "stopped"
  | .streamClosed id => action.streamId.toNat = id.val ∧ action.state.text = ascii "closed"
  | .rekeying id keyEpoch =>
    action.streamId.toNat = id.val ∧ action.keyEpoch.toNat = keyEpoch ∧
      action.state.text = ascii "rekeying"
  | .status available bound activity =>
    action.outputState.text = (if available then ascii "available" else ascii "unavailable") ∧
      action.transportState.text = (if bound then ascii "bound" else ascii "unbound") ∧
      action.sessionStreamState.text = activity.text
  | .pong token nowNs =>
    action.token.text = text token ∧ action.monotonicNs.text = Decimal.render nowNs
  | .goodbye => action.state.text = ascii "closed"

section Requests
variable {config : GmControlSessionConfig} {s : GmControlSession} {m : GmControlMessageInfo}
  {nowNs : UInt64} {l : Live (server config).firstKeyEpoch}

/-- The session grants the request with this answer, and goes on as the protocol does. -/
structure Granted (config : GmControlSessionConfig) (s : GmControlSession)
    (m : GmControlMessageInfo) (nowNs : UInt64) (answer : Answer)
    (t : State (server config).firstKeyEpoch) (next : GmControlSession)
    (edit : GmControlAction → GmControlAction) : Prop where
  begun : m.kind = .requestSessionHello ∨ s.state ≠ .tlsReady
  grants : Grants s m nowNs answer.kind next edit
  fields : StateFields next t
  shown : ∀ action terminal,
    Shown config (edit (fillAction action next answer.kind m.id .ok terminal)) answer

def Agrees (config : GmControlSessionConfig) (s : GmControlSession) (m : GmControlMessageInfo)
    (nowNs : UInt64) : Option (Answer × State (server config).firstKeyEpoch) → Prop
  | none => ¬ Grantable s m
  | some (answer, t) => ∃ next edit, Granted config s m nowNs answer t next edit

theorem hello_agrees (valid : ValidConfig config) (inv : Invariant config s)
    (fields : LiveFields s l) (kind : m.kind = .requestSessionHello) {port : Port}
    (same : m.udpPort.toNat = port.val) :
    Agrees config s m nowNs (serve (server config) l nowNs.toNat (.hello port)) := by
  have configured := inv.configured
  cases phase : l.phase with
  | ready =>
    have state := ready_state fields phase
    simp only [serve, phase]
    refine ⟨_, _, .inl kind, .hello kind state, ?_, fun action terminal => ?_⟩
    · exact { fields with
        state := rfl
        port := of_one_member same
        stream := of_no_member }
    · have server := config_uuid valid.serverId
      have session := config_session_id valid.sessionId
      have boot := config_uuid valid.bootId
      exact ⟨copied_text configured.serverId (Nat.lt_succ_of_le server.1.le),
        copied_text configured.sessionId (Nat.lt_succ_of_le session.1.le),
        copied_text configured.bootId (Nat.lt_succ_of_le boot.1.le), configured.appleUdpPort,
        copy_literal_text (by decide) (by decide)⟩
  | greeted peer =>
    simp [serve, phase, Agrees, Grantable, kind, (greeted_state fields phase).1]
  | bound peer =>
    simp [serve, phase, Agrees, Grantable, kind, (bound_state fields phase).1]
  | owning peer stream =>
    simpa [serve, phase, Agrees, Grantable, kind] using
      owns_past_ready (owning_state fields phase).2

theorem bind_agrees (valid : ValidConfig config) (inv : Invariant config s)
    (fields : LiveFields s l) (kind : m.kind = .requestTransportBind) {sessionId : List UInt8}
    {port : Port} (named : m.sessionId.text = sessionId) (same : m.udpPort.toNat = port.val) :
    Agrees config s m nowNs (serve (server config) l nowNs.toNat (.bind sessionId port)) := by
  have session := session_named_iff inv valid named
  have reached (peer : Port) (current : s.windowsUdpPort.toNat = peer.val) :
      m.udpPort = s.windowsUdpPort ↔ port = peer := by
    rw [← UInt32.toNat_inj, same, current]
    exact Subtype.ext_iff.symm
  have shown (next : GmControlSession) (kept : next.appleUdpPort = s.appleUdpPort)
      (action : GmControlAction) (terminal : UInt8) :
      Shown config
        { fillAction action next .sendTransportBindResult m.id .ok terminal with
          pathState := copyLiteral _ (ascii "bound") } .pathBound :=
    ⟨kept.trans inv.configured.appleUdpPort, copy_literal_text (by decide) (by decide)⟩
  cases phase : l.phase with
  | ready =>
    have state := ready_state fields phase
    simp [serve, phase, Agrees, Grantable, kind, state, GmControlSessionState.code]
  | greeted peer =>
    obtain ⟨state, current⟩ := greeted_state fields phase
    simp only [serve, phase]
    split
    next fits =>
      refine ⟨_, _, .inr (by simp [state]), .bind kind (by simp [state]) (session.mpr fits.1)
        ((reached peer current).mpr fits.2), ?_, shown _ rfl⟩
      exact { fields with
        state := if_pos state
        port := of_one_member current
        stream := of_no_member }
    next fits =>
      simp only [Agrees, Grantable, kind, session, reached peer current]
      exact fun granted => fits granted.2
  | bound peer =>
    obtain ⟨state, current⟩ := bound_state fields phase
    simp only [serve, phase]
    split
    next fits =>
      have past : GmControlSessionState.hello.code ≤ s.state.code := by
        simp [state, GmControlSessionState.code]
      refine ⟨_, _, .inr (by simp [state]), .bind kind past (session.mpr fits.1)
        ((reached peer current).mpr fits.2), ?_, shown _ rfl⟩
      exact { fields with
        state := (if_neg (by simp [state])).trans state
        port := of_one_member current
        stream := of_no_member }
    next fits =>
      simp only [Agrees, Grantable, kind, session, reached peer current]
      exact fun granted => fits granted.2
  | owning peer stream =>
    have owns := (owning_state fields phase).2
    have current := (owning_fields fields phase).1
    have started : s.state ≠ .hello := by
      rcases owns with state | state <;> simp [state]
    simp only [serve, phase]
    split
    next fits =>
      refine ⟨_, _, .inr (owns_past_ready owns), .bind kind (owns_past_hello owns)
        (session.mpr fits.1) ((reached peer current).mpr fits.2), ?_, shown _ rfl⟩
      exact ⟨fields.request, fields.next, fields.closed, (if_neg started).trans fields.state,
        fields.port, fun stream member => { fields.stream stream member with }⟩
    next fits =>
      simp only [Agrees, Grantable, kind, session, reached peer current]
      exact fun granted => fits granted.2

theorem open_agrees (inv : Invariant config s) (fields : LiveFields s l)
    (kind : m.kind = .requestStreamOpen) {codec : Codec} {playout : Playout}
    (profile : m.profile = codec.profile) (target : m.playoutTargetMs.toNat = playout.val) :
    Agrees config s m nowNs (serve (server config) l nowNs.toNat (.open codec playout)) := by
  have first : s.initialKeyEpoch.toNat = (server config).firstKeyEpoch :=
    congrArg UInt32.toNat inv.configured.initialKeyEpoch
  cases phase : l.phase with
  | ready => simp [serve, phase, Agrees, Grantable, kind, ready_state fields phase]
  | greeted peer => simp [serve, phase, Agrees, Grantable, kind, (greeted_state fields phase).1]
  | bound port =>
    obtain ⟨state, current⟩ := bound_state fields phase
    simp only [serve, phase]
    refine ⟨_, _, .inr (by simp [state]), .open kind state, ?_, fun action terminal => ?_⟩
    · have opened : StreamFields
          { s with
            streamId := s.nextStreamId
            keyEpoch := s.initialKeyEpoch
            profile := m.profile
            playoutTargetMs := m.playoutTargetMs
            pathValidated := 0
            state := .streamOpen }
          (.fresh codec playout : Stream (server config).firstKeyEpoch) :=
        ⟨first, profile, target, by simp [Stream.fresh], of_no_member⟩
      exact ⟨fields.request, fields.next, fields.closed, rfl,
        of_one_member current, of_one_member opened⟩
    · exact ⟨fields.next, first, profile, congrArg GmAudioProfile.packetIntervalUs profile, target,
        copy_literal_text (by decide) (by decide)⟩
  | owning port stream =>
    have owns := (owning_state fields phase).2
    have held := (owning_fields fields phase).2
    have current : s.streamId.toNat = l.next.val := (inv.owned owns).streamId ▸ fields.next
    have same : (sameProfile s.profile m.profile = true ∧ s.playoutTargetMs = m.playoutTargetMs) ↔
        stream.codec = codec ∧ stream.playout = playout := by
      rw [held.profile, profile, same_codec_iff, ← UInt32.toNat_inj, held.playout, target]
      exact and_congr_right fun _ => Subtype.ext_iff.symm
    simp only [serve, phase]
    split
    next fits =>
      obtain ⟨alike, timed⟩ := same.mpr fits
      obtain ⟨rfl, rfl⟩ := fits
      refine ⟨_, _, .inr (owns_past_ready owns), .openAgain kind owns alike timed, fields,
        fun action terminal => ?_⟩
      exact ⟨current, held.keyEpoch, held.profile,
        congrArg GmAudioProfile.packetIntervalUs held.profile, held.playout,
        copy_literal_text (by decide) (by decide)⟩
    next fits =>
      have unbound : s.state ≠ .bound := by
        rcases owns with state | state <;> simp [state]
      simp only [Agrees, Grantable, kind, same, unbound, false_or]
      exact fun granted => fits granted.2

theorem start_agrees (inv : Invariant config s) (fields : LiveFields s l)
    (kind : m.kind = .requestStreamStart) {id : StreamId} {timestamp : Timestamp}
    (same : m.streamId.toNat = id.val) (stamp : m.firstMediaTimestamp.text = timestamp.val) :
    Agrees config s m nowNs (serve (server config) l nowNs.toNat (.start id timestamp)) := by
  have copied : (copyCString (gmControlDecimalU64MaxBytes + 1) m.firstMediaTimestamp.bytes).text =
      timestamp.val := by
    rw [copy_c_string_text, stamp]
    rw [stamp]
    exact Nat.lt_succ_of_le (decimal_plain timestamp.property).1
  cases phase : l.phase with
  | owning port stream =>
    have owns := (owning_state fields phase).2
    have held := (owning_fields fields phase).2
    have active := owning_active inv fields phase same
    have current : s.streamId.toNat = l.next.val := (inv.owned owns).streamId ▸ fields.next
    have running : (s.state = .streaming →
        sameCString s.firstMediaTimestamp.bytes m.firstMediaTimestamp.bytes = true) ↔
          ∀ running ∈ stream.started, running = timestamp := by
      rw [(owning_state fields phase).1]
      cases started : stream.started with
      | none => simp
      | some before =>
        have text := held.timestamp before started
        have alike : sameCString s.firstMediaTimestamp.bytes m.firstMediaTimestamp.bytes = true ↔
            before = timestamp := by
          rw [sameCString, decide_eq_true_eq, Subtype.ext_iff, ← text, ← stamp]
          rfl
        simp [alike]
    simp only [serve, phase]
    split
    next fits =>
      obtain ⟨rfl, valid, again⟩ := fits
      refine ⟨_, _, .inr (owns_past_ready owns), .start kind (active.mpr rfl)
        (held.validated.mpr valid) (running.mpr again), ?_, fun action terminal => ?_⟩
      · have started : StreamFields
            { s with
              firstMediaTimestamp := copyCString _ m.firstMediaTimestamp.bytes
              streamsStarted :=
                if s.state ≠ .streaming then s.streamsStarted + 1 else s.streamsStarted
              state := .streaming }
            (stream.start timestamp valid) :=
          ⟨held.keyEpoch, held.profile, held.playout, held.validated, of_one_member copied⟩
        exact ⟨fields.request, fields.next, fields.closed, rfl,
          of_one_member (owning_fields fields phase).1, of_one_member started⟩
      · exact ⟨current, copied, copy_literal_text (by decide) (by decide)⟩
    next fits =>
      simp only [Agrees, Grantable, kind, active, held.validated, running]
      exact fits
  | ready | greeted | bound =>
    have idle := idle_inactive fields (by simp [phase]) m.streamId
    simp [serve, phase, Agrees, Grantable, kind, idle]

theorem stop_agrees (inv : Invariant config s) (fields : LiveFields s l)
    (kind : m.kind = .requestStreamStop) {id : StreamId} (same : m.streamId.toNat = id.val) :
    Agrees config s m nowNs (serve (server config) l nowNs.toNat (.stop id)) := by
  cases phase : l.phase with
  | owning port stream =>
    have owns := (owning_state fields phase).2
    have held := (owning_fields fields phase).2
    have active := owning_active inv fields phase same
    have current : s.streamId.toNat = l.next.val := (inv.owned owns).streamId ▸ fields.next
    simp only [serve, phase]
    split
    next fits =>
      subst fits
      refine ⟨_, _, .inr (owns_past_ready owns), .stop kind (active.mpr rfl), ?_,
        fun action terminal => ⟨current, copy_literal_text (by decide) (by decide)⟩⟩
      have stopped : StreamFields
          { s with
            streamsStopped :=
              if s.state = .streaming then s.streamsStopped + 1 else s.streamsStopped
            state := .streamOpen }
          stream.stop :=
        ⟨held.keyEpoch, held.profile, held.playout, held.validated, of_no_member⟩
      exact ⟨fields.request, fields.next, fields.closed, rfl,
        of_one_member (owning_fields fields phase).1, of_one_member stopped⟩
    next fits =>
      simp only [Agrees, Grantable, kind, active]
      exact fits
  | ready | greeted | bound =>
    have idle := idle_inactive fields (by simp [phase]) m.streamId
    simp [serve, phase, Agrees, Grantable, kind, idle]

theorem close_agrees (inv : Invariant config s) (fields : LiveFields s l)
    (kind : m.kind = .requestStreamClose) {id : StreamId} (same : m.streamId.toNat = id.val) :
    Agrees config s m nowNs (serve (server config) l nowNs.toNat (.close id)) := by
  cases phase : l.phase with
  | owning port stream =>
    have owns := (owning_state fields phase).2
    have active := owning_active inv fields phase same
    simp only [serve, phase]
    split
    next fits =>
      subst fits
      have named : m.streamId = s.nextStreamId :=
        UInt32.toNat_inj.mp (same.trans fields.next.symm)
      refine ⟨_, _, .inr (owns_past_ready owns), .close kind (active.mpr rfl), ?_,
        fun action terminal => ⟨same, copy_literal_text (by decide) (by decide)⟩⟩
      refine ⟨fields.request, ?_, fun other => ?_, rfl,
        of_one_member (owning_fields fields phase).1, of_no_member⟩
      · rw [named]
        exact close_next fields.next
      · show m.streamId.toNat = other.val ↔ some l.next = some other
        rw [same, Option.some_inj, Subtype.ext_iff]
    next fits =>
      have unbound : s.state ≠ .bound := by
        rcases owns with state | state <;> simp [state]
      simp only [Agrees, Grantable, kind, active, unbound, false_and, or_false]
      exact fits
  | bound port =>
    obtain ⟨state, current⟩ := bound_state fields phase
    have idle := idle_inactive fields (by simp [phase]) m.streamId
    have last : m.streamId = s.lastClosedStreamId ↔ l.lastClosed = some id := by
      rw [← fields.closed id, ← same, ← UInt32.toNat_inj]
      exact eq_comm
    simp only [serve, phase]
    split
    next fits =>
      exact ⟨_, _, .inr (by simp [state]), .closeAgain kind state (last.mpr fits), fields,
        fun action terminal => ⟨same, copy_literal_text (by decide) (by decide)⟩⟩
    next fits =>
      simp only [Agrees, Grantable, kind, idle, state, last, true_and]
      simpa using fits
  | ready =>
    have idle := idle_inactive fields (by simp [phase]) m.streamId
    simp [serve, phase, Agrees, Grantable, kind, idle, ready_state fields phase]
  | greeted peer =>
    have idle := idle_inactive fields (by simp [phase]) m.streamId
    simp [serve, phase, Agrees, Grantable, kind, idle, (greeted_state fields phase).1]

theorem rekey_agrees (inv : Invariant config s) (fields : LiveFields s l)
    (kind : m.kind = .requestStreamRekey) {id : StreamId} (same : m.streamId.toNat = id.val)
    (positive : 1 ≤ m.keyEpoch) :
    Agrees config s m nowNs
      (serve (server config) l nowNs.toNat (.rekey id m.keyEpoch.toNat)) := by
  cases phase : l.phase with
  | owning port stream =>
    have owns := (owning_state fields phase).2
    have held := (owning_fields fields phase).2
    have active := owning_active inv fields phase same
    have current : s.streamId.toNat = l.next.val := (inv.owned owns).streamId ▸ fields.next
    have next : m.keyEpoch = s.keyEpoch + 1 ↔ m.keyEpoch.toNat = stream.keyEpoch + 1 :=
      held.keyEpoch ▸ next_epoch_iff positive
    have again : m.keyEpoch = s.keyEpoch ∧ m.keyEpoch = s.lastRekeyEpoch ↔
        m.keyEpoch.toNat = stream.keyEpoch ∧ (server config).firstKeyEpoch < m.keyEpoch.toNat := by
      rw [← held.keyEpoch, UInt32.toNat_inj]
      refine and_congr_right fun epoch => ?_
      rw [epoch]
      exact rekeyed_iff inv owns
    simp only [serve, phase]
    split
    next fits =>
      obtain ⟨rfl, epoch⟩ := fits
      refine ⟨_, _, .inr (owns_past_ready owns), .rekey kind (active.mpr rfl) (next.mpr epoch), ?_,
        fun action terminal => ⟨current, rfl, copy_literal_text (by decide) (by decide)⟩⟩
      have rekeyed : StreamFields
          { s with
            keyEpoch := m.keyEpoch
            lastRekeyEpoch := m.keyEpoch
            pathValidated := 0
            rekeysCommitted := s.rekeysCommitted + 1 }
          stream.rekey :=
        ⟨epoch, held.profile, held.playout, by simp [Stream.rekey], held.timestamp⟩
      exact ⟨fields.request, fields.next, fields.closed, (owning_state fields phase).1,
        of_one_member (owning_fields fields phase).1, of_one_member rekeyed⟩
    next unfit =>
      split
      next fits =>
        obtain ⟨rfl, repeats⟩ := fits
        obtain ⟨epoch, last⟩ := again.mpr repeats
        have new : m.keyEpoch ≠ s.keyEpoch + 1 := fun later => unfit ⟨rfl, next.mp later⟩
        exact ⟨_, _, .inr (owns_past_ready owns),
          .rekeyAgain kind (active.mpr rfl) new epoch last, fields, fun action terminal =>
            ⟨current, congrArg UInt32.toNat epoch.symm,
              copy_literal_text (by decide) (by decide)⟩⟩
      next fits =>
        simp only [Agrees, Grantable, kind, active, next, again]
        intro granted
        rcases granted.2 with later | repeats
        · exact unfit ⟨granted.1, later⟩
        · exact fits ⟨granted.1, repeats⟩
  | ready | greeted | bound =>
    have idle := idle_inactive fields (by simp [phase]) m.streamId
    simp [serve, phase, Agrees, Grantable, kind, idle]

/-- Past the hello a session is neither closed nor new. -/
theorem past_ready (fields : LiveFields s l) (phase : l.phase ≠ .ready) :
    s.state ≠ .tlsReady ∧ GmControlSessionState.hello.code ≤ s.state.code := by
  cases reached : l.phase with
  | ready => exact absurd reached phase
  | greeted port =>
    rw [(greeted_state fields reached).1]
    decide
  | bound port =>
    rw [(bound_state fields reached).1]
    decide
  | owning port stream =>
    have owns := (owning_state fields reached).2
    exact ⟨owns_past_ready owns, owns_past_hello owns⟩

theorem not_begun (fields : LiveFields s l) (phase : l.phase = .ready) :
    ¬ GmControlSessionState.hello.code ≤ s.state.code := by
  rw [ready_state fields phase]
  decide

theorem literal_choice {n : ℕ} {c : Prop} [Decidable c] {yes no : List UInt8}
    (plain : (0 ∉ yes ∧ yes.length < n) ∧ 0 ∉ no ∧ no.length < n) :
    (copyLiteral n (if c then yes else no)).text = if c then yes else no := by
  split
  · exact copy_literal_text plain.1.1 plain.1.2
  · exact copy_literal_text plain.2.1 plain.2.2

theorem status_agrees (inv : Invariant config s) (fields : LiveFields s l)
    (kind : m.kind = .requestStatusGet) :
    Agrees config s m nowNs (serve (server config) l nowNs.toNat .status) := by
  by_cases ready : l.phase = .ready
  · have late := not_begun fields ready
    simp only [serve, ready, Agrees, Grantable, kind]
    exact late
  obtain ⟨begun, past⟩ := past_ready fields ready
  have served : serve (server config) l nowNs.toNat .status =
      some (.status (server config).outputAvailable l.phase.isBound l.phase.activity,
        .live l) := by
    simp only [serve]
  rw [served]
  refine ⟨_, _, .inr begun, .status kind past, fields, fun action terminal => ⟨?_, ?_, ?_⟩⟩
  · refine (literal_choice ⟨by decide, by decide⟩).trans ?_
    simp only [inv.configured.outputAvailable, server, decide_eq_true_eq]
  · refine (literal_choice ⟨by decide, by decide⟩).trans ?_
    rw [fields.state]
    cases l.phase with
    | owning port stream =>
      rw [Phase.state]
      split <;> rfl
    | _ => rfl
  · have text : (copyLiteral (gmControlReasonMaxBytes + 1) l.phase.activity.text).text =
        l.phase.activity.text := by
      cases l.phase.activity <;> exact copy_literal_text (by decide) (by decide)
    have same : (if s.state = .streaming then ascii "started"
        else if s.state = .streamOpen then ascii "open" else ascii "none") =
          l.phase.activity.text := by
      rw [fields.state]
      cases l.phase with
      | owning port stream =>
        rw [Phase.state, Phase.activity]
        split <;> rfl
      | _ => rfl
    exact (congrArg (fun value => (copyLiteral _ value).text) same).trans text

theorem ping_agrees (fields : LiveFields s l) (kind : m.kind = .requestPing)
    {token : List UInt8} (short : token.length ≤ 64) (stored : m.token.text = text token) :
    Agrees config s m nowNs (serve (server config) l nowNs.toNat (.ping token)) := by
  by_cases ready : l.phase = .ready
  · have late := not_begun fields ready
    simp only [serve, ready, Agrees, Grantable, kind]
    exact late
  obtain ⟨begun, past⟩ := past_ready fields ready
  have served : serve (server config) l nowNs.toNat (.ping token) =
      some (.pong token nowNs.toNat, .live l) := by
    simp only [serve]
  have terminated : m.token.text.length < gmControlTokenMaxBytes + 1 := by
    rw [stored]
    exact Nat.lt_succ_of_le ((text_length_le token).trans short)
  rw [served]
  exact ⟨_, _, .inr begun, .ping kind past, fields, fun action terminal =>
    ⟨(copy_c_string_text terminated).trans stored, clock_text nowNs _ rfl⟩⟩

theorem leave_agrees (fields : LiveFields s l) (kind : m.kind = .requestSessionClose) :
    Agrees config s m nowNs (serve (server config) l nowNs.toNat .leave) := by
  by_cases ready : l.phase = .ready
  · simp only [serve, ready, Agrees, Grantable, kind]
    exact not_not_intro (ready_state fields ready)
  obtain ⟨begun, past⟩ := past_ready fields ready
  have served : serve (server config) l nowNs.toNat .leave = some (.goodbye, .closed) := by
    simp only [serve]
  rw [served]
  cases active : activeStreamMatches s s.streamId with
  | true =>
    exact ⟨_, _, .inr begun, .sessionCloseActive kind active, rfl, fun action terminal =>
      copy_literal_text (by decide) (by decide)⟩
  | false =>
    exact ⟨_, _, .inr begun, .sessionCloseIdle kind active, rfl, fun action terminal =>
      copy_literal_text (by decide) (by decide)⟩

end Requests

end GhostMedia.Session.Protocol
