import GhostMedia.Session.Representation

/- A stream starts only after the hello, the bind, its opening and a validation of its
   path under the current epoch, in this order. A closed session stays closed. -/
namespace GhostMedia.Session
open CString Control Runs

/-- The call succeeded with an action of this kind. -/
abbrev Accepted (e : Event GmControlSession Call Reply) (kind : GmControlActionKind) : Prop :=
  e.output.status = .ok ∧ e.output.action.kind = kind

/-- An accepted `session.hello` with this port. -/
def Greets (port : UInt32) (e : Event GmControlSession Call Reply) : Prop :=
  Accepted e .sendSessionHelloResult ∧
    ∃ m, Brings e.before e.input m ∧ m.kind = .requestSessionHello ∧ m.udpPort = port

/-- An accepted `transport.bind` with the configured session id and this port. -/
def Binds (config : GmControlSessionConfig) (port : UInt32)
    (e : Event GmControlSession Call Reply) : Prop :=
  Accepted e .sendTransportBindResult ∧
    ∃ m, Brings e.before e.input m ∧ m.kind = .requestTransportBind ∧
      m.sessionId.text = config.sessionId.text ∧ m.udpPort = port

/-- The `stream.open` that takes the session out of the bound state and allocates this id. -/
def Opens (streamId : UInt32) (e : Event GmControlSession Call Reply) : Prop :=
  Accepted e .sendStreamOpenResult ∧ e.before.state = .bound ∧ e.after.state = .streamOpen ∧
    e.before.nextStreamId = streamId ∧ e.after.streamId = streamId

def Validates (streamId keyEpoch : UInt32) (e : Event GmControlSession Call Reply) : Prop :=
  Accepted e .pathValidated ∧
    ∃ outAction, e.input = .markPathValidated streamId keyEpoch outAction

/-- A `stream.rekey` that changes the epoch, not one that repeats the last. -/
def CommitsRekey (e : Event GmControlSession Call Reply) : Prop :=
  Accepted e .sendStreamRekeyResult ∧ e.after.keyEpoch ≠ e.before.keyEpoch

def KeepsStream (e : Event GmControlSession Call Reply) : Prop :=
  ¬ Accepted e .sendStreamCloseResult

section Histories
variable (config : GmControlSessionConfig)

def Greeted (port : UInt32) : List (Event GmControlSession Call Reply) → Prop :=
  Since (fun _ => Greets port) fun _ => True

def BoundTo : List (Event GmControlSession Call Reply) → Prop :=
  Since (fun earlier e => ∃ port, Binds config port e ∧ Greeted port earlier) fun _ => True

def OpenedAs (streamId : UInt32) : List (Event GmControlSession Call Reply) → Prop :=
  Since (fun earlier e => Opens streamId e ∧ BoundTo config earlier) KeepsStream

def ValidatedAs (streamId keyEpoch : UInt32) : List (Event GmControlSession Call Reply) → Prop :=
  Since (fun earlier e => Validates streamId keyEpoch e ∧ OpenedAs config streamId earlier)
    fun e => KeepsStream e ∧ ¬ CommitsRekey e

/-- What the state of a session says about its past. -/
structure Progressed (past : List (Event GmControlSession Call Reply)) (s : GmControlSession) :
    Prop where
  live : s.state ≠ .closed → ∀ e ∈ past, e.after.state ≠ .closed
  greeted : s.state ≠ .tlsReady → s.state ≠ .closed → Greeted s.windowsUdpPort past
  bound : s.state = .bound ∨ OwnsStream s → BoundTo config past
  opened : OwnsStream s → OpenedAs config s.streamId past
  validated : OwnsStream s → s.pathValidated ≠ 0 →
    ValidatedAs config s.streamId s.keyEpoch past

/-- The ways an event can move a session towards a started stream, or away from it. -/
inductive Progress (e : Event GmControlSession Call Reply) : Prop
  | keep (state : e.after.state = e.before.state ∨ OwnsStream e.before ∧ OwnsStream e.after)
      (port : e.after.windowsUdpPort = e.before.windowsUdpPort)
      (streamId : e.after.streamId = e.before.streamId)
      (keyEpoch : e.after.keyEpoch = e.before.keyEpoch)
      (validated : e.after.pathValidated = e.before.pathValidated)
      (keeps : OwnsStream e.before → KeepsStream e)
  | greeted (before : e.before.state = .tlsReady) (state : e.after.state = .hello)
      (greets : Greets e.after.windowsUdpPort e)
  | bound (before : e.before.state = .hello) (state : e.after.state = .bound)
      (port : e.after.windowsUdpPort = e.before.windowsUdpPort)
      (binds : Binds config e.before.windowsUdpPort e)
  | opened (before : e.before.state = .bound) (state : e.after.state = .streamOpen)
      (port : e.after.windowsUdpPort = e.before.windowsUdpPort)
      (validated : e.after.pathValidated = 0) (opens : Opens e.after.streamId e)
  | rekeyed (owned : OwnsStream e.before) (owns : OwnsStream e.after)
      (port : e.after.windowsUdpPort = e.before.windowsUdpPort)
      (streamId : e.after.streamId = e.before.streamId)
      (validated : e.after.pathValidated = 0) (keeps : KeepsStream e)
  | validated (owned : OwnsStream e.before) (owns : OwnsStream e.after)
      (port : e.after.windowsUdpPort = e.before.windowsUdpPort)
      (streamId : e.after.streamId = e.before.streamId)
      (validates : Validates e.after.streamId e.after.keyEpoch e)
  | released (owned : OwnsStream e.before) (state : e.after.state = .bound)
      (port : e.after.windowsUdpPort = e.before.windowsUdpPort)
  | shut (state : e.after.state = .closed)

end Histories

theorem accepted_unique {e : Event GmControlSession Call Reply} {kind other : GmControlActionKind}
    (first : Accepted e kind) (second : Accepted e other) : kind = other :=
  first.2.symm.trans second.2

theorem other_keeps {e : Event GmControlSession Call Reply}
    (other : e.output.action.kind ≠ .sendStreamCloseResult) : KeepsStream e :=
  fun close => other close.2

theorem refused_keeps {e : Event GmControlSession Call Reply}
    (refused : e.output.status ≠ .ok) : KeepsStream e :=
  fun close => refused close.1

theorem Progress.kept {config : GmControlSessionConfig} {e : Event GmControlSession Call Reply}
    (state : e.after.state = e.before.state ∨ OwnsStream e.before ∧ OwnsStream e.after)
    (port : e.after.windowsUdpPort = e.before.windowsUdpPort)
    (streamId : e.after.streamId = e.before.streamId)
    (keyEpoch : e.after.keyEpoch = e.before.keyEpoch)
    (validated : e.after.pathValidated = e.before.pathValidated)
    (other : e.output.action.kind ≠ .sendStreamCloseResult) : Progress config e :=
  .keep state port streamId keyEpoch validated fun _ => other_keeps other

section Steps
variable {config : GmControlSessionConfig} {s : GmControlSession}

theorem bind_session_id (valid : ValidConfig config) (inv : Invariant config s)
    {m : GmControlMessageInfo}
    (same : sameCStringWithin (gmControlSessionIdHexBytes + 1) m.sessionId.bytes
      s.sessionId.bytes = true) : m.sessionId.text = config.sessionId.text := by
  have copied := inv.configured.sessionId
  have checked := (Bool.and_eq_true_iff.mp valid.sessionId).1
  obtain ⟨_, length, fits⟩ := bounded_c_string_some (of_decide_eq_true checked)
  have texts : text (m.sessionId.bytes.take 33) = text (s.sessionId.bytes.take 33) :=
    of_decide_eq_true same
  rw [List.take_of_length_le m.sessionId.size.le, List.take_of_length_le s.sessionId.size.le]
    at texts
  calc m.sessionId.text
    _ = s.sessionId.text := texts
    _ = (fill _ config.sessionId.text).text := congrArg Buffer.text copied
    _ = config.sessionId.text := refill_text (length.trans_lt fits)

theorem grants_progress {jsonText : GmBytes} {m : GmControlMessageInfo} {nowNs : UInt64}
    {outAction : GmControlAction} {kind next edit} (valid : ValidConfig config)
    (inv : Invariant config s) (brings : Brings s (.ingest jsonText nowNs outAction) m)
    (grants : Grants (received s m nowNs) m nowNs kind next edit) :
    Progress config ⟨s, .ingest jsonText nowNs outAction, answer next m outAction kind edit,
      counted next⟩ := by
  cases grants with
  | hello kind state => exact .greeted state rfl ⟨⟨rfl, rfl⟩, m, brings, kind, rfl⟩
  | bind kind _ same port =>
    by_cases hello : s.state = .hello
    · have session := bind_session_id valid inv same
      exact .bound hello (by simp [counted, received, hello]) rfl
        ⟨⟨rfl, rfl⟩, m, brings, kind, session, port⟩
    · exact .kept (.inl (by simp [counted, received, hello])) rfl rfl rfl rfl
        (by intro same; cases same)
  | «open» kind state => exact .opened state rfl rfl rfl ⟨⟨rfl, rfl⟩, state, rfl, rfl, rfl⟩
  | openAgain | status | ping =>
    exact .kept (.inl rfl) rfl rfl rfl rfl (by intro same; cases same)
  | start kind active =>
    obtain ⟨_, _, owns⟩ := (active_iff _ _).mp active
    exact .kept (.inr ⟨owns, .inr rfl⟩) rfl rfl rfl rfl (by intro same; cases same)
  | stop kind active =>
    obtain ⟨_, _, owns⟩ := (active_iff _ _).mp active
    exact .kept (.inr ⟨owns, .inl rfl⟩) rfl rfl rfl rfl (by intro same; cases same)
  | close kind active =>
    obtain ⟨_, _, owns⟩ := (active_iff _ _).mp active
    exact .released owns rfl rfl
  | closeAgain kind state =>
    have state : s.state = .bound := state
    exact .keep (.inl rfl) rfl rfl rfl rfl (fun owns => by simp [OwnsStream, state] at owns)
  | rekey kind active =>
    obtain ⟨_, _, owns⟩ := (active_iff _ _).mp active
    exact .rekeyed owns owns rfl rfl rfl (other_keeps (by intro same; cases same))
  | rekeyAgain => exact .kept (.inl rfl) rfl rfl rfl rfl (by intro same; cases same)
  | sessionCloseActive => exact .shut rfl
  | sessionCloseIdle => exact .shut rfl

theorem step_progress (valid : ValidConfig config) (inv : Invariant config s) (call : Call) :
    Progress config (Runs.event step s call) := by
  have out := step_steps s call
  rw [Runs.event]
  generalize step s call = result at out
  obtain ⟨reply, next⟩ := result
  dsimp only at out ⊢
  cases out with
  | invalidIngest | invalidMark | closed | unmatched | conflict =>
    exact .keep (.inl rfl) rfl rfl rfl rfl (fun _ => refused_keeps (by intro same; cases same))
  | refused => exact .shut rfl
  | granted m good live arrives grants => exact grants_progress valid inv ⟨good, arrives⟩ grants
  | validated good active current =>
    obtain ⟨_, same, owns⟩ := (active_iff _ _).mp active
    subst same current
    exact .validated owns owns rfl rfl ⟨⟨rfl, rfl⟩, _, rfl⟩

end Steps

section Histories
variable {config : GmControlSessionConfig} {past : List (Event GmControlSession Call Reply)}
  {e : Event GmControlSession Call Reply}

theorem greeted_later {port : UInt32} (held : Greeted port past) : Greeted port (past ++ [e]) :=
  since_later held trivial

theorem bound_later (held : BoundTo config past) : BoundTo config (past ++ [e]) :=
  since_later held trivial

theorem progressed_live (held : Progressed config past e.before)
    (absorbs : e.before.state = .closed → e.after.state = .closed)
    (state : e.after.state ≠ .closed) : ∀ x ∈ past ++ [e], x.after.state ≠ .closed := by
  intro x member
  rcases List.mem_append.mp member with earlier | now
  · exact held.live (fun closed => state (absorbs closed)) x earlier
  · rw [List.mem_singleton.mp now]
    exact state

theorem progressed_snoc (held : Progressed config past e.before)
    (absorbs : e.before.state = .closed → e.after.state = .closed)
    (progress : Progress config e) : Progressed config (past ++ [e]) e.after := by
  have live := progressed_live held absorbs
  cases progress with
  | keep state port streamId keyEpoch validated keeps =>
    have owned (owns : OwnsStream e.after) : OwnsStream e.before := by
      rcases state with same | both
      · simpa [OwnsStream, same] using owns
      · exact both.1
    refine ⟨live, fun early open' => ?_, fun reached => ?_, fun owns => ?_, fun owns path => ?_⟩
    · rw [port]
      rcases state with same | both
      · exact greeted_later (held.greeted (same ▸ early) (same ▸ open'))
      · have closed := owns_live both.1
        exact greeted_later (held.greeted (owns_past_ready both.1) closed)
    · refine bound_later (held.bound ?_)
      rcases reached with bound | owns
      · rcases state with same | both
        · exact .inl (same.symm.trans bound)
        · exact .inr both.1
      · exact .inr (owned owns)
    · rw [streamId]
      exact since_later (held.opened (owned owns)) (keeps (owned owns))
    · rw [streamId, keyEpoch]
      rw [validated] at path
      exact since_later (held.validated (owned owns) path)
        ⟨keeps (owned owns), fun rekey => rekey.2 keyEpoch⟩
  | greeted before state greets =>
    refine ⟨live, fun _ _ => since_now greets, ?_, ?_, ?_⟩ <;> simp [OwnsStream, state]
  | bound before state port binds =>
    have greeted := held.greeted (by simp [before]) (by simp [before])
    refine ⟨live, fun _ _ => port ▸ greeted_later greeted,
      fun _ => since_now ⟨_, binds, greeted⟩, ?_, ?_⟩ <;> simp [OwnsStream, state]
  | opened before state port validated opens =>
    have greeted := held.greeted (by simp [before]) (by simp [before])
    have bound := held.bound (.inl before)
    exact ⟨live, fun _ _ => port ▸ greeted_later greeted, fun _ => bound_later bound,
      fun _ => since_now ⟨opens, bound⟩, fun _ path => absurd validated path⟩
  | rekeyed owned owns port streamId validated keeps =>
    have greeted := held.greeted (owns_past_ready owned) (owns_live owned)
    exact ⟨live, fun _ _ => port ▸ greeted_later greeted,
      fun _ => bound_later (held.bound (.inr owned)),
      fun _ => streamId ▸ since_later (held.opened owned) keeps,
      fun _ path => absurd validated path⟩
  | validated owned owns port streamId validates =>
    have greeted := held.greeted (owns_past_ready owned) (owns_live owned)
    have opened : OpenedAs config e.after.streamId past := streamId ▸ held.opened owned
    have keeps : KeepsStream e :=
      fun close => absurd (accepted_unique close validates.1) (by decide)
    exact ⟨live, fun _ _ => port ▸ greeted_later greeted,
      fun _ => bound_later (held.bound (.inr owned)), fun _ => since_later opened keeps,
      fun _ _ => since_now ⟨validates, opened⟩⟩
  | released owned state port =>
    have greeted := held.greeted (owns_past_ready owned) (owns_live owned)
    refine ⟨live, fun _ _ => port ▸ greeted_later greeted,
      fun _ => bound_later (held.bound (.inr owned)), ?_, ?_⟩ <;> simp [OwnsStream, state]
  | shut state => refine ⟨live, ?_, ?_, ?_, ?_⟩ <;> simp [OwnsStream, state]

end Histories

section Closed
variable {s t u : GmControlSession}

/-- The second session differs from the first at most in the counters of rejected calls. -/
def SameButCounters (s t : GmControlSession) : Prop :=
  t = { s with
    stateConflicts := t.stateConflicts
    rejectedRequests := t.rejectedRequests
    actionsEmitted := t.actionsEmitted }

theorem same_but_counters_refl (s : GmControlSession) : SameButCounters s s := rfl

theorem same_but_counters_trans (first : SameButCounters s t) (second : SameButCounters t u) :
    SameButCounters s u := by
  rw [SameButCounters] at first second ⊢
  rw [second, first]

theorem closed_step (closed : s.state = .closed) (call : Call) :
    SameButCounters s (step s call).2 := by
  have out := step_steps s call
  generalize step s call = result at out
  obtain ⟨reply, next⟩ := result
  dsimp only at out ⊢
  cases out with
  | invalidIngest | invalidMark => exact same_but_counters_refl s
  | closed | unmatched => rfl
  | refused _ _ _ live | conflict _ _ live | granted _ _ live => exact absurd closed live
  | validated _ active =>
    obtain ⟨_, _, owns⟩ := (active_iff _ _).mp active
    exact absurd closed (owns_live owns)

theorem same_but_counters_state (same : SameButCounters s t) : t.state = s.state := by
  rw [SameButCounters] at same
  rw [same]

/-- The closed state is absorbing. -/
theorem closed_run (closed : s.state = .closed) (calls : List Call) :
    SameButCounters s (final step s calls) := by
  refine invariant_of_run step (fun t => SameButCounters s t) (same_but_counters_refl s)
    (fun t call same => ?_) calls
  have stillClosed := (same_but_counters_state same).trans closed
  exact same_but_counters_trans same (closed_step stillClosed call)

end Closed

theorem run_progressed {config : GmControlSessionConfig} {blank start : GmControlSession}
    (init : gmControlSessionInit config blank = (.ok, start)) (calls : List Call) :
    Progressed config (events step start calls) (final step start calls) := by
  obtain ⟨valid, _, initial⟩ := init_ok init
  have history := history_of_run step
    (fun past s => Invariant config s ∧ Progressed config past s)
    ⟨run_invariant init [], ?_⟩ (fun past s call held => ?_) calls
  · exact history.2
  · subst initial
    refine ⟨fun _ e member => ?_, fun early => absurd rfl early, ?_, ?_, ?_⟩
    · cases member
    all_goals simp [OwnsStream, initialSession]
  · have absorbs (closed : s.state = .closed) : (step s call).2.state = .closed :=
      (same_but_counters_state (closed_step closed call)).trans closed
    exact ⟨step_invariant call held.1,
      progressed_snoc held.2 absorbs (step_progress valid held.1 call)⟩

theorem start_accepted {s : GmControlSession} {call : Call}
    (starts : Accepted (Runs.event step s call) .sendStreamStartResult) :
    OwnsStream s ∧ s.pathValidated ≠ 0 ∧ (step s call).2.streamId = s.streamId ∧
      (step s call).2.keyEpoch = s.keyEpoch := by
  have out := step_steps s call
  rw [Runs.event] at starts
  generalize step s call = result at out starts
  obtain ⟨reply, next⟩ := result
  obtain ⟨status, kind⟩ := starts
  dsimp only at out status kind ⊢
  cases out with
  | invalidIngest | invalidMark | closed | conflict | unmatched => cases status
  | refused _ _ _ _ _ error => exact absurd status error.1
  | validated => cases kind
  | granted m _ _ _ grants =>
    cases grants with
    | start _ active validated =>
      obtain ⟨_, _, owns⟩ := (active_iff _ _).mp active
      exact ⟨owns, validated, rfl, rfl⟩
    | _ => cases kind

/-- A past in which a stream may start under this epoch: the hello, the bind, the opening
    of the stream and the validation of its path, in this order. The session was never
    closed, the stream has not been closed since its opening, and its epoch has not changed
    since the validation. -/
def StartJustified (config : GmControlSessionConfig) (streamId keyEpoch : UInt32)
    (past : List (Event GmControlSession Call Reply)) : Prop :=
  ∃ p₁ hello p₂ bind p₃ opening p₄ mark p₅ port,
    past = p₁ ++ hello :: (p₂ ++ bind :: (p₃ ++ opening :: (p₄ ++ mark :: p₅))) ∧
      Greets port hello ∧ Binds config port bind ∧ Opens streamId opening ∧
      Validates streamId keyEpoch mark ∧ (∀ e ∈ past, e.after.state ≠ .closed) ∧
      (∀ e ∈ p₄ ++ mark :: p₅, ¬ Accepted e .sendStreamCloseResult) ∧
      ∀ e ∈ p₅, ¬ CommitsRekey e

theorem validated_justifies {config : GmControlSessionConfig} {streamId keyEpoch : UInt32}
    {past : List (Event GmControlSession Call Reply)}
    (validated : ValidatedAs config streamId keyEpoch past)
    (live : ∀ e ∈ past, e.after.state ≠ .closed) :
    StartJustified config streamId keyEpoch past := by
  obtain ⟨_, mark, p₅, rfl, ⟨validates, opened⟩, kept⟩ := validated
  obtain ⟨_, opening, p₄, rfl, ⟨opens, bound⟩, stays⟩ := opened
  obtain ⟨_, bind, p₃, rfl, ⟨port, binds, greeted⟩, _⟩ := bound
  obtain ⟨p₁, hello, p₂, rfl, greets, _⟩ := greeted
  refine ⟨p₁, hello, p₂, bind, p₃, opening, p₄, mark, p₅, port, by simp, greets, binds, opens,
    validates, live, ?_, fun e member => (kept e member).2⟩
  intro e member
  rcases List.mem_append.mp member with earlier | member
  · exact stays e earlier
  rcases List.mem_cons.mp member with rfl | later
  · exact fun close => absurd (accepted_unique close validates.1) (by decide)
  · exact (kept e later).1

/-- Start safety over whole runs, and the closed state is absorbing. -/
theorem start_safety {config : GmControlSessionConfig} {blank start : GmControlSession}
    (init : gmControlSessionInit config blank = (.ok, start)) (calls : List Call) :
    (∀ past e later, events step start calls = past ++ e :: later →
        Accepted e .sendStreamStartResult →
        StartJustified config e.after.streamId e.after.keyEpoch past) ∧
      ∀ before after, calls = before ++ after → (final step start before).state = .closed →
        SameButCounters (final step start before) (final step start calls) := by
  constructor
  · intro past e later split starts
    obtain ⟨xs, call, ys, rfl, rfl, rfl⟩ := events_split step split
    obtain ⟨owns, path, streamId, keyEpoch⟩ := start_accepted starts
    have progressed := run_progressed init xs
    rw [Runs.event, streamId, keyEpoch]
    exact validated_justifies (progressed.validated owns path) (progressed.live (owns_live owns))
  · rintro before after rfl closed
    rw [final_append]
    exact closed_run closed after

/-- The sample session with the path of its stream validated. -/
def validatedSession : GmControlSession :=
  { openedSession with pathValidated := 1, actionsEmitted := 4 }

def sampleMark : Call := .markPathValidated 4294967295 1 blankAction

def sampleStart : Call := sampleRequest "4" "stream.start"
  ",\"stream_id\":4294967295,\"first_media_timestamp\":\"48000\""

/-- A run that starts its stream and a run that is closed by a lone brace. -/
theorem start_safety_sample :
    Accepted (Runs.event step validatedSession sampleStart) .sendStreamStartResult ∧
      StartJustified sampleConfig 4294967295 1
        (events step sampleSession (sampleOpening ++ [sampleMark])) ∧
      SameButCounters
        (final step sampleSession [.ingest (.view (ascii "\x7b")) 1000 blankAction])
        (final step sampleSession
          [.ingest (.view (ascii "\x7b")) 1000 blankAction, sampleHello]) := by
  have starts : Accepted (Runs.event step validatedSession sampleStart) .sendStreamStartResult := by
    decide +kernel
  have validated : final step sampleSession (sampleOpening ++ [sampleMark]) = validatedSession := by
    rw [final_snoc, sample_opened]
    decide +kernel
  have split : events step sampleSession (sampleOpening ++ [sampleMark] ++ [sampleStart]) =
      events step sampleSession (sampleOpening ++ [sampleMark]) ++
        Runs.event step validatedSession sampleStart :: [] := by
    rw [events_append, validated, events, events_nil]
  obtain ⟨_, _, streamId, keyEpoch⟩ := start_accepted starts
  have justified := (start_safety sample_init _).1 _ _ _ split starts
  dsimp only [Runs.event] at justified
  rw [streamId, keyEpoch] at justified
  have closed : (final step sampleSession
      [.ingest (.view (ascii "\x7b")) 1000 blankAction]).state = .closed := by
    decide +kernel
  exact ⟨starts, justified, (start_safety sample_init _).2 _ [sampleHello] rfl closed⟩

end GhostMedia.Session
