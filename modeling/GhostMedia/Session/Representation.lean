import GhostMedia.Session.Requests

/- The representation invariant of the session: which fields go with which state, in
   every state a run reaches. -/
namespace GhostMedia.Session
open CString Control Runs

/-- A configuration that `gm_control_session_init` takes, and the session it makes. -/
structure ValidConfig (config : GmControlSessionConfig) : Prop where
  port : 1 ≤ config.appleUdpPort ∧ config.appleUdpPort ≤ 65535
  playoutMin : 15 ≤ config.playoutTargetMsMin
  playoutMax : config.playoutTargetMsMax ≤ 120
  playoutOrder : config.playoutTargetMsMin ≤ config.playoutTargetMsMax
  output : config.outputAvailable ≤ 1
  serverId : isLowerUuidText config.serverId = true
  bootId : isLowerUuidText config.bootId = true
  sessionId : isLowerSessionIdText config.sessionId = true

theorem init_ok {config : GmControlSessionConfig} {blank start : GmControlSession}
    (init : gmControlSessionInit config blank = (.ok, start)) :
    ValidConfig config ∧ sizeofGmControlSession ≤ blank.structSize ∧
      start = initialSession config blank.structSize := by
  rw [gmControlSessionInit] at init
  split at init
  · cases init
  rename_i sizes
  split at init
  · cases init
  rename_i fields
  obtain ⟨_, rfl⟩ := Prod.mk.inj init
  simp only [Bool.or_eq_true, decide_eq_true_eq, not_or, Bool.not_eq_true', Bool.not_eq_false,
    gt_iff_lt, UInt32.not_lt, UInt8.not_lt, Nat.not_lt, ne_eq, not_not] at sizes fields
  obtain ⟨⟨_, size⟩, _⟩ := sizes
  obtain ⟨⟨⟨⟨⟨⟨⟨⟨⟨⟨_, nonzero⟩, high⟩, _⟩, order⟩, low⟩, top⟩, output⟩, server⟩, boot⟩, session⟩ :=
    fields
  refine ⟨⟨⟨?_, high⟩, low, top, order, output, server, boot, session⟩, size, rfl⟩
  simp only [← UInt32.toNat_inj, UInt32.reduceToNat] at nonzero
  simp only [UInt32.le_iff_toNat_le, UInt32.reduceToNat]
  omega

/-- No stream is owned and nothing of one is left. -/
structure NoStream (s : GmControlSession) : Prop where
  streamId : s.streamId = 0
  keyEpoch : s.keyEpoch = 0
  lastRekeyEpoch : s.lastRekeyEpoch = 0
  playoutTargetMs : s.playoutTargetMs = 0
  pathValidated : s.pathValidated = 0
  profile : s.profile = clearedProfile
  firstMediaTimestamp : s.firstMediaTimestamp = zero _

structure OwnedStream (s : GmControlSession) : Prop where
  streamId : s.streamId = s.nextStreamId
  nonzero : s.streamId ≠ 0
  keyEpoch : s.initialKeyEpoch ≤ s.keyEpoch
  initial : 1 ≤ s.initialKeyEpoch
  rekeyed : s.lastRekeyEpoch = 0 ↔ s.keyEpoch = s.initialKeyEpoch
  lastRekey : s.lastRekeyEpoch ≠ 0 → s.lastRekeyEpoch = s.keyEpoch
  profile : gmAudioProfileValidate s.profile = .ok
  playout : 15 ≤ s.playoutTargetMs ∧ s.playoutTargetMs ≤ 120

/-- The fields the session keeps from its configuration. -/
structure Configured (config : GmControlSessionConfig) (s : GmControlSession) : Prop where
  role : s.role = config.role
  appleUdpPort : s.appleUdpPort = config.appleUdpPort
  initialKeyEpoch : s.initialKeyEpoch = keyEpochOrDefault config.keyEpoch
  outputAvailable : s.outputAvailable = config.outputAvailable
  serverId : s.serverId = fill _ config.serverId.text
  bootId : s.bootId = fill _ config.bootId.text
  sessionId : s.sessionId = fill _ config.sessionId.text

def OwnsStream (s : GmControlSession) : Prop := s.state = .streamOpen ∨ s.state = .streaming

structure Represents (config : GmControlSessionConfig) (s : GmControlSession) : Prop where
  idle : s.state ∈ [GmControlSessionState.tlsReady, .hello, .bound] → NoStream s
  owned : OwnsStream s → OwnedStream s
  timestamp : s.state = .streaming → DecimalU64 s.firstMediaTimestamp.text
  revalidating : s.state = .streaming → s.pathValidated = 0 → s.lastRekeyEpoch = s.keyEpoch
  port : GmControlSessionState.hello.code ≤ s.state.code →
    1 ≤ s.windowsUdpPort ∧ s.windowsUdpPort ≤ 65535
  closed : s.lastClosedStreamId ≤ s.nextStreamId
  configured : Configured config s

/-- The invariant with what its preservation needs besides. -/
structure Invariant (config : GmControlSessionConfig) (s : GmControlSession) : Prop extends
    Represents config s where
  next : s.nextStreamId ≠ 0
  epoch : 1 ≤ s.initialKeyEpoch
  codec : OwnsStream s → ∃ codec : Codec, s.profile = codec.profile

section Core
variable {config : GmControlSessionConfig} {s t : GmControlSession}

theorem no_stream_core : NoStream (core s) ↔ NoStream s :=
  ⟨fun held => { held with }, fun held => { held with }⟩

theorem owned_stream_core : OwnedStream (core s) ↔ OwnedStream s :=
  ⟨fun held => { held with }, fun held => { held with }⟩

theorem configured_core : Configured config (core s) ↔ Configured config s :=
  ⟨fun held => { held with }, fun held => { held with }⟩

theorem invariant_core : Invariant config (core s) ↔ Invariant config s := by
  constructor
  · intro inv
    exact ⟨⟨fun idle => no_stream_core.mp (inv.idle idle),
      fun owned => owned_stream_core.mp (inv.owned owned), inv.timestamp, inv.revalidating,
      inv.port, inv.closed, configured_core.mp inv.configured⟩, inv.next, inv.epoch, inv.codec⟩
  · intro inv
    exact ⟨⟨fun idle => no_stream_core.mpr (inv.idle idle),
      fun owned => owned_stream_core.mpr (inv.owned owned), inv.timestamp, inv.revalidating,
      inv.port, inv.closed, configured_core.mpr inv.configured⟩, inv.next, inv.epoch, inv.codec⟩

/-- The invariant says nothing about bookkeeping and metrics. -/
theorem invariant_congr (inv : Invariant config s) (same : core s = core t) :
    Invariant config t :=
  invariant_core.mp (same ▸ invariant_core.mpr inv)

end Core

theorem initial_configured {config : GmControlSessionConfig} (valid : ValidConfig config)
    (size : Nat) : Configured config (initialSession config size) := by
  have server := (Bool.and_eq_true_iff.mp valid.serverId).1
  have boot := (Bool.and_eq_true_iff.mp valid.bootId).1
  have session := (Bool.and_eq_true_iff.mp valid.sessionId).1
  obtain ⟨_, serverLength, serverFits⟩ := bounded_c_string_some (of_decide_eq_true server)
  obtain ⟨_, bootLength, bootFits⟩ := bounded_c_string_some (of_decide_eq_true boot)
  obtain ⟨_, sessionLength, sessionFits⟩ := bounded_c_string_some (of_decide_eq_true session)
  exact ⟨rfl, rfl, rfl, rfl, copy_c_string_fill (serverLength.trans_lt serverFits),
    copy_c_string_fill (bootLength.trans_lt bootFits),
    copy_c_string_fill (sessionLength.trans_lt sessionFits)⟩

theorem stream_id_or_default_nonzero (configured : UInt32) : streamIdOrDefault configured ≠ 0 := by
  rw [streamIdOrDefault]
  split
  · decide
  · assumption

theorem nonzero_iff (value : UInt32) : value ≠ 0 ↔ 1 ≤ value := by
  simp only [ne_eq, ← UInt32.toNat_inj, UInt32.le_iff_toNat_le, UInt32.reduceToNat]
  omega

theorem key_epoch_or_default_positive (configured : UInt32) : 1 ≤ keyEpochOrDefault configured := by
  rw [keyEpochOrDefault]
  split
  · decide
  · rename_i nonzero
    exact (nonzero_iff configured).mp nonzero

theorem initial_invariant {config : GmControlSessionConfig} (valid : ValidConfig config)
    (size : Nat) : Invariant config (initialSession config size) where
  idle _ := ⟨rfl, rfl, rfl, rfl, rfl, rfl, rfl⟩
  owned owned := by rcases owned with state | state <;> cases state
  timestamp state := by cases state
  revalidating state := by cases state
  port state := absurd state (by simp [initialSession, GmControlSessionState.code])
  closed := by simp [initialSession, UInt32.le_iff_toNat_le]
  configured := initial_configured valid size
  next := stream_id_or_default_nonzero config.streamId
  epoch := key_epoch_or_default_positive config.keyEpoch
  codec owned := by rcases owned with state | state <;> cases state

theorem active_iff (s : GmControlSession) (streamId : UInt32) :
    activeStreamMatches s streamId = true ↔
      s.streamId ≠ 0 ∧ s.streamId = streamId ∧ OwnsStream s := by
  simp [activeStreamMatches, OwnsStream, and_assoc]

section Preservation
variable {config : GmControlSessionConfig} {s : GmControlSession}

theorem closed_invariant (state : s.state = .closed)
    (closed : s.lastClosedStreamId ≤ s.nextStreamId) (configured : Configured config s)
    (next : s.nextStreamId ≠ 0) (epoch : 1 ≤ s.initialKeyEpoch) : Invariant config s where
  idle idle := by simp [state] at idle
  owned owned := by rcases owned with other | other <;> cases state.symm.trans other
  timestamp other := by cases state.symm.trans other
  revalidating other := by cases state.symm.trans other
  port live := by simp [state, GmControlSessionState.code] at live
  closed := closed
  configured := configured
  next := next
  epoch := epoch
  codec owned := by rcases owned with other | other <;> cases state.symm.trans other

theorem owns_not_idle (owns : OwnsStream s) :
    s.state ∉ [GmControlSessionState.tlsReady, .hello, .bound] := by
  rcases owns with state | state <;> simp [state]

theorem owns_past_hello (owns : OwnsStream s) :
    GmControlSessionState.hello.code ≤ s.state.code := by
  rcases owns with state | state <;> simp [state, GmControlSessionState.code]

theorem owns_live (owns : OwnsStream s) : s.state ≠ .closed := by
  rcases owns with state | state <;> simp [state]

theorem owns_past_ready (owns : OwnsStream s) : s.state ≠ .tlsReady := by
  rcases owns with state | state <;> simp [state]

theorem hello_invariant (inv : Invariant config s) {m : GmControlMessageInfo}
    (state : s.state = .tlsReady) (port : 1 ≤ m.udpPort ∧ m.udpPort ≤ 65535) :
    Invariant config { s with windowsUdpPort := m.udpPort, state := .hello } := by
  have none : NoStream s := inv.idle (by simp [state])
  exact {
    idle _ := { none with }
    owned owned := by rcases owned with other | other <;> cases other
    timestamp other := by cases other
    revalidating other := by cases other
    port _ := port
    closed := inv.closed
    configured := { inv.configured with }
    next := inv.next
    epoch := inv.epoch
    codec owned := by rcases owned with other | other <;> cases other }

theorem bind_invariant (inv : Invariant config s)
    (state : GmControlSessionState.hello.code ≤ s.state.code) :
    Invariant config { s with state := if s.state = .hello then .bound else s.state } := by
  by_cases hello : s.state = .hello
  · have none : NoStream s := inv.idle (by simp [hello])
    have port := inv.port state
    rw [if_pos hello]
    exact {
      idle _ := { none with }
      owned owned := by rcases owned with other | other <;> cases other
      timestamp other := by cases other
      revalidating other := by cases other
      port _ := port
      closed := inv.closed
      configured := { inv.configured with }
      next := inv.next
      epoch := inv.epoch
      codec owned := by rcases owned with other | other <;> cases other }
  · rw [if_neg hello]
    exact inv

theorem open_invariant (inv : Invariant config s) {m : GmControlMessageInfo}
    (state : s.state = .bound) (codec : ∃ codec : Codec, m.profile = codec.profile)
    (low : 15 ≤ m.playoutTargetMs) (high : m.playoutTargetMs ≤ 120) :
    Invariant config
      { s with
        streamId := s.nextStreamId
        keyEpoch := s.initialKeyEpoch
        profile := m.profile
        playoutTargetMs := m.playoutTargetMs
        pathValidated := 0
        state := .streamOpen } := by
  have none : NoStream s := inv.idle (by simp [state])
  have port := inv.port (by simp [state, GmControlSessionState.code])
  obtain ⟨codec, profile⟩ := codec
  have valid : gmAudioProfileValidate codec.profile = .ok := by cases codec <;> rfl
  exact {
    idle idle := absurd idle (by simp)
    owned _ := {
      streamId := rfl
      nonzero := inv.next
      keyEpoch := UInt32.le_refl _
      initial := inv.epoch
      rekeyed := iff_of_true none.lastRekeyEpoch rfl
      lastRekey rekeyed := absurd none.lastRekeyEpoch rekeyed
      profile := profile ▸ valid
      playout := ⟨low, high⟩ }
    timestamp other := by cases other
    revalidating other := by cases other
    port _ := port
    closed := inv.closed
    configured := { inv.configured with }
    next := inv.next
    epoch := inv.epoch
    codec _ := ⟨codec, profile⟩ }

theorem start_invariant (inv : Invariant config s) {timestamp : Buffer 21} (owns : OwnsStream s)
    (validated : s.pathValidated ≠ 0) (decimal : DecimalU64 timestamp.text) (started : UInt64) :
    Invariant config
      { s with
        firstMediaTimestamp := timestamp, streamsStarted := started, state := .streaming } where
  idle idle := absurd idle (by simp)
  owned _ := { inv.owned owns with }
  timestamp _ := decimal
  revalidating _ unvalidated := absurd unvalidated validated
  port _ := inv.port (owns_past_hello owns)
  closed := inv.closed
  configured := { inv.configured with }
  next := inv.next
  epoch := inv.epoch
  codec _ := inv.codec owns

theorem stop_invariant (inv : Invariant config s) (owns : OwnsStream s) (stopped : UInt64) :
    Invariant config { s with streamsStopped := stopped, state := .streamOpen } where
  idle idle := absurd idle (by simp)
  owned _ := { inv.owned owns with }
  timestamp other := by cases other
  revalidating other := by cases other
  port _ := inv.port (owns_past_hello owns)
  closed := inv.closed
  configured := { inv.configured with }
  next := inv.next
  epoch := inv.epoch
  codec _ := inv.codec owns

theorem add_one_toNat {value : UInt32} (below : value ≠ maxU32) :
    (value + 1).toNat = value.toNat + 1 := by
  have bound : value.toNat ≠ 4294967295 := fun top => below (UInt32.toNat_inj.mp top)
  have small := value.toNat_lt
  simp only [UInt32.toNat_add, UInt32.reduceToNat]
  omega

theorem rekey_successor {old new : UInt32} (next : new = old + 1) (positive : 1 ≤ new) :
    new.toNat = old.toNat + 1 := by
  subst next
  apply add_one_toNat
  rintro rfl
  exact absurd positive (by decide)

theorem next_after_close_below {next : UInt32} (below : next ≠ maxU32) :
    nextAfterClose next next = next + 1 := by
  rw [nextAfterClose, if_pos]
  simpa using below

/-- The last stream id is followed by itself. -/
theorem next_after_close_top : nextAfterClose maxU32 maxU32 = maxU32 := by decide

theorem next_after_close (next : UInt32) :
    next ≤ nextAfterClose next next ∧ nextAfterClose next next ≠ 0 := by
  by_cases top : next = maxU32
  · rw [top, next_after_close_top]
    decide
  · have sum := add_one_toNat top
    rw [next_after_close_below top]
    simp only [UInt32.le_iff_toNat_le, ne_eq, ← UInt32.toNat_inj, sum, UInt32.reduceToNat]
    omega

theorem close_invariant (inv : Invariant config s) {streamId : UInt32} (owns : OwnsStream s)
    (same : streamId = s.streamId) :
    Invariant config
      { clearStream s with
        lastClosedStreamId := streamId
        nextStreamId := nextAfterClose s.nextStreamId streamId
        state := .bound
        streamsClosed := s.streamsClosed + 1 } := by
  obtain rfl : streamId = s.nextStreamId := same.trans (inv.owned owns).streamId
  have next := next_after_close s.nextStreamId
  exact {
    idle _ := ⟨rfl, rfl, rfl, rfl, rfl, rfl, rfl⟩
    owned owned := by rcases owned with other | other <;> cases other
    timestamp other := by cases other
    revalidating other := by cases other
    port _ := inv.port (owns_past_hello owns)
    closed := next.1
    configured := { inv.configured with }
    next := next.2
    epoch := inv.epoch
    codec owned := by rcases owned with other | other <;> cases other }

theorem rekey_invariant (inv : Invariant config s) {keyEpoch : UInt32} (owns : OwnsStream s)
    (next : keyEpoch = s.keyEpoch + 1) (positive : 1 ≤ keyEpoch) :
    Invariant config
      { s with
        keyEpoch := keyEpoch
        lastRekeyEpoch := keyEpoch
        pathValidated := 0
        rekeysCommitted := s.rekeysCommitted + 1 } := by
  have owned := inv.owned owns
  have sum := rekey_successor next positive
  have initial : s.initialKeyEpoch.toNat ≤ s.keyEpoch.toNat := owned.keyEpoch
  have nonzero : keyEpoch ≠ 0 := (nonzero_iff keyEpoch).mpr positive
  have later : keyEpoch ≠ s.initialKeyEpoch := by
    rintro rfl
    omega
  exact {
    idle idle := absurd idle (owns_not_idle owns)
    owned _ := {
      streamId := owned.streamId
      nonzero := owned.nonzero
      keyEpoch := initial.trans (by omega : s.keyEpoch.toNat ≤ keyEpoch.toNat)
      initial := owned.initial
      rekeyed := iff_of_false nonzero later
      lastRekey _ := rfl
      profile := owned.profile
      playout := owned.playout }
    timestamp := inv.timestamp
    revalidating _ _ := rfl
    port := inv.port
    closed := inv.closed
    configured := { inv.configured with }
    next := inv.next
    epoch := inv.epoch
    codec := inv.codec }

theorem validated_invariant (inv : Invariant config s) (owns : OwnsStream s) (emitted : UInt64) :
    Invariant config { s with pathValidated := 1, actionsEmitted := emitted } where
  idle idle := absurd idle (owns_not_idle owns)
  owned _ := { inv.owned owns with }
  timestamp := inv.timestamp
  revalidating _ unvalidated := absurd unvalidated (by decide : (1 : UInt8) ≠ 0)
  port := inv.port
  closed := inv.closed
  configured := { inv.configured with }
  next := inv.next
  epoch := inv.epoch
  codec := inv.codec

end Preservation

theorem grants_invariant {config : GmControlSessionConfig} {s₀ s next : GmControlSession}
    {jsonText : GmBytes} {m : GmControlMessageInfo} {nowNs : UInt64} {kind edit}
    (inv : Invariant config s) (arrives : Arrives s₀ jsonText m)
    (grants : Grants s m nowNs kind next edit) : Invariant config next := by
  cases grants with
  | hello kind state => exact hello_invariant inv state (hello_arrives arrives kind)
  | bind kind state same port => exact bind_invariant inv state
  | «open» kind state =>
    obtain ⟨codec, low, high⟩ := open_arrives arrives kind
    exact open_invariant inv state codec low high
  | openAgain => exact inv
  | start kind active validated again =>
    obtain ⟨_, _, owns⟩ := (active_iff s m.streamId).mp active
    obtain ⟨decimal, copied⟩ := start_arrives arrives kind
    exact start_invariant inv owns validated (copied.symm ▸ decimal) _
  | stop kind active =>
    obtain ⟨_, _, owns⟩ := (active_iff s m.streamId).mp active
    exact stop_invariant inv owns _
  | close kind active =>
    obtain ⟨_, same, owns⟩ := (active_iff s m.streamId).mp active
    exact close_invariant inv owns same.symm
  | closeAgain => exact inv
  | rekey kind active next =>
    obtain ⟨_, _, owns⟩ := (active_iff s m.streamId).mp active
    exact rekey_invariant inv owns next (rekey_arrives arrives kind)
  | rekeyAgain => exact inv
  | status => exact inv
  | ping => exact inv
  | sessionCloseActive kind active =>
    obtain ⟨_, _, owns⟩ := (active_iff s s.streamId).mp active
    have last : s.streamId ≤ s.nextStreamId := (inv.owned owns).streamId ▸ UInt32.le_refl _
    exact closed_invariant rfl last { inv.configured with } inv.next inv.epoch
  | sessionCloseIdle kind idle =>
    exact closed_invariant rfl inv.closed { inv.configured with } inv.next inv.epoch

theorem step_invariant {config : GmControlSessionConfig} {s : GmControlSession} (call : Call)
    (inv : Invariant config s) : Invariant config (step s call).2 := by
  have out := step_steps s call
  generalize step s call = result at out
  obtain ⟨reply, next⟩ := result
  dsimp only at out ⊢
  cases out with
  | invalidIngest => exact inv
  | invalidMark => exact inv
  | closed => exact invariant_congr inv rfl
  | refused status id _ live =>
    exact closed_invariant rfl inv.closed { inv.configured with } inv.next inv.epoch
  | conflict m => exact invariant_congr inv rfl
  | granted m _ live arrives grants =>
    have admitted (nowNs : UInt64) := invariant_congr inv (core_received s m nowNs).symm
    exact invariant_congr (grants_invariant (admitted _) arrives grants) rfl
  | unmatched => exact invariant_congr inv rfl
  | validated _ active =>
    obtain ⟨_, _, owns⟩ := (active_iff s _).mp active
    exact validated_invariant inv owns _

theorem run_invariant {config : GmControlSessionConfig} {blank start : GmControlSession}
    (init : gmControlSessionInit config blank = (.ok, start)) (calls : List Call) :
    Invariant config (final step start calls) := by
  obtain ⟨valid, _, rfl⟩ := init_ok init
  exact invariant_of_run step _ (initial_invariant valid _) (fun _ call inv =>
    step_invariant call inv) calls

/-- The representation invariant holds in every reachable state. -/
theorem session_represents {config : GmControlSessionConfig} {blank start : GmControlSession}
    (init : gmControlSessionInit config blank = (.ok, start)) (calls : List Call) :
    Represents config (final step start calls) :=
  (run_invariant init calls).toRepresents

/-- A configuration at the last stream id and without an output device. -/
def sampleConfig : GmControlSessionConfig where
  structSize := sizeofGmControlSessionConfig
  abiVersion := gmAbiVersion
  role := gmControlSessionRoleAppleOutputServer
  appleUdpPort := 49170
  streamId := 4294967295
  keyEpoch := 1
  maxAudioSubscribers := 1
  playoutTargetMsMin := 20
  playoutTargetMsMax := 80
  outputAvailable := 0
  serverId := fill _ (ascii "7d8d4aa0-5d2c-4a41-9f0e-0f7c1c5b9a11")
  bootId := fill _ (ascii "0b9f6f4e-43d0-4e0e-8f8e-8d6b2d1a7c22")
  sessionId := fill _ (ascii "00112233445566778899aabbccddeeff")

def sampleSession : GmControlSession := initialSession sampleConfig sizeofGmControlSession

theorem sample_init : gmControlSessionInit sampleConfig sampleSession = (.ok, sampleSession) := by
  decide +kernel

/-- An action record as a caller passes it, with its size filled in. -/
def blankAction : GmControlAction :=
  ⟨sizeofGmControlAction, 0, .none, 0, .ok, .closed, 0, 0, 0, 0, 0, 0, clearedProfile, zero _,
    zero _, zero _, zero _, zero _, zero _, zero _, zero _, zero _, zero _, zero _⟩

/-- A request with its other members given as text. -/
def sampleRequest (id type fields : String) : Call :=
  .ingest (.view (ascii "\x7b\"v\":1,\"id\":" ++ ascii id ++ ascii ",\"type\":\"" ++ ascii type ++
    ascii "\"" ++ ascii fields ++ ascii "\x7d")) 1000 blankAction

def sampleHello : Call := sampleRequest "1" "session.hello"
  ",\"role\":\"win-client\",\"client_name\":\"PC\",\"versions\":[1],\"udp_port\":50000"

def sampleBind : Call := sampleRequest "2" "transport.bind"
  ",\"session_id\":\"00112233445566778899aabbccddeeff\",\"udp_port\":50000"

def sampleOpen (id : String) : Call := sampleRequest id "stream.open"
  (",\"kind\":\"audio\",\"direction\":\"win_to_apple\",\"profile\":\x7b\"codec\":\"pcm_s16le\"," ++
    "\"sample_rate_hz\":48000,\"channels\":2,\"channel_layout\":\"stereo\"," ++
    "\"frames_per_packet\":240\x7d,\"playout_target_ms\":40")

def samplePing : Call := sampleRequest "7" "ping" ",\"token\":\"abc\""

theorem sample_requests_carry :
    Carries sampleHello ((Message.sessionHello 1 (ascii "PC") [1] 50000).info 928) ∧
      Carries sampleBind ((Message.transportBind 2
        (ascii "00112233445566778899aabbccddeeff") 50000).info 928) ∧
      Carries (sampleOpen "3") ((Message.streamOpen 3 .pcmS16le 40).info 928) ∧
      Carries samplePing ((Message.ping 7 (ascii "abc")).info 928) ∧
      Carries (sampleOpen "8") ((Message.streamOpen 8 .pcmS16le 40).info 928) := by
  decide +kernel

/-- The sample session after the hello. -/
def greetedSession : GmControlSession :=
  { sampleSession with
    state := .hello
    lastRequestId := 1
    lastUpdateNs := 1000
    validRequests := 1
    actionsEmitted := 1
    windowsUdpPort := 50000 }

/-- The sample session with its transport bound, two requests later. -/
def boundSession : GmControlSession :=
  { greetedSession with
    state := .bound
    lastRequestId := 2
    validRequests := 2
    actionsEmitted := 2 }

theorem sample_bound : final step sampleSession [sampleHello, sampleBind] = boundSession := by
  obtain ⟨hello, bind, _⟩ := sample_requests_carry
  have greeted : (step sampleSession sampleHello).2 = greetedSession :=
    congrArg Prod.snd (granted_step (by decide) (by decide) ⟨hello, by decide⟩ (.inl rfl)
      (.hello rfl rfl))
  have bound : (step greetedSession sampleBind).2 = boundSession :=
    congrArg Prod.snd (granted_step (by decide) (by decide) ⟨bind, by decide⟩ (.inr (by decide))
      (.bind rfl (by decide) (by decide) rfl))
  rw [final, final, final_nil, greeted, bound]

/-- The sample session with its stream open, three requests later. -/
def openedSession : GmControlSession :=
  { sampleSession with
    state := .streamOpen
    lastRequestId := 3
    lastUpdateNs := 1000
    validRequests := 3
    actionsEmitted := 3
    windowsUdpPort := 50000
    streamId := 4294967295
    keyEpoch := 1
    profile := Codec.pcmS16le.profile
    playoutTargetMs := 40 }

def sampleOpening : List Call := [sampleHello, sampleBind, sampleOpen "3"]

theorem bound_session_opens : (step boundSession (sampleOpen "3")).2 = openedSession := by
  obtain ⟨_, _, carries, _⟩ := sample_requests_carry
  exact congrArg Prod.snd (granted_step (by decide) (by decide) ⟨carries, by decide⟩
    (.inr (by decide)) (.open rfl rfl))

theorem sample_opened : final step sampleSession sampleOpening = openedSession := by
  have run := final_snoc step sampleSession [sampleHello, sampleBind] (sampleOpen "3")
  rw [sample_bound, bound_session_opens] at run
  exact run

theorem session_represents_opened :
    Represents sampleConfig (final step sampleSession sampleOpening) ∧
      (final step sampleSession sampleOpening).state = .streamOpen :=
  ⟨session_represents sample_init _, congrArg GmControlSession.state sample_opened⟩

end GhostMedia.Session
