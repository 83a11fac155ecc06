import GhostMedia.Interop.ProbeScript

/- The harness on its way through a Phase 3 test: what its control session becomes, and that
   it keeps to its turns, whatever else it may be answered. -/
namespace GhostMedia.Interop
open CString Control Media Session Bridge Dialogue Turns Replay SlidingWindow GhostMedia.Runtime

namespace Setup
variable (setup : Setup)

def expectedArrival (item : Nat) : Harness.Arrival :=
  ⟨setup.probeDatagram item, setup.windowsHost, setup.options.udpPort⟩

def harnessEvent : Turn Channel Empty → Event Harness.Answer
  | .receive .control item => ⟨.receivePayload, .ok (setup.requestText item)⟩
  | .send .control item => ⟨.sendAll (framed (resultText item)), GmStatus.ok⟩
  | .receive .udp item => ⟨.receiveUdp, .ok (setup.expectedArrival item)⟩
  | .send .udp _ =>
    ⟨.sendUdp setup.windowsHost setup.options.udpPort setup.response, GmStatus.ok⟩

def harnessScript : List (Event Harness.Answer) := harnessTurns.map setup.harnessEvent

/-- What the harness may be answered: failures, the texts of the test, and datagrams that are
    not forged. -/
def harnessMay : Answers Harness.Answer
  | ⟨.receivePayload, expected⟩, answer =>
    ∀ payload, answer = Except.ok payload → expected = .ok payload
  | ⟨.sendAll _, _⟩, _ => True
  | ⟨.receiveUdp, _⟩, answer => ∀ arrival : Harness.Arrival, answer = Except.ok arrival →
      setup.Unforged setup.datagrams arrival.datagram
  | ⟨.sendUdp .., _⟩, _ => True

/-- The record of a request. -/
def request (item : Nat) : GmControlMessageInfo := recorded (setup.requestMessage item)

def startRaw : GmControlSession :=
  initialSession (rawConfiguration Harness.testConfiguration) sizeofGmControlSession

def greetedRaw : GmControlSession :=
  counted { Session.received startRaw (setup.request 0) 1 with
    windowsUdpPort := setup.options.udpPort.toUInt32
    state := .hello }

def boundRaw : GmControlSession :=
  counted { Session.received setup.greetedRaw (setup.request 1) 2 with state := .bound }

def openedRaw : GmControlSession :=
  counted { Session.received setup.boundRaw (setup.request 2) 3 with
    streamId := 1
    keyEpoch := 1
    profile := Codec.pcmS16le.profile
    playoutTargetMs := setup.options.playoutTargetMs.toUInt32
    pathValidated := 0
    state := .streamOpen }

def validatedRaw : GmControlSession :=
  { setup.openedRaw with
    pathValidated := 1
    actionsEmitted := setup.openedRaw.actionsEmitted + 1 }

def streamingRaw : GmControlSession :=
  counted { Session.received setup.validatedRaw (setup.request 3) 4 with
    firstMediaTimestamp := copyCString _ (setup.request 3).firstMediaTimestamp.bytes
    streamsStarted := setup.validatedRaw.streamsStarted + 1
    state := .streaming }

/-- The control sessions of the test, wrapped. -/
def started : ControlSession := ⟨startRaw, Nat.le_refl _, rfl⟩

def ingested (session : ControlSession) (item : Nat) (now : UInt64) : ControlSession :=
  session.after (.ingest (.view (setup.requestText item)) now blankAction)

def greeted : ControlSession := setup.ingested started 0 1
def bound : ControlSession := setup.ingested setup.greeted 1 2
def opened : ControlSession := setup.ingested setup.bound 2 3
def validated : ControlSession := setup.opened.after (.markPathValidated 1 1 blankAction)
def streaming : ControlSession := setup.ingested setup.validated 3 4

/-- What the harness ends with. -/
def completed : Harness.Completed where
  packets := (List.range Probe.kPhase3PacketCount).map setup.packet
  metrics := ⟨4, 1⟩
  control := setup.streaming

end Setup

section Session
variable (setup : Setup)

/-- A call that the core grants with an action of a kind. -/
structure Takes (s : GmControlSession) (call : Call) (kind : GmControlActionKind)
    (next : GmControlSession) : Prop where
  status : (step s call).1.status = .ok
  action : (step s call).1.action.kind = kind
  session : (step s call).2 = next

theorem request_taken {s next : GmControlSession} {now : UInt64} {item : Nat} {kind edit}
    (valid : validSessionForIngest s blankAction = true) (live : s.state ≠ .closed)
    (request : ensureRequest s (setup.request item) = true)
    (begun : (setup.request item).kind = .requestSessionHello ∨ s.state ≠ .tlsReady)
    (grants : Grants (Session.received s (setup.request item) now) (setup.request item) now kind
      next edit) (keeps : ∀ action, (edit action).kind = action.kind) :
    Takes s (.ingest (.view (setup.requestText item)) now blankAction) kind (counted next) := by
  have run := granted_step valid live ⟨(request_reads setup item).core, request⟩ begun grants
  constructor
  · rw [run]
    rfl
  · rw [run]
    exact keeps _
  · rw [run]

theorem greeted_taken : Takes Setup.startRaw
    (.ingest (.view (setup.requestText 0)) 1 blankAction) .sendSessionHelloResult
    setup.greetedRaw :=
  request_taken setup (by decide) (by decide) rfl (.inl rfl) (.hello rfl rfl) fun _ => rfl

theorem bound_taken : Takes setup.greetedRaw
    (.ingest (.view (setup.requestText 1)) 2 blankAction) .sendTransportBindResult
    setup.boundRaw :=
  request_taken setup rfl (by simp [Setup.greetedRaw, counted]) rfl
    (.inr (by simp [Setup.greetedRaw, counted])) (.bind rfl (Nat.le_refl _) rfl rfl) fun _ => rfl

theorem opened_taken : Takes setup.boundRaw
    (.ingest (.view (setup.requestText 2)) 3 blankAction) .sendStreamOpenResult
    setup.openedRaw :=
  request_taken setup rfl (by simp [Setup.boundRaw, counted]) rfl
    (.inr (by simp [Setup.boundRaw, counted])) (.open rfl rfl) fun _ => rfl

theorem validated_taken : Takes setup.openedRaw (.markPathValidated 1 1 blankAction)
    .pathValidated setup.validatedRaw where
  status := rfl
  action := rfl
  session := rfl

theorem streaming_taken : Takes setup.validatedRaw
    (.ingest (.view (setup.requestText 3)) 4 blankAction) .sendStreamStartResult
    setup.streamingRaw :=
  request_taken setup rfl (by simp [Setup.validatedRaw, Setup.openedRaw, counted]) rfl
    (.inr (by simp [Setup.validatedRaw, Setup.openedRaw, counted]))
    (.start rfl rfl (by simp [Session.received, Setup.validatedRaw]) fun again => by cases again)
    fun _ => rfl

theorem taken_after {session : ControlSession} {s next : GmControlSession} {call : Call}
    {kind : GmControlActionKind} (same : session.rawValue = s) (taken : Takes s call kind next) :
    (session.after call).rawValue = next := by
  subst same
  exact taken.session

theorem greeted_raw : setup.greeted.rawValue = setup.greetedRaw :=
  taken_after rfl (greeted_taken setup)

theorem bound_raw : setup.bound.rawValue = setup.boundRaw :=
  taken_after (greeted_raw setup) (bound_taken setup)

theorem opened_raw : setup.opened.rawValue = setup.openedRaw :=
  taken_after (bound_raw setup) (opened_taken setup)

theorem validated_raw : setup.validated.rawValue = setup.validatedRaw :=
  taken_after (opened_raw setup) (validated_taken setup)

theorem streaming_raw : setup.streaming.rawValue = setup.streamingRaw :=
  taken_after (validated_raw setup) (streaming_taken setup)

end Session

section Stages
variable (setup : Setup)

theorem control_call_taken {session : ControlSession} {s next : GmControlSession} {call : Call}
    {kind : GmControlActionKind} {shown : ControlSessionActionKind}
    (same : session.rawValue = s) (taken : Takes s call kind next)
    (kindEq : .init kind.code = shown) (operation refusal : String) :
    Harness.controlCall (ControlSession.perform call operation) shown refusal session =
      .done (session.after call) := by
  subst same
  rw [Harness.controlCall, ControlSession.perform, requireOk, if_pos taken.status]
  simp only [ControlSession.action, taken.action, kindEq, Harness.require, if_true,
    Program.done_bind]
  rfl

theorem harness_require_here {condition : Prop} [Decidable condition] (holds : condition)
    (message : String) : Harness.require condition message = .done () := if_pos holds

theorem responds_scripted {json : List UInt8} {info : GmControlMessageInfo}
    (reads : Reads json info) :
    Scripted setup.harnessMay () [⟨.sendAll (framed json), GmStatus.ok⟩]
      (Harness.sendResponse true json) := by
  unfold Harness.sendResponse Harness.protocolCore Harness.apple
  rw [reads.swift, reads.swiftFrames]
  apply scripted_call
  · rfl
  · intro status _ other
    exact ⟨_, if_neg other⟩

theorem request_scripted {session : ControlSession} {s next : GmControlSession} {item : Nat}
    {now : UInt64} {kind : GmControlActionKind} {shown : ControlSessionActionKind}
    (same : session.rawValue = s)
    (taken : Takes s (.ingest (.view (setup.requestText item)) now blankAction) kind next)
    (kindEq : .init kind.code = shown) (refusal : String) :
    Scripted setup.harnessMay
      (controlMessage (setup.request item), ⟨setup.ingested session item now, now + 1⟩)
      [setup.harnessEvent (.receive .control item)]
      (Harness.receiveRequest shown refusal ⟨session, now⟩) := by
  have call := control_call_taken same taken kindEq "gm_control_session_ingest" refusal
  have parsed : parseControlMessage (setup.requestText item) = .ok _ :=
    (request_reads setup item).swift
  unfold Harness.receiveRequest Harness.receivePayload
  apply scripted_call
  · apply scripted_here (a := setup.requestText item) rfl
    apply scripted_here call
    rw [parsed]
    rfl
  · intro answer allowed other
    cases answer with
    | error error => exact ⟨_, rfl⟩
    | ok payload => exact absurd (allowed payload rfl).symm other

theorem udp_sends_scripted (host : String) (port : UInt16) (datagram : List UInt8) :
    Scripted setup.harnessMay () [⟨.sendUdp host port datagram, GmStatus.ok⟩]
      (Harness.sendUdp host port datagram) := by
  unfold Harness.sendUdp
  apply scripted_call
  · rfl
  · intro status _ other
    exact ⟨_, congrArg (Harness.requireRuntimeOk "UDP send") (if_neg other)⟩

/-- An arrival that is not the expected one makes what follows fail. -/
theorem arrival_scripted {α : Type} {a : α} {item : Nat} {script : List (Event Harness.Answer)}
    {next : Harness.Arrival → Harness.Run α}
    (after : Scripted setup.harnessMay a script (next (setup.expectedArrival item)))
    (others : ∀ arrival : Harness.Arrival, setup.Unforged setup.datagrams arrival.datagram →
      arrival ≠ setup.expectedArrival item → ∃ error, next arrival = .fail error) :
    Scripted setup.harnessMay a (setup.harnessEvent (.receive .udp item) :: script)
      (Harness.receiveUdp >>= next) := by
  refine ⟨fun answer => Harness.requireRuntimeOk "UDP receive" answer >>= next, rfl, after, ?_⟩
  intro answer allowed other
  cases answer with
  | error status => exact ⟨_, rfl⟩
  | ok arrival =>
    apply others arrival (allowed arrival rfl)
    intro same
    exact other (congrArg Except.ok same)

theorem hello_port : (controlMessage (setup.request 0)).udpPort =
    some setup.options.udpPort.toUInt32 := by
  have positive := (port_range setup.admissible.port).1
  have nonzero : setup.options.udpPort.toUInt32 ≠ 0 := by
    intro zero
    rw [zero] at positive
    exact absurd positive (by decide)
  exact if_neg nonzero

theorem test_session_inits :
    ControlSession.init Harness.testConfiguration = .ok Setup.started := by
  have core : gmControlSessionInit (rawConfiguration Harness.testConfiguration) newSession =
      (.ok, Setup.startRaw) := by decide +kernel
  have ok : (gmControlSessionInit (rawConfiguration Harness.testConfiguration) newSession).1 =
      .ok := congrArg Prod.fst core
  rw [ControlSession.init, dif_pos ok]
  simp only [core]
  rfl

theorem harness_opens_stream :
    Scripted setup.harnessMay
      (controlMessage (setup.request 0), ⟨setup.opened, 4⟩)
      ((harnessTurns.take 6).map setup.harnessEvent) Harness.openStream := by
  unfold Harness.openStream Harness.protocolCore Harness.apple
  apply scripted_here (a := Setup.started) (by rw [test_session_inits]; rfl)
  apply scripted_step (request_scripted setup rfl (greeted_taken setup) (by decide) _)
  apply scripted_here (harness_require_here ⟨rfl, rfl, by rfl, by simp [hello_port]⟩ _)
  apply scripted_step (responds_scripted setup hello_result_reads)
  apply scripted_step (request_scripted setup (greeted_raw setup) (bound_taken setup) (by decide) _)
  apply scripted_here (harness_require_here ⟨rfl, rfl, by rfl, rfl⟩ _)
  apply scripted_step (responds_scripted setup bind_result_reads)
  apply scripted_step (request_scripted setup (bound_raw setup) (opened_taken setup) (by decide) _)
  apply scripted_here (harness_require_here ⟨rfl, rfl, rfl⟩ _)
  apply scripted_step (responds_scripted setup open_result_reads)
  rfl

end Stages

section Media
variable (setup : Setup) {evp : Evp} (performs : Performs evp setup.aead)

theorem swift_challenge_raw : rawMediaHeader swiftChallengeHeader = .ok challengeHeader :=
  (raw_media_header_iff _ _).mpr ⟨rfl, rfl, rfl, rfl, rfl, rfl, rfl, rfl, rfl, rfl⟩

theorem swift_audio_raw (packetIndex : Nat) :
    rawMediaHeader (swiftAudioHeader packetIndex) = .ok (audioHeader packetIndex) :=
  (raw_media_header_iff _ _).mpr ⟨rfl, rfl, rfl, rfl, rfl, rfl, rfl, rfl, rfl, rfl⟩

theorem start_timestamp_text : (controlMessage (setup.request 3)).firstMediaTimestamp =
    some (Decimal.render Probe.kFirstTimestamp.toNat) := by
  obtain ⟨short, clean⟩ := decimal_plain (render_decimal Probe.kFirstTimestamp)
  have nonempty := (render_decimal Probe.kFirstTimestamp).1.nonempty
  have text : (setup.request 3).firstMediaTimestamp.text =
      Decimal.render Probe.kFirstTimestamp.toNat := fill_clean (Nat.lt_succ_of_le short) clean
  change optionalString (setup.request 3).firstMediaTimestamp = _
  rw [optionalString, text, List.isEmpty_eq_false_iff.mpr nonempty]
  rfl

theorem start_timestamp_read :
    (controlMessage (setup.request 3)).firstMediaTimestamp.bind uint64OfText =
      some Probe.kFirstTimestamp := by
  rw [start_timestamp_text, Option.bind_some, uint64_of_canonical (render_decimal _),
    Decimal.render_value, UInt64.ofNat_toNat]

theorem streaming_metrics : Harness.metrics setup.streaming = .ok ⟨4, 1⟩ := by
  rw [Harness.metrics, streaming_raw]
  rfl

include performs

/-- What the harness opens with a session key is a datagram of the test, unless it is
    forged. -/
theorem harness_opens_known {key datagram payload : List UInt8} (isKey : key ∈ setup.sessionKeys)
    {header : MediaHeader} (unforged : setup.Unforged setup.datagrams datagram)
    (opened : Harness.openMedia evp datagram key = .ok (header, payload)) :
    ∃ raw, datagram ∈ setup.datagrams ∧ Layout raw datagram ∧ rawMediaHeader header = .ok raw := by
  obtain ⟨_, decoded, authentic⟩ := (harness_open_iff performs _ _ _ _).mp opened
  obtain ⟨raw, core, made⟩ := (decode_media_header_iff _ _).mp decoded
  exact ⟨raw, unforged _ isKey _ authentic, (decode_iff_layout _ _).mp core, made⟩

theorem harness_takes_challenge {arrival : Harness.Arrival} {header : MediaHeader}
    {challenge : List UInt8} (unforged : setup.Unforged setup.datagrams arrival.datagram)
    (host : arrival.host = setup.windowsHost) (port : arrival.port = setup.options.udpPort)
    (opened : Harness.openMedia evp arrival.datagram (setup.pathKey .windowsToApple).bytes =
      .ok (header, challenge)) (kind : header.kind = .pathChallenge) :
    arrival = setup.expectedArrival 0 := by
  obtain ⟨raw, known, layout, made⟩ :=
    harness_opens_known setup performs (by simp [Setup.sessionKeys]) unforged opened
  have rawKind := ((raw_media_header_iff _ _).mp made).2.2.1
  rw [kind] at rawKind
  have datagram : arrival.datagram = setup.challenge := by
    rcases datagram_cases setup known layout with ⟨_, same⟩ | ⟨rfl, _⟩ | ⟨_, _, rfl, _⟩
    · exact same
    · exact absurd rawKind (by decide)
    · exact absurd rawKind (by simp [audioHeader, rawMediaKind])
  cases arrival
  exact congr (congrArg₂ Harness.Arrival.mk datagram host) port

/-- Of the unforged datagrams the loop takes only the next packet of the probe's audio. -/
theorem harness_takes_audio {state : Harness.AudioState} {arrival : Harness.Arrival}
    {packetIndex : Nat} (small : packetIndex < Probe.kPhase3PacketCount)
    (here : state.expectedTimestamp = (audioHeader packetIndex).mediaTimestamp)
    (unforged : setup.Unforged setup.datagrams arrival.datagram)
    (host : arrival.host = setup.windowsHost) (port : arrival.port = setup.options.udpPort)
    {header : MediaHeader} {pcm : List UInt8}
    (opened : Harness.openMedia evp arrival.datagram (setup.mediaKey .windowsToApple).bytes =
      .ok (header, pcm)) (kind : header.kind = .audio)
    (timestamp : header.mediaTimestamp = state.expectedTimestamp) :
    arrival = setup.expectedArrival (packetIndex + 1) := by
  obtain ⟨raw, known, layout, made⟩ :=
    harness_opens_known setup performs (by simp [Setup.sessionKeys]) unforged opened
  obtain ⟨_, _, rawKind, _, _, _, _, _, stamped, _⟩ := (raw_media_header_iff _ _).mp made
  rw [kind] at rawKind
  have datagram : arrival.datagram = setup.audio packetIndex := by
    rcases datagram_cases setup known layout with ⟨rfl, _⟩ | ⟨rfl, _⟩ | ⟨other, inRange, rfl, same⟩
    · exact absurd rawKind (by decide)
    · exact absurd rawKind (by decide)
    · have stamps := stamped.trans (timestamp.trans here)
      rwa [← audio_timestamps inRange small stamps]
  cases arrival
  exact congr (congrArg₂ Harness.Arrival.mk datagram host) port

/-- The audio context of the test. -/
def audioContext (evp : Evp) : Harness.AudioContext :=
  ⟨evp, testSession.bytes, (setup.mediaKey .windowsToApple).bytes, setup.windowsHost,
    setup.options.udpPort⟩

section Packets
variable {state : Harness.AudioState} {packetIndex : Nat}

theorem harness_turn_takes (small : packetIndex < Probe.kPhase3PacketCount)
    (here : state.expectedTimestamp = (audioHeader packetIndex).mediaTimestamp)
    {seen : Finset Nat} (agrees : Agrees state.replay seen)
    (below : ∀ old ∈ seen, old < packetIndex + 2) :
    ∃ replay, Harness.audioTurn (audioContext setup evp) state
        (setup.expectedArrival (packetIndex + 1)) =
          .next (setup.packet packetIndex)
            ⟨replay, state.acceptedPackets + 1, (audioHeader (packetIndex + 1)).mediaTimestamp⟩ ∧
      Agrees replay (insert (packetIndex + 2) seen) := by
  obtain ⟨number, timestamp⟩ := packet_numbers small
  have opened := (protected_datagram_opens performs (setup.mediaKey .windowsToApple)
    (swift_audio_raw packetIndex) (audio_header_valid packetIndex)
    (setup.syntheticPcmPacket packetIndex).size).2
  have checked : Harness.checkPacket (audioContext setup evp) state (swiftAudioHeader packetIndex)
      (setup.syntheticPcmPacket packetIndex).bytes = true := by
    simp [Harness.checkPacket, swiftAudioHeader, audioContext, here, audioHeader,
      (setup.syntheticPcmPacket packetIndex).size]
  have fresh : verdict 1024 seen (audioHeader packetIndex).sequence.toNat = .accepted :=
    verdict_above (number ▸ below)
  obtain ⟨replay, call, kept⟩ := replay_accept_eq agrees (audioHeader packetIndex).sequence
  rw [fresh] at call
  rw [record, if_pos fresh, number] at kept
  have fits : ¬ state.expectedTimestamp.toNat + 240 ≥ 2 ^ 64 := by
    have bound : packetIndex < 8 := small
    rw [here, timestamp]
    omega
  refine ⟨replay, ?_, kept⟩
  have turn : Harness.audioTurn (audioContext setup evp) state
      (setup.expectedArrival (packetIndex + 1)) = taken state replay (setup.packet packetIndex) :=
    audio_turn_takes rfl rfl opened checked call
  rw [turn, taken, if_neg fits, here, next_timestamp]

/-- A turn of the loop throws at any other arrival. -/
theorem harness_turn_refuses (small : packetIndex < Probe.kPhase3PacketCount)
    (here : state.expectedTimestamp = (audioHeader packetIndex).mediaTimestamp)
    {arrival : Harness.Arrival} (unforged : setup.Unforged setup.datagrams arrival.datagram)
    (other : arrival ≠ setup.expectedArrival (packetIndex + 1)) :
    ∃ error, Harness.audioTurn (audioContext setup evp) state arrival = .thrown error := by
  unfold Harness.audioTurn
  split
  · exact ⟨_, rfl⟩
  rename_i tuple
  simp only [ne_eq, Bool.or_eq_true, decide_eq_true_eq, not_or, not_not] at tuple
  cases opened : Harness.openMedia (audioContext setup evp).evp arrival.datagram
      (audioContext setup evp).mediaKey with
  | error error => exact ⟨error, rfl⟩
  | ok result =>
    obtain ⟨header, pcm⟩ := result
    have unchecked : Harness.checkPacket (audioContext setup evp) state header pcm = false := by
      rw [← Bool.not_eq_true]
      intro checked
      simp only [Harness.checkPacket, Bool.and_eq_true, decide_eq_true_eq] at checked
      exact other (harness_takes_audio setup performs small here unforged tuple.1 tuple.2 opened
        checked.1.1.1.1.1.1 checked.1.2)
    exact ⟨.unexpectedMessage "invalid encrypted synthetic PCM packet", by simp [unchecked]⟩

end Packets

theorem harness_receives_packets {more packetIndex : Nat} {state : Harness.AudioState}
    {seen : Finset Nat} (fits : packetIndex + more ≤ Probe.kPhase3PacketCount)
    (here : state.expectedTimestamp = (audioHeader packetIndex).mediaTimestamp)
    (agrees : Agrees state.replay seen) (below : ∀ old ∈ seen, old < packetIndex + 2) :
    Scripted setup.harnessMay ((List.range' packetIndex more).map setup.packet)
      ((List.range' packetIndex more).map fun k => setup.harnessEvent (.receive .udp (k + 1)))
      (Harness.receivePackets (audioContext setup evp) more state) := by
  induction more generalizing packetIndex state seen with
  | zero => rfl
  | succ more ih =>
    have small : packetIndex < Probe.kPhase3PacketCount := by omega
    obtain ⟨replay, turn, kept⟩ := harness_turn_takes setup performs small here agrees below
    have bound : ∀ old ∈ insert (packetIndex + 2) seen, old < packetIndex + 1 + 2 := by
      intro old member
      rcases Finset.mem_insert.mp member with rfl | earlier
      · exact Nat.lt_succ_self _
      · exact (below old earlier).trans (Nat.lt_succ_self _)
    rw [List.range'_succ, List.map_cons, List.map_cons, Harness.receivePackets]
    apply arrival_scripted
    · simp only [turn]
      exact scripted_then (@ih (packetIndex + 1) ⟨replay, state.acceptedPackets + 1,
        (audioHeader (packetIndex + 1)).mediaTimestamp⟩ _ (by omega) rfl kept bound) rfl
    · intro arrival unforged other
      obtain ⟨error, refused⟩ := harness_turn_refuses setup performs small here unforged other
      exact ⟨_, by rw [refused]⟩

theorem harness_seals_response :
    Harness.sealMedia evp ⟨.pathResponse, testSession.bytes, 1, .appleToWindows, 1, 1, 0,
      (setup.random 12).bytes.length.toUInt32⟩ (setup.random 12).bytes
      (setup.pathKey .appleToWindows).bytes = .ok setup.response := by
  have length : (setup.random 12).bytes.length.toUInt32 = 12 := by
    rw [(setup.random 12).size]
    rfl
  rw [harness_seal_iff performs]
  refine ⟨responseHeader, ?_, response_header_valid, ?_, rfl⟩
  · rw [raw_media_header_iff, length]
    exact ⟨rfl, rfl, rfl, rfl, rfl, rfl, rfl, rfl, rfl, rfl⟩
  · exact header_limits response_header_valid (setup.pathKey _).size (setup.random 12).size

theorem harness_answers_challenge :
    Scripted setup.harnessMay (setup.expectedArrival 0, setup.validated)
      [setup.harnessEvent (.receive .udp 0), setup.harnessEvent (.send .udp 0)]
      (Harness.answerChallenge (setup.listener evp) (controlMessage (setup.request 0))
        testSession.bytes
        ⟨(setup.mediaKey .windowsToApple).bytes, (setup.pathKey .windowsToApple).bytes⟩
        ⟨(setup.mediaKey .appleToWindows).bytes, (setup.pathKey .appleToWindows).bytes⟩
        setup.opened) := by
  have port : Harness.uint16Of ((controlMessage (setup.request 0)).udpPort.getD 0) =
      some setup.options.udpPort := by
    have small : setup.options.udpPort.toUInt32.toNat < 2 ^ 16 := by
      simpa using setup.options.udpPort.toNat_lt
    rw [hello_port, Option.getD_some, Harness.uint16Of, if_pos small, UInt16.toUInt16_toUInt32]
  have opened : Harness.openMedia evp setup.challenge (setup.pathKey .windowsToApple).bytes =
      .ok (swiftChallengeHeader, (setup.random 12).bytes) :=
    (protected_datagram_opens performs (setup.pathKey .windowsToApple) swift_challenge_raw
      challenge_header_valid (setup.random 12).size).2
  unfold Harness.answerChallenge
  apply arrival_scripted
  · apply scripted_here (harness_require_here rfl _)
    apply scripted_here (a := setup.options.udpPort) (by rw [port]; rfl)
    apply scripted_here (harness_require_here rfl _)
    apply scripted_here (a := (swiftChallengeHeader, (setup.random 12).bytes))
      (by simp only [Setup.listener, Setup.expectedArrival, Setup.probeDatagram, opened]; rfl)
    apply scripted_here (harness_require_here ⟨rfl, rfl, rfl, rfl, rfl, (setup.random 12).size⟩ _)
    apply scripted_here (a := setup.response)
      (by simp only [Setup.listener, harness_seals_response setup performs]; rfl)
    apply scripted_step (udp_sends_scripted setup _ _ _)
    apply scripted_here (a := setup.validated)
      (control_call_taken (opened_raw setup) (validated_taken setup) (by decide) _ _)
    rfl
  · intro arrival unforged other
    by_cases host : arrival.host = setup.windowsHost
    · by_cases number : arrival.port = setup.options.udpPort
      · cases taken : Harness.openMedia evp arrival.datagram
            (setup.pathKey .windowsToApple).bytes with
        | error error =>
          simp only [Harness.require, Setup.listener, host, number, taken, port, if_true,
            Program.done_bind, Harness.unwrap, Harness.apple]
          exact ⟨_, rfl⟩
        | ok result =>
          have kind : result.1.kind ≠ .pathChallenge := fun kind =>
            other (harness_takes_challenge setup performs unforged host number taken kind)
          simp only [Harness.require, Setup.listener, host, number, taken, port, if_true,
            Program.done_bind, Harness.unwrap, Harness.apple, Except.mapError,
            Program.of_except_ok, kind, false_and, if_false]
          exact ⟨_, rfl⟩
      · simp only [Harness.require, Setup.listener, host, number, port, if_true, if_false,
          Program.done_bind, Harness.unwrap]
        exact ⟨_, rfl⟩
    · exact ⟨_, congrArg (· >>= _) (if_neg host)⟩

/-- The harness keeps to its turns, as long as no datagram is forged. -/
theorem harness_scripted :
    Scripted setup.harnessMay setup.completed setup.harnessScript
      (Harness.runSecureListener (setup.listener evp)) := by
  have forward := harness_keys setup .windowsToApple evp
  have reverse := harness_keys setup .appleToWindows evp
  obtain ⟨replay, windowed, agrees⟩ := replay_window_starts
  have packets := @harness_receives_packets setup evp performs Harness.phase3PacketCount 0
    ⟨replay, 0, Probe.kFirstTimestamp⟩ ∅ (Nat.le_refl _) rfl agrees (by simp)
  rw [← List.range_eq_range'] at packets
  have script : setup.harnessScript = (harnessTurns.take 6).map setup.harnessEvent ++
      ([setup.harnessEvent (.receive .udp 0), setup.harnessEvent (.send .udp 0)] ++
      (setup.harnessEvent (.receive .control 3) :: setup.harnessEvent (.send .control 3) ::
        (List.range Harness.phase3PacketCount).map fun k =>
          setup.harnessEvent (.receive .udp (k + 1)))) := rfl
  rw [script]
  unfold Harness.runSecureListener
  apply scripted_bind (harness_opens_stream setup)
  apply scripted_here (a := testSession.bytes) (by rw [test_session_decoded.2]; rfl)
  apply scripted_here (a := ⟨_, _⟩) (congrArg Harness.apple forward)
  apply scripted_here (a := ⟨_, _⟩) (congrArg Harness.apple reverse)
  apply scripted_bind (harness_answers_challenge setup performs)
  apply scripted_step (request_scripted setup (validated_raw setup) (streaming_taken setup)
    (by decide) _)
  apply scripted_here (harness_require_here ⟨rfl, rfl, rfl, by simp [start_timestamp_text]⟩ _)
  apply scripted_step (responds_scripted setup start_result_reads)
  apply scripted_here (a := replay) (by rw [windowed]; rfl)
  apply scripted_here (a := Probe.kFirstTimestamp) (by rw [start_timestamp_read]; rfl)
  apply scripted_then packets
  have reported : Harness.metrics (setup.ingested setup.validated 3 4) = .ok ⟨4, 1⟩ :=
    streaming_metrics setup
  simp only [reported]
  rfl

end Media

end GhostMedia.Interop
