import GhostMedia.Foundation.Turns
import GhostMedia.Interop.Phase3Setup

/- The probe on its way through a Phase 3 test: the turns of both ends, and that the probe
   keeps to its own, whatever else it may be answered. -/
namespace GhostMedia.Interop
open CString Control Media Bridge Dialogue Turns GhostMedia.Runtime

inductive Channel where
  | control
  | udp
  deriving DecidableEq

/-- The random bytes are the probe's own. -/
def probeTurns : List (Turn Channel Unit) :=
  [.send .control 0, .receive .control 0, .send .control 1, .receive .control 1, .send .control 2,
    .receive .control 2, .own (), .send .udp 0, .receive .udp 0, .send .control 3,
    .receive .control 3] ++
    (List.range Probe.kPhase3PacketCount).map fun packetIndex => .send .udp (packetIndex + 1)

def harnessTurns : List (Turn Channel Empty) :=
  [.receive .control 0, .send .control 0, .receive .control 1, .send .control 1,
    .receive .control 2, .send .control 2, .receive .udp 0, .send .udp 0, .receive .control 3,
    .send .control 3] ++
    (List.range Probe.kPhase3PacketCount).map fun packetIndex => .receive .udp (packetIndex + 1)

/-- The results of the harness, by their turns. -/
def resultText : Nat → List UInt8
  | 0 => Harness.helloResultJson
  | 1 => Harness.bindResultJson
  | 2 => Harness.openResultJson
  | _ => Harness.startResultJson

namespace Setup
variable (setup : Setup)

def requestText : Nat → List UInt8
  | 0 => Probe.sessionHelloJson setup.options.toOptions
  | 1 => Probe.transportBindJson Harness.testSessionId setup.options.udpPort
  | 2 => Probe.streamOpenJson setup.options.playoutTargetMs
  | _ => Probe.streamStartJson 1 Probe.kFirstTimestamp

def requestMessage : Nat → Message
  | 0 => .sessionHello 1 setup.options.clientName [1] setup.options.udpPort.toUInt32
  | 1 => .transportBind 2 Harness.testSessionId setup.options.udpPort.toUInt32
  | 2 => .streamOpen 3 .pcmS16le setup.options.playoutTargetMs.toUInt32
  | _ => .streamStart 4 1 (Decimal.render Probe.kFirstTimestamp.toNat)

def probeDatagram : Nat → List UInt8
  | 0 => setup.challenge
  | packetIndex + 1 => setup.audio packetIndex

/-- Where the harness listens, and what the probe receives from there. -/
def applePort : UInt16 := Harness.testAppleUdpPort.toUInt16

def expectedResponse : Probe.Received := ⟨setup.response, setup.options.host, applePort⟩

def probeEvent : Turn Channel Unit → Event Probe.Answer
  | .send .control item => ⟨.sendAll (framed (setup.requestText item)), GmStatus.ok⟩
  | .receive .control item => ⟨.receiveControlMessage, .ok (resultText item)⟩
  | .send .udp item =>
    ⟨.udpSendTo setup.options.host applePort (setup.probeDatagram item), GmStatus.ok⟩
  | .receive .udp _ => ⟨.udpReceiveFrom, .ok setup.expectedResponse⟩
  | .own () => ⟨.randomBytes 12, .ok (setup.random 12)⟩

def probeScript : List (Event Probe.Answer) := probeTurns.map setup.probeEvent

/-- A datagram that no one has made with the session's keys but the two ends. -/
def Unforged (datagrams : List (List UInt8)) (datagram : List UInt8) : Prop :=
  ∀ key ∈ setup.sessionKeys, ∀ text, authenticText setup.aead key datagram = some text →
    datagram ∈ datagrams

/-- What the probe may be answered: failures, the texts and random bytes of the test, and
    datagrams that are not forged. -/
def probeMay : Answers Probe.Answer
  | ⟨.sendAll _, _⟩, _ => True
  | ⟨.receiveControlMessage, expected⟩, answer =>
    ∀ payload, answer = Except.ok payload → expected = .ok payload
  | ⟨.randomBytes _, expected⟩, answer => ∀ bytes, answer = Except.ok bytes → expected = .ok bytes
  | ⟨.udpSendTo .., _⟩, _ => True
  | ⟨.udpReceiveFrom, _⟩, answer => ∀ received : Probe.Received, answer = Except.ok received →
      setup.Unforged setup.datagrams received.datagram

end Setup

section Texts
variable (setup : Setup)

theorem test_session_text : SessionIdText Harness.testSessionId := by
  rw [← session_id_iff]
  decide

theorem request_reads (item : Nat) :
    Reads (setup.requestText item) (recorded (setup.requestMessage item)) := by
  have admissible := setup.admissible
  apply delivers_reads
  match item with
  | 0 => exact session_hello_delivers admissible.short admissible.utf8 admissible.port
  | 1 => exact transport_bind_delivers test_session_text admissible.port
  | 2 => exact stream_open_delivers admissible.playout.1 admissible.playout.2
  | _ + 3 => exact stream_start_delivers (by decide)

end Texts

section Stages
variable {may : Answers Probe.Answer}

theorem sends_scripted {json : List UInt8} {info : GmControlMessageInfo} (reads : Reads json info)
    (label : String) :
    Scripted may () [⟨.sendAll (framed json), GmStatus.ok⟩] (Probe.sendControlJson json label) := by
  rw [Probe.sendControlJson, reads.probeFrames]
  apply scripted_call
  · rfl
  · intro status _ other
    exact ⟨_, if_neg other⟩

theorem message_scripted (setup : Setup) {json : List UInt8} {info : GmControlMessageInfo}
    (reads : Reads json info) :
    Scripted setup.probeMay info [⟨.receiveControlMessage, .ok json⟩] Probe.receiveMessage := by
  rw [Probe.receiveMessage, Probe.receivePayload]
  apply scripted_call
  · simp [Scripted, reads.probe]
  · intro answer allowed other
    cases answer with
    | error error => exact ⟨error, rfl⟩
    | ok payload => exact absurd (allowed payload rfl).symm other

/-- A result that is read with the expected id is returned at once. -/
theorem receives_scripted (setup : Setup) {json : List UInt8} {info : GmControlMessageInfo}
    (reads : Reads json info) {id : UInt32} (result : info.kind = .responseResult ∧ info.id = id)
    (label : String) :
    Scripted setup.probeMay info [⟨.receiveControlMessage, .ok json⟩]
      (Probe.receiveResultForId id label) := by
  rw [Probe.receiveResultForId, Probe.receiveResultLoop]
  apply scripted_step (message_scripted setup reads)
  exact if_pos result

theorem require_here {condition : Prop} [Decidable condition] (holds : condition)
    (error : ProbeError) : Probe.require condition error = .done () := if_pos holds

theorem require_fails {condition : Prop} [Decidable condition] (fails : ¬ condition)
    (error : ProbeError) : ∃ other, Probe.require condition error = .fail other :=
  ⟨error, if_neg fails⟩

end Stages

section Handshake
variable (setup : Setup)

theorem result_reads (item : Nat) : ∃ message, Reads (resultText item) (recorded message) := by
  match item with
  | 0 => exact ⟨_, hello_result_reads⟩
  | 1 => exact ⟨_, bind_result_reads⟩
  | 2 => exact ⟨_, open_result_reads⟩
  | _ + 3 => exact ⟨_, start_result_reads⟩

theorem probe_path_headers :
    Probe.validatePathHeaders (recorded openResult) Harness.testSessionId = .ok () := by
  decide +kernel

theorem probe_opens_stream :
    Scripted setup.probeMay (recorded helloResult, recorded openResult)
      ((probeTurns.take 6).map setup.probeEvent) (Probe.openStream setup.options) := by
  have session : (recorded helloResult).sessionId.text = Harness.testSessionId := by
    decide +kernel
  have identity : (recorded helloResult).role.text = ascii "apple-output-server" ∧
      (recorded helloResult).sessionId.text ≠ [] := by decide +kernel
  have server : (recorded helloResult).serverId.text = Harness.testServerId := by decide +kernel
  unfold Probe.openStream
  apply scripted_step (sends_scripted (request_reads setup 0) _)
  apply scripted_step (receives_scripted setup hello_result_reads ⟨rfl, rfl⟩ _)
  apply scripted_here (require_here identity _)
  apply scripted_here (require_here (server ▸ setup.admissible.server) _)
  rw [session]
  apply scripted_step (sends_scripted (request_reads setup 1) _)
  apply scripted_step (receives_scripted setup bind_result_reads ⟨rfl, rfl⟩ _)
  apply scripted_here (require_here (by decide +kernel) _)
  apply scripted_step (sends_scripted (request_reads setup 2) _)
  apply scripted_step (receives_scripted setup open_result_reads ⟨rfl, rfl⟩ _)
  apply scripted_here (require_here (by decide +kernel) _)
  rw [probe_path_headers]
  rfl

end Handshake

section Media
variable (setup : Setup) {evp : Evp}

theorem challenge_header_sealed : challengeHeader =
    Probe.sealedHeader testSession 1 gmMediaKindPathChallenge gmMediaDirectionWinToApple 1 1 0
      (setup.random 12).bytes := by
  simp [Probe.sealedHeader, challengeHeader, pathHeaderOf, (setup.random 12).size]

theorem audio_header_sealed (packetIndex : Nat) : audioHeader packetIndex =
    Probe.sealedHeader testSession 1 gmMediaKindAudio gmMediaDirectionWinToApple 1
      (UInt64.ofNat packetIndex + 2) (Probe.kFirstTimestamp + UInt64.ofNat packetIndex * 240)
      (setup.syntheticPcmPacket packetIndex).bytes := by
  simp [Probe.sealedHeader, audioHeader, (setup.syntheticPcmPacket packetIndex).size]

variable (performs : Performs evp setup.aead)
include performs

theorem probe_seals_challenge :
    Probe.sealMediaDatagram evp testSession 1 gmMediaKindPathChallenge gmMediaDirectionWinToApple 1
      1 0 (setup.random 12).bytes (setup.pathKey .windowsToApple) = .ok setup.challenge :=
  (probe_seal_iff _ _ _ _ _ _ _ _ _ (challenge_header_sealed setup) performs _).mpr
    ⟨challenge_header_valid, (setup.random 12).size, rfl⟩

theorem probe_seals_audio (packetIndex : Nat) :
    Probe.sealMediaDatagram evp testSession 1 gmMediaKindAudio gmMediaDirectionWinToApple 1
      (UInt64.ofNat packetIndex + 2) (Probe.kFirstTimestamp + UInt64.ofNat packetIndex * 240)
      (setup.syntheticPcmPacket packetIndex).bytes (setup.mediaKey .windowsToApple) =
        .ok (setup.audio packetIndex) :=
  (probe_seal_iff _ _ _ _ _ _ _ _ _ (audio_header_sealed setup packetIndex) performs _).mpr
    ⟨audio_header_valid packetIndex, (setup.syntheticPcmPacket packetIndex).size, rfl⟩

theorem probe_opens_response :
    Probe.openMediaDatagram evp setup.response (setup.pathKey .appleToWindows) [] =
      .ok (responseHeader, (setup.random 12).bytes) :=
  (probe_open_iff performs _ _ _ _).mpr
    ⟨(decode_iff_layout _ _).mpr (response_layout setup).1, (response_layout setup).2⟩

/-- What the probe opens with a session key is a datagram of the test, unless it is forged. -/
theorem probe_opens_known {key : Buffer gmCryptoKeyBytes} (isKey : key.bytes ∈ setup.sessionKeys)
    {datagram buffer payload : List UInt8} {header : GmMediaHeader}
    (unforged : setup.Unforged setup.datagrams datagram)
    (opened : Probe.openMediaDatagram evp datagram key buffer = .ok (header, payload)) :
    datagram ∈ setup.datagrams ∧ Layout header datagram := by
  obtain ⟨decoded, authentic⟩ := (probe_open_iff performs key buffer payload header).mp opened
  exact ⟨unforged _ isKey _ authentic, (decode_iff_layout _ _).mp decoded⟩

/-- Of the unforged datagrams the probe takes only the response, from the harness. -/
theorem probe_takes_response {received : Probe.Received} {response : GmMediaHeader}
    {responsePayload : List UInt8}
    (unforged : setup.Unforged setup.datagrams received.datagram)
    (opened : Probe.openMediaDatagram evp received.datagram (setup.pathKey .appleToWindows) [] =
      .ok (response, responsePayload)) (kind : response.kind = gmMediaKindPathResponse)
    (host : received.sourceHost = setup.options.host)
    (port : received.sourcePort.toUInt32 = Harness.testAppleUdpPort) :
    received = setup.expectedResponse := by
  obtain ⟨known, layout⟩ := probe_opens_known setup performs (by simp [Setup.sessionKeys]) unforged
    opened
  have number : received.sourcePort = Setup.applePort := by
    rw [← UInt16.toUInt16_toUInt32 received.sourcePort, port]
    rfl
  have datagram : received.datagram = setup.response := by
    rcases datagram_cases setup known layout with ⟨rfl, _⟩ | ⟨_, same⟩ | ⟨_, _, rfl, _⟩
    · exact absurd kind (by decide)
    · exact same
    · exact absurd kind (by simp [audioHeader])
  cases received
  exact congr (congrArg₂ Probe.Received.mk datagram host) number

theorem probe_validates_path :
    Scripted setup.probeMay ()
      [setup.probeEvent (.own ()), setup.probeEvent (.send .udp 0),
        setup.probeEvent (.receive .udp 0)]
      (Probe.validatePath setup.options (setup.phase3 evp) (recorded helloResult)
        (recorded openResult) testSession
        ⟨sizeofGmDirectionalKeys, gmAbiVersion, setup.mediaKey .windowsToApple,
          setup.pathKey .windowsToApple⟩
        ⟨sizeofGmDirectionalKeys, gmAbiVersion, setup.mediaKey .appleToWindows,
          setup.pathKey .appleToWindows⟩) := by
  have port : (recorded helloResult).udpPort = Harness.testAppleUdpPort := by rfl
  have sealed := probe_seals_challenge setup performs
  have opened := probe_opens_response setup performs
  unfold Probe.validatePath
  apply scripted_call
  · apply scripted_here (a := setup.random 12) rfl
    apply scripted_here (a := setup.challenge) (congrArg Program.ofExcept sealed)
    apply scripted_call
    · apply scripted_here (require_here rfl _)
      apply scripted_call
      · apply scripted_here (a := setup.expectedResponse) rfl
        apply scripted_here (congrArg Program.ofExcept opened)
        exact require_here ⟨rfl, rfl, rfl, rfl, rfl, rfl⟩ _
      · intro answer allowed other
        cases answer with
        | error status => exact ⟨_, rfl⟩
        | ok received =>
          cases taken : Probe.openMediaDatagram evp received.datagram
              (setup.pathKey .appleToWindows) [] with
          | error error => exact ⟨error, by simp [Probe.runtime, Setup.phase3, taken]⟩
          | ok result =>
            simp only [Probe.runtime, Setup.phase3, Program.done_bind, taken,
              Program.of_except_ok]
            apply require_fails
            rintro ⟨kind, _, _, host, number, _⟩
            exact other (congrArg Except.ok (probe_takes_response setup performs
              (allowed received rfl) taken kind host (number.trans port)))
    · intro status _ other
      exact ⟨_, congrArg (· >>= _) (if_neg other)⟩
  · intro answer allowed other
    cases answer with
    | error status => exact ⟨_, rfl⟩
    | ok bytes => exact absurd (allowed bytes rfl).symm other

theorem probe_sends_audio (packetIndex more : Nat) :
    Scripted setup.probeMay ()
      ((List.range' packetIndex more).map fun k => setup.probeEvent (.send .udp (k + 1)))
      (Probe.sendAudio setup.options (setup.phase3 evp) (recorded helloResult)
        (recorded openResult) testSession (setup.mediaKey .windowsToApple) packetIndex more) := by
  induction more generalizing packetIndex with
  | zero => rfl
  | succ more ih =>
    have sealed := probe_seals_audio setup performs packetIndex
    have packet : Scripted setup.probeMay () [setup.probeEvent (.send .udp (packetIndex + 1))]
        (Probe.sendAudioPacket setup.options (setup.phase3 evp) (recorded helloResult)
          (recorded openResult) testSession (setup.mediaKey .windowsToApple) packetIndex) := by
      unfold Probe.sendAudioPacket
      apply scripted_here (congrArg Program.ofExcept sealed)
      apply scripted_call
      · exact require_here rfl _
      · intro status _ other
        exact ⟨_, if_neg other⟩
    rw [List.range'_succ, List.map_cons, Probe.sendAudio]
    exact scripted_step packet (ih (packetIndex + 1))

/-- The probe keeps to its turns, as long as no datagram is forged. -/
theorem probe_scripted :
    Scripted setup.probeMay () setup.probeScript
      (Probe.runConnect setup.options (some (setup.phase3 evp))) := by
  have forward := probe_keys setup .windowsToApple evp
  have reverse := probe_keys setup .appleToWindows evp
  have session : Probe.decodeSessionId (recorded helloResult).sessionId.text = .ok testSession := by
    decide +kernel
  have audio := probe_sends_audio setup performs 0 Probe.kPhase3PacketCount
  rw [← List.range_eq_range'] at audio
  have script : setup.probeScript = (probeTurns.take 6).map setup.probeEvent ++
      ([setup.probeEvent (.own ()), setup.probeEvent (.send .udp 0),
        setup.probeEvent (.receive .udp 0)] ++
      (setup.probeEvent (.send .control 3) :: setup.probeEvent (.receive .control 3) ::
        (List.range Probe.kPhase3PacketCount).map fun k =>
          setup.probeEvent (.send .udp (k + 1)))) := rfl
  rw [script]
  unfold Probe.runConnect
  apply scripted_bind (probe_opens_stream setup)
  simp only
  unfold Probe.runPhase3
  apply scripted_here (congrArg Program.ofExcept session)
  apply scripted_here (congrArg Program.ofExcept forward)
  apply scripted_here (congrArg Program.ofExcept reverse)
  apply scripted_bind (probe_validates_path setup performs)
  apply scripted_step (sends_scripted (request_reads setup 3) _)
  apply scripted_step (receives_scripted setup start_result_reads ⟨rfl, rfl⟩ _)
  apply scripted_here (require_here (by decide +kernel) _)
  exact audio

end Media

end GhostMedia.Interop
