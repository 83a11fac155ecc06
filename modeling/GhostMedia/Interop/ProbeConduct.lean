import GhostMedia.Interop.Phase3Delivery

/- How the probe behaves whoever is on the other side: how many calls it makes, whom it sends
   datagrams to and when, and with which nonces. -/
namespace GhostMedia.Interop
open CString Control Media Bridge Dialogue GhostMedia.Runtime

def nonceOf (datagram : List UInt8) : List UInt8 := (datagram.drop 32).take 12

namespace Probe

/-- A result that has been received as a message with an id. -/
def Heard (id : UInt32) (past : List (Event Answer)) (info : GmControlMessageInfo) : Prop :=
  ∃ json ∈ payloads past, ∃ label, parseControlMessage json label = .ok info ∧
    info.kind = .responseResult ∧ info.id = id

/-- What a run seals its datagrams with, and the port that answers them. -/
structure Sealing where
  sessionId : Buffer gmSessionIdBytes
  port : UInt32
  streamId : UInt32
  keyEpoch : UInt32
  keys : GmDirectionalKeys
  challenge : Buffer 12

def unsealed : Sealing where
  sessionId := zero _
  port := 0
  streamId := 0
  keyEpoch := 0
  keys := ⟨sizeofGmDirectionalKeys, 0, zero _, zero _⟩
  challenge := zero _

/-- The datagrams in their order: the PATH_CHALLENGE, then the audio packets. -/
def Sealing.datagram (sealing : Sealing) (phase3 : Phase3) (aead : Aead) : Nat → List UInt8
  | 0 => protectedDatagram aead sealing.keys.pathKey.bytes (sealedHeader sealing.sessionId
      sealing.streamId gmMediaKindPathChallenge gmMediaDirectionWinToApple sealing.keyEpoch 1 0
      sealing.challenge.bytes) sealing.challenge.bytes
  | packetIndex + 1 =>
    let packet := (phase3.syntheticPcmPacket packetIndex).bytes
    protectedDatagram aead sealing.keys.mediaKey.bytes (sealedHeader sealing.sessionId
      sealing.streamId gmMediaKindAudio gmMediaDirectionWinToApple sealing.keyEpoch
      (UInt64.ofNat packetIndex + 2) (kFirstTimestamp + UInt64.ofNat packetIndex * 240) packet)
      packet

/-- It all comes from the results that were received, the exporter and a random challenge. -/
structure Sealing.Derived (sealing : Sealing) (phase3 : Phase3) (past : List (Event Answer)) :
    Prop where
  hello : ∃ info, Heard 1 past info ∧
    decodeSessionId info.sessionId.text = .ok sealing.sessionId ∧ info.udpPort = sealing.port
  opened : ∃ info, Heard 3 past info ∧ info.streamId = sealing.streamId ∧
    info.keyEpoch = sealing.keyEpoch
  keys : derivePhase3Keys phase3.tlsExport sealing.sessionId sealing.streamId
    gmMediaDirectionWinToApple sealing.keyEpoch phase3.clientDigest phase3.serverDigest =
      .ok sealing.keys
  challenge : ⟨.randomBytes 12, .ok sealing.challenge⟩ ∈ past

/-- A PATH_RESPONSE for the stream has come from the host and its port, and holds the challenge
    under the path key of the other direction. -/
def Validated (options : ProbeOptions) (phase3 : Phase3) (aead : Aead) (sealing : Sealing)
    (past : List (Event Answer)) : Prop :=
  ∃ response ∈ arrivals past, ∃ header keys,
    response.sourceHost = options.host ∧ response.sourcePort.toUInt32 = sealing.port ∧
    gmMediaDecodeHeader (.view response.datagram) received = (.ok, header) ∧
    header.kind = gmMediaKindPathResponse ∧ header.streamId = sealing.streamId ∧
    header.keyEpoch = sealing.keyEpoch ∧
    derivePhase3Keys phase3.tlsExport sealing.sessionId sealing.streamId
      gmMediaDirectionAppleToWin sealing.keyEpoch phase3.serverDigest phase3.clientDigest =
        .ok keys ∧
    authenticText aead keys.pathKey.bytes response.datagram = some sealing.challenge.bytes

def Started (past : List (Event Answer)) : Prop :=
  ∃ info, Heard 4 past info ∧ info.state.text = ascii "started"

/-- The path has been validated and the stream started. -/
def Cleared (options : ProbeOptions) (phase3 : Phase3) (aead : Aead) (sealing : Sealing)
    (past : List (Event Answer)) : Prop :=
  Validated options phase3 aead sealing past ∧ Started past

/-- The datagrams sent are the first ones of a sealing, the audio only once it is cleared. -/
structure Sends (options : ProbeOptions) (phase3 : Phase3) (aead : Aead) (sealing : Sealing)
    (past : List (Event Answer)) : Prop where
  order : sentDatagrams past =
    (List.range (sentDatagrams past).length).map (sealing.datagram phase3 aead)
  derived : 0 < (sentDatagrams past).length → sealing.Derived phase3 past
  cleared : 1 < (sentDatagrams past).length → Cleared options phase3 aead sealing past

/-- So many calls, and so many datagrams, all to the host and numbered from 1. -/
structure Stage (options : ProbeOptions) (phase3 : Phase3) (aead : Aead) (sealing : Sealing)
    (count calls : Nat) (past : List (Event Answer)) : Prop where
  calls : past.length ≤ calls
  nonces : (sentDatagrams past).map nonceOf =
    (List.range' 1 count).map fun n => mediaNonce sealing.keyEpoch (UInt64.ofNat n)
  addressed : ∀ e ∈ past, ∀ host port datagram, e.call = .udpSendTo host port datagram →
    host = options.host
  order : sentDatagrams past = (List.range count).map (sealing.datagram phase3 aead)
  derived : 0 < count → sealing.Derived phase3 past

/-- What always holds of what the probe has done. -/
def Conduct (options : ProbeOptions) (phase3 : Phase3) (aead : Aead)
    (past : List (Event Answer)) : Prop :=
  ∃ sealing count, count ≤ 9 ∧ Stage options phase3 aead sealing count 47 past ∧
    (1 < count → Cleared options phase3 aead sealing past)

end Probe

section Past
open Probe
variable {options : ProbeOptions} {phase3 : Phase3} {aead : Aead} {sealing : Sealing}
  {count calls : Nat} {past : List (Event Probe.Answer)} {e : Event Probe.Answer}

theorem sent_append (past : List (Event Probe.Answer)) (e : Event Probe.Answer) :
    sentDatagrams (past ++ [e]) = sentDatagrams past ++ e.call.datagram.toList := by
  rw [sentDatagrams, List.map_append, List.filterMap_append]
  cases found : e.call.datagram <;> simp [sentDatagrams, found]

theorem heard_append {id : UInt32} {info : GmControlMessageInfo} (heard : Heard id past info) :
    Heard id (past ++ [e]) info := by
  obtain ⟨json, member, rest⟩ := heard
  refine ⟨json, ?_, rest⟩
  rw [payloads, List.filterMap_append]
  exact List.mem_append_left _ member

theorem derived_append (derived : sealing.Derived phase3 past) :
    sealing.Derived phase3 (past ++ [e]) where
  hello := by
    obtain ⟨info, heard, rest⟩ := derived.hello
    exact ⟨info, heard_append heard, rest⟩
  opened := by
    obtain ⟨info, heard, rest⟩ := derived.opened
    exact ⟨info, heard_append heard, rest⟩
  keys := derived.keys
  challenge := List.mem_append_left _ derived.challenge

theorem validated_append (validated : Validated options phase3 aead sealing past) :
    Validated options phase3 aead sealing (past ++ [e]) := by
  obtain ⟨response, arrived, rest⟩ := validated
  refine ⟨response, ?_, rest⟩
  rw [arrivals, List.filterMap_append]
  exact List.mem_append_left _ arrived

theorem stage_begins (options : ProbeOptions) (phase3 : Phase3) (aead : Aead)
    (sealing : Sealing) : Stage options phase3 aead sealing 0 0 [] where
  calls := Nat.le_refl _
  nonces := rfl
  addressed _ member := absurd member List.not_mem_nil
  order := rfl
  derived sent := absurd sent (Nat.lt_irrefl 0)

theorem stage_unsealed (stage : Stage options phase3 aead sealing 0 calls past)
    (other : Sealing) : Stage options phase3 aead other 0 calls past where
  calls := stage.calls
  nonces := stage.nonces
  addressed := stage.addressed
  order := stage.order
  derived sent := absurd sent (Nat.lt_irrefl 0)

theorem stage_event (stage : Stage options phase3 aead sealing count calls past)
    (other : e.call.datagram = none) :
    Stage options phase3 aead sealing count (calls + 1) (past ++ [e]) where
  calls := by
    rw [List.length_append]
    exact Nat.succ_le_succ stage.calls
  nonces := by
    rw [sent_append, other]
    simpa using stage.nonces
  addressed := by
    intro d member host port datagram call
    rcases List.mem_append.mp member with earlier | last
    · exact stage.addressed d earlier host port datagram call
    · rw [List.mem_singleton.mp last] at call
      rw [call] at other
      cases other
  order := by
    rw [sent_append, other]
    simpa using stage.order
  derived sent := derived_append (stage.derived sent)

theorem stage_send (stage : Stage options phase3 aead sealing count calls past) (port : UInt16)
    {datagram : List UInt8} (answer : GmStatus) (derived : sealing.Derived phase3 past)
    (nonce : nonceOf datagram = mediaNonce sealing.keyEpoch (UInt64.ofNat (count + 1)))
    (next : datagram = sealing.datagram phase3 aead count) :
    Stage options phase3 aead sealing (count + 1) (calls + 1)
      (past ++ [⟨.udpSendTo options.host port datagram, answer⟩]) where
  calls := by
    rw [List.length_append]
    exact Nat.succ_le_succ stage.calls
  nonces := by
    rw [sent_append, List.map_append, stage.nonces, List.range'_concat, List.map_append]
    simp [Call.datagram, nonce, Nat.add_comm]
  addressed := by
    intro d member host port' datagram' call
    rcases List.mem_append.mp member with earlier | last
    · exact stage.addressed d earlier host port' datagram' call
    · rw [List.mem_singleton.mp last] at call
      cases call
      rfl
  order := by
    rw [sent_append, stage.order, List.range_succ, List.map_append, next]
    rfl
  derived _ := derived_append derived

theorem stage_weaken {more : Nat} (stage : Stage options phase3 aead sealing count calls past)
    (enough : calls ≤ more) : Stage options phase3 aead sealing count more past :=
  { stage with calls := stage.calls.trans enough }

theorem stage_conduct (stage : Stage options phase3 aead sealing count calls past)
    (bounded : calls ≤ 47) (few : count ≤ 9)
    (cleared : 1 < count → Cleared options phase3 aead sealing past) :
    Conduct options phase3 aead past :=
  ⟨sealing, count, few, stage_weaken stage bounded, cleared⟩

end Past

section Control
open Probe
variable {options : ProbeOptions} {phase3 : Phase3} {aead : Aead} {sealing : Sealing}
  {count calls : Nat} {past : List (Event Probe.Answer)}
  {Known : List (Event Probe.Answer) → Prop} (stays : ∀ past e, Known past → Known (past ++ [e]))

/-- A stage in which something is known, which later calls leave as it is. -/
def Knowing (options : ProbeOptions) (phase3 : Phase3) (aead : Aead)
    (Known : List (Event Probe.Answer) → Prop) (sealing : Sealing) (count calls : Nat)
    (past : List (Event Probe.Answer)) : Prop :=
  Known past ∧ Stage options phase3 aead sealing count calls past

theorem require_upholds {Inv : List (Event Probe.Answer) → Prop} {condition : Prop}
    [Decidable condition] {error : ProbeError} {post : List (Event Probe.Answer) → Unit → Prop}
    (holds : condition → post past ()) :
    Upholds Inv post (fun _ _ => True) past (Probe.require condition error) := by
  by_cases here : condition
  · rw [Probe.require, if_pos here]
    exact holds here
  · rw [Probe.require, if_neg here]
    trivial

theorem require_then {α : Type} {Inv : List (Event Probe.Answer) → Prop} {condition : Prop}
    [Decidable condition] {error : ProbeError} {next : Unit → Run α}
    {post : List (Event Probe.Answer) → α → Prop}
    (holds : condition → Upholds Inv post (fun _ _ => True) past (next ())) :
    Upholds Inv post (fun _ _ => True) past (Probe.require condition error >>= next) := by
  by_cases here : condition
  · rw [Probe.require, if_pos here]
    exact holds here
  · rw [Probe.require, if_neg here]
    trivial

theorem except_then {α β : Type} {Inv : List (Event Probe.Answer) → Prop}
    {step : Except ProbeError α} {next : α → Run β} {post : List (Event Probe.Answer) → β → Prop}
    (ok : ∀ a, step = .ok a → Upholds Inv post (fun _ _ => True) past (next a)) :
    Upholds Inv post (fun _ _ => True) past (Program.ofExcept step >>= next) :=
  upholds_except_then ok fun _ _ => trivial

theorem knowing_conduct (knowing : Knowing options phase3 aead Known sealing count calls past)
    (bounded : calls ≤ 47) (few : count ≤ 1) : Conduct options phase3 aead past :=
  stage_conduct knowing.2 bounded (few.trans (by decide)) fun more =>
    absurd few (Nat.not_le.mpr more)

include stays

theorem knowing_event {e : Event Probe.Answer}
    (knowing : Knowing options phase3 aead Known sealing count calls past)
    (other : e.call.datagram = none) :
    Knowing options phase3 aead Known sealing count (calls + 1) (past ++ [e]) :=
  ⟨stays past e knowing.1, stage_event knowing.2 other⟩

theorem send_upholds (knowing : Knowing options phase3 aead Known sealing count calls past)
    (bounded : calls + 1 ≤ 47) (few : count ≤ 1) (json : List UInt8) (label : String) :
    Upholds (Conduct options phase3 aead)
      (fun past _ => Knowing options phase3 aead Known sealing count (calls + 1) past)
      (fun _ _ => True) past (sendControlJson json label) := by
  unfold sendControlJson
  cases encodeControlFrame json label with
  | error error => trivial
  | ok frame =>
    intro (answer : GmStatus)
    have sent : Knowing options phase3 aead Known sealing count (calls + 1)
        (past ++ [⟨.sendAll frame, answer⟩]) := knowing_event stays knowing rfl
    exact ⟨knowing_conduct sent bounded few, require_upholds fun _ => sent⟩

theorem receive_upholds (knowing : Knowing options phase3 aead Known sealing count calls past)
    (bounded : calls + 1 ≤ 47) (few : count ≤ 1) :
    Upholds (Conduct options phase3 aead)
      (fun past info => Knowing options phase3 aead Known sealing count (calls + 1) past ∧
        ∃ json ∈ payloads past, ∃ label, Probe.parseControlMessage json label = .ok info)
      (fun _ _ => True) past receiveMessage := by
  intro answer
  have heard : Knowing options phase3 aead Known sealing count (calls + 1)
      (past ++ [⟨.receiveControlMessage, answer⟩]) := knowing_event stays knowing rfl
  refine ⟨knowing_conduct heard bounded few, ?_⟩
  cases answer with
  | error error => trivial
  | ok json =>
    apply upholds_except
    · intro info parsed
      refine ⟨heard, json, ?_, _, parsed⟩
      rw [payloads, List.filterMap_append]
      exact List.mem_append_right _ List.mem_cons_self
    · intro error _
      trivial

theorem result_loop_upholds (id : UInt32) (label : String) (more : Nat)
    (knowing : Knowing options phase3 aead Known sealing count calls past)
    (bounded : calls + more ≤ 47)
    (few : count ≤ 1) :
    Upholds (Conduct options phase3 aead)
      (fun past info => Knowing options phase3 aead Known sealing count (calls + more) past ∧
        Heard id past info)
      (fun _ _ => True) past (receiveResultLoop id label more) := by
  induction more generalizing past calls with
  | zero => trivial
  | succ more ih =>
    unfold receiveResultLoop
    apply upholds_bind (receive_upholds stays knowing (by omega) few)
    intro past info received
    obtain ⟨knowing, json, member, _, parsed⟩ := received
    split
    · rename_i result
      refine ⟨⟨knowing.1, stage_weaken knowing.2 (by omega)⟩, json, member, _, parsed, result⟩
    split
    · trivial
    split
    · have later := ih knowing (by omega)
      rwa [Nat.add_assoc, Nat.add_comm 1] at later
    · trivial

end Control

section Runs
open Probe
variable {options : ProbeOptions} {phase3 : Phase3} {aead : Aead} {past : List (Event Probe.Answer)}

theorem nothing_known (past : List (Event Probe.Answer)) (e : Event Probe.Answer) :
    (fun _ : List (Event Probe.Answer) => True) past →
      (fun _ : List (Event Probe.Answer) => True) (past ++ [e]) := id

/-- No datagram is sent before the stream is open, for which two results have been received. -/
theorem open_upholds :
    Upholds (Conduct options phase3 aead)
      (fun past results => Stage options phase3 aead unsealed 0 27 past ∧
        Heard 1 past results.1 ∧ Heard 3 past results.2)
      (fun _ _ => True) [] (Probe.openStream options) := by
  have begins : Knowing options phase3 aead (fun _ => True) unsealed 0 0 [] :=
    ⟨trivial, stage_begins options phase3 aead unsealed⟩
  unfold Probe.openStream
  apply upholds_bind (send_upholds nothing_known begins (by decide) (by decide) _ _)
  intro past _ greeted
  apply upholds_bind (result_loop_upholds nothing_known _ _ 8 greeted (by decide) (by decide))
  intro past hello heard
  have stays (past : List (Event Answer)) (e : Event Answer) :
      Heard 1 past hello → Heard 1 (past ++ [e]) hello := heard_append
  have knowing : Knowing options phase3 aead (fun past => Heard 1 past hello) unsealed 0 9 past :=
    ⟨heard.2, heard.1.2⟩
  apply require_then
  intro _
  apply require_then
  intro _
  apply upholds_bind (send_upholds stays knowing (by decide) (by decide) _ _)
  intro past _ asked
  apply upholds_bind (result_loop_upholds stays _ _ 8 asked (by decide) (by decide))
  intro past bind heard
  apply require_then
  intro _
  apply upholds_bind (send_upholds stays heard.1 (by decide) (by decide) _ _)
  intro past _ asked
  apply upholds_bind (result_loop_upholds stays _ _ 8 asked (by decide) (by decide))
  intro past opened heard
  apply require_then
  intro _
  apply except_then
  intro _ _
  exact ⟨heard.1.2, heard.1.1, heard.2⟩

theorem sealed_datagram {evp : Evp} (performs : Performs evp aead)
    {sessionId : Buffer gmSessionIdBytes} {streamId kind direction keyEpoch : UInt32}
    {sequence mediaTimestamp : UInt64} {payload datagram : List UInt8}
    {key : Buffer gmCryptoKeyBytes}
    (sealed : sealMediaDatagram evp sessionId streamId kind direction keyEpoch sequence
      mediaTimestamp payload key = .ok datagram) :
    nonceOf datagram = mediaNonce keyEpoch sequence ∧
      datagram = protectedDatagram aead key.bytes (sealedHeader sessionId streamId kind direction
        keyEpoch sequence mediaTimestamp payload) payload := by
  obtain ⟨valid, sized, rfl⟩ :=
    (probe_seal_iff _ _ _ _ _ _ _ _ _ rfl performs datagram).mp sealed
  exact ⟨(protected_layout aead valid rfl key.size sized).1.nonce, rfl⟩

def sealingOf (helloResult openResult : GmControlMessageInfo)
    (sessionId : Buffer gmSessionIdBytes) (keys : GmDirectionalKeys) (challenge : Buffer 12) :
    Sealing where
  sessionId := sessionId
  port := helloResult.udpPort
  streamId := openResult.streamId
  keyEpoch := openResult.keyEpoch
  keys := keys
  challenge := challenge

variable (performs : Performs phase3.evp aead) (helloResult openResult : GmControlMessageInfo)
  {sessionId : Buffer gmSessionIdBytes} {forwardKeys : GmDirectionalKeys}
include performs

/-- Once the challenge has been sent, only a validated path lets the probe go on. -/
theorem path_upholds (stage : Stage options phase3 aead unsealed 0 27 past)
    (hello : Heard 1 past helloResult) (opened : Heard 3 past openResult)
    (decoded : decodeSessionId helloResult.sessionId.text = .ok sessionId)
    (forward : derivePhase3Keys phase3.tlsExport sessionId openResult.streamId
      gmMediaDirectionWinToApple openResult.keyEpoch phase3.clientDigest phase3.serverDigest =
        .ok forwardKeys) {reverseKeys : GmDirectionalKeys}
    (reverse : derivePhase3Keys phase3.tlsExport sessionId openResult.streamId
      gmMediaDirectionAppleToWin openResult.keyEpoch phase3.serverDigest phase3.clientDigest =
        .ok reverseKeys) :
    Upholds (Conduct options phase3 aead)
      (fun past _ => ∃ challenge,
        let sealing := sealingOf helloResult openResult sessionId forwardKeys challenge
        Knowing options phase3 aead (Validated options phase3 aead sealing) sealing 1 30 past)
      (fun _ _ => True) past
      (validatePath options phase3 helloResult openResult sessionId forwardKeys reverseKeys) := by
  intro (random : Except GmStatus (Buffer 12))
  have asked : Stage options phase3 aead unsealed 0 28 (past ++ [⟨.randomBytes 12, random⟩]) :=
    stage_event stage rfl
  refine ⟨stage_conduct asked (by decide) (by decide) (fun more => absurd more (by decide)), ?_⟩
  cases random with
  | error status => trivial
  | ok challenge =>
    apply except_then
    intro protectedChallenge made (status : GmStatus)
    have begun := stage_unsealed asked
      (sealingOf helloResult openResult sessionId forwardKeys challenge)
    have derived : (sealingOf helloResult openResult sessionId forwardKeys challenge).Derived phase3
        (past ++ [⟨.randomBytes 12, .ok challenge⟩]) :=
      ⟨⟨helloResult, heard_append hello, decoded, rfl⟩,
        ⟨openResult, heard_append opened, rfl, rfl⟩, forward, by simp [sealingOf]⟩
    obtain ⟨nonce, datagram⟩ := sealed_datagram performs made
    have sent := stage_send begun helloResult.udpPort.toUInt16 status derived nonce datagram
    refine ⟨stage_conduct sent (by decide) (by decide) (fun more => absurd more (by decide)), ?_⟩
    apply require_then
    intro _ (answer : Except GmStatus Received)
    have waited := stage_event (e := ⟨.udpReceiveFrom, answer⟩) sent rfl
    refine ⟨stage_conduct waited (by decide) (by decide) (fun more => absurd more (by decide)), ?_⟩
    cases answer with
    | error status => trivial
    | ok response =>
      apply except_then
      intro result opens
      apply require_upholds
      rintro ⟨kind, stream, epoch, host, port, payload⟩
      obtain ⟨header, authentic⟩ := (probe_open_iff performs _ _ _ _).mp opens
      rw [payload] at authentic
      exact ⟨challenge, ⟨response, by simp [arrivals, arrival], result.1, reverseKeys, host, port,
        header, kind, stream, epoch, reverse, authentic⟩, waited⟩

theorem packet_upholds {challenge : Buffer 12} {packetIndex calls : Nat}
    {sealing : Sealing}
    (same : sealing = sealingOf helloResult openResult sessionId forwardKeys challenge)
    (knowing : Knowing options phase3 aead (Cleared options phase3 aead sealing) sealing
      (packetIndex + 1) calls past) (bounded : calls + 1 ≤ 47) (few : packetIndex + 2 ≤ 9) :
    Upholds (Conduct options phase3 aead)
      (fun past _ => Knowing options phase3 aead (Cleared options phase3 aead sealing) sealing
        (packetIndex + 2) (calls + 1) past)
      (fun _ _ => True) past
      (sendAudioPacket options phase3 helloResult openResult sessionId forwardKeys.mediaKey
        packetIndex) := by
  unfold sendAudioPacket
  apply except_then
  intro audio made (status : GmStatus)
  obtain ⟨nonce, datagram⟩ := sealed_datagram performs made
  rw [show UInt64.ofNat packetIndex + 2 = UInt64.ofNat (packetIndex + 1 + 1) from
    (UInt64.ofNat_add packetIndex 2).symm] at nonce
  subst same
  obtain ⟨⟨validated, info, heard, state⟩, stage⟩ := knowing
  have sent := stage_send stage helloResult.udpPort.toUInt16 status
    (stage.derived (Nat.succ_pos _)) nonce datagram
  have cleared : Cleared options phase3 aead
      (sealingOf helloResult openResult sessionId forwardKeys challenge)
      (past ++ [⟨.udpSendTo options.host helloResult.udpPort.toUInt16 audio, status⟩]) :=
    ⟨validated_append validated, info, heard_append heard, state⟩
  exact ⟨stage_conduct sent bounded few (fun _ => cleared), require_upholds fun _ =>
    ⟨cleared, sent⟩⟩

theorem audio_upholds {challenge : Buffer 12} {packetIndex more calls : Nat} {sealing : Sealing}
    (same : sealing = sealingOf helloResult openResult sessionId forwardKeys challenge)
    (knowing : Knowing options phase3 aead (Cleared options phase3 aead sealing) sealing
      (packetIndex + 1) calls past) (bounded : calls + more ≤ 47)
    (few : packetIndex + 1 + more ≤ 9) :
    Upholds (Conduct options phase3 aead)
      (fun past _ => ∃ sealing,
        Stage options phase3 aead sealing (packetIndex + 1 + more) (calls + more) past)
      (fun _ _ => True) past
      (sendAudio options phase3 helloResult openResult sessionId forwardKeys.mediaKey packetIndex
        more) := by
  induction more generalizing past calls packetIndex with
  | zero => exact ⟨_, knowing.2⟩
  | succ more ih =>
    unfold sendAudio
    apply upholds_bind
      (packet_upholds performs helloResult openResult same knowing (by omega) (by omega))
    intro past _ sent
    have later := ih sent (by omega) (by omega)
    rwa [show packetIndex + 1 + (more + 1) = packetIndex + 1 + 1 + more by omega,
      show calls + (more + 1) = calls + 1 + more by omega]

theorem run_upholds :
    Upholds (Conduct options phase3 aead)
      (fun past _ => ∃ sealing, Stage options phase3 aead sealing 9 47 past) (fun _ _ => True) []
      (runConnect options (some phase3)) := by
  unfold runConnect
  apply upholds_bind open_upholds
  rintro past results ⟨stage, hello, opened⟩
  unfold runPhase3
  apply except_then
  intro sessionId decoded
  apply except_then
  intro forwardKeys forward
  apply except_then
  intro reverseKeys reverse
  apply upholds_bind (path_upholds performs results.1 results.2 stage hello opened decoded forward
    reverse)
  rintro past _ ⟨challenge, validated⟩
  generalize same : sealingOf results.1 results.2 sessionId forwardKeys challenge = sealing
    at validated
  have stays (past : List (Event Answer)) (e : Event Answer) :
      Validated options phase3 aead sealing past →
        Validated options phase3 aead sealing (past ++ [e]) := validated_append
  apply upholds_bind (send_upholds stays validated (by decide) (by decide) _ _)
  intro past _ asked
  apply upholds_bind (result_loop_upholds stays _ _ 8 asked (by decide) (by decide))
  intro past start heard
  apply require_then
  intro state
  obtain ⟨⟨validated, stage⟩, result⟩ := heard
  have cleared : Knowing options phase3 aead (Cleared options phase3 aead sealing) sealing (0 + 1)
      39 past := ⟨⟨validated, start, result, state⟩, stage⟩
  have calls : 39 + kPhase3PacketCount ≤ 47 := by decide
  exact audio_upholds performs results.1 results.2 same.symm cleared calls (by decide)

end Runs

section Conduct
open Probe
variable {options : ProbeOptions} {phase3 : Phase3} {aead : Aead} {sealing : Sealing}
  {count calls : Nat} {past : List (Event Probe.Answer)}

theorem stage_count (stage : Stage options phase3 aead sealing count calls past) :
    (sentDatagrams past).length = count := by
  rw [stage.order, List.length_map, List.length_range]

theorem stage_nonces (stage : Stage options phase3 aead sealing count calls past)
    (few : count ≤ 9) : ((sentDatagrams past).map nonceOf).Nodup := by
  rw [stage.nonces]
  apply List.Nodup.map_on _ List.nodup_range'
  intro n first m second same
  have small : n < 10 ∧ m < 10 := by
    simp only [List.mem_range'_1] at first second
    omega
  have numbers := congrArg UInt64.toNat (media_nonce_injective same).2
  rw [UInt64.toNat_ofNat', UInt64.toNat_ofNat'] at numbers
  omega

theorem stage_sends (stage : Stage options phase3 aead sealing count calls past)
    (cleared : 1 < count → Cleared options phase3 aead sealing past) :
    Sends options phase3 aead sealing past := by
  have length := stage_count stage
  refine ⟨?_, ?_, ?_⟩
  · rw [length]
    exact stage.order
  · rw [length]
    exact stage.derived
  · rw [length]
    exact cleared

end Conduct

/-- Whatever the other side and the network do: the probe makes at most 47 calls and never uses
    a nonce twice; it sends datagrams only to the host it was given, first the challenge of the
    path and then audio, which it sends only with a validated path and a started stream, and
    nine of them if it succeeds. -/
theorem probe_conduct {options : Probe.ProbeOptions} {phase3 : Probe.Phase3} {aead : Aead}
    (performs : Performs phase3.evp aead) {past : List (Event Probe.Answer)} {q : Probe.Run Unit}
    (run : Reaches (Probe.runConnect options (some phase3)) past q) :
    past.length ≤ 47 ∧ ((Probe.sentDatagrams past).map nonceOf).Nodup ∧
      (∀ e ∈ past, ∀ host port datagram, e.call = .udpSendTo host port datagram →
        host = options.host) ∧
      (∃ sealing, Probe.Sends options phase3 aead sealing past) ∧
      (q = .done () → (Probe.sentDatagrams past).length = 9) := by
  have begins : Probe.Conduct options phase3 aead [] := ⟨Probe.unsealed, 0, by decide,
    stage_weaken (stage_begins ..) (by decide), fun more => absurd more (by decide)⟩
  obtain ⟨⟨sealing, count, few, stage, cleared⟩, ends⟩ :=
    upholds_reaches (run_upholds performs) begins run
  refine ⟨stage.calls, stage_nonces stage few, stage.addressed,
    ⟨sealing, stage_sends stage cleared⟩, ?_⟩
  intro ended
  subst ended
  obtain ⟨_, through⟩ := ends
  exact stage_count through

theorem sample_conduct : ∃ past,
    Reaches (Probe.runConnect sampleOptions (some (sampleSetup.phase3 lockedEvp))) past (.done ()) ∧
      (Probe.sentDatagrams past).length = 9 := by
  have run := scripted_reaches .start (probe_scripted sampleSetup locked_performs)
  exact ⟨_, run, (probe_conduct locked_performs run).2.2.2.2 rfl⟩

end GhostMedia.Interop
