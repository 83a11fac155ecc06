import GhostMedia.Interop.HarnessFailures
import GhostMedia.Interop.HarnessLifecycle

/- How the harness behaves whoever is on the other side: how many calls it makes, to whom it
   answers, what it has when it completes, and why it stops before. -/
namespace GhostMedia.Interop
open CString Control Media Session Bridge Dialogue Replay SlidingWindow GhostMedia.Runtime

namespace Harness

def Call.sent : Call → Option (String × UInt16 × List UInt8)
  | .sendUdp host port datagram => some (host, port, datagram)
  | _ => none

/-- The datagrams that the harness has sent, with where to. -/
def sent (past : List (Event Answer)) : List (String × UInt16 × List UInt8) :=
  (past.map Event.call).filterMap Call.sent

section Conduct
variable (listener : SecureListener) (aead : Aead)

def SessionKeys (forward reverse : DirectionalKeys) : Prop :=
  ∃ sessionId, dataHex testSessionId = some sessionId ∧
    derivePhase3Keys listener.tlsExport sessionId 1 .windowsToApple 1
      listener.clientDigest.bytes listener.serverDigest.bytes = .ok forward ∧
    derivePhase3Keys listener.tlsExport sessionId 1 .appleToWindows 1
      listener.serverDigest.bytes listener.clientDigest.bytes = .ok reverse

/-- A datagram answers an authentic challenge of the expected host, at the tuple that the
    challenge came from and with the bytes that it held. -/
def AnswersChallenge (past : List (Event Answer)) (host : String) (port : UInt16)
    (datagram : List UInt8) : Prop :=
  ∃ arrival ∈ arrivals past, arrival.host = host ∧ arrival.port = port ∧
    host = listener.expectedWindowsHost ∧
    ∃ forward reverse challenge, SessionKeys listener forward reverse ∧ challenge.length = 12 ∧
      authenticText aead forward.pathKey arrival.datagram = some challenge ∧
      authenticText aead reverse.pathKey datagram = some challenge

/-- What has been received so far, how many datagrams were sent, and in how many calls. -/
structure Progress (heard : List (List UInt8)) (arrived : List Arrival) (count calls : Nat)
    (past : List (Event Answer)) : Prop where
  calls : past.length ≤ calls
  count : (sent past).length = count
  answers : ∀ s ∈ sent past, AnswersChallenge listener aead past s.1 s.2.1 s.2.2
  heard : payloads past = heard
  arrived : arrivals past = arrived

/-- What always holds of what the harness has done. -/
def Conduct (past : List (Event Answer)) : Prop :=
  ∃ heard arrived count, count ≤ 1 ∧ Progress listener aead heard arrived count 18 past

/-- What the harness has when it completes. -/
structure Finished (past : List (Event Answer)) (completed : Completed) : Prop where
  requests : (payloads past).length = 4
  answered : (sent past).length = 1
  source : ∃ port, ∀ arrival ∈ arrivals past,
    arrival.host = listener.expectedWindowsHost ∧ arrival.port = port
  packets : completed.packets.map Packet.datagram = (arrivals past).tail.map Arrival.datagram
  count : completed.packets.length = phase3PacketCount
  authentic : ∃ forward reverse, SessionKeys listener forward reverse ∧
    ∀ packet ∈ completed.packets,
      authenticText aead forward.mediaKey packet.datagram = some packet.pcm ∧
        decodeMediaHeader packet.datagram = .ok packet.header
  timeline : ∃ first : UInt64, ∀ k packet, completed.packets[k]? = some packet →
    packet.header.mediaTimestamp.toNat = first.toNat + 240 * k
  fresh : (completed.packets.map fun packet => packet.header.sequence).Nodup
  metrics : completed.metrics = ⟨4, 1⟩
  control : StreamStarted completed.control.rawValue

/-- A start has been received whose timeline has no room for all packets. -/
def Overflows (past : List (Event Answer)) : Prop :=
  ∃ payload ∈ payloads past, ∃ message first, parseControlMessage payload = .ok message ∧
    message.kind = .requestStreamStart ∧
    message.firstMediaTimestamp.bind uint64OfText = some first ∧ 2 ^ 64 ≤ first.toNat + 240 * 8

/-- Why the harness may stop: what it got instead of a payload, a failure that is not its own,
    or a timeline without room. -/
def Excused (past : List (Event Answer)) (stop : Stop) : Prop :=
  (∃ error, ⟨.receivePayload, Except.error error⟩ ∈ past ∧ stop = .thrown error) ∨ Plain stop ∨
    stop = .trapped ∧ Overflows past

end Conduct

section Past
variable {listener : SecureListener} {aead : Aead} {heard : List (List UInt8)}
  {arrived : List Arrival} {count calls : Nat} {past : List (Event Answer)}

theorem sent_snoc (past : List (Event Answer)) (e : Event Answer) :
    sent (past ++ [e]) = sent past ++ e.call.sent.toList := by
  rw [sent, List.map_append, List.filterMap_append]
  cases found : e.call.sent <;> simp [sent, found]

theorem arrivals_snoc (past : List (Event Answer)) (e : Event Answer) :
    arrivals (past ++ [e]) = arrivals past ++ (arrival e).toList := by
  rw [arrivals, List.filterMap_append]
  cases found : arrival e <;> simp [arrivals, found]

theorem payloads_snoc (past : List (Event Answer)) (e : Event Answer) :
    payloads (past ++ [e]) = payloads past ++ (payload e).toList := by
  rw [payloads, List.filterMap_append]
  cases found : payload e <;> simp [payloads, found]

theorem answers_snoc {host : String} {port : UInt16} {datagram : List UInt8} (e : Event Answer)
    (answers : AnswersChallenge listener aead past host port datagram) :
    AnswersChallenge listener aead (past ++ [e]) host port datagram := by
  obtain ⟨arrival, member, rest⟩ := answers
  refine ⟨arrival, ?_, rest⟩
  rw [arrivals_snoc]
  exact List.mem_append_left _ member

theorem progress_starts : Progress listener aead [] [] 0 0 [] :=
  ⟨Nat.le_refl _, rfl, fun _ member => absurd member List.not_mem_nil, rfl, rfl⟩

theorem progress_event (progress : Progress listener aead heard arrived count calls past)
    (e : Event Answer) (answers : ∀ s, e.call.sent = some s →
      AnswersChallenge listener aead past s.1 s.2.1 s.2.2) :
    Progress listener aead (heard ++ (payload e).toList) (arrived ++ (arrival e).toList)
      (count + e.call.sent.toList.length) (calls + 1) (past ++ [e]) where
  calls := by
    rw [List.length_append]
    exact Nat.succ_le_succ progress.calls
  count := by rw [sent_snoc, List.length_append, progress.count]
  answers := by
    intro s member
    rw [sent_snoc] at member
    rcases List.mem_append.mp member with earlier | last
    · exact answers_snoc e (progress.answers s earlier)
    · exact answers_snoc e (answers s (Option.mem_toList.mp last))
  heard := by rw [payloads_snoc, progress.heard]
  arrived := by rw [arrivals_snoc, progress.arrived]

theorem progress_quiet (progress : Progress listener aead heard arrived count calls past)
    (e : Event Answer) (quiet : e.call.sent = none) :
    Progress listener aead (heard ++ (payload e).toList) (arrived ++ (arrival e).toList)
      count (calls + 1) (past ++ [e]) := by
  have answers : ∀ s, e.call.sent = some s →
      AnswersChallenge listener aead past s.1 s.2.1 s.2.2 := by
    intro s found
    rw [quiet] at found
    cases found
  simpa [quiet] using progress_event progress e answers

theorem progress_conduct (progress : Progress listener aead heard arrived count calls past)
    (bounded : calls ≤ 18) (few : count ≤ 1) : Conduct listener aead past :=
  ⟨heard, arrived, count, few, { progress with calls := progress.calls.trans bounded }⟩

end Past

section Stops
variable {Inv : List (Event Answer) → Prop} {past : List (Event Answer)} {α β : Type}
  {post : List (Event Answer) → β → Prop}

theorem plain_excused {stop : Stop} (plain : Plain stop) : Excused past stop := .inr (.inl plain)

theorem core_then {step : Except ProtocolCoreError α} {next : α → Run β}
    (spares : Spares ForeignCall step)
    (ok : ∀ a, step = .ok a → Upholds Inv post Excused past (next a)) :
    Upholds Inv post Excused past (protocolCore step >>= next) := by
  cases step with
  | ok a => exact ok a rfl
  | error error => exact plain_excused (spares error rfl)

theorem apple_then {step : Except AppleError α} {next : α → Run β} (spares : Spares Foreign step)
    (ok : ∀ a, step = .ok a → Upholds Inv post Excused past (next a)) :
    Upholds Inv post Excused past (apple step >>= next) := by
  cases step with
  | ok a => exact ok a rfl
  | error error => exact plain_excused (spares error rfl)

theorem unwrap_then {value : Option α} {a : α} {next : α → Run β} (present : value = some a)
    (ok : Upholds Inv post Excused past (next a)) :
    Upholds Inv post Excused past (unwrap value >>= next) := by
  subst present
  exact ok

theorem require_then {condition : Prop} [Decidable condition] {message : String}
    {next : Unit → Run β} (other : message ∉ ownChecks)
    (ok : condition → Upholds Inv post Excused past (next ())) :
    Upholds Inv post Excused past (require condition message >>= next) := by
  by_cases here : condition
  · rw [require, if_pos here]
    exact ok here
  · rw [require, if_neg here]
    exact plain_excused other

theorem control_call_then {call : ControlSession.Mutating} {kind : ControlSessionActionKind}
    {refusal : String} {session : ControlSession} {next : ControlSession → Run β}
    (other : refusal ∉ ownChecks)
    (fails : ∀ error after, call session = .error error after → ForeignCall error)
    (ok : ∀ action after, call session = .ok action after →
      Upholds Inv post Excused past (next after)) :
    Upholds Inv post Excused past (controlCall call kind refusal session >>= next) := by
  unfold controlCall
  cases accepted : call session with
  | error error after => exact plain_excused (fails error after accepted)
  | ok action after =>
    by_cases shown : action.kind = kind
    · simp only [require, if_pos shown, Program.done_bind]
      exact ok action after accepted
    · simp only [require, if_neg shown, Program.fail_bind]
      exact plain_excused other

end Stops

section Program
variable {listener : SecureListener} {aead : Aead} {heard : List (List UInt8)}
  {arrived : List Arrival} {count calls : Nat} {past : List (Event Answer)}

theorem response_upholds (progress : Progress listener aead heard arrived count calls past)
    (bounded : calls + 1 ≤ 18) (few : count ≤ 1) (json : List UInt8) :
    Upholds (Conduct listener aead)
      (fun past _ => Progress listener aead heard arrived count (calls + 1) past) Excused past
      (sendResponse true json) := by
  unfold sendResponse
  apply core_then (parse_message_spares _)
  intro _ _
  apply core_then (encode_frame_spares _)
  intro frame _ (status : GmStatus)
  have sent : Progress listener aead heard arrived count (calls + 1)
      (past ++ [⟨.sendAll frame, status⟩]) := by
    simpa [payload, arrival, Call.sent] using progress_quiet progress ⟨.sendAll frame, status⟩ rfl
  refine ⟨progress_conduct sent bounded few, ?_⟩
  change Upholds _ _ _ _ (if status = .ok then _ else _)
  split
  · exact sent
  · exact plain_excused trivial

/-- What a granted request has told the harness, and what its session has become. -/
def Asked (heard : List (List UInt8)) (before : GmControlSession) (now : UInt64)
    (told : List (List UInt8)) (r : ControlMessage × ControlState) : Prop :=
  ∃ payload m, told = heard ++ [payload] ∧ parseControlMessage payload = .ok r.1 ∧
    r.1 = controlMessage m ∧ Granted before r.2.session.rawValue payload now m

theorem request_upholds (progress : Progress listener aead heard arrived count calls past)
    (bounded : calls + 1 ≤ 18) (few : count ≤ 1) (kind : ControlSessionActionKind)
    {refusal : String} (other : refusal ∉ ownChecks) (control : ControlState) :
    Upholds (Conduct listener aead)
      (fun past r => ∃ told, Progress listener aead told arrived count (calls + 1) past ∧
        Asked heard control.session.rawValue control.now told r)
      Excused past (receiveRequest kind refusal control) := by
  unfold receiveRequest
  intro (answer : Except ReceiveError (List UInt8))
  have received := progress_quiet progress ⟨.receivePayload, answer⟩ rfl
  refine ⟨progress_conduct received bounded few, ?_⟩
  cases answer with
  | error error => exact .inl ⟨error, List.mem_append_right _ List.mem_cons_self, rfl⟩
  | ok payload =>
    have told : Progress listener aead (heard ++ [payload]) arrived count (calls + 1)
        (past ++ [⟨.receivePayload, .ok payload⟩]) := by
      simpa [Harness.payload, arrival, Call.sent] using received
    apply control_call_then other fun _ _ => ingest_spares
    intro action session accepted
    obtain ⟨m, granted⟩ := ingest_granted accepted
    have parsed := parsed_core granted.arrives.1
    apply core_then (parse_message_spares _)
    intro message read
    obtain rfl : controlMessage m = message := Except.ok.inj (parsed.symm.trans read)
    exact ⟨_, told, ⟨payload, m, rfl, parsed, rfl, granted⟩⟩

theorem response_authentic {evp : Evp} (performs : Performs evp aead) {challenge : List UInt8}
    (length : challenge.length = 12) {sessionId key response : List UInt8}
    (seals : sealMedia evp ⟨.pathResponse, sessionId, 1, .appleToWindows, 1, 1, 0,
      challenge.length.toUInt32⟩ challenge key = .ok response) :
    authenticText aead key response = some challenge := by
  obtain ⟨raw, made, valid, limits, rfl⟩ := (harness_seal_iff performs _ _ _ _).mp seals
  obtain ⟨size, _, _, _, _, _, _, _, _, sized⟩ := (raw_media_header_iff _ _).mp made
  have same : challenge.length = raw.payloadLength.toNat := by
    rw [sized, length]
    rfl
  exact (protected_layout aead valid size limits.key same).2

theorem challenge_upholds (performs : Performs listener.evp aead) {sessionId : List UInt8}
    {forward reverse : DirectionalKeys} {hello : ControlMessage} {session : ControlSession}
    {port : UInt16} (read : uint16Of (hello.udpPort.getD 0) = some port)
    (keys : SessionKeys listener forward reverse) (opened : StreamOpened session.rawValue)
    (progress : Progress listener aead heard [] 0 calls past) (bounded : calls + 2 ≤ 18) :
    Upholds (Conduct listener aead)
      (fun past r => Progress listener aead heard [r.1] 1 (calls + 2) past ∧
        r.1.host = listener.expectedWindowsHost ∧ r.2.rawValue =
          { session.rawValue with
            pathValidated := 1
            actionsEmitted := session.rawValue.actionsEmitted + 1 })
      Excused past (answerChallenge listener hello sessionId forward reverse session) := by
  unfold answerChallenge
  intro (answer : Except GmStatus Arrival)
  have received := progress_quiet progress ⟨.receiveUdp, answer⟩ rfl
  refine ⟨progress_conduct received (by omega) (Nat.zero_le _), ?_⟩
  cases answer with
  | error status => exact plain_excused trivial
  | ok arrival =>
    have arrived : Progress listener aead heard [arrival] 0 (calls + 1)
        (past ++ [⟨.receiveUdp, .ok arrival⟩]) := by
      simpa [payload, Harness.arrival, Call.sent] using received
    apply require_then (by decide)
    intro host
    apply unwrap_then read
    apply require_then (by decide)
    intro _
    apply apple_then (open_media_spares _ _ _)
    intro result opens
    obtain ⟨header, challenge⟩ := result
    obtain ⟨_, _, authentic⟩ := (harness_open_iff performs _ _ _ _).mp opens
    apply require_then (by decide)
    intro checks
    have length : challenge.length = 12 := checks.2.2.2.2.2
    apply apple_then (seal_media_spares _ _ _ _)
    intro response seals
    have answers : AnswersChallenge listener aead (past ++ [⟨.receiveUdp, .ok arrival⟩])
        arrival.host arrival.port response :=
      ⟨arrival, by simp [arrivals, Harness.arrival], rfl, rfl, host, forward, reverse, challenge,
        keys, length, authentic, response_authentic performs length seals⟩
    intro (status : GmStatus)
    have sent : Progress listener aead heard [arrival] 1 (calls + 2)
        (past ++ [⟨.receiveUdp, .ok arrival⟩] ++
          [⟨.sendUdp arrival.host arrival.port response, status⟩]) := by
      simpa [payload, Harness.arrival, Call.sent] using progress_event arrived
        ⟨.sendUdp arrival.host arrival.port response, status⟩
        fun s here => by cases here; exact answers
    refine ⟨progress_conduct sent bounded (Nat.le_refl _), ?_⟩
    by_cases ok : status = .ok
    · subst ok
      have validates := opened_validates opened
      change Upholds _ _ _ _ (controlCall _ _ _ _ >>= _)
      rw [ControlSession.markPathValidated, control_call_taken rfl validates (by decide)]
      exact ⟨sent, host, taken_after rfl validates⟩
    · change Upholds _ _ _ _
        (requireRuntimeOk "UDP send" (if status = .ok then .ok () else .error status) >>= _)
      rw [if_neg ok]
      exact plain_excused trivial

/-- The packets of a loop that completes, which its timeline has room for. -/
theorem packets_uphold {context : AudioContext} {first : UInt64} {more : Nat} {state : AudioState}
    (progress : Progress listener aead heard arrived 1 calls past) (bounded : calls + more ≤ 18)
    (timeline : state.expectedTimestamp.toNat = first.toNat + 240 * state.acceptedPackets)
    (left : state.acceptedPackets + more = phase3PacketCount)
    (excuse : ∀ past, payloads past = heard → 2 ^ 64 ≤ first.toNat + 240 * 8 → Overflows past) :
    Upholds (Conduct listener aead)
      (fun past packets => ∃ audio,
        Progress listener aead heard (arrived ++ audio) 1 (calls + more) past ∧
          audioLoop context state audio = ⟨packets, .completed⟩ ∧ audio.length = more ∧
          (∀ arrival ∈ audio,
            arrival.host = context.sourceHost ∧ arrival.port = context.sourcePort) ∧
          first.toNat + 240 * 8 < 2 ^ 64)
      Excused past (receivePackets context more state) := by
  induction more generalizing past calls state arrived with
  | zero =>
    have full : ¬ state.acceptedPackets < phase3PacketCount := by omega
    refine ⟨[], by simpa using progress, ?_, rfl, fun _ member => absurd member
      List.not_mem_nil, ?_⟩
    · rw [audioLoop, if_neg full]
    · have bound := state.expectedTimestamp.toNat_lt
      have eight : phase3PacketCount = 8 := rfl
      omega
  | succ more ih =>
    have room : state.acceptedPackets < phase3PacketCount := by omega
    have eight : phase3PacketCount = 8 := rfl
    unfold receivePackets
    intro (answer : Except GmStatus Arrival)
    have received := progress_quiet progress ⟨.receiveUdp, answer⟩ rfl
    refine ⟨progress_conduct received (by omega) (Nat.le_refl _), ?_⟩
    cases answer with
    | error status => exact plain_excused trivial
    | ok arrival =>
      have taken : Progress listener aead heard (arrived ++ [arrival]) 1 (calls + 1)
          (past ++ [⟨.receiveUdp, .ok arrival⟩]) := by
        simpa [payload, Harness.arrival, Call.sent] using received
      have roomed := audio_turn_roomed context state arrival
      dsimp only [Program.bind, requireRuntimeOk]
      cases turn : audioTurn context state arrival with
      | thrown error =>
        exact plain_excused (audio_turn_errors turn)
      | trapped packet =>
        rw [turn] at roomed
        have full : 2 ^ 64 ≤ state.expectedTimestamp.toNat + 240 := roomed
        exact .inr (.inr ⟨rfl, excuse _ taken.heard (by omega)⟩)
      | next packet next =>
        rw [turn] at roomed
        obtain ⟨fits, accepted, expected, source⟩ := roomed
        have later : next.expectedTimestamp.toNat =
            first.toNat + 240 * next.acceptedPackets := by
          rw [expected, accepted, timestamp_advances fits, timeline]
          omega
        apply upholds_bind (ih taken (by omega) later (by omega))
        intro past packets followed
        obtain ⟨audio, progress, completed, length, others, fits⟩ := followed
        refine ⟨arrival :: audio, ?_, ?_, congrArg (· + 1) length,
          List.forall_mem_cons.mpr ⟨source, others⟩, fits⟩
        · rwa [List.append_assoc, List.singleton_append, Nat.add_assoc, Nat.add_comm 1]
            at progress
        · rw [audioLoop, if_pos room]
          simp only [turn, completed]

theorem open_stream_upholds :
    Upholds (Conduct listener aead)
      (fun past r => ∃ told, told.length = 3 ∧ Progress listener aead told [] 0 6 past ∧
        StreamOpened r.2.session.rawValue ∧
        ∃ port, uint16Of (r.1.udpPort.getD 0) = some port)
      Excused [] openStream := by
  unfold openStream
  -- whatever the texts of the results are
  generalize helloResultJson = helloJson
  generalize bindResultJson = bindJson
  generalize openResultJson = openJson
  rw [test_session_inits]
  change Upholds _ _ _ _ (receiveRequest _ _ ⟨Setup.started, 1⟩ >>= _)
  apply upholds_bind (request_upholds progress_starts (by decide) (by decide) _ (by decide) _)
  intro past r greeted
  obtain ⟨hello, control⟩ := r
  obtain ⟨told, progress, text, m, rfl, parsed, rfl, granted⟩ := greeted
  apply require_then (by decide)
  intro checks
  have kind := shown_kind .requestSessionHello checks.1
  have greeted := hello_granted lifecycle_starts granted kind
  have range := hello_arrives granted.arrives kind
  apply upholds_bind (response_upholds progress (by decide) (by decide) _)
  intro past _ progress
  apply upholds_bind (request_upholds progress (by decide) (by decide) _ (by decide) _)
  intro past r asked
  obtain ⟨bind, next⟩ := r
  obtain ⟨told, progress, text, n, rfl, _, rfl, granted⟩ := asked
  apply require_then (by decide)
  intro checks
  have bound := bind_granted greeted granted (shown_kind .requestTransportBind checks.1)
  apply upholds_bind (response_upholds progress (by decide) (by decide) _)
  intro past _ progress
  apply upholds_bind (request_upholds progress (by decide) (by decide) _ (by decide) _)
  intro past r asked
  obtain ⟨opened, last⟩ := r
  obtain ⟨told, progress, text, o, rfl, _, rfl, granted⟩ := asked
  apply require_then (by decide)
  intro checks
  have opened := open_stream_granted bound granted (shown_kind .requestStreamOpen checks.1)
  apply upholds_bind (response_upholds progress (by decide) (by decide) _)
  intro past _ progress
  exact ⟨_, rfl, progress, opened, hello_port_read range⟩

theorem completes {source : Arrival} {told : List (List UInt8)} {audio : List Arrival}
    {forward reverse : DirectionalKeys} {sessionId : List UInt8} {first : UInt64}
    {packets : List Packet} {session : ControlSession}
    (progress : Progress listener aead (heard ++ told) ([source] ++ audio) 1 calls past)
    (one : told.length = 1) (keys : SessionKeys listener forward reverse)
    (host : source.host = listener.expectedWindowsHost)
    (length : audio.length = phase3PacketCount)
    (sources : ∀ arrival ∈ audio, arrival.host = source.host ∧ arrival.port = source.port)
    (follows : Follows ⟨listener.evp, sessionId, forward.mediaKey, source.host, source.port⟩ aead
      first.toNat phase3PacketCount ∅ audio ⟨packets, .completed⟩) (three : heard.length = 3)
    (started : StreamStarted session.rawValue) :
    Finished listener aead past ⟨packets, ⟨4, 1⟩, session⟩ := by
  have all : packets.length = phase3PacketCount := by
    by_contra other
    have fewer : packets.length < phase3PacketCount := Nat.lt_of_le_of_ne follows.bounded other
    obtain ⟨error, thrown⟩ := follows.others fewer (length.symm ▸ fewer)
    cases thrown
  have inOrder := follows.inOrder.eq_of_length (by simp [all, length])
  constructor
  case requests => rw [progress.heard, List.length_append, three, one]
  case answered => exact progress.count
  case source =>
    refine ⟨source.port, ?_⟩
    rw [progress.arrived]
    exact List.forall_mem_cons.mpr ⟨⟨host, rfl⟩, fun arrival member =>
      ⟨(sources arrival member).1.trans host, (sources arrival member).2⟩⟩
  case packets =>
    rw [progress.arrived]
    exact inOrder
  case count => exact all
  case authentic => exact ⟨forward, reverse, keys, follows.authentic⟩
  case timeline => exact ⟨first, follows.timeline⟩
  case fresh => exact follows.distinct
  case metrics => rfl
  case control => exact started

/-- The secure listener to its end, whatever it is answered. -/
theorem listener_upholds (performs : Performs listener.evp aead) :
    Upholds (Conduct listener aead) (Finished listener aead) Excused []
      (runSecureListener listener) := by
  obtain ⟨replay, windowed, agrees⟩ := replay_window_starts
  unfold runSecureListener
  generalize startResultJson = startJson
  apply upholds_bind open_stream_upholds
  intro past r opens
  obtain ⟨hello, control⟩ := r
  obtain ⟨heard, three, progress, opened, port, read⟩ := opens
  apply unwrap_then test_session_decoded.2
  apply apple_then (derive_keys_spare _ _ _ _ _)
  intro forward sends
  apply apple_then (derive_keys_spare _ _ _ _ _)
  intro reverse receives
  have keys : SessionKeys listener forward reverse :=
    ⟨_, test_session_decoded.2, sends, receives⟩
  apply upholds_bind (challenge_upholds performs read keys opened progress (by decide))
  intro past r answered
  obtain ⟨source, session⟩ := r
  obtain ⟨progress, host, validated⟩ := answered
  apply upholds_bind (request_upholds progress (by decide) (by decide) _ (by decide) _)
  intro past r asked
  obtain ⟨start, last⟩ := r
  obtain ⟨told, progress, text, m, rfl, parsed, rfl, granted⟩ := asked
  apply require_then (by decide)
  intro checks
  have kind := shown_kind .requestStreamStart checks.1
  have started := start_granted opened (validated ▸ granted) kind
  obtain ⟨first, converts⟩ := start_timestamp_present granted.arrives kind
  apply upholds_bind (response_upholds progress (by decide) (by decide) _)
  intro past _ progress
  rw [windowed]
  change Upholds _ _ _ _ (unwrap _ >>= _)
  apply unwrap_then converts
  have excuse (past : List (Event Answer)) (same : payloads past = heard ++ [text])
      (full : 2 ^ 64 ≤ first.toNat + 240 * 8) : Overflows past :=
    ⟨text, by simp [same], _, first, parsed, checks.1, converts, full⟩
  apply upholds_bind (packets_uphold progress (by decide) (by simp) rfl excuse)
  intro past packets followed
  obtain ⟨audio, progress, completed, eight, sources, fits⟩ := followed
  have follows := @audio_loop_follows ⟨listener.evp, testSession.bytes, forward.mediaKey,
    source.host, source.port⟩ aead performs audio ⟨replay, 0, first⟩ ∅ phase3PacketCount agrees rfl
    fits
  rw [completed] at follows
  simp only [started_metrics started, protocolCore, apple, Except.mapError, Program.of_except_ok,
    Program.done_bind, require, and_self, if_true, Program.pure_eq]
  exact completes progress rfl keys host eight sources follows three started

end Program

end Harness

/-- Whatever the client and the network do: the secure listener makes at most 18 calls and sends
    at most one datagram, the answer to an authentic challenge of the authenticated host. It
    completes only with the packets of a started stream, its own session never refuses what it
    does next, and it traps only on a timeline without room. -/
theorem harness_conduct {listener : Harness.SecureListener} {aead : Aead}
    (performs : Performs listener.evp aead) {past : List (Event Harness.Answer)}
    {q : Harness.Run Harness.Completed}
    (run : Reaches (Harness.runSecureListener listener) past q) :
    past.length ≤ 18 ∧ (Harness.sent past).length ≤ 1 ∧
      (∀ s ∈ Harness.sent past, Harness.AnswersChallenge listener aead past s.1 s.2.1 s.2.2) ∧
      (∀ completed, q = .done completed → Harness.Finished listener aead past completed) ∧
      (∀ stop, q = .fail stop → Harness.Excused past stop) := by
  have begins : Harness.Conduct listener aead [] :=
    Harness.progress_conduct Harness.progress_starts (by decide) (by decide)
  obtain ⟨⟨heard, arrived, count, few, progress⟩, ends⟩ :=
    upholds_reaches (Harness.listener_upholds performs) begins run
  refine ⟨progress.calls, progress.count.trans_le few, progress.answers, ?_, ?_⟩
  · intro completed ended
    subst ended
    exact ends
  · intro stop stopped
    subst stopped
    exact ends

theorem sample_harness_conduct : ∃ past completed,
    Reaches (Harness.runSecureListener (sampleSetup.listener lockedEvp)) past (.done completed) ∧
      Harness.Finished (sampleSetup.listener lockedEvp) lockedAead past completed := by
  have run := scripted_reaches .start (harness_scripted sampleSetup locked_performs)
  exact ⟨_, _, run, (harness_conduct locked_performs run).2.2.2.1 _ rfl⟩

end GhostMedia.Interop
