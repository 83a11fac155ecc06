import GhostMedia.Interop.MediaRoundTrip
import GhostMedia.Media.ReplayRefinement
import GhostMedia.Session.DecimalText

/- The audio loop of the Apple harness's `runSecureListener`: the timestamp text of a
   `stream.start`, the datagrams received after it, and where arithmetic traps. -/
namespace GhostMedia.Interop
open CString Media Bridge Replay SlidingWindow GhostMedia.Runtime GhostMedia.Session

/-- `UInt64(_:)` of a digit string. -/
def unsignedOf (digits : List UInt8) : Option UInt64 :=
  if digits.isEmpty || digits.any (fun b => b < 48 || b > 57) ||
      Decimal.value digits ≥ 2 ^ 64 then none
  else some (UInt64.ofNat (Decimal.value digits))

/-- `UInt64(_:)` of a `String`, which may start with a sign. -/
def uint64OfText (text : List UInt8) : Option UInt64 :=
  if text.head? = some 43 then unsignedOf (text.drop 1)
  else if text.head? = some 45 then
    (unsignedOf (text.drop 1)).bind fun value => if value = 0 then some 0 else none
  else unsignedOf text

def optionalString {n : Nat} (value : Buffer n) : Option (List UInt8) :=
  if value.text.isEmpty then none else some value.text

namespace Harness

def phase3PacketCount : Nat := 8

def replayWindow : Except ProtocolCoreError GmReplayWindow := do
  let (status, rawValue) := gmReplayWindowInit ⟨sizeofGmReplayWindow, 0, 0, 0, clearBitmap⟩
  requireOk status "gm_replay_window_init"
  return rawValue

/-- `ReplayWindow.accept(sequence:)`; a result that is not written stays 0. -/
def replayAccept (window : GmReplayWindow) (sequence : UInt64) :
    Except ProtocolCoreError (GmReplayWindow × GmReplayResult) := do
  let (status, rawValue, result) := gmReplayWindowAccept window sequence
  requireOk status "gm_replay_window_accept"
  match result with
  | some decision => return (rawValue, decision)
  | none => throw (.callFailed "gm_replay_window_accept" "GM_UNKNOWN_REPLAY_RESULT")

structure Arrival where
  datagram : List UInt8
  host : String
  port : UInt16
  deriving DecidableEq

/-- What the loop has fixed before it: session, forward media key, authorised peer. -/
structure AudioContext where
  evp : Evp
  sessionId : List UInt8
  mediaKey : List UInt8
  sourceHost : String
  sourcePort : UInt16

structure AudioState where
  replay : GmReplayWindow
  acceptedPackets : Nat
  expectedTimestamp : UInt64
  deriving DecidableEq

/-- An accepted datagram with what it was opened to. -/
structure Packet where
  datagram : List UInt8
  header : MediaHeader
  pcm : List UInt8
  deriving DecidableEq

inductive AudioTurn where
  | next (packet : Packet) (state : AudioState)
  | thrown (error : AppleError)
  | trapped (packet : Packet)
  deriving DecidableEq

section Loop
variable (context : AudioContext)

def checkPacket (state : AudioState) (header : MediaHeader) (pcm : List UInt8) : Bool :=
  header.kind = .audio && header.direction = .windowsToApple &&
    header.sessionId = context.sessionId && header.streamId = 1 && header.keyEpoch = 1 &&
    header.mediaTimestamp = state.expectedTimestamp &&
    pcm.length = gmAudioPcmS16lePayloadBytes.toNat

def audioTurn (state : AudioState) (arrival : Arrival) : AudioTurn :=
  if arrival.host ≠ context.sourceHost || arrival.port ≠ context.sourcePort then
    .thrown (.unexpectedMessage "audio arrived from an unbound UDP tuple")
  else
    match openMedia context.evp arrival.datagram context.mediaKey with
    | .error error => .thrown error
    | .ok (header, pcm) =>
      if !checkPacket context state header pcm then
        .thrown (.unexpectedMessage "invalid encrypted synthetic PCM packet")
      else
        match replayAccept state.replay header.sequence with
        | .error error => .thrown (.protocolCore error)
        | .ok (replay, decision) =>
          if decision ≠ .accepted then
            .thrown (.unexpectedMessage "duplicate or stale synthetic PCM packet")
          else
            let packet : Packet := ⟨arrival.datagram, header, pcm⟩
            -- `+=` on `UInt64` traps
            if state.expectedTimestamp.toNat + 240 ≥ 2 ^ 64 then .trapped packet
            else
              .next packet ⟨replay, state.acceptedPackets + 1, state.expectedTimestamp + 240⟩

inductive LoopEnd where
  | completed
  | thrown (error : AppleError)
  | trapped
  | waiting
  deriving DecidableEq

structure AudioRun where
  accepted : List Packet
  ending : LoopEnd
  deriving DecidableEq

/-- The `while` loop over what arrives; it waits where nothing more does. -/
def audioLoop : AudioState → List Arrival → AudioRun
  | state, arrivals =>
    if state.acceptedPackets < phase3PacketCount then
      match arrivals with
      | [] => ⟨[], .waiting⟩
      | arrival :: rest =>
        match audioTurn context state arrival with
        | .next packet next =>
          let run := audioLoop next rest
          ⟨packet :: run.accepted, run.ending⟩
        | .thrown error => ⟨[], .thrown error⟩
        | .trapped packet => ⟨[packet], .trapped⟩
    else ⟨[], .completed⟩

/-- From the start message's text; both forced unwrappings trap on nothing. -/
def receiveAudio (firstMediaTimestamp : Option (List UInt8)) (arrivals : List Arrival) :
    AudioRun :=
  match replayWindow with
  | .error error => ⟨[], .thrown (.protocolCore error)⟩
  | .ok replay =>
    match firstMediaTimestamp.bind uint64OfText with
    | none => ⟨[], .trapped⟩
    | some first => audioLoop context ⟨replay, 0, first⟩ arrivals

end Loop

end Harness

open Harness

theorem unsigned_of_canonical {text : List UInt8} (decimal : Control.DecimalU64 text) :
    unsignedOf text = some (UInt64.ofNat (Decimal.value text)) := by
  obtain ⟨canonical, small⟩ := decimal
  have digits : text.any (fun b => b < 48 || b > 57) = false := by
    rw [List.any_eq_false]
    intro b member
    have digit := canonical.digits b member
    have low : ¬ b < 48 := Nat.not_lt.mpr digit.1
    have high : ¬ b > 57 := Nat.not_lt.mpr digit.2
    simp [low, high]
  rw [unsignedOf, digits, List.isEmpty_eq_false_iff.mpr canonical.nonempty,
    decide_eq_false (Nat.not_le.mpr small)]
  rfl

theorem uint64_of_canonical {text : List UInt8} (decimal : Control.DecimalU64 text) :
    uint64OfText text = some (UInt64.ofNat (Decimal.value text)) := by
  have unsigned (sign : UInt8) (other : ¬ Decimal.IsDigit sign) : text.head? ≠ some sign := by
    intro here
    exact other (decimal.1.digits sign (List.mem_of_mem_head? here))
  rw [uint64OfText, if_neg (unsigned 43 (by simp [Decimal.IsDigit])),
    if_neg (unsigned 45 (by simp [Decimal.IsDigit])), unsigned_of_canonical decimal]

section Turns
variable {context : AudioContext} {aead : Aead} {state : AudioState} {seen : Finset Nat}

theorem replay_accept_eq (agrees : Agrees state.replay seen) (sequence : UInt64) :
    ∃ next, replayAccept state.replay sequence =
        .ok (next, resultOf (verdict 1024 seen sequence.toNat)) ∧
      Agrees next (record 1024 seen sequence.toNat) := by
  obtain ⟨next, call, kept⟩ := accept_agrees agrees sequence
  refine ⟨next, ?_, kept⟩
  rw [replayAccept, call]
  rfl

def taken (state : AudioState) (replay : GmReplayWindow) (packet : Packet) : AudioTurn :=
  if state.expectedTimestamp.toNat + 240 ≥ 2 ^ 64 then .trapped packet
  else .next packet ⟨replay, state.acceptedPackets + 1, state.expectedTimestamp + 240⟩

/-- The packets that the loop accepts in a state, after the sequence numbers `seen`. -/
structure Declared (context : AudioContext) (aead : Aead) (state : AudioState)
    (seen : Finset Nat) (arrival : Arrival) (packet : Packet) : Prop where
  datagram : packet.datagram = arrival.datagram
  authentic : authenticText aead context.mediaKey packet.datagram = some packet.pcm
  decoded : decodeMediaHeader packet.datagram = .ok packet.header
  timestamp : packet.header.mediaTimestamp = state.expectedTimestamp
  fresh : packet.header.sequence.toNat ∉ seen

/-- The datagram carries the packet that is due at a timestamp: from the bound tuple, under the
    media key, for this stream, and new to the replay window. -/
structure Due (context : AudioContext) (aead : Aead) (timestamp : Nat) (seen : Finset Nat)
    (arrival : Arrival) (packet : Packet) : Prop where
  source : arrival.host = context.sourceHost ∧ arrival.port = context.sourcePort
  datagram : packet.datagram = arrival.datagram
  authentic : authenticText aead context.mediaKey packet.datagram = some packet.pcm
  decoded : decodeMediaHeader packet.datagram = .ok packet.header
  kind : packet.header.kind = .audio ∧ packet.header.direction = .windowsToApple
  stream : packet.header.sessionId = context.sessionId ∧ packet.header.streamId = 1 ∧
    packet.header.keyEpoch = 1
  timestamp : packet.header.mediaTimestamp.toNat = timestamp
  size : packet.pcm.length = gmAudioPcmS16lePayloadBytes.toNat
  fresh : verdict 1024 seen packet.header.sequence.toNat = .accepted

theorem audio_turn_takes {arrival : Arrival} {header : MediaHeader} {pcm : List UInt8}
    {next : GmReplayWindow} (host : arrival.host = context.sourceHost)
    (port : arrival.port = context.sourcePort)
    (opened : openMedia context.evp arrival.datagram context.mediaKey = .ok (header, pcm))
    (checked : checkPacket context state header pcm = true)
    (call : replayAccept state.replay header.sequence = .ok (next, .accepted)) :
    audioTurn context state arrival = taken state next ⟨arrival.datagram, header, pcm⟩ := by
  unfold audioTurn
  rw [if_neg (by simp [host, port])]
  simp only [opened, checked, call, Bool.not_true, Bool.false_eq_true, if_false]
  rfl

theorem audio_turn_due (performs : Performs context.evp aead)
    (key : context.mediaKey.length = gmCryptoKeyBytes) (agrees : Agrees state.replay seen)
    {arrival : Arrival} {packet : Packet}
    (due : Due context aead state.expectedTimestamp.toNat seen arrival packet) :
    ∃ replay, audioTurn context state arrival = taken state replay packet ∧
      Agrees replay (insert packet.header.sequence.toNat seen) := by
  obtain ⟨datagram, header, pcm⟩ := packet
  obtain ⟨⟨host, port⟩, rfl, authentic, decoded, ⟨kind, direction⟩, ⟨session, stream, epoch⟩,
    timestamp, size, fresh⟩ := due
  dsimp only at authentic decoded kind direction session stream epoch timestamp size fresh
  have opened := (harness_open_iff performs _ _ _ _).mpr ⟨key, decoded, authentic⟩
  have checked : checkPacket context state header pcm = true := by
    simp [checkPacket, kind, direction, session, stream, epoch, UInt64.toNat_inj.mp timestamp, size]
  obtain ⟨replay, call, kept⟩ := replay_accept_eq agrees header.sequence
  rw [fresh] at call
  rw [record, if_pos fresh] at kept
  exact ⟨replay, audio_turn_takes host port opened checked call, kept⟩

theorem audio_turn_cases (performs : Performs context.evp aead)
    (agrees : Agrees state.replay seen) (arrival : Arrival) :
    (∃ error, audioTurn context state arrival = .thrown error) ∨
      ∃ packet replay, audioTurn context state arrival = taken state replay packet ∧
        Declared context aead state seen arrival packet ∧
        Agrees replay (insert packet.header.sequence.toNat seen) := by
  unfold audioTurn
  split
  · exact .inl ⟨_, rfl⟩
  split
  · exact .inl ⟨_, rfl⟩
  rename_i header pcm opened
  split
  · exact .inl ⟨_, rfl⟩
  rename_i checked
  obtain ⟨next, call, kept⟩ := replay_accept_eq agrees header.sequence
  rw [call]
  by_cases accepted : verdict 1024 seen header.sequence.toNat = .accepted
  · right
    obtain ⟨_, decoded, authentic⟩ := (harness_open_iff performs _ _ _ _).mp opened
    simp only [Bool.not_eq_true', Bool.not_eq_false, checkPacket, Bool.and_eq_true,
      decide_eq_true_eq] at checked
    rw [record, if_pos accepted] at kept
    refine ⟨⟨arrival.datagram, header, pcm⟩, next, ?_, ⟨rfl, authentic, decoded, checked.1.2,
      accepted_is_fresh accepted⟩, kept⟩
    rw [accepted]
    rfl
  · left
    cases refused : verdict 1024 seen header.sequence.toNat with
    | accepted => exact absurd refused accepted
    | duplicate => exact ⟨_, rfl⟩
    | tooOld => exact ⟨_, rfl⟩

end Turns

/-- A run over a timeline of `budget` packets: each one it accepts is authentic under the
    media key, in its place on the timeline and new; anything else ends it with an error. -/
structure Follows (context : AudioContext) (aead : Aead) (first budget : Nat) (seen : Finset Nat)
    (arrivals : List Arrival) (run : AudioRun) : Prop where
  safe : run.ending ≠ .trapped
  bounded : run.accepted.length ≤ budget
  inOrder : run.accepted.map Packet.datagram <+: arrivals.map Arrival.datagram
  authentic : ∀ packet ∈ run.accepted,
    authenticText aead context.mediaKey packet.datagram = some packet.pcm ∧
      decodeMediaHeader packet.datagram = .ok packet.header
  timeline : ∀ k packet, run.accepted[k]? = some packet →
    packet.header.mediaTimestamp.toNat = first + 240 * k
  distinct : (run.accepted.map fun packet => packet.header.sequence).Nodup
  fresh : ∀ packet ∈ run.accepted, packet.header.sequence.toNat ∉ seen
  others : run.accepted.length < budget → run.accepted.length < arrivals.length →
    ∃ error, run.ending = .thrown error

/-- The datagrams begin with these packets of the timeline. -/
inductive Presents (context : AudioContext) (aead : Aead) :
    Nat → Finset Nat → List Arrival → List Packet → Prop where
  | stop {first seen arrivals} : Presents context aead first seen arrivals []
  | next {first seen arrival rest packet packets}
      (due : Due context aead first seen arrival packet)
      (later : Presents context aead (first + 240) (insert packet.header.sequence.toNat seen) rest
        packets) :
      Presents context aead first seen (arrival :: rest) (packet :: packets)

/-- A run accepts the packets of the timeline that its datagrams begin with, and completes when
    it has accepted all there are. -/
structure AcceptsTimeline (context : AudioContext) (aead : Aead) (first budget : Nat)
    (seen : Finset Nat) (arrivals : List Arrival) (run : AudioRun) : Prop where
  presented : ∀ packets, Presents context aead first seen arrivals packets →
    packets.length ≤ budget → packets <+: run.accepted
  completed : run.accepted.length = budget → run.ending = .completed

section Runs
variable {context : AudioContext} {aead : Aead}

theorem follows_stop {first budget : Nat} {seen : Finset Nat} {arrivals : List Arrival}
    {ending : LoopEnd} (safe : ending ≠ .trapped)
    (others : 0 < budget → 0 < arrivals.length → ∃ error, ending = .thrown error) :
    Follows context aead first budget seen arrivals ⟨[], ending⟩ where
  safe := safe
  bounded := Nat.zero_le _
  inOrder := List.nil_prefix
  authentic _ member := absurd member List.not_mem_nil
  timeline _ _ here := by cases here
  distinct := List.nodup_nil
  fresh _ member := absurd member List.not_mem_nil
  others := others

theorem follows_next {first budget : Nat} {seen : Finset Nat} {arrival : Arrival}
    {rest : List Arrival} {run : AudioRun} {state : AudioState} {packet : Packet}
    (declared : Declared context aead state seen arrival packet)
    (here : state.expectedTimestamp.toNat = first)
    (tail : Follows context aead (first + 240) budget
      (insert packet.header.sequence.toNat seen) rest run) :
    Follows context aead first (budget + 1) seen (arrival :: rest)
      ⟨packet :: run.accepted, run.ending⟩ where
  safe := tail.safe
  bounded := Nat.succ_le_succ tail.bounded
  inOrder := by
    rw [List.map_cons, List.map_cons, declared.datagram]
    exact List.cons_prefix_cons.mpr ⟨rfl, tail.inOrder⟩
  authentic := List.forall_mem_cons.mpr ⟨⟨declared.authentic, declared.decoded⟩, tail.authentic⟩
  timeline := by
    intro k other found
    cases k with
    | zero =>
      obtain rfl := Option.some.inj found
      rw [declared.timestamp, here]
      rfl
    | succ k =>
      rw [tail.timeline k other found]
      omega
  distinct := by
    rw [List.map_cons, List.nodup_cons]
    refine ⟨fun again => ?_, tail.distinct⟩
    obtain ⟨other, member, same⟩ := List.mem_map.mp again
    have new := tail.fresh other member
    rw [same] at new
    exact new (Finset.mem_insert_self _ _)
  fresh := List.forall_mem_cons.mpr ⟨declared.fresh, fun other member old =>
    tail.fresh other member (Finset.mem_insert_of_mem old)⟩
  others short more :=
    tail.others (Nat.lt_of_succ_lt_succ short) (Nat.lt_of_succ_lt_succ more)

theorem timestamp_advances {timestamp : UInt64} (room : timestamp.toNat + 240 < 2 ^ 64) :
    (timestamp + 240).toNat = timestamp.toNat + 240 := by
  rw [UInt64.toNat_add]
  exact Nat.mod_eq_of_lt room

theorem audio_loop_follows (performs : Performs context.evp aead) (arrivals : List Arrival)
    {state : AudioState} {seen : Finset Nat} {budget : Nat} (agrees : Agrees state.replay seen)
    (count : state.acceptedPackets + budget = phase3PacketCount)
    (fits : state.expectedTimestamp.toNat + 240 * budget < 2 ^ 64) :
    Follows context aead state.expectedTimestamp.toNat budget seen arrivals
      (audioLoop context state arrivals) := by
  induction arrivals generalizing state seen budget with
  | nil =>
    unfold audioLoop
    split
    · exact follows_stop (by simp) (fun _ more => absurd more (by simp))
    · rename_i all
      exact follows_stop (by simp) (fun _ more => absurd more (by simp))
  | cons arrival rest ih =>
    unfold audioLoop
    split
    · rename_i more
      obtain ⟨left, rfl⟩ : ∃ left, budget = left + 1 := ⟨budget - 1, by omega⟩
      rcases audio_turn_cases performs agrees arrival with
        ⟨error, turn⟩ | ⟨packet, replay, turn, declared, kept⟩
      · simp only [turn]
        exact follows_stop (by simp) (fun _ _ => ⟨error, rfl⟩)
      · have room : ¬ state.expectedTimestamp.toNat + 240 ≥ 2 ^ 64 := by omega
        rw [taken, if_neg room] at turn
        simp only [turn]
        have advanced := timestamp_advances (Nat.lt_of_not_le room)
        apply follows_next declared rfl
        rw [← advanced]
        apply @ih ⟨replay, state.acceptedPackets + 1, state.expectedTimestamp + 240⟩ _ left kept
        · change state.acceptedPackets + 1 + left = phase3PacketCount
          omega
        · change (state.expectedTimestamp + 240).toNat + 240 * left < 2 ^ 64
          omega
    · rename_i all
      have none : budget = 0 := by omega
      exact follows_stop (by simp) (fun more _ => absurd more (by omega))

theorem accepts_nothing {first : Nat} {seen : Finset Nat} {arrivals : List Arrival} :
    AcceptsTimeline context aead first 0 seen arrivals ⟨[], .completed⟩ where
  presented packets _ few := by
    rw [List.length_eq_zero_iff.mp (Nat.le_zero.mp few)]
  completed _ := rfl

theorem audio_loop_accepts (performs : Performs context.evp aead)
    (key : context.mediaKey.length = gmCryptoKeyBytes) (arrivals : List Arrival)
    {state : AudioState} {seen : Finset Nat} {budget : Nat} (agrees : Agrees state.replay seen)
    (count : state.acceptedPackets + budget = phase3PacketCount)
    (fits : state.expectedTimestamp.toNat + 240 * budget < 2 ^ 64) :
    AcceptsTimeline context aead state.expectedTimestamp.toNat budget seen arrivals
      (audioLoop context state arrivals) := by
  induction arrivals generalizing state seen budget with
  | nil =>
    unfold audioLoop
    split
    · refine ⟨fun packets presents _ => ?_, fun all => ?_⟩
      · cases presents with
        | stop => exact List.nil_prefix
      · rw [← all] at count
        change state.acceptedPackets + 0 = phase3PacketCount at count
        omega
    · obtain rfl : budget = 0 := by omega
      exact accepts_nothing
  | cons arrival rest ih =>
    unfold audioLoop
    split
    case isFalse =>
      obtain rfl : budget = 0 := by omega
      exact accepts_nothing
    obtain ⟨left, rfl⟩ : ∃ left, budget = left + 1 := ⟨budget - 1, by omega⟩
    have room : ¬ state.expectedTimestamp.toNat + 240 ≥ 2 ^ 64 := by omega
    have advanced := timestamp_advances (Nat.lt_of_not_le room)
    have later (replay : GmReplayWindow) (seen : Finset Nat) (kept : Agrees replay seen) :=
      @ih ⟨replay, state.acceptedPackets + 1, state.expectedTimestamp + 240⟩ seen left kept
        (by change state.acceptedPackets + 1 + left = phase3PacketCount; omega)
        (by change (state.expectedTimestamp + 240).toNat + 240 * left < 2 ^ 64; omega)
    constructor
    · intro packets presents few
      cases presents with
      | stop => exact List.nil_prefix
      | next due presents =>
        obtain ⟨replay, turn, kept⟩ := audio_turn_due performs key agrees due
        rw [taken, if_neg room] at turn
        simp only [turn]
        rw [← advanced] at presents
        exact List.cons_prefix_cons.mpr
          ⟨rfl, (later replay _ kept).presented _ presents (Nat.le_of_succ_le_succ few)⟩
    · rcases audio_turn_cases performs agrees arrival with
        ⟨error, turn⟩ | ⟨packet, replay, turn, _, kept⟩
      · simp only [turn]
        exact fun all => absurd all (Nat.succ_ne_zero left).symm
      · rw [taken, if_neg room] at turn
        simp only [turn]
        exact fun all => (later replay _ kept).completed (Nat.succ.inj all)

end Runs

section Overflow
variable {evp : Evp} {aead : Aead} (key : Buffer gmCryptoKeyBytes)
  (sessionId : Buffer gmSessionIdBytes) (host : String) (port : UInt16)

def sessionContext (evp : Evp) : AudioContext := ⟨evp, sessionId.bytes, key.bytes, host, port⟩

def silence : List UInt8 := zeros gmAudioPcmS16lePayloadBytes.toNat

theorem silence_length : silence.length = gmAudioPcmS16lePayloadBytes.toNat :=
  List.length_replicate

def silentHeader (sequence timestamp : UInt64) : MediaHeader :=
  ⟨.audio, sessionId.bytes, 1, .windowsToApple, 1, sequence, timestamp,
    gmAudioPcmS16lePayloadBytes⟩

def silentArrival (aead : Aead) (sequence timestamp : UInt64) : Arrival :=
  ⟨protectedDatagram aead key.bytes
    (Probe.sealedHeader sessionId 1 gmMediaKindAudio gmMediaDirectionWinToApple 1 sequence timestamp
      silence) silence, host, port⟩

theorem silent_opens (performs : Performs evp aead) (sequence timestamp : UInt64) :
    openMedia evp (silentArrival key sessionId host port aead sequence timestamp).datagram
      key.bytes = .ok (silentHeader sessionId sequence timestamp, silence) := by
  have length : silence.length.toUInt32 = gmAudioPcmS16lePayloadBytes := by
    rw [silence_length]
    rfl
  have made : rawMediaHeader (silentHeader sessionId sequence timestamp) =
      .ok (Probe.sealedHeader sessionId 1 gmMediaKindAudio gmMediaDirectionWinToApple 1 sequence
        timestamp silence) := by
    rw [raw_media_header_iff]
    exact ⟨rfl, rfl, rfl, rfl, rfl, rfl, rfl, rfl, rfl, length⟩
  have valid : validateMediaHeaderFields (Probe.sealedHeader sessionId 1 gmMediaKindAudio
      gmMediaDirectionWinToApple 1 sequence timestamp silence) = true := by
    simp [validateMediaHeaderFields, Probe.sealedHeader, length]
  have sized : silence.length = (Probe.sealedHeader sessionId 1 gmMediaKindAudio
      gmMediaDirectionWinToApple 1 sequence timestamp silence).payloadLength.toNat := by
    rw [Probe.sealedHeader, length, silence_length]
  exact (protected_datagram_opens performs key made valid sized).2

theorem verdict_above {seen : Finset Nat} {n : Nat} (below : ∀ old ∈ seen, old < n) :
    verdict 1024 seen n = .accepted := by
  unfold verdict
  split
  · rename_i nonempty
    rw [if_pos (below _ (seen.max'_mem nonempty))]
  · rfl

theorem silent_turn (performs : Performs evp aead) {state : AudioState} {seen : Finset Nat}
    (agrees : Agrees state.replay seen) {sequence : UInt64}
    (below : ∀ old ∈ seen, old < sequence.toNat) :
    ∃ packet replay, audioTurn (sessionContext key sessionId host port evp) state
        (silentArrival key sessionId host port aead sequence state.expectedTimestamp) =
          taken state replay packet ∧
      Agrees replay (insert sequence.toNat seen) := by
  have fresh := verdict_above below
  have opened := silent_opens key sessionId host port performs sequence state.expectedTimestamp
  obtain ⟨next, call, kept⟩ := replay_accept_eq agrees sequence
  rw [fresh] at call
  rw [record, if_pos fresh] at kept
  have checked : checkPacket (sessionContext key sessionId host port evp) state
      (silentHeader sessionId sequence state.expectedTimestamp) silence = true := by
    simp [checkPacket, silentHeader, sessionContext, silence_length]
  exact ⟨_, next, audio_turn_takes rfl rfl opened checked call, kept⟩

theorem audio_loop_trapped {context : AudioContext} {state : AudioState} {arrival : Arrival}
    {packet : Packet} (more : state.acceptedPackets < phase3PacketCount)
    (turn : audioTurn context state arrival = .trapped packet) (rest : List Arrival) :
    (audioLoop context state (arrival :: rest)).ending = .trapped := by
  unfold audioLoop
  rw [if_pos more]
  simp only [turn]

/-- The packets of the timeline from the `count`-th on. -/
def silentArrivals (aead : Aead) (first : Nat) (count left : Nat) : List Arrival :=
  (List.range' count left).map fun k =>
    silentArrival key sessionId host port aead (UInt64.ofNat k) (UInt64.ofNat (first + 240 * k))

/-- Where the timeline does not fit, its own packets lead to the trap. -/
theorem silent_arrivals_trap (performs : Performs evp aead) {first left : Nat}
    (beyond : 2 ^ 64 ≤ first + 240 * phase3PacketCount) {state : AudioState} {seen : Finset Nat}
    (agrees : Agrees state.replay seen) (count : state.acceptedPackets + left = phase3PacketCount)
    (here : state.expectedTimestamp.toNat = first + 240 * state.acceptedPackets)
    (below : ∀ old ∈ seen, old < state.acceptedPackets) :
    (audioLoop (sessionContext key sessionId host port evp) state
      (silentArrivals key sessionId host port aead first state.acceptedPackets left)).ending =
        .trapped := by
  induction left generalizing state seen with
  | zero =>
    have bound := state.expectedTimestamp.toNat_lt
    rw [here, show state.acceptedPackets = phase3PacketCount from count] at bound
    omega
  | succ left ih =>
    have more : state.acceptedPackets < phase3PacketCount := by omega
    have small : (UInt64.ofNat state.acceptedPackets).toNat = state.acceptedPackets := by
      rw [UInt64.toNat_ofNat', Nat.mod_eq_of_lt]
      exact more.trans (by decide)
    have timestamp : UInt64.ofNat (first + 240 * state.acceptedPackets) =
        state.expectedTimestamp := by
      rw [← here, UInt64.ofNat_toNat]
    obtain ⟨packet, replay, turn, kept⟩ :=
      silent_turn key sessionId host port performs agrees (small.symm ▸ below)
    rw [silentArrivals, List.range'_succ, List.map_cons, timestamp]
    by_cases traps : state.expectedTimestamp.toNat + 240 ≥ 2 ^ 64
    · exact audio_loop_trapped more (turn.trans (if_pos traps)) _
    · unfold audioLoop
      rw [if_pos more]
      simp only [turn, taken, if_neg traps]
      have advanced := timestamp_advances (Nat.lt_of_not_le traps)
      apply @ih ⟨replay, state.acceptedPackets + 1, state.expectedTimestamp + 240⟩ _ kept
      · change state.acceptedPackets + 1 + left = phase3PacketCount
        omega
      · change (state.expectedTimestamp + 240).toNat = first + 240 * (state.acceptedPackets + 1)
        omega
      · intro old member
        change old < state.acceptedPackets + 1
        rw [small] at member
        rcases Finset.mem_insert.mp member with rfl | earlier
        · exact Nat.lt_succ_self _
        · exact (below old earlier).trans (Nat.lt_succ_self _)

end Overflow

theorem replay_window_starts : ∃ replay, replayWindow = .ok replay ∧ Agrees replay ∅ := by
  have init : gmReplayWindowInit ⟨sizeofGmReplayWindow, 0, 0, 0, clearBitmap⟩ =
    (.ok, ⟨sizeofGmReplayWindow, gmAbiVersion, 0, 0, clearBitmap⟩) := rfl
  exact ⟨_, rfl, init_agrees init⟩

/-- For a start timestamp that a session has let in, its text always converts; and the loop
    accepts the timeline from there and nothing else, whatever arrives, exactly when the eight
    steps of that timeline fit into 64 bits. -/
theorem audio_timeline_iff {evp : Evp} {aead : Aead} (performs : Performs evp aead)
    {s : GmControlSession} {jsonText : GmBytes} {m : GmControlMessageInfo}
    (arrives : Arrives s jsonText m) (start : m.kind = .requestStreamStart)
    (key : Buffer gmCryptoKeyBytes) (sessionId : Buffer gmSessionIdBytes) (host : String)
    (port : UInt16) :
    ∃ first : UInt64,
      Control.parseDecimalU64String m.firstMediaTimestamp.text = some first ∧
      (optionalString m.firstMediaTimestamp).bind uint64OfText = some first ∧
      ((∀ arrivals,
          let run := receiveAudio (sessionContext key sessionId host port evp)
            (optionalString m.firstMediaTimestamp) arrivals
          Follows (sessionContext key sessionId host port evp) aead first.toNat
              phase3PacketCount ∅ arrivals run ∧
            AcceptsTimeline (sessionContext key sessionId host port evp) aead first.toNat
              phase3PacketCount ∅ arrivals run) ↔
        first.toNat + 240 * 8 < 2 ^ 64) := by
  have decimal := (start_arrives arrives start).1
  obtain ⟨canonical, small⟩ := decimal
  have present : m.firstMediaTimestamp.text.isEmpty = false :=
    List.isEmpty_eq_false_iff.mpr canonical.nonempty
  have number : (UInt64.ofNat (Decimal.value m.firstMediaTimestamp.text)).toNat =
      Decimal.value m.firstMediaTimestamp.text := by
    rw [UInt64.toNat_ofNat', Nat.mod_eq_of_lt small]
  have converts : (optionalString m.firstMediaTimestamp).bind uint64OfText =
      some (UInt64.ofNat (Decimal.value m.firstMediaTimestamp.text)) := by
    rw [optionalString, present]
    exact uint64_of_canonical ⟨canonical, small⟩
  refine ⟨_, (Control.parse_decimal_iff _ _).mpr ⟨canonical, number.symm⟩, converts, ?_⟩
  generalize UInt64.ofNat (Decimal.value m.firstMediaTimestamp.text) = first at converts
  obtain ⟨replay, started, agrees⟩ := replay_window_starts
  have runs (arrivals : List Arrival) : receiveAudio (sessionContext key sessionId host port evp)
      (optionalString m.firstMediaTimestamp) arrivals =
        audioLoop (sessionContext key sessionId host port evp) ⟨replay, 0, first⟩ arrivals := by
    rw [receiveAudio, started, converts]
  constructor
  · intro keeps
    by_contra beyond
    have trapped : (audioLoop (sessionContext key sessionId host port evp) ⟨replay, 0, first⟩
        (silentArrivals key sessionId host port aead first.toNat 0 phase3PacketCount)).ending =
          .trapped :=
      silent_arrivals_trap key sessionId host port performs (Nat.le_of_not_lt beyond) agrees rfl
        rfl (by simp)
    rw [← runs] at trapped
    exact (keeps _).1.safe trapped
  · intro fits arrivals
    dsimp only
    rw [runs]
    exact ⟨@audio_loop_follows (sessionContext key sessionId host port evp) aead performs arrivals
        ⟨replay, 0, first⟩ ∅ phase3PacketCount agrees rfl fits,
      @audio_loop_accepts (sessionContext key sessionId host port evp) aead performs key.size
        arrivals ⟨replay, 0, first⟩ ∅ phase3PacketCount agrees rfl fits⟩

def lockedKey : Buffer gmCryptoKeyBytes := zero _

/-- A start at the last timestamp, and its first packet. -/
theorem audio_loop_traps_at_top :
    Control.parseDecimalU64String (ascii "18446744073709551615") = some 18446744073709551615 ∧
      (receiveAudio (sessionContext lockedKey lockedSessionId "192.168.1.20" 50000 lockedEvp)
        (some (ascii "18446744073709551615"))
        [silentArrival lockedKey lockedSessionId "192.168.1.20" 50000 lockedAead 0
          18446744073709551615]).ending = .trapped := by
  refine ⟨by decide, ?_⟩
  obtain ⟨replay, started, agrees⟩ := replay_window_starts
  have converts : uint64OfText (ascii "18446744073709551615") = some 18446744073709551615 := by
    decide
  obtain ⟨packet, next, turn, _⟩ := @silent_turn lockedEvp lockedAead lockedKey lockedSessionId
    "192.168.1.20" 50000 locked_performs ⟨replay, 0, 18446744073709551615⟩ ∅ agrees 0 (by simp)
  have more : 0 < phase3PacketCount := by decide
  have top : (18446744073709551615 : UInt64).toNat + 240 ≥ 2 ^ 64 := by decide
  rw [receiveAudio, started, Option.bind_some, converts]
  exact audio_loop_trapped more (turn.trans (if_pos top)) []

def sampleStart : GmBytes :=
  .view (ascii "\x7b\"v\":1,\"id\":4,\"type\":\"stream.start\",\"stream_id\":1," ++
    ascii "\"first_media_timestamp\":\"240\"\x7d")

theorem sample_start_arrives :
    Arrives openedSession sampleStart ((Control.Message.streamStart 4 1 (ascii "240")).info 928) :=
  ⟨by decide +kernel, by decide⟩

theorem sample_timeline :
    ∃ first : UInt64, Control.parseDecimalU64String (fill 21 (ascii "240")).text = some first ∧
      let context := sessionContext lockedKey lockedSessionId "192.168.1.20" 50000 lockedEvp
      ((∀ arrivals,
          let run := receiveAudio context (optionalString (fill 21 (ascii "240"))) arrivals
          Follows context lockedAead first.toNat phase3PacketCount ∅ arrivals run ∧
            AcceptsTimeline context lockedAead first.toNat phase3PacketCount ∅ arrivals run) ↔
        first.toNat + 240 * 8 < 2 ^ 64) := by
  obtain ⟨first, read, _, iff⟩ := audio_timeline_iff locked_performs sample_start_arrives rfl
    lockedKey lockedSessionId "192.168.1.20" 50000
  exact ⟨first, read, iff⟩

end GhostMedia.Interop
