import GhostMedia.Bridge.Segmentation
import GhostMedia.Foundation.Receiving
import GhostMedia.Interop.KeyDerivation
import GhostMedia.Runtime.Delivery

/- How the two endpoints receive control frames: the Windows probe reads the length and then
   the body by exact counts, the Apple harness feeds a decoder with chunks of at most 4096
   bytes. Parsing the messages comes after what is modelled here. -/
namespace GhostMedia.Interop
open Bridge Control Media StateLogic StreamReader GhostMedia.Runtime

/-- `ControlConnection` of the probe, `ControlTransport` of the harness: a TCP socket, or a
    TLS session on it. -/
inductive ControlConnection where
  | tcp
  | tls (session : Option Impl)

/-- A connection with what it runs on. -/
structure Endpoint (Ssl Net : Type) where
  ssl : OpenSsl Ssl
  api : SocketApi Net
  connection : ControlConnection

/-- A receiver throws, or a loop of the runtime is still running. -/
inductive Halt (ε : Type) where
  | thrown (error : ε)
  | running
  deriving DecidableEq

/-- What the harness's loop throws: also `HarnessError.runtime`, without its detail text. -/
inductive ReceiveError where
  | apple (error : AppleError)
  | runtime (operation status : String)
  deriving DecidableEq

variable {Ssl Net : Type} (endpoint : Endpoint Ssl Net) (turns : Nat)

def haltOf {ε : Type} (raised : GmStatus → ε) : Exit → Halt ε
  | .returned status => .thrown (raised status)
  | .running => .running

/-- A runtime call whose status is thrown where it is not `GM_OK`. -/
def requiring {ε α : Type} (raised : GmStatus → ε) (call : Calling Ssl Net α) :
    EStateM (Halt ε) (World Ssl Net) α := fun w =>
  match call w with
  | .ok a w' => .ok a w'
  | .error exit w' => .error (haltOf raised exit) w'

namespace Probe

/-- `recv_all` into a zeroed buffer -/
def recvAll (size : Nat) : EStateM (Halt ProbeError) (World Ssl Net) (List UInt8) :=
  requiring (.runtimeError "receive") <|
    match endpoint.connection with
    | .tls session =>
      TlsSession.receiveExact endpoint.ssl endpoint.api turns session (.view (zeros size))
    | .tcp => gmRuntimeTcpReceiveExact endpoint.api turns (.view (zeros size))

/-- `receive_control_message` up to the payload. -/
def receiveControlMessage : EStateM (Halt ProbeError) (World Ssl Net) (List UInt8) := do
  let header ← recvAll endpoint turns gmControlFrameHeaderBytes
  let (status, frameInfo) :=
    gmControlPeekFrame (.view header) ⟨sizeofGmControlFrameInfo, 0, 0, 0, 0⟩
  if status ≠ .needMoreData ∧ status ≠ .ok then
    throw (.thrown (.message ("received invalid frame header: " ++ gmStatusString status)))
  else do
    let body ← recvAll endpoint turns (frameInfo.frameSize - header.length)
    let frame := header ++ body
    let (status, frameInfo) :=
      gmControlPeekFrame (.view frame) ⟨sizeofGmControlFrameInfo, 0, 0, 0, 0⟩
    if status ≠ .ok ∨ frameInfo.complete ≠ 1 then
      throw (.thrown (.message ("received incomplete frame: " ++ gmStatusString status)))
    else
      return (frame.drop gmControlFrameHeaderBytes).take frameInfo.payloadLength.toNat

def invalidFrameHeader : Halt ProbeError :=
  .thrown (.message "received invalid frame header: GM_BAD_MESSAGE")

end Probe

namespace Harness

/-- The connection and the decoder that is kept from one message to the next. -/
structure Transport (Ssl Net : Type) where
  world : World Ssl Net
  decoder : ControlFrameDecoder

def onDecoder {α : Type} (use : EStateM ProtocolCoreError ControlFrameDecoder α) :
    EStateM (Halt ReceiveError) (Transport Ssl Net) α := fun s =>
  match use s.decoder with
  | .ok a decoder => .ok a { s with decoder := decoder }
  | .error error decoder =>
    .error (.thrown (.apple (.protocolCore error))) { s with decoder := decoder }

def onWorld {α : Type} (use : EStateM (Halt ReceiveError) (World Ssl Net) α) :
    EStateM (Halt ReceiveError) (Transport Ssl Net) α := fun s =>
  match use s.world with
  | .ok a world => .ok a { s with world := world }
  | .error error world => .error error { s with world := world }

/-- At most 4096 bytes into a zeroed array. -/
def receiveBytes : EStateM (Halt ReceiveError) (World Ssl Net) (List UInt8) :=
  match endpoint.connection with
  | .tcp =>
    requiring (fun status => .runtime "receive" (gmStatusString status))
      (gmRuntimeTcpReceive endpoint.api 4096)
  | .tls session =>
    requiring
      (fun status =>
        .apple (.crypto (.runtimeFailure "gm_runtime_tls_receive" (gmStatusString status))))
      (TlsSession.receive endpoint.ssl endpoint.api turns session (.view (zeros 4096)))

/-- `receiveMessage` up to the payload. -/
def receiveLoop : Nat → EStateM (Halt ReceiveError) (Transport Ssl Net) (List UInt8)
  | 0 => throw .running
  | more + 1 => do
    match ← onDecoder ControlFrameDecoder.nextPayload with
    | some payload => return payload
    | none => do
      let bytes ← onWorld (receiveBytes endpoint turns)
      onDecoder fun decoder => .ok () (decoder.append bytes)
      receiveLoop more

def receiveMessage : EStateM (Halt ReceiveError) (Transport Ssl Net) (List UInt8) :=
  receiveLoop endpoint turns turns

def badPrefixThrown : Halt ReceiveError := .thrown (.apple (.protocolCore badPrefix))

end Harness

namespace Endpoint

/-- The history of what the connection has handed over. -/
def Delivers (history : World Ssl Net → List UInt8) : Prop :=
  match endpoint.connection with
  | .tcp => ∃ log, RecvDelivers endpoint.api log ∧ history = fun w => log w.net
  | .tls _ => ∃ log, ReadDelivers endpoint.ssl log ∧ history = fun w => log w.ssl

/-- No loop runs on: over TLS, where the encrypted output can be drained. -/
def Bounded : Prop :=
  match endpoint.connection with
  | .tcp => True
  | .tls _ => BioDrains endpoint.ssl turns

/-- No failure loses received bytes: over TLS, where a read leaves nothing to be sent. -/
def Lossless : Prop :=
  match endpoint.connection with
  | .tcp => True
  | .tls _ => ReadsQuietly endpoint.ssl

end Endpoint

section Calls
variable {endpoint turns} {history : World Ssl Net → List UInt8}
  (delivers : endpoint.Delivers history) (enough : 65541 ≤ turns)

theorem requiring_ends {ε α : Type} {raised : GmStatus → ε} {rejection : Halt ε}
    (other : ∀ exit, haltOf raised exit ≠ rejection) {call : Calling Ssl Net α}
    {w : World Ssl Net} {post : α → World Ssl Net → Prop} {bounded : Prop}
    {left : World Ssl Net → Prop}
    (ends : Ends post (fun exit w' => (bounded → exit ≠ .running) ∧ left w') (call w)) :
    Ends post (fun halt w' => halt ≠ rejection ∧ (bounded → halt ≠ .running) ∧ left w')
      (requiring raised call w) := by
  rw [requiring]
  cases run : call w with
  | ok a w' =>
    rw [run] at ends
    exact ends
  | error exit w' =>
    rw [run] at ends
    obtain ⟨settled, kept⟩ := ends
    refine ⟨other exit, fun holds => ?_, kept⟩
    cases exit with
    | returned status =>
      intro same
      cases same
    | running => exact absurd rfl (settled holds)

theorem receive_failure_other (exit : Exit) :
    haltOf (ProbeError.runtimeError "receive") exit ≠ Probe.invalidFrameHeader := by
  cases exit <;> simp [haltOf, Probe.invalidFrameHeader]

theorem zeros_needed {size : Nat} (positive : 0 < size) : zeros size ≠ [] := by
  apply List.ne_nil_of_length_pos
  rwa [zeros, List.length_replicate]

include delivers enough

theorem recv_all_delivered (size : Nat) (positive : 0 < size) (small : size ≤ 65536)
    (w : World Ssl Net) :
    Ends (fun bytes w' => bytes.length = size ∧ history w' = history w ++ bytes)
      (fun halt w' => halt ≠ Probe.invalidFrameHeader ∧
        (endpoint.Bounded turns → halt ≠ .running) ∧ ∃ part lost, part.length < size ∧
          history w' = history w ++ part ++ lost ∧ (endpoint.Lossless → lost = []))
      (Probe.recvAll endpoint turns size w) := by
  have width : (zeros size).length = size := List.length_replicate
  have fits : (zeros size).length < turns := by omega
  unfold Endpoint.Delivers at delivers
  unfold Endpoint.Bounded Endpoint.Lossless Probe.recvAll
  cases kind : endpoint.connection with
  | tcp =>
    rw [kind] at delivers
    obtain ⟨log, contract, rfl⟩ := delivers
    have exactly := tcp_receive_exact_delivered contract (zeros_needed positive) fits w
    rw [width] at exactly
    exact requiring_ends receive_failure_other exactly
  | tls session =>
    rw [kind] at delivers
    obtain ⟨log, contract, rfl⟩ := delivers
    have exactly := tls_receive_exact_delivered endpoint.api contract (by omega) session
      (zeros_needed positive) fits w
    rw [width] at exactly
    exact requiring_ends receive_failure_other exactly

theorem receive_bytes_delivered (w : World Ssl Net) :
    Ends (fun bytes w' => bytes ≠ [] ∧ history w' = history w ++ bytes)
      (fun halt w' => halt ≠ Harness.badPrefixThrown ∧
        (endpoint.Bounded turns → halt ≠ .running) ∧
        ∃ lost, history w' = history w ++ lost ∧ (endpoint.Lossless → lost = []))
      (Harness.receiveBytes endpoint turns w) := by
  unfold Endpoint.Delivers at delivers
  unfold Endpoint.Bounded Endpoint.Lossless Harness.receiveBytes
  cases kind : endpoint.connection with
  | tcp =>
    rw [kind] at delivers
    obtain ⟨log, contract, rfl⟩ := delivers
    have piece := tcp_receive_delivered contract 4096 w
    refine ends_mono (requiring_ends ?_ piece) (fun _ _ got => ⟨got.1, got.2.2⟩)
      fun _ _ failed => failed
    intro exit
    cases exit <;> simp [haltOf, Harness.badPrefixThrown]
  | tls session =>
    rw [kind] at delivers
    obtain ⟨log, contract, rfl⟩ := delivers
    have large : 16 * 1024 < turns := by omega
    have piece := tls_receive_delivered endpoint.api contract large session (.view (zeros 4096)) w
    refine ends_mono (requiring_ends ?_ piece) (fun _ _ got => ⟨got.1, got.2.2⟩)
      fun _ _ failed => failed
    intro exit
    cases exit <;> simp [haltOf, Harness.badPrefixThrown]

end Calls

section Reader
variable {buffer : List UInt8}

theorem short_waits (short : buffer.length < 4) :
    ControlFrameDecoder.nextPayload ⟨buffer⟩ = .ok none ⟨buffer⟩ := by
  rw [next_payload_eq, if_pos short]

theorem partly_waits (header : 4 ≤ buffer.length)
    (good : ¬ (announced buffer < 2 ∨ 65536 < announced buffer))
    (partly : buffer.length < 4 + announced buffer) :
    ControlFrameDecoder.nextPayload ⟨buffer⟩ = .ok none ⟨buffer⟩ := by
  rw [next_payload_eq, if_neg (Nat.not_lt.mpr header), if_neg good, if_pos partly]

theorem waiting_exhausted {d : ControlFrameDecoder} (waits : d.nextPayload = .ok none d) :
    Exhausted decoderReader d ∧ ¬ Failed decoderReader d := by
  constructor
  · intro payload t found
    cases waits.symm.trans found
  · intro failed
    obtain ⟨error, t, thrown⟩ := failed
    cases waits.symm.trans thrown

theorem bad_front_failed {d : ControlFrameDecoder} (bad : BadFront d) : Failed decoderReader d :=
  ⟨badPrefix, d, bad_front_throws bad⟩

/-- A call that ends while the decoder waits has not rejected anything. -/
theorem stops_waiting {σ ε : Type} {held : σ → ControlFrameDecoder} {log : σ → List UInt8}
    {rejection error : ε} {allowed : ε → Prop} {lossless : Prop} {s s' : σ}
    {fetched lost : List UInt8} (logged : log s' = log s ++ fetched ++ lost)
    (kept : lossless → lost = []) (permitted : allowed error) (other : error ≠ rejection)
    (waits : ((held s).append fetched).nextPayload = .ok none ((held s).append fetched)) :
    Stops decoderReader held log rejection allowed lossless s error s' fetched lost := by
  obtain ⟨exhausted, unfailed⟩ := waiting_exhausted waits
  exact ⟨logged, kept, permitted, iff_of_false other unfailed, exhausted⟩

theorem stops_rejecting {σ ε : Type} {held : σ → ControlFrameDecoder} {log : σ → List UInt8}
    {rejection : ε} {allowed : ε → Prop} {lossless : Prop} {s s' : σ} {fetched : List UInt8}
    (logged : log s' = log s ++ fetched) (permitted : allowed rejection)
    (bad : BadFront ((held s).append fetched)) :
    Stops decoderReader held log rejection allowed lossless s rejection s' fetched [] := by
  have failed := bad_front_failed bad
  exact ⟨logged.trans (List.append_nil _).symm, fun _ => rfl, permitted, iff_of_true rfl failed,
    failed_exhausted failed⟩

end Reader

section Receivers
variable {endpoint turns} {history : World Ssl Net → List UInt8}
  (delivers : endpoint.Delivers history) (enough : 65541 ≤ turns)

theorem on_world_ends {α : Type} {use : EStateM (Halt ReceiveError) (World Ssl Net) α}
    {post : α → World Ssl Net → Prop} {failed : Halt ReceiveError → World Ssl Net → Prop}
    {s : Harness.Transport Ssl Net} (ends : Ends post failed (use s.world)) :
    Ends (fun a s' => post a s'.world ∧ s'.decoder = s.decoder)
      (fun halt s' => failed halt s'.world ∧ s'.decoder = s.decoder) (Harness.onWorld use s) := by
  rw [Harness.onWorld]
  cases run : use s.world with
  | ok a w =>
    rw [run] at ends
    exact ⟨ends, rfl⟩
  | error halt w =>
    rw [run] at ends
    exact ⟨ends, rfl⟩

theorem on_decoder_ok {α : Type} {use : EStateM ProtocolCoreError ControlFrameDecoder α} {a : α}
    {d : ControlFrameDecoder} {s : Harness.Transport Ssl Net} (used : use s.decoder = .ok a d) :
    Harness.onDecoder use s = .ok a { s with decoder := d } := by
  rw [Harness.onDecoder, used]

theorem on_decoder_error {α : Type} {use : EStateM ProtocolCoreError ControlFrameDecoder α}
    {error : ProtocolCoreError} {d : ControlFrameDecoder} {s : Harness.Transport Ssl Net}
    (used : use s.decoder = .error error d) :
    Harness.onDecoder use s =
      .error (.thrown (.apple (.protocolCore error))) { s with decoder := d } := by
  rw [Harness.onDecoder, used]

include delivers enough

theorem probe_receives (w : World Ssl Net) :
    Receives decoderReader (fun _ => {}) history Probe.invalidFrameHeader
      (fun halt => endpoint.Bounded turns → halt ≠ .running) endpoint.Lossless w
      (Probe.receiveControlMessage endpoint turns w) := by
  have first := recv_all_delivered delivers enough 4 (by decide) (by decide) w
  refine ends_bind (ends_mono first (fun _ _ got => got) ?_) fun header w₁ got => ?_
  · intro halt w₁ failed
    obtain ⟨other, settled, part, lost, short, logged, kept⟩ := failed
    exact ⟨part, lost, stops_waiting logged kept settled other (short_waits short)⟩
  obtain ⟨four, next⟩ := got
  have whole : 4 ≤ header.length := four.ge
  have peeked := peek_announced whole
  by_cases bad : announced header < 2 ∨ 65536 < announced header
  · have front : BadFront (ControlFrameDecoder.append {} header) := ⟨whole, bad⟩
    rw [if_pos bad] at peeked
    rw [peeked]
    refine ⟨header, [], stops_rejecting next (fun _ => ?_) front⟩
    simp [Probe.invalidFrameHeader]
  rw [if_neg bad, if_pos (by omega)] at peeked
  rw [peeked]
  have size : 4 + announced header - header.length = announced header := by omega
  have second := recv_all_delivered delivers enough (announced header) (by omega) (by omega) w₁
  rw [← size] at second
  refine ends_bind (ends_mono second (fun _ _ got => got) ?_) fun body w₂ got => ?_
  · intro halt w₂ failed
    obtain ⟨other, settled, part, lost, short, logged, kept⟩ := failed
    have same := announced_append whole part
    refine ⟨header ++ part, lost, stops_waiting ?_ kept settled other ?_⟩
    · rw [logged, next, List.append_assoc (history w)]
    · refine partly_waits ?_ ?_ ?_
      · rw [List.nil_append, List.length_append]
        omega
      · rwa [List.nil_append, same]
      · rw [List.nil_append, same, List.length_append]
        omega
  obtain ⟨filled, logged⟩ := got
  have same := announced_append whole body
  have long : 4 ≤ (header ++ body).length := by
    rw [List.length_append]
    omega
  have complete : (header ++ body).length = 4 + announced header := by
    rw [List.length_append]
    omega
  have peeked := peek_announced long
  rw [same, if_neg bad, if_neg (by omega)] at peeked
  dsimp only
  rw [peeked]
  refine ends_ite (fun failed => ?_) fun _ => ?_
  · simp at failed
  · refine ⟨header ++ body, ?_, ?_⟩
    · rw [logged, next, List.append_assoc]
    · change ControlFrameDecoder.nextPayload ⟨[] ++ (header ++ body)⟩ = _
      rw [List.nil_append, next_payload_eq, same, if_neg (by omega), if_neg bad,
        if_neg (by omega), List.drop_eq_nil_of_le complete.le]
      dsimp only
      rw [read_announced long, same]

/-- The decoder waits with fewer than 65540 bytes, so the loop ends within as many turns. -/
theorem harness_loop_receives (more : Nat) (s : Harness.Transport Ssl Net) (positive : 0 < more)
    (room : 65540 < more + s.decoder.bufferedByteCount) :
    Receives decoderReader (fun s => s.decoder) (fun s => history s.world)
      Harness.badPrefixThrown (fun halt => endpoint.Bounded turns → halt ≠ .running)
      endpoint.Lossless s (Harness.receiveLoop endpoint turns more s) := by
  induction more generalizing s with
  | zero => exact absurd positive (Nat.lt_irrefl 0)
  | succ more ih =>
    have nothing : s.decoder.append [] = s.decoder := decoder_incremental.append_nil s.decoder
    cases asked : s.decoder.nextPayload with
    | error error d =>
      obtain ⟨rfl, rfl, bad⟩ := next_payload_error asked
      rw [Harness.receiveLoop, bind_error (on_decoder_error asked)]
      rw [← nothing] at bad
      refine ⟨[], [], stops_rejecting ?_ (fun _ => ?_) bad⟩
      · exact (List.append_nil _).symm
      · simp [Harness.badPrefixThrown]
    | ok found d =>
      rw [Harness.receiveLoop, bind_ok (on_decoder_ok asked)]
      cases found with
      | some payload =>
        refine ⟨[], (List.append_nil _).symm, ?_⟩
        change (s.decoder.append []).nextPayload = _
        rw [nothing, asked]
      | none =>
        obtain ⟨rfl, few⟩ := next_payload_none asked
        have piece := on_world_ends (receive_bytes_delivered delivers enough s.world)
        refine ends_bind (ends_mono piece (fun _ _ got => got) ?_) fun bytes s₁ got => ?_
        · intro halt s₁ failed
          obtain ⟨⟨other, settled, lost, logged, kept⟩, _⟩ := failed
          refine ⟨[], lost, stops_waiting ?_ kept settled other ?_⟩
          · rw [logged, List.append_nil]
          · rw [nothing, asked]
        · obtain ⟨⟨some, logged⟩, same⟩ := got
          have longer := List.length_pos_iff.mpr some
          have appended : Harness.onDecoder (fun decoder => .ok () (decoder.append bytes)) s₁ =
              .ok () { s₁ with decoder := s₁.decoder.append bytes } := rfl
          rw [bind_ok appended]
          have grown : (s₁.decoder.append bytes).bufferedByteCount =
              s.decoder.bufferedByteCount + bytes.length := by
            rw [same]
            exact List.length_append
          have rest := ih { s₁ with decoder := s₁.decoder.append bytes } (by omega) (by
            change 65540 < more + (s₁.decoder.append bytes).bufferedByteCount
            omega)
          refine receives_after decoder_incremental bytes ?_ ?_ rest
          · exact logged
          · change s₁.decoder.append bytes = _
            rw [same]
            rfl

theorem harness_receives (s : Harness.Transport Ssl Net) :
    Receives decoderReader (fun s => s.decoder) (fun s => history s.world)
      Harness.badPrefixThrown (fun halt => endpoint.Bounded turns → halt ≠ .running)
      endpoint.Lossless s (Harness.receiveMessage endpoint turns s) :=
  harness_loop_receives delivers enough turns s (by omega) (by omega)

end Receivers

section Runs
variable {σ ε : Type} {held : σ → ControlFrameDecoder} {log : σ → List UInt8} {rejection : ε}
  {allowed : ε → Prop} {lossless : Prop} {calls : Nat} {s : σ}
  {run : Receipt ε σ (List UInt8)} {fetched lost : List UInt8}

/-- Payloads come from whole frames of what a connection has handed over; each of these is
    given, and a length prefix out of range is rejected where it stands. -/
structure ReceivesFrames (rejection : ε) (lossless : Prop) (calls : Nat)
    (run : Receipt ε σ (List UInt8)) (bytes : List UInt8) : Prop where
  whole : (run.items.map framed).flatten <+: bytes
  sized : ∀ payload ∈ run.items, FrameSized payload
  complete : lossless → ∀ payloads rest, (∀ payload ∈ payloads, FrameSized payload) →
    bytes = (payloads.map framed).flatten ++ rest → payloads.length ≤ calls →
    payloads <+: run.items
  rejected : run.stop = some rejection →
    ∃ rest, bytes = (run.items.map framed).flatten ++ rest ∧ BadFront ⟨rest⟩
  rejects : lossless → ∀ payloads rest, (∀ payload ∈ payloads, FrameSized payload) →
    bytes = (payloads.map framed).flatten ++ rest → BadFront ⟨rest⟩ → payloads.length < calls →
    run.items = payloads ∧ run.stop = some rejection

theorem failed_bad_front {d : ControlFrameDecoder} (failed : Failed decoderReader d) :
    BadFront d := by
  obtain ⟨error, t, thrown⟩ := failed
  exact (next_payload_error thrown).2.2

theorem follows_receives_frames
    (follows : Follows decoderReader held log rejection allowed lossless calls s run fetched lost)
    (start : log s = []) (empty : held s = {}) :
    ReceivesFrames rejection lossless calls run (log run.state) := by
  have items := follows.items
  have buffer : decoderReader.append (held s) fetched = ⟨fetched⟩ := by
    rw [empty]
    rfl
  have logged := follows.logged
  have rejects := follows_rejects_iff follows
  rw [start, List.nil_append] at logged
  rw [buffer] at items rejects
  obtain ⟨cut, limits⟩ := framed_of_drain ⟨fetched⟩
  have front : (run.items.map framed).flatten <+: fetched := by
    refine ⟨(((drain decoderReader ⟨fetched⟩).1.drop calls).map framed).flatten ++
      (drain decoderReader ⟨fetched⟩).2.bufferedBytes, ?_⟩
    rw [items, ← List.append_assoc, ← List.flatten_append, ← List.map_append,
      List.take_append_drop]
    exact cut.symm
  refine ⟨?_, ?_, ?_, ?_, ?_⟩
  · rw [logged]
    exact front.trans (List.prefix_append _ _)
  · intro payload member
    rw [items] at member
    exact limits payload (List.mem_of_mem_take member)
  · intro kept payloads rest sized same few
    rw [logged, follows.kept kept, List.append_nil] at same
    rw [items, same, drain_framed sized, List.take_append, List.take_of_length_le few]
    exact List.prefix_append _ _
  · intro stop
    obtain ⟨_, _, rejects, all⟩ := follows.stopped rejection stop
    rw [buffer] at rejects all
    have bad := failed_bad_front (rejects.mp rfl)
    refine ⟨(drain decoderReader ⟨fetched⟩).2.bufferedBytes ++ lost, ?_,
      bad_front_append bad lost⟩
    rw [logged, ← List.append_assoc, all, ← cut]
  · intro kept payloads rest sized same bad few
    rw [logged, follows.kept kept, List.append_nil] at same
    have done := drain_of_exhausted decoder_incremental
      (failed_exhausted (bad_front_failed bad))
    have whole := drain_framed sized rest
    rw [done, List.append_nil] at whole
    rw [← same] at whole
    rw [whole] at items rejects
    refine ⟨?_, rejects.mpr ⟨few, bad_front_failed bad⟩⟩
    rw [items, List.take_of_length_le few.le]

end Runs

/-- The probe's exact reads and the harness's decoder on one stream, however each connection
    cuts it: the same payloads up to the first point where either stops. -/
theorem control_receivers_agree {WinSsl WinNet MacSsl MacNet : Type}
    {windows : Endpoint WinSsl WinNet} {apple : Endpoint MacSsl MacNet} {turns : Nat}
    {windowsHistory : World WinSsl WinNet → List UInt8}
    {appleHistory : World MacSsl MacNet → List UInt8}
    (windowsDelivers : windows.Delivers windowsHistory)
    (appleDelivers : apple.Delivers appleHistory) (enough : 65541 ≤ turns)
    (w : World WinSsl WinNet) (a : World MacSsl MacNet)
    (windowsStart : windowsHistory w = []) (appleStart : appleHistory a = []) (calls : Nat) :
    let probe := receiveUpTo (Probe.receiveControlMessage windows turns) calls w
    let harness := receiveUpTo (Harness.receiveMessage apple turns) calls ⟨a, {}⟩
    let probeBytes := windowsHistory probe.state
    let harnessBytes := appleHistory harness.state.world
    (∀ stream, probeBytes <+: stream → harnessBytes <+: stream →
      (probe.items <+: harness.items ∨ harness.items <+: probe.items) ∧
      Confirms Probe.invalidFrameHeader Harness.badPrefixThrown probe harness ∧
      Confirms Harness.badPrefixThrown Probe.invalidFrameHeader harness probe) ∧
    (windows.Lossless → apple.Lossless → probeBytes = harnessBytes →
      probe.items = harness.items ∧ (probe.stop = some Probe.invalidFrameHeader ↔
        harness.stop = some Harness.badPrefixThrown)) ∧
    ReceivesFrames Probe.invalidFrameHeader windows.Lossless calls probe probeBytes ∧
    ReceivesFrames Harness.badPrefixThrown apple.Lossless calls harness harnessBytes ∧
    (windows.Bounded turns → probe.stop ≠ some .running) ∧
    (apple.Bounded turns → harness.stop ≠ some .running) := by
  intro probe harness probeBytes harnessBytes
  obtain ⟨fetched, lost, one⟩ := run_follows decoder_incremental
    (probe_receives windowsDelivers enough) calls w
  obtain ⟨fetched', lost', other⟩ := run_follows decoder_incremental
    (harness_receives appleDelivers enough) calls ⟨a, {}⟩
  refine ⟨fun stream sent sent' => ⟨?_, ?_, ?_⟩, fun kept kept' same => ?_, ?_, ?_, ?_, ?_⟩
  · exact follows_comparable one other windowsStart appleStart rfl decoder_incremental sent sent'
  · exact follows_confirms one other windowsStart appleStart rfl decoder_incremental sent sent'
  · exact follows_confirms other one appleStart windowsStart rfl decoder_incremental sent' sent
  · exact follows_same one other windowsStart appleStart rfl kept kept' same
  · exact follows_receives_frames one windowsStart rfl
  · exact follows_receives_frames other appleStart rfl
  · intro bounded stop
    exact (one.stopped _ stop).1 bounded rfl
  · intro bounded stop
    exact (other.stopped _ stop).1 bounded rfl

section Sample

/-- What has been handed over, and the pieces still to come. -/
abbrev Cuts := List UInt8 × List (List UInt8)

def nextCut (cuts : Cuts) (capacity : Nat) : List UInt8 × Cuts :=
  match cuts with
  | (given, []) => ([], given, [])
  | (given, piece :: rest) =>
    (piece.take capacity, given ++ piece.take capacity,
      if piece.length ≤ capacity then rest else piece.drop capacity :: rest)

def cutsSocket : SocketApi Cuts where
  isOpen _ := true
  now cuts := (0, cuts)
  send cuts bytes := (bytes.length, cuts)
  recv cuts capacity := (some (nextCut cuts capacity).1, (nextCut cuts capacity).2)
  setReceiveTimeout cuts _ := (true, cuts)
  setSendTimeout cuts _ := (true, cuts)

def cutsSsl : OpenSsl Cuts where
  doHandshake c := (1, c)
  getError _ _ := .zeroReturn
  isInitFinished _ := 1
  getVerifyResult _ := x509VOk
  getAlpnSelected _ := []
  writeEx c plaintext := ((1, plaintext.length), c)
  readEx c size :=
    if (nextCut c size).1 = [] then ((0, []), c)
    else ((1, (nextCut c size).1), (nextCut c size).2)
  exportKeyingMaterial c _ _ := ((0, CString.fillExact _ []), c)
  writeBioPending _ := 0
  readWriteBio c _ := (none, c)
  writeReadBio c bytes := (bytes.length, c)

theorem next_cut_delivers (cuts : Cuts) (capacity : Nat) :
    (nextCut cuts capacity).1.length ≤ capacity ∧
      (nextCut cuts capacity).2.1 = cuts.1 ++ (nextCut cuts capacity).1 := by
  obtain ⟨given, cuts⟩ := cuts
  cases cuts with
  | nil => exact ⟨Nat.zero_le _, (List.append_nil _).symm⟩
  | cons piece rest => exact ⟨List.length_take_le _ _, rfl⟩

theorem cuts_socket_delivers : RecvDelivers cutsSocket Prod.fst where
  some cuts capacity bytes found := by
    obtain rfl := Option.some.inj found
    exact next_cut_delivers cuts capacity
  none cuts capacity missing := by cases missing

theorem cuts_ssl_delivers : ReadDelivers cutsSsl Prod.fst where
  success c size read := by
    by_cases nothing : (nextCut c size).1 = []
    · simp [cutsSsl, nothing] at read
    · simp only [cutsSsl, if_neg nothing]
      exact ⟨nothing, next_cut_delivers c size⟩
  failure c size missing := by
    by_cases nothing : (nextCut c size).1 = []
    · simp only [cutsSsl, if_pos nothing]
    · simp [cutsSsl, nothing] at missing
  readWriteBio c size := rfl
  writeReadBio c bytes := rfl

def sampleWindows : Endpoint Cuts Cuts := ⟨cutsSsl, cutsSocket, .tcp⟩

def sampleApple : Endpoint Cuts Cuts := ⟨cutsSsl, cutsSocket, .tls (some ⟨0, 5000⟩)⟩

def sampleSent : World Cuts Cuts :=
  ⟨([], []), ([], [[0], [0, 0, 2, 123], [125, 0, 0, 0, 2], [123, 125, 0, 0], [0, 1]])⟩

def sampleSealed : World Cuts Cuts :=
  ⟨([], [[0, 0, 0, 2, 123, 125, 0, 0, 0, 2], [123, 125, 0, 0, 0, 1]]), ([], [])⟩

def sampleProbe : Receipt (Halt ProbeError) (World Cuts Cuts) (List UInt8) :=
  receiveUpTo (Probe.receiveControlMessage sampleWindows 65541) 5 sampleSent

def sampleHarness : Receipt (Halt ReceiveError) (Harness.Transport Cuts Cuts) (List UInt8) :=
  receiveUpTo (Harness.receiveMessage sampleApple 65541) 5 ⟨sampleSealed, {}⟩

/-- Two frames and a length of 1, over TCP in five pieces and over TLS in two. -/
theorem control_receivers_sample :
    sampleProbe.items = [ascii "\x7b\x7d", ascii "\x7b\x7d"] ∧
      sampleProbe.stop = some Probe.invalidFrameHeader ∧
      sampleHarness.items = sampleProbe.items ∧
      sampleHarness.stop = some Harness.badPrefixThrown := by
  have given : sampleProbe.items = [ascii "\x7b\x7d", ascii "\x7b\x7d"] ∧
      sampleProbe.stop = some Probe.invalidFrameHeader ∧
      sampleProbe.state.net.1 = sampleHarness.state.world.ssl.1 := by decide +kernel
  obtain ⟨items, stop, same⟩ := given
  have windowsDelivers : sampleWindows.Delivers fun w => w.net.1 :=
    ⟨Prod.fst, cuts_socket_delivers, rfl⟩
  have appleDelivers : sampleApple.Delivers fun w => w.ssl.1 :=
    ⟨Prod.fst, cuts_ssl_delivers, rfl⟩
  have kept : sampleWindows.Lossless := trivial
  have quiet : sampleApple.Lossless := fun _ _ _ => rfl
  have agreed := (control_receivers_agree windowsDelivers appleDelivers (Nat.le_refl 65541)
    sampleSent sampleSealed rfl rfl 5).2.1 kept quiet
  rw [← sampleProbe, ← sampleHarness] at agreed
  have alike := agreed same
  exact ⟨items, stop, alike.1.symm, alike.2.mp stop⟩

end Sample

end GhostMedia.Interop
