import GhostMedia.Interop.HarnessScript

/- The Phase 3 test over a network: both ends together, with the bytes of the control
   connection in order, and UDP either as reliable as it can be or in the hands of someone
   who can do anything but forge. The control connection gives whole frames, as the receivers
   cut them out of the bytes. -/
namespace GhostMedia.Interop
open CString Control Media Session Bridge Dialogue Turns GhostMedia.Runtime

namespace Probe

def Call.data : Call → Option (List UInt8)
  | .sendAll data => some data
  | _ => none

def Call.datagram : Call → Option (List UInt8)
  | .udpSendTo _ _ datagram => some datagram
  | _ => none

/-- The bytes and the datagrams that the probe has sent. -/
def written (past : List (Event Answer)) : List UInt8 :=
  ((past.map Event.call).filterMap Call.data).flatten

def sentDatagrams (past : List (Event Answer)) : List (List UInt8) :=
  (past.map Event.call).filterMap Call.datagram

def payload : Event Answer → Option (List UInt8)
  | ⟨.receiveControlMessage, .ok payload⟩ => some payload
  | _ => none

def payloads (past : List (Event Answer)) : List (List UInt8) := past.filterMap payload

def arrival : Event Answer → Option Received
  | ⟨.udpReceiveFrom, .ok received⟩ => some received
  | _ => none

def arrivals (past : List (Event Answer)) : List Received := past.filterMap arrival

end Probe

namespace Harness

def Call.data : Call → Option (List UInt8)
  | .sendAll data => some data
  | _ => none

def Call.datagram : Call → Option (List UInt8)
  | .sendUdp _ _ datagram => some datagram
  | _ => none

def written (past : List (Event Answer)) : List UInt8 :=
  ((past.map Event.call).filterMap Call.data).flatten

def sentDatagrams (past : List (Event Answer)) : List (List UInt8) :=
  (past.map Event.call).filterMap Call.datagram

def payload : Event Answer → Option (List UInt8)
  | ⟨.receivePayload, .ok payload⟩ => some payload
  | _ => none

def payloads (past : List (Event Answer)) : List (List UInt8) := past.filterMap payload

def arrival : Event Answer → Option Arrival
  | ⟨.receiveUdp, .ok arrival⟩ => some arrival
  | _ => none

def arrivals (past : List (Event Answer)) : List Arrival := past.filterMap arrival

end Harness

/-- The next payload that a receiver gets out of the bytes written to it. -/
def NextFrame (payloads : List (List UInt8)) (written payload : List UInt8) : Prop :=
  FrameSized payload ∧ payloads.flatMap framed ++ framed payload <+: written

namespace Setup
variable (setup : Setup)

/-- What a datagram arrives as where it is sent to. -/
def carriedToHarness : Probe.Call → Option Harness.Arrival
  | .udpSendTo host port datagram =>
    if host = setup.options.host ∧ port = applePort then
      some ⟨datagram, setup.windowsHost, setup.options.udpPort⟩
    else none
  | _ => none

def carriedToProbe : Harness.Call → Option Probe.Received
  | .sendUdp host port datagram =>
    if host = setup.windowsHost ∧ port = setup.options.udpPort then
      some ⟨datagram, setup.options.host, applePort⟩
    else none
  | _ => none

/-- Nothing is lost, on either transport. -/
def reliable : Network Probe.Answer Harness.Answer where
  toLeft left right
    | ⟨.sendAll _, status⟩ => status = GmStatus.ok
    | ⟨.receiveControlMessage, answer⟩ => ∃ payload, answer = Except.ok payload ∧
        NextFrame (Probe.payloads left) (Harness.written right) payload
    | ⟨.randomBytes size, answer⟩ => answer = Except.ok (setup.random size)
    | ⟨.udpSendTo .., status⟩ => status = GmStatus.ok
    | ⟨.udpReceiveFrom, answer⟩ => ∃ received, answer = Except.ok received ∧
        Probe.arrivals left ++ [received] <+:
          (right.map Event.call).filterMap setup.carriedToProbe
  toRight left right
    | ⟨.receivePayload, answer⟩ => ∃ payload, answer = Except.ok payload ∧
        NextFrame (Harness.payloads right) (Probe.written left) payload
    | ⟨.sendAll _, status⟩ => status = GmStatus.ok
    | ⟨.receiveUdp, answer⟩ => ∃ arrival, answer = Except.ok arrival ∧
        Harness.arrivals right ++ [arrival] <+:
          (left.map Event.call).filterMap setup.carriedToHarness
    | ⟨.sendUdp .., status⟩ => status = GmStatus.ok

/-- Any call may fail, and any datagram may arrive, from anywhere and at any time, that the
    one who sends it did not have to forge. -/
def hostile : Network Probe.Answer Harness.Answer where
  toLeft left right
    | ⟨.receiveControlMessage, answer⟩ => ∀ payload, answer = Except.ok payload →
        NextFrame (Probe.payloads left) (Harness.written right) payload
    | ⟨.randomBytes size, answer⟩ => ∀ bytes, answer = Except.ok bytes → bytes = setup.random size
    | ⟨.udpReceiveFrom, answer⟩ => ∀ received : Probe.Received, answer = Except.ok received →
        setup.Unforged (Probe.sentDatagrams left ++ Harness.sentDatagrams right) received.datagram
    | _ => True
  toRight left right
    | ⟨.receivePayload, answer⟩ => ∀ payload, answer = Except.ok payload →
        NextFrame (Harness.payloads right) (Probe.written left) payload
    | ⟨.receiveUdp, answer⟩ => ∀ arrival : Harness.Arrival, answer = Except.ok arrival →
        setup.Unforged (Probe.sentDatagrams left ++ Harness.sentDatagrams right) arrival.datagram
    | _ => True

/-- Both ends at the beginning of the test. -/
def start (probeEvp harnessEvp : Evp) :
    System Probe.Answer Harness.Answer ProbeError Harness.Stop Unit Harness.Completed where
  left := Probe.runConnect setup.options (some (setup.phase3 probeEvp))
  right := Harness.runSecureListener (setup.listener harnessEvp)

end Setup

section Traffic
variable (setup : Setup)

theorem probe_written (turns : List (Turn Channel Unit)) :
    Probe.written (turns.map setup.probeEvent) =
      ((sentItems .control turns).map setup.requestText).flatMap framed := by
  have each (turn : Turn Channel Unit) : (setup.probeEvent turn).call.data =
      (sentItem .control turn).map fun item => framed (setup.requestText item) := by
    rcases turn with ⟨_ | _, _⟩ | ⟨_ | _, _⟩ | _ <;> rfl
  have shown : ((turns.map setup.probeEvent).map Event.call).filterMap Probe.Call.data = _ :=
    List.map_map ▸ items_shown each turns
  rw [Probe.written, shown, List.flatMap_map, List.flatMap_def]
  rfl

theorem probe_payloads (turns : List (Turn Channel Unit)) :
    Probe.payloads (turns.map setup.probeEvent) =
      (receivedItems .control turns).map resultText := by
  apply items_shown
  intro turn
  rcases turn with ⟨_ | _, _⟩ | ⟨_ | _, _⟩ | _ <;> rfl

theorem probe_sent (turns : List (Turn Channel Unit)) :
    Probe.sentDatagrams (turns.map setup.probeEvent) =
      (sentItems .udp turns).map setup.probeDatagram := by
  rw [Probe.sentDatagrams, List.map_map]
  apply items_shown
  intro turn
  rcases turn with ⟨_ | _, _⟩ | ⟨_ | _, _⟩ | _ <;> rfl

theorem probe_arrivals (turns : List (Turn Channel Unit)) :
    Probe.arrivals (turns.map setup.probeEvent) =
      (receivedItems .udp turns).map fun _ => setup.expectedResponse := by
  apply items_shown
  intro turn
  rcases turn with ⟨_ | _, _⟩ | ⟨_ | _, _⟩ | _ <;> rfl

theorem harness_written (turns : List (Turn Channel Empty)) :
    Harness.written (turns.map setup.harnessEvent) =
      ((sentItems .control turns).map resultText).flatMap framed := by
  have each (turn : Turn Channel Empty) : (setup.harnessEvent turn).call.data =
      (sentItem .control turn).map fun item => framed (resultText item) := by
    rcases turn with ⟨_ | _, _⟩ | ⟨_ | _, _⟩ | ⟨⟨⟩⟩ <;> rfl
  have shown : ((turns.map setup.harnessEvent).map Event.call).filterMap Harness.Call.data = _ :=
    List.map_map ▸ items_shown each turns
  rw [Harness.written, shown, List.flatMap_map, List.flatMap_def]
  rfl

theorem harness_payloads (turns : List (Turn Channel Empty)) :
    Harness.payloads (turns.map setup.harnessEvent) =
      (receivedItems .control turns).map setup.requestText := by
  apply items_shown
  intro turn
  rcases turn with ⟨_ | _, _⟩ | ⟨_ | _, _⟩ | ⟨⟨⟩⟩ <;> rfl

theorem harness_sent (turns : List (Turn Channel Empty)) :
    Harness.sentDatagrams (turns.map setup.harnessEvent) =
      (sentItems .udp turns).map fun _ => setup.response := by
  rw [Harness.sentDatagrams, List.map_map]
  apply items_shown
  intro turn
  rcases turn with ⟨_ | _, _⟩ | ⟨_ | _, _⟩ | ⟨⟨⟩⟩ <;> rfl

theorem harness_arrivals (turns : List (Turn Channel Empty)) :
    Harness.arrivals (turns.map setup.harnessEvent) =
      (receivedItems .udp turns).map setup.expectedArrival := by
  apply items_shown
  intro turn
  rcases turn with ⟨_ | _, _⟩ | ⟨_ | _, _⟩ | ⟨⟨⟩⟩ <;> rfl

theorem carried_to_harness (turns : List (Turn Channel Unit)) :
    ((turns.map setup.probeEvent).map Event.call).filterMap setup.carriedToHarness =
      (sentItems .udp turns).map setup.expectedArrival := by
  rw [List.map_map]
  apply items_shown
  intro turn
  rcases turn with ⟨_ | _, _⟩ | ⟨_ | _, _⟩ | _
  case send.udp => exact if_pos ⟨rfl, rfl⟩
  all_goals rfl

theorem carried_to_probe (turns : List (Turn Channel Empty)) :
    ((turns.map setup.harnessEvent).map Event.call).filterMap setup.carriedToProbe =
      (sentItems .udp turns).map fun _ => setup.expectedResponse := by
  rw [List.map_map]
  apply items_shown
  intro turn
  rcases turn with ⟨_ | _, _⟩ | ⟨_ | _, _⟩ | ⟨⟨⟩⟩
  case send.udp => exact if_pos ⟨rfl, rfl⟩
  all_goals rfl

end Traffic

section Frames
variable (setup : Setup)

theorem reads_sized {json : List UInt8} {info : GmControlMessageInfo} (reads : Reads json info) :
    FrameSized json :=
  frames_length (encode_control_frame_iff.mp reads.swiftFrames)

theorem result_sized (item : Nat) : FrameSized (resultText item) := by
  obtain ⟨_, reads⟩ := result_reads item
  exact reads_sized reads

theorem sized_short {text : List UInt8} (sized : FrameSized text) : text.length < 2 ^ 32 := by
  have bound := sized.2
  omega

/-- The next frame of a series of texts, for one who has got some of them, is the next text. -/
theorem next_frame {value : Nat → List UInt8} (sized : ∀ item, FrameSized (value item))
    {items all : List Nat} {item : Nat} (next : items ++ [item] <+: all)
    {written payload : List UInt8} (partly : written <+: (all.map value).flatMap framed)
    (frame : NextFrame (items.map value) written payload) : payload = value item := by
  have short (k : List Nat) : ∀ text ∈ k.map value, text.length < 2 ^ 32 := by
    intro text member
    obtain ⟨item, _, rfl⟩ := List.mem_map.mp member
    exact sized_short (sized item)
  have whole : (items.map value ++ [payload]).flatMap framed <+:
      (all.map value).flatMap framed := by
    rw [List.flatMap_append, List.flatMap_singleton]
    exact frame.2.trans partly
  apply next_shown next
  apply framed_series (short all) _ whole
  intro text member
  rcases List.mem_append.mp member with earlier | last
  · exact short items text earlier
  · rw [List.mem_singleton.mp last]
    exact sized_short frame.1

/-- Nobody writes anything but its script. -/
theorem harness_written_grows {right : List (Event Harness.Answer)}
    (calls : right.map Event.call <+: setup.harnessScript.map Event.call) :
    Harness.written right <+: ([0, 1, 2, 3].map resultText).flatMap framed := by
  have whole : Harness.written setup.harnessScript = ([0, 1, 2, 3].map resultText).flatMap framed :=
    harness_written setup harnessTurns
  rw [← whole]
  exact (calls.filterMap _).flatten

theorem probe_written_grows {left : List (Event Probe.Answer)}
    (calls : left.map Event.call <+: setup.probeScript.map Event.call) :
    Probe.written left <+: ([0, 1, 2, 3].map setup.requestText).flatMap framed := by
  have whole : Probe.written setup.probeScript =
      ([0, 1, 2, 3].map setup.requestText).flatMap framed := probe_written setup probeTurns
  rw [← whole]
  exact (calls.filterMap _).flatten

theorem probe_next_result {done rest : List (Turn Channel Unit)} {item : Nat}
    (split : done ++ .receive .control item :: rest = probeTurns)
    {right : List (Event Harness.Answer)}
    (calls : right.map Event.call <+: setup.harnessScript.map Event.call) {payload : List UInt8}
    (frame : NextFrame (Probe.payloads (done.map setup.probeEvent)) (Harness.written right)
      payload) : payload = resultText item := by
  have received : receivedItems .control probeTurns = [0, 1, 2, 3] := by decide
  have next := received_next split
  rw [received] at next
  rw [probe_payloads] at frame
  exact next_frame result_sized next (harness_written_grows setup calls) frame

theorem harness_next_request {done rest : List (Turn Channel Empty)} {item : Nat}
    (split : done ++ .receive .control item :: rest = harnessTurns)
    {left : List (Event Probe.Answer)}
    (calls : left.map Event.call <+: setup.probeScript.map Event.call) {payload : List UInt8}
    (frame : NextFrame (Harness.payloads (done.map setup.harnessEvent)) (Probe.written left)
      payload) : payload = setup.requestText item := by
  have received : receivedItems .control harnessTurns = [0, 1, 2, 3] := by decide
  have next := received_next split
  rw [received] at next
  rw [harness_payloads] at frame
  exact next_frame (fun item => reads_sized (request_reads setup item)) next
    (probe_written_grows setup calls) frame

end Frames

/-- The harness has the audio that the probe synthesises, packet by packet, and a session in
    which it streams. -/
structure Setup.Delivered (setup : Setup) (completed : Harness.Completed) : Prop where
  packets : completed.packets = (List.range Probe.kPhase3PacketCount).map setup.packet
  metrics : completed.metrics = ⟨4, 1⟩
  validated : completed.control.rawValue.pathValidated ≠ 0
  streaming : completed.control.rawValue.state = .streaming

theorem completed_delivered (setup : Setup) : setup.Delivered setup.completed where
  packets := rfl
  metrics := rfl
  validated := by
    rw [Setup.completed, streaming_raw]
    simp [Setup.streamingRaw, counted, Session.received, Setup.validatedRaw]
  streaming := by
    rw [Setup.completed, streaming_raw]
    rfl

/-- Both ends have returned. -/
def Setup.finished (setup : Setup) (completed : Harness.Completed) :
    System Probe.Answer Harness.Answer ProbeError Harness.Stop Unit Harness.Completed :=
  ⟨.done (), .done completed, setup.probeScript, setup.harnessScript⟩

end GhostMedia.Interop
