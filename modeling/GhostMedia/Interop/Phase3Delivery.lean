import GhostMedia.Interop.Phase3Network

/- The Phase 3 test where nothing is lost: the two ends never get stuck, whichever of them goes
   on, and the audio arrives. -/
namespace GhostMedia.Interop
open CString Control Media Session Bridge Dialogue Turns GhostMedia.Runtime

section Reliable
variable (setup : Setup)

/-- Only the answer that a script expects. -/
def exactly {C : Type} {A : C → Type} : Answers A := fun expected answer => answer = expected.answer

theorem carried_to_probe_grows {right : List (Event Harness.Answer)}
    (calls : right.map Event.call <+: setup.harnessScript.map Event.call) :
    (right.map Event.call).filterMap setup.carriedToProbe <+:
      [0].map fun _ => setup.expectedResponse := by
  have whole := carried_to_probe setup harnessTurns
  rw [show sentItems .udp harnessTurns = [0] by decide] at whole
  rw [← whole]
  exact calls.filterMap _

theorem carried_to_harness_grows {left : List (Event Probe.Answer)}
    (calls : left.map Event.call <+: setup.probeScript.map Event.call) :
    (left.map Event.call).filterMap setup.carriedToHarness <+:
      [0, 1, 2, 3, 4, 5, 6, 7, 8].map setup.expectedArrival := by
  have whole := carried_to_harness setup probeTurns
  rw [show sentItems .udp probeTurns = [0, 1, 2, 3, 4, 5, 6, 7, 8] by decide] at whole
  rw [← whole]
  exact calls.filterMap _

theorem reliable_keeps : Keeps setup.reliable exactly exactly setup.probeScript
    setup.harnessScript where
  left past other c expected tail answer split calls given := by
    obtain ⟨done, next, rest, turns, rfl, shape⟩ := script_split split
    rcases next with ⟨_ | _, item⟩ | ⟨_ | _, item⟩ | _ <;> cases shape
    · exact given
    · exact given
    · obtain ⟨payload, rfl, frame⟩ := given
      rw [probe_next_result setup turns calls frame]
      rfl
    · obtain ⟨received, rfl, inOrder⟩ := given
      have next := received_next turns
      rw [show receivedItems .udp probeTurns = [0] by decide] at next
      rw [probe_arrivals] at inOrder
      have same := next_shown next (inOrder.trans (carried_to_probe_grows setup calls))
      rw [same]
      rfl
    · exact given
  right past other c expected tail answer split calls given := by
    obtain ⟨done, next, rest, turns, rfl, shape⟩ := script_split split
    rcases next with ⟨_ | _, item⟩ | ⟨_ | _, item⟩ | ⟨⟨⟩⟩ <;> cases shape
    · exact given
    · exact given
    · obtain ⟨payload, rfl, frame⟩ := given
      rw [harness_next_request setup turns calls frame]
      rfl
    · obtain ⟨arrival, rfl, inOrder⟩ := given
      have next := received_next turns
      rw [show receivedItems .udp harnessTurns = [0, 1, 2, 3, 4, 5, 6, 7, 8] by decide] at next
      rw [harness_arrivals] at inOrder
      have same := next_shown next (inOrder.trans (carried_to_harness_grows setup calls))
      rw [same]
      rfl

theorem turns_deadlock_free : DeadlockFree probeTurns harnessTurns := by decide +kernel

theorem ready_frame {value : Nat → List UInt8} (sized : ∀ item, FrameSized (value item))
    {items others : List Nat} {item : Nat} (ready : items ++ [item] <+: others) :
    NextFrame (items.map value) ((others.map value).flatMap framed) (value item) := by
  refine ⟨sized item, ?_⟩
  have whole := (ready.map value).flatMap framed
  rwa [List.map_append, List.flatMap_append, List.map_singleton, List.flatMap_singleton] at whole

theorem probe_ready {done : List (Turn Channel Unit)} {others : List (Turn Channel Empty)}
    {next : Turn Channel Unit} (ready : Ready done others next) :
    setup.reliable.toLeft (done.map setup.probeEvent) (others.map setup.harnessEvent)
      (setup.probeEvent next) := by
  rcases next with ⟨_ | _, item⟩ | ⟨_ | _, item⟩ | _
  · rfl
  · rfl
  · refine ⟨_, rfl, ?_⟩
    rw [probe_payloads, harness_written]
    exact ready_frame result_sized ready
  · refine ⟨_, rfl, ?_⟩
    rw [probe_arrivals, carried_to_probe]
    have whole := ready.map fun _ => setup.expectedResponse
    rwa [List.map_append] at whole
  · rfl

theorem harness_ready {done : List (Turn Channel Empty)} {others : List (Turn Channel Unit)}
    {next : Turn Channel Empty} (ready : Ready done others next) :
    setup.reliable.toRight (others.map setup.probeEvent) (done.map setup.harnessEvent)
      (setup.harnessEvent next) := by
  rcases next with ⟨_ | _, item⟩ | ⟨_ | _, item⟩ | ⟨⟨⟩⟩
  · rfl
  · rfl
  · refine ⟨_, rfl, ?_⟩
    rw [harness_payloads, probe_written]
    exact ready_frame (fun item => reads_sized (request_reads setup item)) ready
  · refine ⟨_, rfl, ?_⟩
    rw [harness_arrivals, carried_to_harness]
    have whole := ready.map setup.expectedArrival
    rwa [List.map_append] at whole

theorem reliable_live : Live setup.reliable setup.probeScript setup.harnessScript := by
  intro past rest other ahead left right
  obtain ⟨done, more, turns, rfl, rfl⟩ := List.map_eq_append_iff.mp left.symm
  obtain ⟨otherDone, otherMore, otherTurns, rfl, rfl⟩ := List.map_eq_append_iff.mp right.symm
  rcases deadlock_free_cases turns_deadlock_free turns.symm otherTurns.symm with
    moves | moves | ⟨rfl, rfl⟩
  · obtain ⟨next, later, rfl, ready⟩ := moves_iff.mp moves
    exact .inl ⟨_, _, rfl, probe_ready setup ready⟩
  · obtain ⟨next, later, rfl, ready⟩ := moves_iff.mp moves
    exact .inr (.inl ⟨_, _, rfl, harness_ready setup ready⟩)
  · exact .inr (.inr ⟨rfl, rfl⟩)

theorem expected_unforged (setup : Setup) {datagram : List UInt8}
    (known : datagram ∈ setup.datagrams) : setup.Unforged setup.datagrams datagram :=
  fun _ _ _ _ => known

theorem probe_expected (setup : Setup) : ∀ e ∈ setup.probeScript, ∀ answer, exactly e answer →
    setup.probeMay e answer := by
  intro e member answer same
  obtain rfl := same
  obtain ⟨turn, _, rfl⟩ := List.mem_map.mp member
  rcases turn with ⟨_ | _, item⟩ | ⟨_ | _, item⟩ | _
  · trivial
  · trivial
  · exact fun payload same => same
  · intro received same
    cases same
    exact expected_unforged setup (.tail _ List.mem_cons_self)
  · exact fun bytes same => same

theorem harness_expected (setup : Setup) : ∀ e ∈ setup.harnessScript, ∀ answer,
    exactly e answer → setup.harnessMay e answer := by
  intro e member answer same
  obtain rfl := same
  obtain ⟨turn, inScript, rfl⟩ := List.mem_map.mp member
  rcases turn with ⟨_ | _, item⟩ | ⟨_ | _, item⟩ | ⟨⟨⟩⟩
  · trivial
  · trivial
  · exact fun payload same => same
  · intro arrival same
    cases same
    have items : item ∈ receivedItems .udp harnessTurns :=
      List.mem_filterMap.mpr ⟨_, inScript, by simp [receivedItem]⟩
    rw [show receivedItems .udp harnessTurns = [0, 1, 2, 3, 4, 5, 6, 7, 8] by decide] at items
    apply expected_unforged
    cases item with
    | zero => exact List.mem_cons_self
    | succ packetIndex =>
      have small : packetIndex < Probe.kPhase3PacketCount := by
        simp at items
        simp only [Probe.kPhase3PacketCount]
        omega
      have audio : setup.audio packetIndex ∈ _ := List.mem_map_of_mem (List.mem_range.mpr small)
      exact .tail _ (.tail _ audio)

end Reliable

/-- Where nothing is lost, whatever the order in which the two ends get to go on: they come to
    an end after 37 calls, never fail, never wait for each other, and the audio arrives. -/
theorem phase3_delivers {setup : Setup} {probeEvp harnessEvp : Evp}
    (probe : Performs probeEvp setup.aead) (harness : Performs harnessEvp setup.aead) :
    ∃ completed, setup.Delivered completed ∧ ∀ n s,
      Dialogue.Steps setup.reliable n (setup.start probeEvp harnessEvp) s →
        n ≤ 37 ∧ Dialogue.Steps setup.reliable (37 - n) s (setup.finished completed) ∧
          ((∀ t, ¬ Dialogue.Step setup.reliable s t) → s = setup.finished completed) := by
  have left := scripted_mono (probe_scripted setup probe) (probe_expected setup)
  have right := scripted_mono (harness_scripted setup harness) (harness_expected setup)
  refine ⟨setup.completed, completed_delivered setup, fun n s run => ?_⟩
  have here := conversing_run (reliable_keeps setup) left right run
  obtain ⟨p, q, past, other⟩ := s
  obtain ⟨rest, leftSplit, leftRest⟩ := along_expected here.left
  obtain ⟨ahead, rightSplit, rightRest⟩ := along_expected here.right
  have finishes := live_completes (reliable_live setup) leftSplit rightSplit leftRest rightRest
  have leftLength := congrArg List.length leftSplit
  have rightLength := congrArg List.length rightSplit
  have total : n + (rest.length + ahead.length) = 37 := by
    have count := here.count
    simp only [List.length_append, Setup.probeScript, Setup.harnessScript, List.length_map]
      at leftLength rightLength count
    rw [show probeTurns.length = 19 from rfl] at leftLength
    rw [show harnessTurns.length = 18 from rfl] at rightLength
    omega
  rw [show rest.length + ahead.length = 37 - n by omega] at finishes
  refine ⟨by omega, finishes, fun stuck => ?_⟩
  exact steps_stuck stuck finishes

def sampleOptions : Probe.ProbeOptions where
  clientName := ascii "probe"
  udpPort := 50000
  host := ascii "192.168.1.10"

def sampleSetup : Setup where
  options := sampleOptions
  admissible := ⟨by decide, by decide, by decide, (Json.is_valid_utf8_iff _).mp (by decide),
    .inl rfl⟩
  windowsHost := "192.168.1.20"
  clientDigest := zero _
  serverDigest := zero _
  tlsExport _ := zero _
  aead := lockedAead
  syntheticPcmPacket _ := zero _
  random _ := zero _

theorem sample_delivers : ∃ completed, sampleSetup.Delivered completed ∧
    Dialogue.Steps sampleSetup.reliable 37 (sampleSetup.start lockedEvp lockedEvp)
      (sampleSetup.finished completed) := by
  obtain ⟨completed, delivered, runs⟩ := @phase3_delivers sampleSetup lockedEvp lockedEvp
    locked_performs locked_performs
  exact ⟨completed, delivered, (runs 0 _ (.refl _)).2.1⟩

end GhostMedia.Interop
