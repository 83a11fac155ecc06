import GhostMedia.Interop.Phase3Delivery

/- The Phase 3 test in the hands of someone who may make any call fail, and lose, repeat,
   reorder or make up any datagram, but cannot forge one. -/
namespace GhostMedia.Interop
open CString Control Media Session Bridge Dialogue Turns GhostMedia.Runtime

section Known
variable (setup : Setup)

theorem harness_sent_grows {right : List (Event Harness.Answer)}
    (calls : right.map Event.call <+: setup.harnessScript.map Event.call) :
    Harness.sentDatagrams right <+: [setup.response] := by
  have whole : Harness.sentDatagrams setup.harnessScript = [setup.response] :=
    harness_sent setup harnessTurns
  rw [← whole]
  exact calls.filterMap _

theorem probe_sent_grows {left : List (Event Probe.Answer)}
    (calls : left.map Event.call <+: setup.probeScript.map Event.call) :
    Probe.sentDatagrams left <+:
      setup.challenge :: (List.range Probe.kPhase3PacketCount).map setup.audio := by
  have whole : Probe.sentDatagrams setup.probeScript =
      setup.challenge :: (List.range Probe.kPhase3PacketCount).map setup.audio :=
    probe_sent setup probeTurns
  rw [← whole]
  exact calls.filterMap _

/-- What both ends have sent are datagrams of the test. -/
theorem sent_known {left : List (Event Probe.Answer)} {right : List (Event Harness.Answer)}
    (leftCalls : left.map Event.call <+: setup.probeScript.map Event.call)
    (rightCalls : right.map Event.call <+: setup.harnessScript.map Event.call)
    {datagram : List UInt8}
    (unforged : setup.Unforged (Probe.sentDatagrams left ++ Harness.sentDatagrams right) datagram) :
    setup.Unforged setup.datagrams datagram := by
  intro key isKey text authentic
  rcases List.mem_append.mp (unforged key isKey text authentic) with sent | sent
  · rcases List.mem_cons.mp ((probe_sent_grows setup leftCalls).subset sent) with rfl | audio
    · exact List.mem_cons_self
    · exact .tail _ (.tail _ audio)
  · have answer := (harness_sent_grows setup rightCalls).subset sent
    rw [List.mem_singleton.mp answer]
    exact .tail _ List.mem_cons_self

theorem own_calls {A : Type} {B : A → Type} {past tail script : List (Event B)} {e : Event B}
    (split : past ++ e :: tail = script) : past.map Event.call <+: script.map Event.call :=
  split ▸ (List.prefix_append _ _).map _

theorem hostile_keeps : Keeps setup.hostile setup.probeMay setup.harnessMay setup.probeScript
    setup.harnessScript where
  left past other c expected tail answer split calls given := by
    have mine := own_calls split
    obtain ⟨done, next, rest, turns, rfl, shape⟩ := script_split split
    rcases next with ⟨_ | _, item⟩ | ⟨_ | _, item⟩ | _ <;> cases shape
    · trivial
    · trivial
    · intro payload received
      rw [probe_next_result setup turns calls (given payload received)]
    · exact fun received taken => sent_known setup mine calls (given received taken)
    · intro bytes taken
      rw [given bytes taken]
  right past other c expected tail answer split calls given := by
    have mine := own_calls split
    obtain ⟨done, next, rest, turns, rfl, shape⟩ := script_split split
    rcases next with ⟨_ | _, item⟩ | ⟨_ | _, item⟩ | ⟨⟨⟩⟩ <;> cases shape
    · trivial
    · trivial
    · intro payload received
      rw [harness_next_request setup turns calls (given payload received)]
    · exact fun arrival taken => sent_known setup calls mine (given arrival taken)

end Known

section Hostile
variable {setup : Setup} {probeEvp harnessEvp : Evp}
  {s : System Probe.Answer Harness.Answer ProbeError Harness.Stop Unit Harness.Completed} {n : Nat}

/-- All four results, framed. -/
def allResults : List UInt8 := ([0, 1, 2, 3].map resultText).flatMap framed

/-- Where a test stands that anyone may have tampered with. -/
abbrev Tampered (setup : Setup) (n : Nat)
    (s : System Probe.Answer Harness.Answer ProbeError Harness.Stop Unit Harness.Completed) :=
  Conversing setup.hostile setup.probeMay setup.harnessMay setup.probeScript setup.harnessScript ()
    setup.completed n s

theorem datagrams_differ {header other : GmMediaHeader} {datagram : List UInt8}
    (left : Layout header datagram) (right : Layout other datagram)
    (differ : header.kind ≠ other.kind) : False :=
  differ (congrArg GmMediaHeader.kind (layout_unique left right))

theorem audio_differs {i j : Nat} (small : i < Probe.kPhase3PacketCount)
    (alsoSmall : j < Probe.kPhase3PacketCount) (same : setup.audio i = setup.audio j) : i = j := by
  have layout := (audio_layout setup i).1
  rw [same] at layout
  have headers := layout_unique layout (audio_layout setup j).1
  exact audio_timestamps small alsoSmall (congrArg GmMediaHeader.mediaTimestamp headers)

theorem prefix_whole {γ : Type} {got all : List γ} (front : got <+: all)
    (enough : all.length ≤ got.length) : got = all :=
  front.eq_of_length (Nat.le_antisymm front.length_le enough)

/-- The probe goes on from its challenge only with the response of the harness. -/
theorem probe_answered (held : Tampered setup n s) (reached : 9 < s.leftPast.length) :
    Harness.sentDatagrams s.rightPast = [setup.response] := by
  obtain ⟨back, split⟩ := along_reached held.left reached
  have front : setup.probeScript.take 9 ++ back = setup.probeScript.take 8 ++
      setup.probeEvent (.receive .udp 0) :: back := rfl
  obtain ⟨early, before, given⟩ := held.answered.left _ _ _ (split.symm.trans front)
  have sent := given setup.expectedResponse rfl _ (by simp [Setup.sessionKeys]) _
    (response_layout setup).2
  have mine : Probe.sentDatagrams (setup.probeScript.take 8) = [setup.challenge] := rfl
  rw [mine, List.singleton_append] at sent
  rcases List.mem_cons.mp sent with same | answered
  · have layout := (challenge_layout setup).1
    rw [← same] at layout
    exact (datagrams_differ layout (response_layout setup).1 (by decide)).elim
  · have here := ((before.map Event.call).filterMap Harness.Call.datagram).subset answered
    exact prefix_whole (harness_sent_grows setup (along_calls held.right))
      (List.length_pos_of_mem here)

/-- It sends audio only once the harness has told it that the stream has started. -/
theorem probe_started (held : Tampered setup n s) (reached : 11 < s.leftPast.length) :
    Harness.written s.rightPast = allResults := by
  obtain ⟨back, split⟩ := along_reached held.left reached
  have front : setup.probeScript.take 11 ++ back = setup.probeScript.take 10 ++
      setup.probeEvent (.receive .control 3) :: back := rfl
  obtain ⟨early, before, given⟩ := held.answered.left _ _ _ (split.symm.trans front)
  have frame := (given _ rfl).2
  have results : (Probe.payloads (setup.probeScript.take 10)).flatMap framed ++
      framed (resultText 3) = allResults := by
    simp [allResults, show Probe.payloads (setup.probeScript.take 10) = [0, 1, 2].map resultText
      from rfl]
  rw [results] at frame
  have later := frame.trans ((before.map Event.call).filterMap Harness.Call.data).flatten
  exact prefix_whole (harness_written_grows setup (along_calls held.right)) later.length_le

theorem calls_taken {C : Type} {A : C → Type} {past script : List (Event A)} {i : Nat}
    (calls : past.map Event.call <+: script.map Event.call) (few : past.length ≤ i) :
    past.map Event.call <+: (script.take i).map Event.call := by
  rw [List.map_take]
  exact List.prefix_take_iff.mpr ⟨calls, by rwa [List.length_map]⟩

theorem probe_audio_late (held : Tampered setup n s)
    (audio : 1 < (Probe.sentDatagrams s.leftPast).length) : 11 < s.leftPast.length := by
  by_contra early
  have few := (calls_taken (along_calls held.left) (Nat.le_of_not_lt early)).filterMap
    Probe.Call.datagram
  have one : ((setup.probeScript.take 11).map Event.call).filterMap Probe.Call.datagram =
      [setup.challenge] := rfl
  rw [one] at few
  exact absurd few.length_le (Nat.not_le.mpr audio)

/-- The harness answers nothing but the challenge of the probe. -/
theorem harness_challenged (held : Tampered setup n s)
    (answered : Harness.sentDatagrams s.rightPast ≠ []) :
    setup.challenge ∈ Probe.sentDatagrams s.leftPast := by
  have reached : 7 < s.rightPast.length := by
    by_contra early
    have few := (calls_taken (along_calls held.right) (Nat.le_of_not_lt early)).filterMap
      Harness.Call.datagram
    have none : ((setup.harnessScript.take 7).map Event.call).filterMap Harness.Call.datagram =
        [] := rfl
    rw [none] at few
    exact answered (List.prefix_nil.mp few)
  obtain ⟨back, split⟩ := along_reached held.right reached
  have front : setup.harnessScript.take 7 ++ back = setup.harnessScript.take 6 ++
      setup.harnessEvent (.receive .udp 0) :: back := rfl
  obtain ⟨early, before, given⟩ := held.answered.right _ _ _ (split.symm.trans front)
  have sent := given (setup.expectedArrival 0) rfl _ (by simp [Setup.sessionKeys]) _
    (challenge_layout setup).2
  have mine : Harness.sentDatagrams (setup.harnessScript.take 6) = [] := rfl
  rw [mine, List.append_nil] at sent
  exact ((before.map Event.call).filterMap Probe.Call.datagram).subset sent

/-- A harness that is through has heard all of the probe. -/
theorem harness_heard (held : Tampered setup n s) (through : s.rightPast = setup.harnessScript) :
    Probe.sentDatagrams s.leftPast =
      setup.challenge :: (List.range Probe.kPhase3PacketCount).map setup.audio := by
  have front : setup.harnessScript = setup.harnessScript.take 17 ++
      setup.harnessEvent (.receive .udp 8) :: [] := rfl
  obtain ⟨early, before, given⟩ := held.answered.right _ _ _ (through.trans front)
  have sent := given (setup.expectedArrival 8) rfl _ (by simp [Setup.sessionKeys]) _
    (audio_layout setup 7).2
  have mine : Harness.sentDatagrams (setup.harnessScript.take 17) = [setup.response] := rfl
  rw [mine] at sent
  rcases List.mem_append.mp sent with heard | own
  · have here := ((before.map Event.call).filterMap Probe.Call.datagram).subset heard
    have calls := probe_sent_grows setup (along_calls held.left)
    apply prefix_whole calls
    by_contra short
    have few : Probe.sentDatagrams s.leftPast <+:
        setup.challenge :: (List.range 7).map setup.audio := by
      have taken := List.prefix_take_iff.mpr ⟨calls, Nat.le_of_lt_succ (Nat.lt_of_not_le short)⟩
      exact taken
    rcases List.mem_cons.mp (few.subset here) with same | earlier
    · have layout := (challenge_layout setup).1
      rw [← same] at layout
      exact datagrams_differ layout (audio_layout setup 7).1 (by decide)
    · obtain ⟨k, inRange, same⟩ := List.mem_map.mp earlier
      have small := List.mem_range.mp inRange
      have equal : k = 7 := audio_differs (small.trans (by decide)) (by decide) same
      exact absurd (equal ▸ small) (Nat.lt_irrefl 7)
  · have layout := (response_layout setup).1
    rw [← List.mem_singleton.mp own] at layout
    exact (datagrams_differ layout (audio_layout setup 7).1 (by decide)).elim

end Hostile

section Inclusion
variable (setup : Setup)

/-- What a reliable network does may also happen on a hostile one. -/
theorem carried_sent_to_probe {right : List (Event Harness.Answer)} {got : List Probe.Received}
    {received : Probe.Received}
    (inOrder : got ++ [received] <+: (right.map Event.call).filterMap setup.carriedToProbe) :
    received.datagram ∈ Harness.sentDatagrams right := by
  have member := inOrder.subset (List.mem_append.mpr (.inr (List.mem_singleton_self received)))
  obtain ⟨call, called, carried⟩ := List.mem_filterMap.mp member
  refine List.mem_filterMap.mpr ⟨call, called, ?_⟩
  cases call with
  | sendUdp host port datagram =>
    obtain ⟨_, same⟩ := Option.ite_some_none_eq_some.mp carried
    exact same ▸ rfl
  | _ => cases carried

theorem carried_sent_to_harness {left : List (Event Probe.Answer)} {got : List Harness.Arrival}
    {arrival : Harness.Arrival}
    (inOrder : got ++ [arrival] <+: (left.map Event.call).filterMap setup.carriedToHarness) :
    arrival.datagram ∈ Probe.sentDatagrams left := by
  have member := inOrder.subset (List.mem_append.mpr (.inr (List.mem_singleton_self arrival)))
  obtain ⟨call, called, carried⟩ := List.mem_filterMap.mp member
  refine List.mem_filterMap.mpr ⟨call, called, ?_⟩
  cases call with
  | udpSendTo host port datagram =>
    obtain ⟨_, same⟩ := Option.ite_some_none_eq_some.mp carried
    exact same ▸ rfl
  | _ => cases carried

theorem reliable_hostile {s t : System Probe.Answer Harness.Answer ProbeError Harness.Stop Unit
      Harness.Completed} {n : Nat} (run : Dialogue.Steps setup.reliable n s t) :
    Dialogue.Steps setup.hostile n s t := by
  refine steps_mono ?_ ?_ run
  · intro past other e given
    obtain ⟨c, answer⟩ := e
    cases c with
    | receiveControlMessage =>
      obtain ⟨payload, rfl, frame⟩ := given
      intro payload same
      cases same
      exact frame
    | randomBytes size =>
      obtain rfl := given
      intro bytes same
      cases same
      rfl
    | udpReceiveFrom =>
      obtain ⟨received, rfl, inOrder⟩ := given
      intro received same key _ text _
      cases same
      exact List.mem_append.mpr (.inr (carried_sent_to_probe setup inOrder))
    | _ => trivial
  · intro past other e given
    obtain ⟨c, answer⟩ := e
    cases c with
    | receivePayload =>
      obtain ⟨payload, rfl, frame⟩ := given
      intro payload same
      cases same
      exact frame
    | receiveUdp =>
      obtain ⟨arrival, rfl, inOrder⟩ := given
      intro arrival same key _ text _
      cases same
      exact List.mem_append.mpr (.inl (carried_sent_to_harness setup inOrder))
    | _ => trivial

theorem hostile_completes {probeEvp harnessEvp : Evp} (probe : Performs probeEvp setup.aead)
    (harness : Performs harnessEvp setup.aead) :
    Dialogue.Steps setup.hostile 37 (setup.start probeEvp harnessEvp)
      (setup.finished setup.completed) := by
  have run := live_completes (reliable_live setup) (List.nil_append _) (List.nil_append _)
    (probe_scripted setup probe) (harness_scripted setup harness)
  have length : setup.probeScript.length + setup.harnessScript.length = 37 := by
    simp only [Setup.probeScript, Setup.harnessScript, List.length_map]
    rfl
  rw [length] at run
  exact reliable_hostile setup run

end Inclusion

/-- What holds of a test at any time, whatever is done to its datagrams. -/
structure Setup.Safe (setup : Setup)
    (s : System Probe.Answer Harness.Answer ProbeError Harness.Stop Unit Harness.Completed) :
    Prop where
  heard : Probe.sentDatagrams s.leftPast <+:
    setup.challenge :: (List.range Probe.kPhase3PacketCount).map setup.audio
  answers : Harness.sentDatagrams s.rightPast <+: [setup.response]
  challenged : Harness.sentDatagrams s.rightPast ≠ [] →
    setup.challenge ∈ Probe.sentDatagrams s.leftPast
  admitted : 1 < (Probe.sentDatagrams s.leftPast).length →
    Harness.sentDatagrams s.rightPast = [setup.response] ∧
      Harness.written s.rightPast = allResults
  completes : ∀ completed, s.right = .done completed → setup.Delivered completed ∧
    Probe.sentDatagrams s.leftPast =
      setup.challenge :: (List.range Probe.kPhase3PacketCount).map setup.audio
  returns : s.left = .done () → Harness.sentDatagrams s.rightPast = [setup.response] ∧
    Harness.written s.rightPast = allResults

/-- Whatever calls fail and whatever datagrams arrive that are not forged: the probe sends
    audio only on a path and to a stream that the harness has confirmed, the harness answers
    only the probe's own challenge, and it completes only with exactly the probe's audio. -/
theorem phase3_safe {setup : Setup} {probeEvp harnessEvp : Evp}
    (probe : Performs probeEvp setup.aead) (harness : Performs harnessEvp setup.aead) {n : Nat}
    {s : System Probe.Answer Harness.Answer ProbeError Harness.Stop Unit Harness.Completed}
    (run : Dialogue.Steps setup.hostile n (setup.start probeEvp harnessEvp) s) : setup.Safe s := by
  have held : Tampered setup n s := conversing_run (hostile_keeps setup)
    (probe_scripted setup probe) (harness_scripted setup harness) run
  have started (late : 11 < s.leftPast.length) :
      Harness.sentDatagrams s.rightPast = [setup.response] ∧
        Harness.written s.rightPast = allResults :=
    ⟨probe_answered held (Nat.lt_of_le_of_lt (by decide) late), probe_started held late⟩
  constructor
  case heard => exact probe_sent_grows setup (along_calls held.left)
  case answers => exact harness_sent_grows setup (along_calls held.right)
  case challenged => exact harness_challenged held
  case admitted => exact fun audio => started (probe_audio_late held audio)
  case completes =>
    intro completed ended
    have along := held.right
    rw [ended] at along
    obtain ⟨through, rfl⟩ := along_done along
    exact ⟨completed_delivered setup, harness_heard held through⟩
  case returns =>
    intro ended
    have along := held.left
    rw [ended] at along
    have length : s.leftPast.length = probeTurns.length := by
      rw [(along_done along).1, Setup.probeScript, List.length_map]
    exact started (length ▸ (by decide : 11 < probeTurns.length))

theorem sample_safe : ∃ s,
    Dialogue.Steps sampleSetup.hostile 37 (sampleSetup.start lockedEvp lockedEvp) s ∧
      s.left = .done () ∧ sampleSetup.Safe s := by
  have run := hostile_completes sampleSetup locked_performs locked_performs
  exact ⟨_, run, rfl, phase3_safe locked_performs locked_performs run⟩

end GhostMedia.Interop
