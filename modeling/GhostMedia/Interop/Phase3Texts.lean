import GhostMedia.Interop.HarnessRun
import GhostMedia.Interop.ProbeRun

/- The control texts of the Phase 3 test: how each end reads and frames what either end
   writes. The probe's requests depend on its options, the harness's results are fixed. -/
namespace GhostMedia.Interop
open CString Control Json Media Bridge Dialogue

def recorded (message : Message) : GmControlMessageInfo := message.info sizeofGmControlMessageInfo

/-- Both ends read a text as one record, and make one frame of it. -/
structure Reads (json : List UInt8) (info : GmControlMessageInfo) : Prop where
  core : gmControlParseMessage (.view json) (clearedInfo sizeofGmControlMessageInfo) = .ok info
  probe : ∀ label, Probe.parseControlMessage json label = .ok info
  swift : parseControlMessage json = .ok (controlMessage info)
  probeFrames : ∀ label, Probe.encodeControlFrame json label = .ok (framed json)
  swiftFrames : Bridge.encodeControlFrame json = .ok (framed json)

theorem delivers_reads {json : List UInt8} {message : Message} (delivers : Delivers json message) :
    Reads json (recorded message) where
  core := delivers.parses _ (Nat.le_refl _)
  probe label := by
    rw [Probe.parseControlMessage, delivers.parses Probe.blankMessage (Nat.le_refl _)]
    rfl
  swift := by
    rw [parseControlMessage, delivers.parses newMessageInfo (Nat.le_refl _)]
    rfl
  probeFrames := delivers.sends
  swiftFrames := encode_control_frame_iff.mpr delivers.frames

theorem parsed_reads {json : List UInt8} {info : GmControlMessageInfo}
    (parsed : gmControlParseMessage (.view json) (clearedInfo sizeofGmControlMessageInfo) =
      .ok info) : Reads json info := by
  obtain ⟨_, members, message, acceptable, described, rfl⟩ :=
    (parse_message_iff json _ info).mp parsed
  exact delivers_reads (acceptable_delivers acceptable described)

section Results

def helloResult : Message :=
  .result 1 (.hello Harness.testServerId Harness.testSessionId Harness.testBootId
    Harness.testAppleUdpPort)
def bindResult : Message := .result 2 (.bind Harness.testAppleUdpPort)
def openResult : Message := .result 3 (.open 1 1 .pcmS16le)
def startResult : Message := .result 4 (.sessionState (ascii "started"))

theorem bind_result_reads : Reads Harness.bindResultJson (recorded bindResult) :=
  parsed_reads (by decide +kernel)

theorem open_result_reads : Reads Harness.openResultJson (recorded openResult) :=
  parsed_reads (by decide +kernel)

theorem start_result_reads : Reads Harness.startResultJson (recorded startResult) :=
  parsed_reads (by decide +kernel)

theorem hello_result_reads : Reads Harness.helloResultJson (recorded helloResult) :=
  parsed_reads (by decide +kernel)

end Results

section Frames

/-- A frame can be told from what follows it. -/
theorem framed_prefix {a b x y : List UInt8} (shortA : a.length < 2 ^ 32)
    (shortB : b.length < 2 ^ 32) (same : framed a ++ x = framed b ++ y) : a = b ∧ x = y := by
  have split (json : List UInt8) (rest : List UInt8) :
      framed json ++ rest = writeU32Be json.length.toUInt32 ++ (json ++ rest) := by
    rw [framed, List.append_assoc]
  rw [split, split] at same
  obtain ⟨lengths, bodies⟩ := List.append_inj same (by simp)
  have sized : a.length = b.length := by
    have equal := congrArg UInt32.toNat (write_u32_be_injective lengths)
    simp only [Nat.toUInt32, UInt32.toNat_ofNat', Nat.mod_eq_of_lt shortA,
      Nat.mod_eq_of_lt shortB] at equal
    exact equal
  exact List.append_inj bodies sized

/-- Frames that start a series of frames are the first ones of the series. -/
theorem framed_series {texts got : List (List UInt8)} (short : ∀ text ∈ texts, text.length < 2 ^ 32)
    (alsoShort : ∀ text ∈ got, text.length < 2 ^ 32)
    (front : got.flatMap framed <+: texts.flatMap framed) : got <+: texts := by
  induction got generalizing texts with
  | nil => exact List.nil_prefix
  | cons first got ih =>
    cases texts with
    | nil =>
      obtain ⟨rest, same⟩ := front
      have long := congrArg List.length same
      simp [framed] at long
    | cons text texts =>
      obtain ⟨rest, same⟩ := front
      rw [List.flatMap_cons, List.flatMap_cons, List.append_assoc] at same
      obtain ⟨rfl, tails⟩ := framed_prefix (alsoShort _ List.mem_cons_self)
        (short _ List.mem_cons_self) same
      exact List.cons_prefix_cons.mpr ⟨rfl, ih (fun t member => short t (.tail _ member))
        (fun t member => alsoShort t (.tail _ member)) ⟨rest, tails⟩⟩

end Frames

end GhostMedia.Interop
