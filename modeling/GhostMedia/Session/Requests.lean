import GhostMedia.Control.MessageDecoding
import GhostMedia.Session.Steps

/- What the session can rely on: a valid configuration, and a request that arrives is
   a decoded message with its values in their ranges. -/
namespace GhostMedia.Session
open CString Control

theorem bounded_c_string_text {value : List UInt8} {n : Nat} (short : (text value).length < n)
    (terminated : (text value).length < value.length) :
    boundedCString value n = some (text value).length := by
  induction value generalizing n with
  | nil => simp at terminated
  | cons b rest ih =>
    cases n with
    | zero => omega
    | succ n =>
      by_cases nul : b = 0
      · simp [boundedCString, text, nul, List.findIdx?_cons]
      · simp only [text, nul, ne_eq, not_false_eq_true, decide_true, List.takeWhile_cons_of_pos,
          List.length_cons, Nat.add_lt_add_iff_right] at short terminated ⊢
        have tail := ih short terminated
        rw [boundedCString] at tail ⊢
        simp only [List.take_succ_cons, List.findIdx?_cons, nul, decide_false, Bool.false_eq_true,
          if_false, tail, Option.map_some, text]

theorem take_text (value : List UInt8) : value.take (text value).length = text value :=
  (List.prefix_iff_eq_take.mp (List.takeWhile_prefix _)).symm

/-- A terminated buffer is copied up to its NUL. -/
theorem copy_c_string_fill {n : Nat} {source : Buffer n} (terminated : source.text.length < n) :
    copyCString n source.bytes = fill n source.text := by
  have size := source.size
  have bounded : boundedCString source.bytes n = some source.text.length :=
    bounded_c_string_text terminated (by rw [size]; exact terminated)
  rw [copyCString, bounded, Option.getD_some, Buffer.text, take_text]

theorem copy_c_string_text {n : Nat} {source : Buffer n} (terminated : source.text.length < n) :
    (copyCString n source.bytes).text = source.text := by
  rw [copy_c_string_fill terminated, fill_text terminated]
  exact text_text source.bytes

theorem text_length_le_size {n : Nat} (source : Buffer n) : source.text.length ≤ n :=
  (text_length_le source.bytes).trans_eq source.size

theorem bounded_c_string_some {n k : Nat} {source : Buffer n}
    (bounded : boundedCString source.bytes n = some k) :
    source.text = source.bytes.take k ∧ source.text.length = k ∧ k < n := by
  have size := source.size
  by_cases terminated : source.text.length < n
  · have same : boundedCString source.bytes n = some source.text.length :=
      bounded_c_string_text terminated (by rw [size]; exact terminated)
    obtain rfl : source.text.length = k := by simpa [same] using bounded
    exact ⟨(take_text source.bytes).symm, rfl, terminated⟩
  · have full : source.text.length = source.bytes.length := by
      have := text_length_le_size source
      omega
    have whole : text source.bytes = source.bytes :=
      (List.takeWhile_prefix _).eq_of_length full
    have noNul := (text_eq_self_iff source.bytes).mp whole
    have absent : boundedCString source.bytes n = none := by
      rw [boundedCString, List.take_of_length_le size.le, List.findIdx?_eq_none_iff]
      intro b member
      simpa using fun nul : b = 0 => noNul (nul ▸ member)
    cases absent.symm.trans bounded

section Arrivals
variable {s : GmControlSession} {jsonText : GmBytes} {m : GmControlMessageInfo}

theorem arrives_message (arrives : Arrives s jsonText m) :
    ∃ (members : Members) (message : Message), message.Describes members ∧
      m = message.info sizeofGmControlMessageInfo := by
  obtain ⟨_, members, message, _, described, same⟩ := parse_message_described arrives.1
  exact ⟨members, message, described, same⟩

theorem hello_arrives (arrives : Arrives s jsonText m) (kind : m.kind = .requestSessionHello) :
    1 ≤ m.udpPort ∧ m.udpPort ≤ 65535 := by
  obtain ⟨members, message, described, rfl⟩ := arrives_message arrives
  rw [info_kind] at kind
  cases message <;> cases kind
  obtain ⟨_, _, _, _, low, high⟩ := described
  exact ⟨low, high⟩

theorem open_arrives (arrives : Arrives s jsonText m) (kind : m.kind = .requestStreamOpen) :
    (∃ codec : Codec, m.profile = codec.profile) ∧
      15 ≤ m.playoutTargetMs ∧ m.playoutTargetMs ≤ 120 := by
  obtain ⟨members, message, described, rfl⟩ := arrives_message arrives
  rw [info_kind] at kind
  cases message <;> cases kind
  rename_i id codec playoutTargetMs
  obtain ⟨_, _, _, _, low, high⟩ := described
  exact ⟨⟨codec, rfl⟩, low, high⟩

theorem start_arrives (arrives : Arrives s jsonText m) (kind : m.kind = .requestStreamStart) :
    DecimalU64 m.firstMediaTimestamp.text ∧
      copyCString _ m.firstMediaTimestamp.bytes = m.firstMediaTimestamp := by
  obtain ⟨members, message, described, rfl⟩ := arrives_message arrives
  rw [info_kind] at kind
  cases message <;> cases kind
  rename_i id streamId timestamp
  obtain ⟨_, _, _, decimal⟩ := described
  obtain ⟨short, clean⟩ := decimal_plain decimal
  have read : (fill 21 timestamp).text = timestamp := by
    rw [fill_text (by omega), text_of_no_nul clean]
  refine ⟨read.symm ▸ decimal, ?_⟩
  have copied := @copy_c_string_fill 21 (fill 21 timestamp) (by rw [read]; omega)
  rw [read] at copied
  exact copied

theorem close_arrives (arrives : Arrives s jsonText m) (kind : m.kind = .requestStreamClose) :
    1 ≤ m.streamId := by
  obtain ⟨members, message, described, rfl⟩ := arrives_message arrives
  rw [info_kind] at kind
  cases message <;> cases kind
  obtain ⟨_, _, low⟩ := described
  exact low

theorem arrives_id (arrives : Arrives s jsonText m) : 1 ≤ m.id := by
  have larger : s.lastRequestId < m.id := by
    have request := arrives.2
    simp only [ensureRequest, Bool.and_eq_true, Bool.not_eq_true', decide_eq_false_iff_not,
      UInt32.not_le] at request
    exact request.2
  simp only [UInt32.lt_iff_toNat_lt, UInt32.le_iff_toNat_le, UInt32.reduceToNat] at larger ⊢
  omega

theorem rekey_arrives (arrives : Arrives s jsonText m) (kind : m.kind = .requestStreamRekey) :
    1 ≤ m.keyEpoch := by
  obtain ⟨members, message, described, rfl⟩ := arrives_message arrives
  rw [info_kind] at kind
  cases message <;> cases kind
  obtain ⟨_, _, _, low⟩ := described
  exact low

end Arrivals

end GhostMedia.Session
