import GhostMedia.Bridge.ProtocolCore
import GhostMedia.Control.JsonAcceptance
import GhostMedia.Foundation.Runs
import GhostMedia.Foundation.StreamReader
import GhostMedia.Media.HeaderCodec

/- Control frames over a byte stream. The decoder reads frames off the front of its
   buffer and never changes a verdict, so the payloads depend on the stream alone. -/
namespace GhostMedia.Bridge
open Control Json Media StreamReader

/-- The payload length that the first four bytes announce. -/
def announced (buffer : List UInt8) : Nat := BigEndian.value (buffer.take 4)

def badPrefix : ProtocolCoreError := .callFailed "gm_control_peek_frame" "GM_BAD_MESSAGE"

section Front
variable {buffer : List UInt8}

theorem read_announced (header : 4 ≤ buffer.length) :
    (readU32Be buffer).toNat = announced buffer := by
  rw [read_u32_be_value, announced, take_eq_map_byte_at header]
  rfl

theorem announced_append (header : 4 ≤ buffer.length) (more : List UInt8) :
    announced (buffer ++ more) = announced buffer := by
  rw [announced, announced, List.take_append_of_le_length header]

/-- The peek at a buffer with a length field, in terms of the announced length. -/
theorem peek_announced (header : 4 ≤ buffer.length) :
    gmControlPeekFrame (.view buffer) ⟨sizeofGmControlFrameInfo, 0, 0, 0, 0⟩ =
      if announced buffer < 2 ∨ 65536 < announced buffer then
        (.badMessage, clearedFrameInfo sizeofGmControlFrameInfo)
      else if buffer.length < 4 + announced buffer then
        (.needMoreData,
          ⟨sizeofGmControlFrameInfo, gmAbiVersion, readU32Be buffer, 4 + announced buffer, 0⟩)
      else (.ok,
        ⟨sizeofGmControlFrameInfo, gmAbiVersion, readU32Be buffer, 4 + announced buffer, 1⟩) := by
  have short : ¬ buffer.length < 4 := Nat.not_lt.mpr header
  have sized : (decide (sizeofGmControlFrameInfo < sizeofGmControlFrameInfo) ||
      !hasReadableData (.view buffer)) = false := rfl
  simp only [gmControlPeekFrame, sized, view_size, short, view_data, read_announced header,
    Bool.false_eq_true, if_false, Bool.or_eq_true, decide_eq_true_eq, gt_iff_lt]
  rfl

/-- The inspection of a buffer with a length field, in terms of the announced length. -/
theorem inspect_announced (header : 4 ≤ buffer.length) :
    inspectControlFrame buffer =
      if announced buffer < 2 ∨ 65536 < announced buffer then .error badPrefix
      else if buffer.length < 4 + announced buffer then
        .ok (.needsMoreData (some (4 + announced buffer)))
      else .ok (.complete (announced buffer) (4 + announced buffer)) := by
  rw [inspectControlFrame, peek_announced header]
  by_cases bad : announced buffer < 2 ∨ 65536 < announced buffer
  · rw [if_pos bad, if_pos bad]
    rfl
  rw [if_neg bad, if_neg bad]
  by_cases partly : buffer.length < 4 + announced buffer
  · have positive : 4 + announced buffer ≠ 0 := Nat.ne_of_gt (Nat.add_pos_left (by decide) _)
    rw [if_pos partly, if_pos partly]
    dsimp only
    rw [if_pos rfl, if_neg positive]
    rfl
  · rw [if_neg partly, if_neg partly]
    exact congrArg (fun length => Except.ok (ControlFrameInspection.complete length _))
      (read_announced header)

/-- One request of the decoder, in terms of the announced length. -/
theorem next_payload_eq (buffer : List UInt8) :
    ControlFrameDecoder.nextPayload ⟨buffer⟩ =
      if buffer.length < 4 then .ok none ⟨buffer⟩
      else if announced buffer < 2 ∨ 65536 < announced buffer then .error badPrefix ⟨buffer⟩
      else if buffer.length < 4 + announced buffer then .ok none ⟨buffer⟩
      else .ok (some ((buffer.drop 4).take (announced buffer)))
        ⟨buffer.drop (4 + announced buffer)⟩ := by
  by_cases header : buffer.length < 4
  · rw [if_pos header, ControlFrameDecoder.nextPayload]
    simp [inspectControlFrame, gmControlPeekFrame, clearedFrameInfo, header, pure, Except.pure]
  rw [if_neg header, ControlFrameDecoder.nextPayload, inspect_announced (Nat.not_lt.mp header)]
  by_cases bad : announced buffer < 2 ∨ 65536 < announced buffer
  · rw [if_pos bad, if_pos bad]
  rw [if_neg bad, if_neg bad]
  by_cases partly : buffer.length < 4 + announced buffer
  · rw [if_pos partly, if_pos partly]
  · rw [if_neg partly, if_neg partly]
    simp only [Nat.add_sub_cancel, List.drop_take, Nat.add_sub_cancel_left]

end Front

def decoderReader : Reader ControlFrameDecoder UInt8 (List UInt8) ProtocolCoreError :=
  ⟨ControlFrameDecoder.append, ControlFrameDecoder.nextPayload,
    ControlFrameDecoder.bufferedByteCount⟩

section Requests
variable {d d' : ControlFrameDecoder} {payload : List UInt8} {error : ProtocolCoreError}

theorem next_payload_none (waits : d.nextPayload = .ok none d') :
    d' = d ∧ d.bufferedByteCount < 65540 := by
  obtain ⟨buffer⟩ := d
  rw [next_payload_eq] at waits
  rw [ControlFrameDecoder.bufferedByteCount]
  split at waits
  · cases waits
    exact ⟨rfl, by dsimp only; omega⟩
  · split at waits
    · cases waits
    · split at waits
      · cases waits
        exact ⟨rfl, by dsimp only; omega⟩
      · cases waits

/-- A payload is found where the buffer holds a frame of an accepted length. -/
theorem next_payload_found {buffer : List UInt8}
    (found : ControlFrameDecoder.nextPayload ⟨buffer⟩ = .ok (some payload) d') :
    4 ≤ buffer.length ∧ ¬ (announced buffer < 2 ∨ 65536 < announced buffer) ∧
      4 + announced buffer ≤ buffer.length ∧ payload = (buffer.drop 4).take (announced buffer) ∧
      d' = ⟨buffer.drop (4 + announced buffer)⟩ := by
  rw [next_payload_eq] at found
  split at found
  · cases found
  · rename_i header
    split at found
    · cases found
    · rename_i good
      split at found
      · cases found
      · rename_i whole
        cases found
        exact ⟨Nat.not_lt.mp header, good, Nat.not_lt.mp whole, rfl, rfl⟩

theorem next_payload_some (found : d.nextPayload = .ok (some payload) d') :
    d'.bufferedByteCount < d.bufferedByteCount ∧
      ∀ more, (d.append more).nextPayload = .ok (some payload) (d'.append more) := by
  obtain ⟨buffer⟩ := d
  obtain ⟨header, good, whole, rfl, rfl⟩ := next_payload_found found
  refine ⟨?_, fun more => ?_⟩
  · simp only [ControlFrameDecoder.bufferedByteCount, List.length_drop]
    omega
  · have room : announced buffer ≤ (buffer.drop 4).length := by
      rw [List.length_drop]
      omega
    have longer := Nat.le_add_right buffer.length more.length
    change ControlFrameDecoder.nextPayload ⟨buffer ++ more⟩ = _
    rw [next_payload_eq, announced_append header, List.length_append, if_neg (by omega),
      if_neg good, if_neg (by omega),
      List.drop_append_of_le_length header, List.take_append_of_le_length room,
      List.drop_append_of_le_length whole]
    rfl

/-- What makes the decoder throw: a whole length prefix outside the limits. -/
def BadFront (d : ControlFrameDecoder) : Prop :=
  4 ≤ d.bufferedByteCount ∧ (announced d.bufferedBytes < 2 ∨ 65536 < announced d.bufferedBytes)

theorem bad_front_throws (bad : BadFront d) : d.nextPayload = .error badPrefix d := by
  obtain ⟨header, range⟩ := bad
  rw [next_payload_eq d.bufferedBytes]
  exact (if_neg (Nat.not_lt.mpr header)).trans (if_pos range)

theorem bad_front_append (bad : BadFront d) (more : List UInt8) : BadFront (d.append more) := by
  obtain ⟨header, range⟩ := bad
  have same : announced (d.bufferedBytes ++ more) = announced d.bufferedBytes :=
    announced_append header more
  refine ⟨?_, ?_⟩
  · rw [ControlFrameDecoder.bufferedByteCount, ControlFrameDecoder.append, List.length_append]
    exact header.trans (Nat.le_add_right _ _)
  · rwa [ControlFrameDecoder.append, same]

theorem next_payload_error (thrown : d.nextPayload = .error error d') :
    d' = d ∧ error = badPrefix ∧ BadFront d := by
  obtain ⟨buffer⟩ := d
  rw [next_payload_eq] at thrown
  split at thrown
  · cases thrown
  · rename_i header
    split at thrown
    · rename_i range
      cases thrown
      exact ⟨rfl, rfl, Nat.not_lt.mp header, range⟩
    · split at thrown <;> cases thrown

theorem decoder_incremental : Incremental decoderReader where
  append_nil d := congrArg ControlFrameDecoder.mk (List.append_nil d.bufferedBytes)
  append_append d xs ys := congrArg ControlFrameDecoder.mk (List.append_assoc d.bufferedBytes xs ys)
  read := next_payload_some
  wait waits := (next_payload_none waits).1
  fail thrown := by
    obtain ⟨same, rfl, bad⟩ := next_payload_error thrown
    exact ⟨same, fun more => bad_front_throws (bad_front_append bad more)⟩

end Requests

section Framed
variable {payload : List UInt8}

/-- A payload behind its length. -/
def framed (payload : List UInt8) : List UInt8 := writeU32Be payload.length.toUInt32 ++ payload

def FrameSized (payload : List UInt8) : Prop := 2 ≤ payload.length ∧ payload.length ≤ 65536

theorem next_payload_framed (limits : FrameSized payload) (more : List UInt8) :
    ControlFrameDecoder.nextPayload ⟨framed payload ++ more⟩ = .ok (some payload) ⟨more⟩ := by
  obtain ⟨long, short⟩ := limits
  rw [framed]
  have size : payload.length.toUInt32.toNat = payload.length := by
    rw [Nat.toUInt32, UInt32.toNat_ofNat']
    omega
  have four : (writeU32Be payload.length.toUInt32).length = 4 := rfl
  have header :
      announced (writeU32Be payload.length.toUInt32 ++ payload ++ more) = payload.length := by
    rw [← read_announced (by simp only [List.length_append, four]; omega), List.append_assoc,
      read_write_u32_be, size]
  have rest : (writeU32Be payload.length.toUInt32 ++ payload ++ more).drop 4 = payload ++ more := by
    rw [List.append_assoc, ← four, List.drop_left]
  rw [next_payload_eq, header, if_neg (by simp only [List.length_append, four]; omega),
    if_neg (by omega), if_neg (by simp only [List.length_append, four]; omega), rest,
    List.take_left, ← List.drop_drop, rest, List.drop_left]

/-- What the decoder gives was a frame in front of what it keeps. -/
theorem framed_of_next_payload {d d' : ControlFrameDecoder}
    (found : d.nextPayload = .ok (some payload) d') :
    d.bufferedBytes = framed payload ++ d'.bufferedBytes ∧ FrameSized payload := by
  obtain ⟨buffer⟩ := d
  obtain ⟨header, good, whole, rfl, rfl⟩ := next_payload_found found
  have size : ((buffer.drop 4).take (announced buffer)).length = announced buffer := by
    rw [List.length_take, List.length_drop]
    omega
  have number : (announced buffer).toUInt32 = readU32Be buffer := by
    apply UInt32.toNat_inj.mp
    rw [Nat.toUInt32, UInt32.toNat_ofNat', read_announced header]
    omega
  have spelled : writeU32Be (announced buffer).toUInt32 = buffer.take 4 := by
    rw [number, write_read_u32_be, take_eq_map_byte_at header]
    rfl
  refine ⟨?_, ?_⟩
  · rw [framed, size, spelled, List.append_assoc, ← List.drop_drop, List.take_append_drop,
      List.take_append_drop]
  · rw [FrameSized, size]
    omega

theorem drain_framed {payloads : List (List UInt8)} (limits : ∀ p ∈ payloads, FrameSized p)
    (rest : List UInt8) :
    drain decoderReader ⟨(payloads.map framed).flatten ++ rest⟩ =
      (payloads ++ (drain decoderReader ⟨rest⟩).1, (drain decoderReader ⟨rest⟩).2) := by
  induction payloads with
  | nil => rfl
  | cons payload payloads ih =>
    obtain ⟨first, later⟩ := List.forall_mem_cons.mp limits
    rw [List.map_cons, List.flatten_cons, List.append_assoc,
      drain_read decoder_incremental (next_payload_framed first _), ih later]
    rfl

/-- The decoder takes frames off the front until it fails or waits. -/
theorem framed_of_drain (d : ControlFrameDecoder) :
    d.bufferedBytes = ((drain decoderReader d).1.map framed).flatten ++
        (drain decoderReader d).2.bufferedBytes ∧
      ∀ payload ∈ (drain decoderReader d).1, FrameSized payload := by
  induction size : d.bufferedByteCount using Nat.strongRecOn generalizing d with
  | _ n ih =>
    by_cases done : Exhausted decoderReader d
    · rw [drain_of_exhausted decoder_incremental done]
      exact ⟨rfl, fun payload member => absurd member List.not_mem_nil⟩
    · simp only [Exhausted, not_forall, not_not] at done
      obtain ⟨payload, d', found⟩ := done
      obtain ⟨cut, limits⟩ := framed_of_next_payload found
      have smaller := (next_payload_some found).1
      obtain ⟨rest, all⟩ := ih _ (by omega) d' rfl
      rw [drain_read decoder_incremental found]
      refine ⟨?_, List.forall_mem_cons.mpr ⟨limits, all⟩⟩
      rw [List.map_cons, List.flatten_cons, List.append_assoc, ← rest]
      exact cut

end Framed

section Frames
variable {text frame : List UInt8}

/-- The frame that `gm_control_encode_frame` writes for an accepted text. -/
def Frames (text frame : List UInt8) : Prop :=
  ∃ output result written,
    gmControlEncodeFrame (.view text) output = ⟨.ok, .view result, some written⟩ ∧
      frame = result.take written

theorem write_frame (data text : List UInt8) :
    (writeAt (writeAt data 0 (writeU32Be text.length.toUInt32)) 4 text).take (4 + text.length) =
      writeU32Be text.length.toUInt32 ++ text := by
  simp only [writeAt, writeU32Be, List.take_zero, List.nil_append, List.cons_append,
    List.length_cons, List.length_nil, Nat.zero_add, List.take_succ_cons]
  rw [Nat.add_comm 4]
  simp only [List.take_succ_cons]
  rw [List.take_append_of_le_length (Nat.le_refl _), List.take_length]

theorem encode_refused (refused : gmControlValidateJsonText (.view text) ≠ .ok) (output : GmBytes)
    (writable : hasReadableData output = true) :
    gmControlEncodeFrame (.view text) output =
      ⟨gmControlValidateJsonText (.view text), output, none⟩ := by
  rw [gmControlEncodeFrame, writable, if_neg (by decide)]
  exact if_pos refused

theorem encode_accepted (valid : gmControlValidateJsonText (.view text) = .ok) (data : List UInt8)
    (room : 4 + text.length ≤ data.length) :
    gmControlEncodeFrame (.view text) (.view data) =
      ⟨.ok, .view (writeAt (writeAt data 0 (writeU32Be text.length.toUInt32)) 4 text),
        some (4 + text.length)⟩ := by
  have fits : ¬ (GmBytes.view data).size < 4 + (GmBytes.view text).size := Nat.not_lt.mpr room
  rw [gmControlEncodeFrame, view_readable, if_neg (by decide)]
  exact (if_neg (not_not.mpr valid)).trans (if_neg fits)

theorem frames_iff : Frames text frame ↔ gmControlValidateJsonText (.view text) = .ok ∧
    frame = writeU32Be text.length.toUInt32 ++ text := by
  constructor
  · rintro ⟨output, result, written, encoded, rfl⟩
    rw [gmControlEncodeFrame] at encoded
    split at encoded
    · cases encoded
    · dsimp only at encoded
      split at encoded
      · rename_i refused
        exact absurd (congrArg EncodeResult.status encoded) refused
      · rename_i valid
        refine ⟨not_not.mp valid, ?_⟩
        split at encoded
        · cases encoded
        · cases output with
          | null size => cases encoded
          | view data =>
            cases encoded
            exact write_frame data text
  · rintro ⟨valid, rfl⟩
    have room : 4 + text.length ≤ (List.replicate (4 + text.length) (0 : UInt8)).length := by
      rw [List.length_replicate]
    exact ⟨.view (List.replicate (4 + text.length) 0), _, _,
      encode_accepted valid _ room, (write_frame _ text).symm⟩

/-- The bridge's encoder gives the same frames. -/
theorem encode_control_frame_iff : encodeControlFrame text = .ok frame ↔ Frames text frame := by
  rw [frames_iff]
  by_cases valid : gmControlValidateJsonText (.view text) = .ok
  · have sizing : gmControlEncodeFrame (.view text) (.null 0) =
        ⟨.bufferTooSmall, .null 0, some (4 + text.length)⟩ := by
      simp [gmControlEncodeFrame, hasReadableData, valid, GmBytes.size]
    have filled := encode_accepted valid (List.replicate (4 + text.length) 0) (by simp)
    simp only [encodeControlFrame, sizing, ne_eq, not_true_eq_false, if_false, Option.getD_some,
      filled, requireOk, if_true, view_data, write_frame, valid, true_and]
    exact ⟨fun same => (Except.ok.inj same).symm, fun same => congrArg Except.ok same.symm⟩
  · have sizing := encode_refused valid (.null 0) rfl
    have filled := encode_refused valid (.view (List.replicate 0 0)) rfl
    simp only [encodeControlFrame, sizing, valid, false_and, iff_false, Option.getD_none, filled]
    split <;> simp [requireOk, valid, bind, Except.bind]

theorem frames_length (frames : Frames text frame) : FrameSized text := by
  obtain ⟨root, accepted⟩ :=
    (validate_iff text).mp (frames_iff.mp frames).1
  have long := accepted.long
  have short := accepted.short
  exact ⟨long, by omega⟩

theorem next_payload_frame (frames : Frames text frame) (more : List UInt8) :
    ControlFrameDecoder.nextPayload ⟨frame ++ more⟩ = .ok (some text) ⟨more⟩ := by
  obtain ⟨_, rfl⟩ := frames_iff.mp frames
  exact next_payload_framed (frames_length frames) more

theorem drain_frames {texts frames : List (List UInt8)}
    (framed : List.Forall₂ Frames texts frames) :
    drain decoderReader ⟨frames.flatten⟩ = (texts, {}) := by
  induction framed with
  | nil => rfl
  | cons first _ ih =>
    rw [List.flatten_cons, drain_read decoder_incremental (next_payload_frame first _), ih]

end Frames

/-- What a stream cut into chunks gives when, after each chunk, payloads are asked for
    until there is none. -/
def receive (chunks : List (List UInt8)) : List (List UInt8) × ControlFrameDecoder :=
  feed decoderReader {} chunks

theorem empty_exhausted : Exhausted decoderReader {} := by
  intro payload d found
  cases found

inductive DecoderCall where
  | append (bytes : List UInt8)
  | nextPayload

/-- One call on a decoder; an append returns nothing. -/
def decoderStep (d : ControlFrameDecoder) :
    DecoderCall → Option (Except ProtocolCoreError (Option (List UInt8))) × ControlFrameDecoder
  | .append bytes => (none, d.append bytes)
  | .nextPayload =>
    match d.nextPayload with
    | .ok payload d' => (some (.ok payload), d')
    | .error error d' => (some (.error error), d')

theorem bad_front_run {d : ControlFrameDecoder} (bad : BadFront d) (calls : List DecoderCall) :
    ∀ e ∈ Runs.events decoderStep d calls, e.input = .nextPayload →
      e.output = some (.error badPrefix) := by
  have kept (s : ControlFrameDecoder) (call : DecoderCall) (held : BadFront s) :
      BadFront (decoderStep s call).2 := by
    cases call with
    | append bytes => exact bad_front_append held bytes
    | nextPayload =>
      rw [decoderStep, bad_front_throws held]
      exact held
  intro e member isNext
  obtain ⟨before, call, after, rfl, rfl⟩ := Runs.event_of_mem decoderStep member
  have held := Runs.invariant_of_run decoderStep BadFront bad kept before
  have call_eq : call = .nextPayload := isNext
  subst call_eq
  rw [Runs.event, decoderStep, bad_front_throws held]

/-- Control framing over any segmentation of the stream. -/
theorem control_framing_survives_segmentation :
    (∀ texts frames chunks, List.Forall₂ Frames texts frames → chunks.flatten = frames.flatten →
      receive chunks = (texts, {})) ∧
    (∀ chunks others : List (List UInt8), chunks.flatten = others.flatten →
      receive chunks = receive others) ∧
    (∀ d d' : ControlFrameDecoder, d.nextPayload = .ok none d' →
      d' = d ∧ d.bufferedByteCount < 65540) ∧
    ∀ (d : ControlFrameDecoder) (calls : List DecoderCall), BadFront d →
      ∀ e ∈ Runs.events decoderStep d calls, e.input = .nextPayload →
        e.output = some (.error badPrefix) := by
  refine ⟨fun texts frames chunks framed same => ?_, fun chunks others same => ?_,
    fun d d' waits => next_payload_none waits, fun d calls bad => bad_front_run bad calls⟩
  · rw [receive, feed_flatten decoder_incremental chunks empty_exhausted, same]
    exact drain_frames framed
  · exact feed_independent decoder_incremental empty_exhausted same

/-- Two frames cut inside the first prefix and inside the first payload. -/
theorem control_framing_sample :
    receive [[0, 0], [0, 2, 123], [125, 0, 0, 0, 2, 123, 125]] =
      ([ascii "\x7b\x7d", ascii "\x7b\x7d"], {}) := by
  have framed : Frames (ascii "\x7b\x7d") [0, 0, 0, 2, 123, 125] :=
    frames_iff.mpr ⟨by decide, rfl⟩
  exact control_framing_survives_segmentation.1 _ _ _ (.cons framed (.cons framed .nil)) rfl

end GhostMedia.Bridge
