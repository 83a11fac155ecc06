import GhostMedia.Bridge.Segmentation
import GhostMedia.Control.CompactTexts
import GhostMedia.Control.Extraction
import GhostMedia.Control.ResultTexts
import GhostMedia.Interop.KeyDerivation

/- The request builders of the Windows probe's main.cpp against the shared parser: each
   text is accepted as the request it was built for. `std::to_string` of an unsigned number
   is its decimal rendering. -/
namespace GhostMedia.Interop
open CString Control Json Media

namespace Probe

/-- A `std::ostringstream` with the fill '0': an insertion is padded on the left to the
    width, which falls back to zero. -/
structure OStringStream where
  str : List UInt8
  width : Nat

def OStringStream.insert (stream : OStringStream) (text : List UInt8) : OStringStream :=
  ⟨stream.str ++ List.replicate (stream.width - text.length) 48 ++ text, 0⟩

def OStringStream.setw (stream : OStringStream) (width : Nat) : OStringStream :=
  { stream with width := width }

/-- An unsigned number under `std::hex` -/
def hexText (n : Nat) : List UInt8 := (Nat.toDigits 16 n).map fun digit => digit.toNat.toUInt8

def escapeCharacter (escaped : OStringStream) (character : UInt8) : OStringStream :=
  if character = 34 then escaped.insert (ascii "\\\"")
  else if character = 92 then escaped.insert (ascii "\\\\")
  else if character = 8 then escaped.insert (ascii "\\b")
  else if character = 12 then escaped.insert (ascii "\\f")
  else if character = 10 then escaped.insert (ascii "\\n")
  else if character = 13 then escaped.insert (ascii "\\r")
  else if character = 9 then escaped.insert (ascii "\\t")
  else if character < 0x20 then
    ((escaped.insert (ascii "\\u")).setw 4).insert (hexText character.toNat)
  else escaped.insert [character]

def escapeJsonString (text : List UInt8) : List UInt8 :=
  (text.foldl escapeCharacter ⟨[], 0⟩).str

structure Options where
  clientName : List UInt8
  udpPort : UInt16

def sessionHelloJson (options : Options) : List UInt8 :=
  ascii "\x7b\"v\":1,\"id\":1,\"type\":\"session.hello\",\"role\":\"win-client\"," ++
    ascii "\"client_name\":\"" ++ escapeJsonString options.clientName ++
    ascii "\",\"versions\":[1],\"udp_port\":" ++ Decimal.render options.udpPort.toNat ++
    ascii "\x7d"

def transportBindJson (sessionId : List UInt8) (udpPort : UInt16) : List UInt8 :=
  ascii "\x7b\"v\":1,\"id\":2,\"type\":\"transport.bind\",\"session_id\":\"" ++ sessionId ++
    ascii "\",\"udp_port\":" ++ Decimal.render udpPort.toNat ++ ascii "\x7d"

def streamOpenJson (playoutTargetMs : UInt16) : List UInt8 :=
  ascii "\x7b\"v\":1,\"id\":3,\"type\":\"stream.open\",\"kind\":\"audio\"," ++
    ascii "\"direction\":\"win_to_apple\",\"profile\":\x7b\"codec\":\"pcm_s16le\"," ++
    ascii "\"sample_rate_hz\":48000,\"channels\":2,\"channel_layout\":\"stereo\"," ++
    ascii "\"frames_per_packet\":240\x7d,\"playout_target_ms\":" ++
    Decimal.render playoutTargetMs.toNat ++ ascii "\x7d"

def streamStartJson (streamId : UInt32) (firstMediaTimestamp : UInt64) : List UInt8 :=
  ascii "\x7b\"v\":1,\"id\":4,\"type\":\"stream.start\",\"stream_id\":" ++
    Decimal.render streamId.toNat ++ ascii ",\"first_media_timestamp\":\"" ++
    Decimal.render firstMediaTimestamp.toNat ++ ascii "\"\x7d"

/-- `gm_control_message_info message{}` with its size filled in -/
def blankMessage : GmControlMessageInfo :=
  { clearedInfo sizeofGmControlMessageInfo with
    abiVersion := 0
    profile := ⟨0, 0, 0, 0, 0, 0, 0, 0, 0⟩ }

def parseControlMessage (json : List UInt8) (label : String) :
    Except ProbeError GmControlMessageInfo :=
  match gmControlParseMessage (.view json) blankMessage with
  | .ok message => .ok message
  | .error status =>
    .error (.message (label ++ " rejected by gm_core: " ++ gmStatusString status))

def encodeControlFrame (json : List UInt8) (label : String) : Except ProbeError (List UInt8) := do
  let _ ← parseControlMessage json label
  let frame := List.replicate (gmControlFrameHeaderBytes + json.length) 0
  let result := gmControlEncodeFrame (.view json) (.view frame)
  if result.status ≠ .ok then
    throw (.message (label ++ " frame rejected by gm_core: " ++ gmStatusString result.status))
  return result.output.data.take (result.written.getD 0)

end Probe

section Escapes
open Probe

/-- What the builder writes for a byte of a string. -/
def spelled (b : UInt8) : List UInt8 := (escapeCharacter ⟨[], 0⟩ b).str

theorem escape_character_eq (text : List UInt8) (b : UInt8) :
    escapeCharacter ⟨text, 0⟩ b = ⟨text ++ spelled b, 0⟩ := by
  unfold spelled escapeCharacter
  repeat' split
  all_goals simp [OStringStream.insert, OStringStream.setw]

theorem escape_json_string_eq (text : List UInt8) :
    escapeJsonString text = text.flatMap spelled := by
  have general (written : List UInt8) :
      text.foldl escapeCharacter ⟨written, 0⟩ = ⟨written ++ text.flatMap spelled, 0⟩ := by
    induction text generalizing written with
    | nil => simp
    | cons b rest ih => rw [List.foldl_cons, escape_character_eq, ih]; simp
  rw [escapeJsonString, general]
  rfl

/-- The four digits that the width and the fill make of a control character. -/
theorem padded_hex :
    ∀ n < 0x20, List.replicate (4 - (hexText n).length) 48 ++ hexText n =
      [48, 48, UInt8.ofNat (48 + n / 16),
        UInt8.ofNat (if n % 16 < 10 then 48 + n % 16 else 87 + n % 16)] := by
  decide +kernel

theorem padded_hex_unit {n : Nat} (small : n < 0x20) :
    HexUnit (List.replicate (4 - (hexText n).length) 48 ++ hexText n) n := by
  have zero : HexDigit 48 0 := .inl (by decide)
  have high : HexDigit (UInt8.ofNat (48 + n / 16)) (n / 16) := by
    refine .inl ⟨by omega, ?_⟩
    rw [UInt8.toNat_ofNat']
    omega
  have low :
      HexDigit (UInt8.ofNat (if n % 16 < 10 then 48 + n % 16 else 87 + n % 16)) (n % 16) := by
    by_cases decimal : n % 16 < 10
    · rw [if_pos decimal]
      refine .inl ⟨decimal, ?_⟩
      rw [UInt8.toNat_ofNat']
      omega
    · rw [if_neg decimal]
      refine .inr ⟨by omega, by omega, .inl ?_⟩
      rw [UInt8.toNat_ofNat']
      omega
  have value : ((0 * 16 + 0) * 16 + n / 16) * 16 + n % 16 = n := by omega
  have unit := HexUnit.four zero zero high low
  rwa [value, ← padded_hex n small] at unit

theorem spelled_plain {b : UInt8} (plain : Plain b) : spelled b = [b] := by
  obtain ⟨printable, quote, backslash⟩ := plain
  have other (c : UInt8) (control : c < 0x20) : b ≠ c := by
    rintro rfl
    exact absurd printable (UInt8.not_le.mpr control)
  simp [spelled, escapeCharacter, OStringStream.insert, quote, backslash, other,
    UInt8.not_lt.mpr printable]

/-- The bytes that the builder writes as escapes of one letter. -/
def lettered : List UInt8 := [34, 92, 8, 12, 10, 13, 9]

theorem spelled_letter {b : UInt8} (letter : b ∈ lettered) :
    ∃ e, (e, b) ∈ shortEscapes ∧ spelled b = [92, e] := by
  simp only [lettered, List.mem_cons, List.not_mem_nil, or_false] at letter
  rcases letter with rfl | rfl | rfl | rfl | rfl | rfl | rfl
  · exact ⟨34, by decide, by decide⟩
  · exact ⟨92, by decide, by decide⟩
  · exact ⟨98, by decide, by decide⟩
  · exact ⟨102, by decide, by decide⟩
  · exact ⟨110, by decide, by decide⟩
  · exact ⟨114, by decide, by decide⟩
  · exact ⟨116, by decide, by decide⟩

theorem spelled_control {b : UInt8} (letterless : b ∉ lettered) (control : b < 0x20) :
    spelled b = 92 :: 117 ::
      (List.replicate (4 - (hexText b.toNat).length) 48 ++ hexText b.toNat) := by
  simp only [lettered, List.mem_cons, List.not_mem_nil, or_false, not_or] at letterless
  obtain ⟨quote, backslash, back, feed, line, carriage, tab⟩ := letterless
  simp [spelled, escapeCharacter, OStringStream.insert, OStringStream.setw, quote, backslash, back,
    feed, line, carriage, tab, control, ascii]

theorem plain_of_letterless {b : UInt8} (letterless : b ∉ lettered) (printable : ¬ b < 0x20) :
    Plain b := by
  simp only [lettered, List.mem_cons, List.not_mem_nil, or_false, not_or] at letterless
  exact ⟨UInt8.not_lt.mp printable, letterless.1, letterless.2.1⟩

theorem spelled_body (b : UInt8) {text value : List UInt8} (rest : StringBody text value) :
    StringBody (spelled b ++ text) (b :: value) := by
  by_cases letter : b ∈ lettered
  · obtain ⟨e, known, shape⟩ := spelled_letter letter
    rw [shape]
    exact .escape (.short known) rest
  by_cases control : b < 0x20
  · have small : b.toNat < 0x20 := UInt8.lt_iff_toNat_lt.mp control
    obtain ⟨c, point, shape⟩ := Utf8.encode_one b (by omega)
    have unit := padded_hex_unit small
    rw [← point] at unit
    have escaped := StringBody.escape (.unit unit) rest
    rw [shape, point] at escaped
    rw [spelled_control letter control]
    exact escaped
  · have plain := plain_of_letterless letter control
    rw [spelled_plain plain]
    exact .raw plain rest

/-- The parser reads back from an escaped text the text itself. -/
theorem escaped_body (text : List UInt8) : StringBody (escapeJsonString text) text := by
  rw [escape_json_string_eq]
  induction text with
  | nil => exact .done
  | cons b rest ih => exact spelled_body b ih

theorem spelled_ascii :
    ∀ n < 0x80, spelled (UInt8.ofNat n) ≠ [] ∧ (spelled (UInt8.ofNat n)).length ≤ 6 ∧
      ∀ x ∈ spelled (UInt8.ofNat n), x.toNat ≤ 0x7f := by
  have some : ∀ n < 0x80, spelled (UInt8.ofNat n) ≠ [] := by decide +kernel
  have short : ∀ n < 0x80, (spelled (UInt8.ofNat n)).length ≤ 6 := by decide +kernel
  have low : ∀ n < 0x80, (spelled (UInt8.ofNat n)).all (fun x => x.toNat ≤ 0x7f) = true := by
    decide +kernel
  intro n small
  refine ⟨some n small, short n small, fun x member => ?_⟩
  simpa using List.all_eq_true.mp (low n small) x member

theorem spelled_high {b : UInt8} (high : 0x7f < b.toNat) : spelled b = [b] := by
  have other (c : UInt8) (low : c.toNat ≤ 0x7f) : b ≠ c := by
    rintro rfl
    omega
  refine spelled_plain ⟨?_, other 34 (by decide), other 92 (by decide)⟩
  refine UInt8.le_iff_toNat_le.mpr ?_
  simp only [UInt8.reduceToNat]
  omega

theorem spelled_spelling : Utf8.Spelling spelled where
  nonempty b := by
    by_cases low : b.toNat ≤ 0x7f
    · have small := (spelled_ascii b.toNat (by omega)).1
      rwa [UInt8.ofNat_toNat] at small
    · have same := spelled_high (Nat.lt_of_not_le low)
      simp [same]
  ascii b low := by
    have small := (spelled_ascii b.toNat (by omega)).2.2
    rwa [UInt8.ofNat_toNat] at small
  high b := spelled_high

theorem escaped_length (text : List UInt8) :
    (escapeJsonString text).length ≤ 6 * text.length := by
  rw [escape_json_string_eq]
  induction text with
  | nil => exact Nat.le_refl 0
  | cons b rest ih =>
    have first : (spelled b).length ≤ 6 := by
      by_cases low : b.toNat ≤ 0x7f
      · have small := (spelled_ascii b.toNat (by omega)).2.1
        rwa [UInt8.ofNat_toNat] at small
      · have same := spelled_high (Nat.lt_of_not_le low)
        simp [same]
    simp only [List.flatMap_cons, List.length_append, List.length_cons]
    omega

end Escapes

section Texts
open Probe

def quoted (body : List UInt8) : List UInt8 := 34 :: (body ++ [34])

/-- The texts of the members common to all requests. -/
def requestTexts (id type : List UInt8) (fields : List (List UInt8)) : List (List UInt8) :=
  memberBytes (ascii "v") (ascii "1") :: memberBytes (ascii "id") id ::
    memberBytes (ascii "type") (quoted type) :: fields

theorem session_hello_text (options : Options) :
    sessionHelloJson options =
      objectBytes (requestTexts (ascii "1") (ascii "session.hello")
        [memberBytes (ascii "role") (quoted (ascii "win-client")),
          memberBytes (ascii "client_name") (quoted (escapeJsonString options.clientName)),
          memberBytes (ascii "versions") (91 :: (ascii "1" ++ [93])),
          memberBytes (ascii "udp_port") (Decimal.render options.udpPort.toNat)]) := by
  simp only [sessionHelloJson, objectBytes, requestTexts, commaBytes, memberBytes, quoted,
    List.append_assoc, List.cons_append, List.nil_append]
  rfl

theorem transport_bind_text (sessionId : List UInt8) (udpPort : UInt16) :
    transportBindJson sessionId udpPort =
      objectBytes (requestTexts (ascii "2") (ascii "transport.bind")
        [memberBytes (ascii "session_id") (quoted sessionId),
          memberBytes (ascii "udp_port") (Decimal.render udpPort.toNat)]) := by
  simp only [transportBindJson, objectBytes, requestTexts, commaBytes, memberBytes, quoted,
    List.append_assoc, List.cons_append, List.nil_append]
  rfl

set_option maxRecDepth 2000 in
theorem stream_open_text (playoutTargetMs : UInt16) :
    streamOpenJson playoutTargetMs =
      objectBytes (requestTexts (ascii "3") (ascii "stream.open")
        [memberBytes (ascii "kind") (quoted (ascii "audio")),
          memberBytes (ascii "direction") (quoted (ascii "win_to_apple")),
          memberBytes (ascii "profile") (objectBytes
            [memberBytes (ascii "codec") (quoted (ascii "pcm_s16le")),
              memberBytes (ascii "sample_rate_hz") (ascii "48000"),
              memberBytes (ascii "channels") (ascii "2"),
              memberBytes (ascii "channel_layout") (quoted (ascii "stereo")),
              memberBytes (ascii "frames_per_packet") (ascii "240")]),
          memberBytes (ascii "playout_target_ms") (Decimal.render playoutTargetMs.toNat)]) := by
  simp only [streamOpenJson, objectBytes, requestTexts, commaBytes, memberBytes, quoted,
    List.append_assoc, List.cons_append, List.nil_append]
  rfl

theorem stream_start_text (streamId : UInt32) (firstMediaTimestamp : UInt64) :
    streamStartJson streamId firstMediaTimestamp =
      objectBytes (requestTexts (ascii "4") (ascii "stream.start")
        [memberBytes (ascii "stream_id") (Decimal.render streamId.toNat),
          memberBytes (ascii "first_media_timestamp")
            (quoted (Decimal.render firstMediaTimestamp.toNat))]) := by
  simp only [streamStartJson, objectBytes, requestTexts, commaBytes, memberBytes, quoted,
    List.append_assoc, List.cons_append, List.nil_append]
  rfl

end Texts

section Shapes
variable {levels : Nat}

theorem number_shape (value : UInt32) :
    NestedValue (levels + 1) (Decimal.render value.toNat) (number value) :=
  .number (by simpa using number_text value.toUInt64)

theorem port_shape (value : UInt16) :
    NestedValue (levels + 1) (Decimal.render value.toNat) (number value.toUInt32) := by
  have shape : NestedValue (levels + 1) _ (number value.toUInt32) := number_shape value.toUInt32
  simpa using shape

theorem literal_shape {text : List UInt8} {value : UInt32}
    (digits : Decimal.render value.toNat = text) :
    NestedValue (levels + 1) text (number value) :=
  digits ▸ number_shape value

theorem quoted_shape {body value : List UInt8} (written : StringBody body value)
    (short : value.length ≤ 4096) : NestedValue (levels + 1) (quoted body) (.string value) :=
  .string (quoted_text written short)

theorem name_shape {text : List UInt8} (plain : PlainText text ∧ text.length ≤ 4096) :
    NestedValue (levels + 1) (quoted text) (.string text) :=
  quoted_shape (plain_body plain.1) plain.2

theorem request_shapes {id : UInt32} {digits type : List UInt8} {texts : List (List UInt8)}
    {fields : Members} (isId : Decimal.render id.toNat = digits)
    (isType : PlainText type ∧ type.length ≤ 4096)
    (each : List.Forall₂ (MemberText (NestedValue (levels + 1))) texts fields) :
    List.Forall₂ (MemberText (NestedValue (levels + 1))) (requestTexts digits type texts)
      (numbered id type fields) :=
  .cons (member_text (by decide) (by decide) (literal_shape (Decimal.render_one (by decide))))
    (.cons (member_text (by decide) (by decide) (literal_shape isId))
      (.cons (member_text (by decide) (by decide) (name_shape isType)) each))

theorem profile_shape :
    NestedValue (levels + 2) (objectBytes
      [memberBytes (ascii "codec") (quoted (ascii "pcm_s16le")),
        memberBytes (ascii "sample_rate_hz") (ascii "48000"),
        memberBytes (ascii "channels") (ascii "2"),
        memberBytes (ascii "channel_layout") (quoted (ascii "stereo")),
        memberBytes (ascii "frames_per_packet") (ascii "240")])
      (.object (profileEntries .pcmS16le)) := by
  have rate : Decimal.render 48000 = ascii "48000" := by simp [Decimal.render, ascii]
  have frames : Decimal.render 240 = ascii "240" := by simp [Decimal.render, ascii]
  refine object_text (.cons (member_text (by decide) (by decide) (name_shape (by decide)))
    (.cons (member_text (by decide) (by decide) (literal_shape rate))
    (.cons (member_text (by decide) (by decide) (literal_shape (Decimal.render_one (by decide))))
    (.cons (member_text (by decide) (by decide) (name_shape (by decide)))
    (.cons (member_text (by decide) (by decide) (literal_shape frames)) .nil)))))
    (List.cons_ne_nil _ _) (by decide) (by decide)

end Shapes

section Sizes

/-- Text in so many pieces, none of them long. -/
def Pieces (count : Nat) (text : List UInt8) : Prop := text.length ≤ 800 * count

instance (count : Nat) (text : List UInt8) : Decidable (Pieces count text) :=
  inferInstanceAs (Decidable (_ ≤ _))

theorem pieces_append {count : Nat} {left right : List UInt8} (first : Pieces count left)
    (last : Pieces 1 right) : Pieces (count + 1) (left ++ right) := by
  simp only [Pieces, List.length_append] at *
  omega

theorem digit_plain {b : UInt8} (digit : Decimal.IsDigit b) : Plain b := by
  obtain ⟨low, high⟩ := digit
  refine ⟨UInt8.le_iff_toNat_le.mpr (Nat.le_trans (by decide) low), ?_, ?_⟩
  · rintro rfl
    exact absurd low (by decide)
  · rintro rfl
    exact absurd high (by decide)

theorem rendered_ascii (n : UInt64) : Ascii (Decimal.render n.toNat) := by
  intro b member
  have digit := (render_decimal n).1.digits b member
  exact UInt8.le_iff_toNat_le.mpr (digit.2.trans (by decide))

theorem rendered_pieces (n : UInt64) : Pieces 1 (Decimal.render n.toNat) :=
  (decimal_plain (render_decimal n)).1.trans (by decide)

end Sizes

section Requests
open Probe

/-- The parser takes the text for the message, and the probe makes a frame of it. -/
structure Delivers (json : List UInt8) (message : Message) : Prop where
  parses : ∀ out : GmControlMessageInfo, sizeofGmControlMessageInfo ≤ out.structSize →
    gmControlParseMessage (.view json) out = .ok (message.info out.structSize)
  frames : Bridge.Frames json (writeU32Be json.length.toUInt32 ++ json)
  sends : ∀ label, Probe.encodeControlFrame json label =
    .ok (writeU32Be json.length.toUInt32 ++ json)

theorem acceptable_delivers {json : List UInt8} {members : Members} {message : Message}
    (acceptable : Acceptable json (.object members)) (described : message.Describes members) :
    Delivers json message := by
  have parses (out : GmControlMessageInfo) (size : sizeofGmControlMessageInfo ≤ out.structSize) :
      gmControlParseMessage (.view json) out = .ok (message.info out.structSize) :=
    (parse_message_iff json out _).mpr ⟨size, members, message, acceptable, described, rfl⟩
  have valid := ((acceptable_iff json _).mp acceptable).1
  refine ⟨parses, Bridge.frames_iff.mpr ⟨valid, rfl⟩, fun label => ?_⟩
  have room : 4 + json.length ≤ (List.replicate (4 + json.length) (0 : UInt8)).length := by
    rw [List.length_replicate]
  rw [Probe.encodeControlFrame, parseControlMessage, parses blankMessage (by decide)]
  have written := Bridge.encode_accepted valid (List.replicate (4 + json.length) 0) room
  simp only [bind, Except.bind, written, ne_eq, not_true_eq_false, if_false, view_data,
    Option.getD_some, Bridge.write_frame]
  rfl

theorem request_acceptable {json : List UInt8} {id : UInt32} {digits type : List UInt8}
    {texts : List (List UInt8)} {fields : Members}
    (written : json = objectBytes (requestTexts digits type texts))
    (isId : Decimal.render id.toNat = digits)
    (isType : PlainText type ∧ type.length ≤ 4096)
    (each : List.Forall₂ (MemberText (NestedValue 15)) texts fields) (keys : List (List UInt8))
    (names : fields.map Prod.fst = keys)
    (unique : ([ascii "v", ascii "id", ascii "type"] ++ keys).Nodup ∧ keys.length ≤ 8)
    (few : membersCount fields ≤ 32) (short : Pieces 10 json) (utf8 : Utf8.Valid json) :
    Acceptable json (.object (numbered id type fields)) := by
  subst written
  have count : fields.length ≤ 8 := by
    rw [← List.length_map Prod.fst, names]
    exact unique.2
  refine object_acceptable (request_shapes isId isType each) (List.cons_ne_nil _ _) ?_ ?_ ?_
    (short.trans (by decide)) utf8
  · simp only [numbered, List.map_cons, names]
    exact unique.1
  · simp only [numbered, membersCount, memberCount, number]
    omega
  · simp only [numbered, List.length_cons]
    omega

theorem port_range {port : UInt16} (positive : 1 ≤ port) :
    1 ≤ port.toUInt32 ∧ port.toUInt32 ≤ 65535 := by
  have small := port.toNat_lt
  simp only [UInt32.le_iff_toNat_le, UInt16.le_iff_toNat_le, UInt16.toNat_toUInt32,
    UInt16.reduceToNat, UInt32.reduceToNat] at positive ⊢
  omega

theorem hello_valid_iff (options : Options) :
    Utf8.Valid (sessionHelloJson options) ↔ Utf8.Valid options.clientName := by
  have low : Ascii (ascii "\",\"versions\":[1],\"udp_port\":" ++
      (Decimal.render options.udpPort.toNat ++ ascii "\x7d")) :=
    ascii_append (by decide) (ascii_append (rendered_ascii options.udpPort.toUInt64) (by decide))
  rw [sessionHelloJson, escape_json_string_eq]
  simp only [List.append_assoc]
  rw [Utf8.valid_ascii_append_iff (ascii_low (by decide)),
    Utf8.valid_ascii_append_iff (ascii_low (by decide))]
  exact Utf8.valid_spelled_iff spelled_spelling (ascii_low low) options.clientName

theorem hello_pieces {options : Options} (short : options.clientName.length ≤ 128) :
    Pieces 10 (sessionHelloJson options) := by
  have name : Pieces 1 (escapeJsonString options.clientName) :=
    (escaped_length options.clientName).trans (by omega)
  have whole : Pieces 6 (sessionHelloJson options) := pieces_append (pieces_append (pieces_append
    (pieces_append (pieces_append (by decide) (by decide)) name) (by decide))
    (rendered_pieces options.udpPort.toUInt64)) (by decide)
  exact Nat.le_trans whole (by decide)

theorem session_hello_delivers {options : Options} (short : options.clientName.length ≤ 128)
    (utf8 : Utf8.Valid options.clientName) (port : 1 ≤ options.udpPort) :
    Delivers (sessionHelloJson options)
      (.sessionHello 1 options.clientName [1] options.udpPort.toUInt32) := by
  have one : Decimal.render (1 : UInt32).toNat = ascii "1" := Decimal.render_one (by decide)
  refine acceptable_delivers (request_acceptable (session_hello_text options) one (by decide) ?_
    [ascii "role", ascii "client_name", ascii "versions", ascii "udp_port"] rfl (by decide)
    (Nat.le_of_ble_eq_true rfl) (hello_pieces short) ((hello_valid_iff options).mpr utf8))
    ⟨.refl _, by decide, short, ⟨by decide, by decide, by decide, by decide⟩, port_range port⟩
  exact .cons (member_text (by decide) (by decide) (name_shape (by decide)))
    (.cons (member_text (by decide) (by decide)
      (quoted_shape (escaped_body options.clientName) (short.trans (by decide))))
    (.cons (member_text (by decide) (by decide) (single_text (literal_shape one)))
    (.cons (member_text (by decide) (by decide) (port_shape options.udpPort)) .nil)))

theorem transport_bind_delivers {sessionId : List UInt8} {udpPort : UInt16}
    (session : SessionIdText sessionId) (port : 1 ≤ udpPort) :
    Delivers (transportBindJson sessionId udpPort)
      (.transportBind 2 sessionId udpPort.toUInt32) := by
  have low : Ascii sessionId := fun b member => lower_hex_ascii (session.2 b member)
  have plain : PlainText sessionId := by
    have table : PlainText (ascii "0123456789abcdef") := by decide
    exact fun b member => table b (session.2 b member)
  have utf8 : Utf8.Valid (transportBindJson sessionId udpPort) := ascii_utf8 (ascii_append
    (ascii_append (ascii_append (ascii_append (by decide) low) (by decide))
      (rendered_ascii udpPort.toUInt64)) (by decide))
  have size : Pieces 5 (transportBindJson sessionId udpPort) := pieces_append (pieces_append
    (pieces_append (pieces_append (by decide) (session.1.trans_le (by decide))) (by decide))
      (rendered_pieces udpPort.toUInt64)) (by decide)
  refine acceptable_delivers (request_acceptable (transport_bind_text sessionId udpPort)
    (Decimal.render_one (by decide)) (by decide) ?_ [ascii "session_id", ascii "udp_port"] rfl
    (by decide) (Nat.le_of_ble_eq_true rfl) (Nat.le_trans size (by decide)) utf8)
    ⟨.refl _, by decide, session, port_range port⟩
  exact .cons (member_text (by decide) (by decide)
    (name_shape ⟨plain, session.1.trans_le (by decide)⟩))
    (.cons (member_text (by decide) (by decide) (port_shape udpPort)) .nil)

theorem stream_open_delivers {playoutTargetMs : UInt16} (low : 15 ≤ playoutTargetMs)
    (high : playoutTargetMs ≤ 120) :
    Delivers (streamOpenJson playoutTargetMs)
      (.streamOpen 3 .pcmS16le playoutTargetMs.toUInt32) := by
  have utf8 : Utf8.Valid (streamOpenJson playoutTargetMs) := ascii_utf8 (ascii_append
    (ascii_append (ascii_append (ascii_append (ascii_append (by decide) (by decide)) (by decide))
      (by decide)) (rendered_ascii playoutTargetMs.toUInt64)) (by decide))
  have size : Pieces 6 (streamOpenJson playoutTargetMs) := pieces_append (pieces_append
    (pieces_append (pieces_append (pieces_append (by decide) (by decide)) (by decide))
      (by decide)) (rendered_pieces playoutTargetMs.toUInt64)) (by decide)
  refine acceptable_delivers (request_acceptable (stream_open_text playoutTargetMs)
    (Decimal.render_one (by decide)) (by decide) ?_
    [ascii "kind", ascii "direction", ascii "profile", ascii "playout_target_ms"] rfl
    (by decide) (Nat.le_of_ble_eq_true rfl) (Nat.le_trans size (by decide)) utf8)
    ⟨_, ⟨_, rfl, .refl _⟩, .refl _, by decide, ?_, ?_⟩
  · exact .cons (member_text (by decide) (by decide) (name_shape (by decide)))
      (.cons (member_text (by decide) (by decide) (name_shape (by decide)))
      (.cons (member_text (by decide) (by decide) profile_shape)
      (.cons (member_text (by decide) (by decide) (port_shape playoutTargetMs)) .nil)))
  · simpa [UInt32.le_iff_toNat_le, UInt16.le_iff_toNat_le] using low
  · simpa [UInt32.le_iff_toNat_le, UInt16.le_iff_toNat_le] using high

theorem stream_start_delivers {streamId : UInt32} {firstMediaTimestamp : UInt64}
    (stream : 1 ≤ streamId) :
    Delivers (streamStartJson streamId firstMediaTimestamp)
      (.streamStart 4 streamId (Decimal.render firstMediaTimestamp.toNat)) := by
  have digits := rendered_ascii firstMediaTimestamp
  have plain : PlainText (Decimal.render firstMediaTimestamp.toNat) := fun b member =>
    digit_plain ((render_decimal firstMediaTimestamp).1.digits b member)
  have utf8 : Utf8.Valid (streamStartJson streamId firstMediaTimestamp) := ascii_utf8
    (ascii_append (ascii_append (ascii_append (ascii_append (by decide)
      (rendered_ascii streamId.toUInt64)) (by decide)) digits) (by decide))
  have size : Pieces 5 (streamStartJson streamId firstMediaTimestamp) := pieces_append
    (pieces_append (pieces_append (pieces_append (by decide) (rendered_pieces streamId.toUInt64))
      (by decide)) (rendered_pieces firstMediaTimestamp)) (by decide)
  have short := (decimal_plain (render_decimal firstMediaTimestamp)).1
  refine acceptable_delivers (request_acceptable (stream_start_text streamId firstMediaTimestamp)
    (Decimal.render_one (by decide)) (by decide) ?_
    [ascii "stream_id", ascii "first_media_timestamp"] rfl
    (by decide) (Nat.le_of_ble_eq_true rfl) (Nat.le_trans size (by decide)) utf8)
    ⟨.refl _, by decide, stream, render_decimal firstMediaTimestamp⟩
  exact .cons (member_text (by decide) (by decide) (number_shape streamId))
    (.cons (member_text (by decide) (by decide)
      (name_shape ⟨plain, short.trans (by decide)⟩)) .nil)

/-- A client name that is not UTF-8 makes a text that the parser refuses. -/
theorem hello_refused {options : Options} (short : options.clientName.length ≤ 128)
    (invalid : ¬ Utf8.Valid options.clientName) (out : GmControlMessageInfo)
    (size : sizeofGmControlMessageInfo ≤ out.structSize) :
    gmControlParseMessage (.view (sessionHelloJson options)) out = .error .badMessage := by
  have long : ¬ (sessionHelloJson options).length < 2 := by
    rw [session_hello_text]
    simp [objectBytes]
  have fits : ¬ (sessionHelloJson options).length > 12288 :=
    Nat.not_lt.mpr (Nat.le_trans (hello_pieces short) (by decide))
  have utf8 : isValidUtf8 (sessionHelloJson options) = false := by
    rw [← Bool.not_eq_true, is_valid_utf8_iff, hello_valid_iff]
    exact invalid
  have parsed : parseJson (.view (sessionHelloJson options)) = .error .badMessage := by
    rw [parse_json_view, if_neg long, if_neg fits, utf8]
    simp
  rw [gmControlParseMessage, if_neg (Nat.not_lt.mpr size), parsed]
  rfl

end Requests

section Agreement
open Probe

/-- The parser takes the text and tells values of a kind, and the frame encoder takes it, also
    behind the probe's own check. -/
structure Accepted (json : List UInt8) (Tells : GmControlMessageInfo → Prop) : Prop where
  parses : ∀ out : GmControlMessageInfo, sizeofGmControlMessageInfo ≤ out.structSize →
    ∃ info, gmControlParseMessage (.view json) out = .ok info ∧ Tells info
  frames : Bridge.Frames json (writeU32Be json.length.toUInt32 ++ json)
  sends : ∀ label, Probe.encodeControlFrame json label =
    .ok (writeU32Be json.length.toUInt32 ++ json)

theorem delivers_accepted {json : List UInt8} {message : Message}
    {Tells : GmControlMessageInfo → Prop} (delivers : Delivers json message)
    (tells : ∀ size, Tells (message.info size)) : Accepted json Tells where
  parses out size := ⟨_, delivers.parses out size, tells out.structSize⟩
  frames := delivers.frames
  sends := delivers.sends

theorem fill_clean {n : Nat} {value : List UInt8} (fits : value.length < n) (clean : 0 ∉ value) :
    (fill n value).text = value := by
  rw [fill_text fits, text_of_no_nul clean]

/-- The texts of the probe's four builders are accepted as the requests they were built for,
    with exactly the values they were built from, and frames are made of them; a client name
    that is not UTF-8 is refused before anything is sent. -/
theorem request_builders_agree :
    (∀ options : Options, options.clientName.length ≤ gmControlClientNameMaxBytes →
      Utf8.Valid options.clientName → 0 ∉ options.clientName → 1 ≤ options.udpPort →
      Accepted (sessionHelloJson options) fun info =>
        info.kind = .requestSessionHello ∧ info.id = 1 ∧
          info.clientName.text = options.clientName ∧
          info.udpPort = options.udpPort.toUInt32) ∧
    (∀ (sessionId : List UInt8) (udpPort : UInt16), SessionIdText sessionId → 1 ≤ udpPort →
      Accepted (transportBindJson sessionId udpPort) fun info =>
        info.kind = .requestTransportBind ∧ info.id = 2 ∧ info.sessionId.text = sessionId ∧
          info.udpPort = udpPort.toUInt32) ∧
    (∀ playoutTargetMs : UInt16, 15 ≤ playoutTargetMs → playoutTargetMs ≤ 120 →
      Accepted (streamOpenJson playoutTargetMs) fun info =>
        info.kind = .requestStreamOpen ∧ info.id = 3 ∧ info.profile = Codec.pcmS16le.profile ∧
          info.playoutTargetMs = playoutTargetMs.toUInt32) ∧
    (∀ (streamId : UInt32) (firstMediaTimestamp : UInt64), 1 ≤ streamId →
      Accepted (streamStartJson streamId firstMediaTimestamp) fun info =>
        info.kind = .requestStreamStart ∧ info.id = 4 ∧ info.streamId = streamId ∧
          info.firstMediaTimestamp.text = Decimal.render firstMediaTimestamp.toNat) ∧
    ∀ options : Options, options.clientName.length ≤ gmControlClientNameMaxBytes →
      ¬ Utf8.Valid options.clientName →
      (∀ out : GmControlMessageInfo, sizeofGmControlMessageInfo ≤ out.structSize →
        gmControlParseMessage (.view (sessionHelloJson options)) out = .error .badMessage) ∧
      ∀ label, Probe.encodeControlFrame (sessionHelloJson options) label =
        .error (.message (label ++ " rejected by gm_core: " ++ "GM_BAD_MESSAGE")) := by
  refine ⟨?_, ?_, ?_, ?_, ?_⟩
  · intro options short utf8 clean port
    refine delivers_accepted (session_hello_delivers short utf8 port) fun size => ?_
    exact ⟨rfl, rfl, fill_clean (Nat.lt_succ_of_le short) clean, rfl⟩
  · intro sessionId udpPort session port
    refine delivers_accepted (transport_bind_delivers session port) fun size => ?_
    have clean : 0 ∉ sessionId := fun nul => lower_hex_nonzero (session.2 0 nul) rfl
    exact ⟨rfl, rfl, fill_clean (session.1.trans_lt (by decide)) clean, rfl⟩
  · intro playoutTargetMs low high
    exact delivers_accepted (stream_open_delivers low high) fun size => ⟨rfl, rfl, rfl, rfl⟩
  · intro streamId firstMediaTimestamp stream
    refine delivers_accepted (stream_start_delivers stream) fun size => ?_
    obtain ⟨short, clean⟩ := decimal_plain (render_decimal firstMediaTimestamp)
    exact ⟨rfl, rfl, rfl, fill_clean (Nat.lt_succ_of_le short) clean⟩
  · intro options short invalid
    refine ⟨hello_refused short invalid, fun label => ?_⟩
    rw [Probe.encodeControlFrame, parseControlMessage,
      hello_refused short invalid blankMessage (by decide)]
    rfl

end Agreement

end GhostMedia.Interop
