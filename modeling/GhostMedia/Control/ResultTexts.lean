import GhostMedia.Control.MessageDecoding
import Mathlib.Algebra.BigOperators.Group.List.Basic

/- Every result has a text that fits a frame: each string written in escapes, each
   number in its digits, and no blanks. A budget for the bytes and the members is
   added up along the tree. -/
namespace GhostMedia.Control
open Json CString

def Ascii (text : List UInt8) : Prop := ∀ b ∈ text, b ≤ 0x7f

instance (text : List UInt8) : Decidable (Ascii text) :=
  List.decidableBAll (fun b => b ≤ 0x7f) text

theorem ascii_append {left right : List UInt8} (first : Ascii left) (second : Ascii right) :
    Ascii (left ++ right) := by
  intro b member
  rcases List.mem_append.mp member with inLeft | inRight
  · exact first b inLeft
  · exact second b inRight

theorem ascii_cons {b : UInt8} {rest : List UInt8} (first : b ≤ 0x7f) (others : Ascii rest) :
    Ascii (b :: rest) := by
  intro c member
  rcases List.mem_cons.mp member with rfl | later
  · exact first
  · exact others c later

theorem ascii_low {text : List UInt8} (low : Ascii text) : ∀ b ∈ text, b.toNat ≤ 0x7f :=
  fun b member => UInt8.le_iff_toNat_le.mp (low b member)

theorem ascii_utf8 {text : List UInt8} (low : Ascii text) : Utf8.Valid text := by
  have whole : Utf8.Valid (text ++ []) ↔ Utf8.Valid [] :=
    Utf8.valid_ascii_append_iff (ascii_low low)
  rw [List.append_nil] at whole
  exact whole.mpr Utf8.valid_nil

section Scalars

theorem hex_digit_text {d : Nat} (small : d < 16) : ∃ b : UInt8, HexDigit b d ∧ b ≤ 0x7f := by
  by_cases decimal : d < 10
  · refine ⟨UInt8.ofNat (48 + d), .inl ⟨decimal, ?_⟩, ?_⟩
    · rw [UInt8.toNat_ofNat']
      omega
    · simp only [UInt8.le_iff_toNat_le, UInt8.toNat_ofNat', UInt8.reduceToNat]
      omega
  · refine ⟨UInt8.ofNat (87 + d), .inr ⟨by omega, small, .inl ?_⟩, ?_⟩
    · rw [UInt8.toNat_ofNat']
      omega
    · simp only [UInt8.le_iff_toNat_le, UInt8.toNat_ofNat', UInt8.reduceToNat]
      omega

/-- A byte of ASCII as an escape of four digits. -/
theorem escape_text {b : UInt8} (low : b ≤ 0x7f) :
    ∃ escape, EscapeText escape [b] ∧ Ascii escape ∧ escape.length = 5 := by
  have range : b.toNat ≤ 0x7f := UInt8.le_iff_toNat_le.mp low
  obtain ⟨c, point, shape⟩ := Utf8.encode_one b range
  obtain ⟨zero, isZero, zeroLow⟩ := hex_digit_text (show 0 < 16 by decide)
  obtain ⟨high, isHigh, highLow⟩ := hex_digit_text (show b.toNat / 16 < 16 by omega)
  obtain ⟨last, isLast, lastLow⟩ := hex_digit_text (show b.toNat % 16 < 16 by omega)
  have unit := HexUnit.four isZero isZero isHigh isLast
  have value : ((0 * 16 + 0) * 16 + b.toNat / 16) * 16 + b.toNat % 16 = c.toNat := by omega
  rw [value] at unit
  refine ⟨[117, zero, zero, high, last], shape ▸ .unit unit, ?_, rfl⟩
  exact ascii_cons (by decide) (ascii_cons zeroLow (ascii_cons zeroLow (ascii_cons highLow
    (ascii_cons lastLow (by decide)))))

theorem body_text {value : List UInt8} (low : Ascii value) :
    ∃ body, StringBody body value ∧ Ascii body ∧ body.length = 6 * value.length := by
  induction value with
  | nil => exact ⟨[], .done, by decide, rfl⟩
  | cons b rest ih =>
    obtain ⟨escape, first, escapeLow, size⟩ := escape_text (low b (by simp))
    obtain ⟨body, others, bodyLow, sizes⟩ :=
      ih fun x member => low x (List.mem_cons_of_mem b member)
    refine ⟨92 :: (escape ++ body), .escape first others,
      ascii_cons (by decide) (ascii_append escapeLow bodyLow), ?_⟩
    simp only [List.length_cons, List.length_append]
    omega

theorem string_text {value : List UInt8} (low : Ascii value) (short : value.length ≤ 4096) :
    ∃ text, StringText text value ∧ Ascii text ∧ text.length = 6 * value.length + 2 := by
  obtain ⟨body, written, bodyLow, size⟩ := body_text low
  refine ⟨34 :: (body ++ [34]), ⟨body, rfl, written, short⟩,
    ascii_cons (by decide) (ascii_append bodyLow (by decide)), ?_⟩
  simp [size]

end Scalars

/-- A tree of few enough members with an ASCII text of few enough bytes. -/
def Writable (levels room count : Nat) (v : JsonValue) : Prop :=
  memberCount v ≤ count ∧ ∃ text, NestedValue levels text v ∧ Ascii text ∧ text.length ≤ room

def EntriesWritable (levels room count : Nat) (entries : Members) : Prop :=
  membersCount entries ≤ count ∧ ∃ texts : List (List UInt8),
    List.Forall₂ (fun member text => MemberText (NestedValue levels) text member ∧ Ascii text)
      entries texts ∧ (texts.map (List.length · + 1)).sum ≤ room

section Budgets
variable {levels room count : Nat}

theorem writable_mono {v : JsonValue} {more larger : Nat} (written : Writable levels room count v)
    (rooms : room ≤ more) (counts : count ≤ larger) : Writable levels more larger v := by
  obtain ⟨few, text, shape, low, short⟩ := written
  exact ⟨few.trans counts, text, shape, low, short.trans rooms⟩

theorem string_writable (n : Nat) {value : List UInt8} (low : Ascii value)
    (short : value.length ≤ n) (small : n ≤ 4096) :
    Writable (levels + 1) (6 * n + 2) 0 (.string value) := by
  obtain ⟨text, written, textLow, size⟩ := string_text low (by omega)
  exact ⟨le_rfl, text, .string written, textLow, by omega⟩

theorem number_writable (value : UInt64) : Writable (levels + 1) 20 0 (.number value) := by
  have decimal := render_decimal value
  refine ⟨le_rfl, _, .number ⟨decimal.1, Decimal.render_value value.toNat⟩, fun b member => ?_,
    (decimal_plain decimal).1⟩
  have digit := decimal.1.digits b member
  exact UInt8.le_iff_toNat_le.mpr (digit.2.trans (by decide))

theorem boolean_writable (value : Bool) : Writable (levels + 1) 20 0 (.boolean value) := by
  cases value with
  | false => exact ⟨le_rfl, _, .false, by decide, by decide⟩
  | true => exact ⟨le_rfl, _, .true, by decide, by decide⟩

theorem entries_writable_nil : EntriesWritable levels 0 0 [] := ⟨le_rfl, [], .nil, le_rfl⟩

theorem entries_writable_cons {name : List UInt8} {value : JsonValue} {rest : Members}
    {more others : Nat} (plain : Ascii name ∧ name.length ≤ 24)
    (first : Writable levels room count value) (later : EntriesWritable levels more others rest) :
    EntriesWritable levels (room + more + 148) (count + others + 1) ((name, value) :: rest) := by
  obtain ⟨few, text, shape, low, short⟩ := first
  obtain ⟨restFew, texts, shapes, sizes⟩ := later
  obtain ⟨nameText, nameShape, nameLow, nameSize⟩ := string_text plain.1 (by omega)
  have blank := blank_nil
  refine ⟨by simp only [membersCount]; omega, (nameText ++ 58 :: text) :: texts,
    .cons ⟨⟨[], nameText, [], [], text, [], by simp, blank, blank, blank, blank, nameShape, shape⟩,
      ascii_append nameLow (ascii_cons (by decide) low)⟩ shapes, ?_⟩
  simp only [List.map_cons, List.sum_cons, List.length_append, List.length_cons]
  omega

theorem members_count_perm {members entries : Members} (same : members.Perm entries) :
    membersCount members = membersCount entries := by
  induction same with
  | nil => rfl
  | cons member _ ih => simp only [membersCount, ih]
  | swap first second rest =>
    simp only [membersCount]
    omega
  | trans _ _ first second => exact first.trans second

theorem entries_writable_perm {members entries : Members}
    (written : EntriesWritable levels room count entries) (same : members.Perm entries) :
    EntriesWritable levels room count members := by
  obtain ⟨few, texts, shapes, sizes⟩ := written
  obtain ⟨reordered, shapes, order⟩ := List.perm_comp_forall₂ same shapes
  have sum := (order.map (List.length · + 1)).sum_eq
  exact ⟨(members_count_perm same).le.trans few, reordered, shapes, sum.le.trans sizes⟩

theorem separated_text {members : Members} {texts : List (List UInt8)} (nonempty : members ≠ [])
    (shapes : List.Forall₂
      (fun member text => MemberText (NestedValue levels) text member ∧ Ascii text) members texts) :
    ∃ text, Separated (MemberText (NestedValue levels)) text members ∧ Ascii text ∧
      text.length ≤ (texts.map (List.length · + 1)).sum := by
  induction shapes with
  | nil => exact absurd rfl nonempty
  | @cons member text members texts first later ih =>
    cases members with
    | nil =>
      refine ⟨text, .one first.1, first.2, ?_⟩
      simp only [List.map_cons, List.sum_cons]
      omega
    | cons next members =>
      obtain ⟨rest, others, low, size⟩ := ih (by simp)
      refine ⟨text ++ 44 :: rest, .more first.1 others,
        ascii_append first.2 (ascii_cons (by decide) low), ?_⟩
      simp only [List.map_cons, List.sum_cons, List.length_append, List.length_cons] at size ⊢
      omega

theorem object_writable {members entries : Members}
    (written : EntriesWritable levels room count entries) (same : members.Perm entries)
    (keys : List (List UInt8)) (names : entries.map Prod.fst = keys)
    (unique : keys.Nodup ∧ keys.length ≤ 32) :
    Writable (levels + 1) (room + 2) count (.object members) := by
  have distinct := (same.map Prod.fst).nodup_iff.mpr (names ▸ unique.1)
  have few : entries.length ≤ 32 := by
    rw [← List.length_map Prod.fst, names]
    exact unique.2
  obtain ⟨small, texts, shapes, sizes⟩ := entries_writable_perm written same
  by_cases nonempty : members = []
  · subst nonempty
    exact ⟨small, _, .object (.empty blank_nil) distinct (by simp), by decide, by simp⟩
  · obtain ⟨text, contents, low, size⟩ := separated_text nonempty shapes
    refine ⟨small, 123 :: (text ++ [125]),
      .object (.items contents) distinct (same.length_eq.le.trans few),
      ascii_cons (by decide) (ascii_append low (by decide)), ?_⟩
    simp only [List.length_cons, List.length_append, List.length_nil]
    omega

theorem elements_text {elements : List JsonValue} (nonempty : elements ≠ [])
    (each : ∀ element ∈ elements, Writable levels room count element) :
    elementsCount elements ≤ elements.length * count ∧
      ∃ text, Separated (ElementText (NestedValue levels)) text elements ∧ Ascii text ∧
        text.length ≤ elements.length * (room + 1) := by
  induction elements with
  | nil => exact absurd rfl nonempty
  | cons element rest ih =>
    obtain ⟨few, text, shape, low, short⟩ := each element (by simp)
    have item : ElementText (NestedValue levels) text element :=
      ⟨[], text, [], by simp, blank_nil, blank_nil, shape⟩
    simp only [List.length_cons, Nat.add_mul, one_mul]
    by_cases last : rest = []
    · subst last
      refine ⟨by simpa [elementsCount] using few, text, .one item, low, ?_⟩
      simp only [List.length_nil]
      omega
    · obtain ⟨count, more, others, moreLow, sizes⟩ :=
        ih last fun other member => each other (List.mem_cons_of_mem element member)
      refine ⟨by simp only [elementsCount]; omega, text ++ 44 :: more, .more item others,
        ascii_append low (ascii_cons (by decide) moreLow), ?_⟩
      simp only [List.length_append, List.length_cons]
      omega

theorem array_writable {elements : List JsonValue}
    (each : ∀ element ∈ elements, Writable levels room count element)
    (few : elements.length ≤ 2) :
    Writable (levels + 1) (2 * room + 4) (2 * count) (.array elements) := by
  by_cases nonempty : elements = []
  · subst nonempty
    exact ⟨by simp [memberCount, elementsCount], _, .array (.empty blank_nil) (by simp), by decide,
      by simp⟩
  · obtain ⟨small, text, contents, low, size⟩ := elements_text nonempty each
    have counts : elements.length * count ≤ 2 * count := Nat.mul_le_mul_right count few
    have rooms : elements.length * (room + 1) ≤ 2 * (room + 1) := Nat.mul_le_mul_right _ few
    refine ⟨small.trans counts, 91 :: (text ++ [93]), .array (.items contents) (by omega),
      ascii_cons (by decide) (ascii_append low (by decide)), ?_⟩
    simp only [List.length_cons, List.length_append, List.length_nil]
    omega

end Budgets

section Results
variable {levels : Nat}

theorem ascii_of_below {value : List UInt8} {top : UInt8} (below : ∀ b ∈ value, b ≤ top)
    (low : top ≤ 0x7f) : Ascii value :=
  fun b member => UInt8.le_trans (below b member) low

theorem lower_hex_ascii {b : UInt8} (hex : LowerHex b) : b ≤ 0x7f := by
  have table : Ascii (ascii "0123456789abcdef") := by decide
  exact table b hex

theorem uuid_writable {value : List UInt8} (shape : UuidText value) :
    Writable (levels + 1) 218 0 (.string value) := by
  refine string_writable 36 (fun b member => ?_) shape.1.le (by decide)
  obtain ⟨i, there⟩ := List.mem_iff_getElem?.mp member
  have character := shape.2 i b there
  split at character
  · rw [character]
    decide
  · exact lower_hex_ascii character

theorem session_id_writable {value : List UInt8} (shape : SessionIdText value) :
    Writable (levels + 1) 194 0 (.string value) :=
  string_writable 32 (fun b member => lower_hex_ascii (shape.2 b member)) shape.1.le (by decide)

theorem reason_writable {value : List UInt8} (shape : Reason value) :
    Writable (levels + 1) 386 0 (.string value) := by
  obtain ⟨_, short, range⟩ := shape
  exact string_writable 64 (ascii_of_below (fun b member => (range b member).2) (by decide)) short
    (by decide)

theorem token_writable {value : List UInt8} (shape : Token value) :
    Writable (levels + 1) 386 0 (.string value) := by
  obtain ⟨_, short, low⟩ := shape
  exact string_writable 64 low short (by decide)

theorem endpoint_writable {value : List UInt8} (shape : EndpointState value) :
    Writable (levels + 1) 386 0 (.string value) := by
  have table : ∀ text ∈ [ascii "available", ascii "unavailable", ascii "faulted"],
      Ascii text := by decide
  exact string_writable 64 (table value shape) (endpoint_state_plain shape).1 (by decide)

theorem decimal_writable {value : List UInt8} (decimal : DecimalU64 value) :
    Writable (levels + 1) 122 0 (.string value) := by
  refine string_writable 20 (fun b member => ?_) (decimal_plain decimal).1 (by decide)
  have digit := decimal.1.digits b member
  exact UInt8.le_iff_toNat_le.mpr (digit.2.trans (by decide))

theorem literal_writable {value : List UInt8} (plain : Ascii value ∧ value.length ≤ 24) :
    Writable (levels + 1) 146 0 (.string value) :=
  string_writable 24 plain.1 plain.2 (by decide)

theorem profile_writable {codec : Codec} {object : JsonValue} (shape : ProfileObject codec object) :
    Writable (levels + 2) 1100 5 object := by
  obtain ⟨members, rfl, same⟩ := shape
  have name : Writable (levels + 1) 146 0 (.string codec.text) := by
    apply literal_writable
    cases codec <;> decide
  refine writable_mono (object_writable (entries_writable_cons (by decide) name
    (entries_writable_cons (by decide) (number_writable _)
    (entries_writable_cons (by decide) (number_writable _)
    (entries_writable_cons (by decide) (literal_writable (by decide))
    (entries_writable_cons (by decide) (number_writable _) entries_writable_nil))))) same
    [ascii "codec", ascii "sample_rate_hz", ascii "channels", ascii "channel_layout",
      ascii "frames_per_packet"] rfl (by decide)) (by decide) (by decide)

theorem capabilities_writable {object : JsonValue} (shape : CapabilitiesObject object) :
    Writable (levels + 4) 3100 15 object := by
  obtain ⟨members, receive, profiles, rfl, same, count, each⟩ := shape
  have few : profiles.length ≤ 2 := by
    cases receive with
    | false => simp [show profiles = [] from count]
    | true => exact count.2
  have written : Writable (levels + 3) 2204 10 (.array profiles) := by
    have item (profile) (member : profile ∈ profiles) : Writable (levels + 2) 1100 5 profile := by
      obtain ⟨codec, object⟩ := each profile member
      exact profile_writable object
    exact array_writable item few
  refine writable_mono (object_writable (entries_writable_cons (by decide) (boolean_writable _)
    (entries_writable_cons (by decide) (boolean_writable _)
    (entries_writable_cons (by decide) (boolean_writable _)
    (entries_writable_cons (by decide) (boolean_writable _)
    (entries_writable_cons (by decide) written entries_writable_nil))))) same
    [ascii "audio_send", ascii "audio_receive", ascii "microphone", ascii "camera",
      ascii "audio_profiles"] rfl (by decide)) (by decide) (by decide)

theorem limits_writable {object : JsonValue} (shape : LimitsObject object) :
    Writable (levels + 2) 510 3 object := by
  obtain ⟨members, subscribers, playoutMin, playoutMax, rfl, same, _⟩ := shape
  refine writable_mono (object_writable (entries_writable_cons (by decide) (number_writable _)
    (entries_writable_cons (by decide) (number_writable _)
    (entries_writable_cons (by decide) (number_writable _) entries_writable_nil))) same
    [ascii "max_audio_subscribers", ascii "playout_target_ms_min", ascii "playout_target_ms_max"]
    rfl (by decide)) (by decide) (by decide)

/-- Every result object has a text that leaves room for its message. -/
theorem result_writable {inner : Members} {body : Result} (described : body.Describes inner) :
    Writable (levels + 5) 6000 30 (.object inner) := by
  cases body with
  | hello =>
    obtain ⟨_, _, capabilities, limits, same, server, session, boot, _⟩ := described
    refine writable_mono (object_writable (entries_writable_cons (by decide) (number_writable _)
      (entries_writable_cons (by decide) (literal_writable (by decide))
      (entries_writable_cons (by decide) (uuid_writable server)
      (entries_writable_cons (by decide) (session_id_writable session)
      (entries_writable_cons (by decide) (uuid_writable boot)
      (entries_writable_cons (by decide) (number_writable _)
      (entries_writable_cons (by decide) (capabilities_writable capabilities)
      (entries_writable_cons (by decide) (limits_writable limits) entries_writable_nil))))))))
      same helloResultKeys rfl (by decide)) (by decide) (by decide)
  | bind =>
    obtain ⟨same, _⟩ := described
    refine writable_mono (object_writable (entries_writable_cons (by decide) (number_writable _)
      (entries_writable_cons (by decide) (literal_writable (by decide)) entries_writable_nil))
      same bindResultKeys rfl (by decide)) (by decide) (by decide)
  | «open» =>
    obtain ⟨_, profile, same, _⟩ := described
    refine writable_mono (object_writable (entries_writable_cons (by decide) (number_writable _)
      (entries_writable_cons (by decide) (number_writable _)
      (entries_writable_cons (by decide) (profile_writable profile)
      (entries_writable_cons (by decide) (number_writable _)
      (entries_writable_cons (by decide) (literal_writable (by decide)) entries_writable_nil)))))
      same openResultKeys rfl (by decide)) (by decide) (by decide)
  | rekey =>
    obtain ⟨same, _, _, state⟩ := described
    refine writable_mono (object_writable (entries_writable_cons (by decide) (number_writable _)
      (entries_writable_cons (by decide) (number_writable _)
      (entries_writable_cons (by decide) (reason_writable state) entries_writable_nil)))
      same rekeyResultKeys rfl (by decide)) (by decide) (by decide)
  | stream =>
    obtain ⟨same, _, state⟩ := described
    refine writable_mono (object_writable (entries_writable_cons (by decide) (number_writable _)
      (entries_writable_cons (by decide) (reason_writable state) entries_writable_nil))
      same streamResultKeys rfl (by decide)) (by decide) (by decide)
  | sessionState =>
    obtain ⟨same, state⟩ := described
    refine writable_mono (object_writable
      (entries_writable_cons (by decide) (reason_writable state) entries_writable_nil)
      same stateResultKeys rfl (by decide)) (by decide) (by decide)
  | status =>
    obtain ⟨_, same, output, sessionStream, transport, _⟩ := described
    refine writable_mono (object_writable
      (entries_writable_cons (by decide) (endpoint_writable output)
      (entries_writable_cons (by decide) (reason_writable sessionStream)
      (entries_writable_cons (by decide) (reason_writable transport)
      (entries_writable_cons (by decide) (number_writable _) entries_writable_nil))))
      same statusResultKeys rfl (by decide)) (by decide) (by decide)
  | ping =>
    obtain ⟨same, token, monotonicNs⟩ := described
    refine writable_mono (object_writable
      (entries_writable_cons (by decide) (token_writable token)
      (entries_writable_cons (by decide) (decimal_writable monotonicNs) entries_writable_nil))
      same pingResultKeys rfl (by decide)) (by decide) (by decide)

theorem enclosed_length {α : Type} {first last : UInt8} {item : List UInt8 → α → Prop}
    {text : List UInt8} {as : List α} (enclosed : Enclosed first last item text as) :
    2 ≤ text.length := by
  cases enclosed <;> simp

/-- Every result message has an acceptable text. -/
theorem result_has_text {members : Members} {id : UInt32} {body : Result}
    (described : (Message.result id body).Describes members) :
    ∃ text, Acceptable text (.object members) := by
  obtain ⟨inner, object, same, _⟩ := described
  have written : Writable 16 8192 64 (.object members) := by
    refine writable_mono (object_writable (entries_writable_cons (by decide) (number_writable _)
      (entries_writable_cons (by decide) (number_writable _)
      (entries_writable_cons (by decide) (literal_writable (by decide))
      (entries_writable_cons (by decide) (result_writable object) entries_writable_nil))))
      same [ascii "v", ascii "id", ascii "type", ascii "result"] rfl (by decide)) (by decide)
      (by decide)
  obtain ⟨few, text, value, low, short⟩ := written
  have blank := blank_nil
  have long : 2 ≤ text.length := by
    cases value with
    | object contents => exact enclosed_length contents
  exact ⟨text, long, by omega, ascii_utf8 low, ⟨few, [], text, [], by simp, blank, blank, value⟩,
    members, rfl, .inl short⟩

end Results

end GhostMedia.Control
