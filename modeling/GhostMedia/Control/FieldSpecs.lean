import GhostMedia.Control.Accessors
import GhostMedia.Control.JsonNumbers

/- The value validators of gm_control.cpp against their specifications: identifiers,
   texts, decimals, version lists, profiles, capabilities and limits. -/
namespace GhostMedia.Control
open Json Decimal

theorem lower_hex_iff (b : UInt8) : isLowerHexDigit b = true ↔ LowerHex b := by
  have digits : ascii "0123456789abcdef" =
      [48, 49, 50, 51, 52, 53, 54, 55, 56, 57, 97, 98, 99, 100, 101, 102] := by decide
  simp only [isLowerHexDigit, LowerHex, digits, List.mem_cons, List.not_mem_nil, or_false,
    Bool.or_eq_true, Bool.and_eq_true, decide_eq_true_eq, UInt8.le_iff_toNat_le,
    ← UInt8.toNat_inj, UInt8.reduceToNat]
  omega

theorem session_id_iff (text : List UInt8) :
    isLowerHexSessionId text = true ↔ SessionIdText text := by
  simp [isLowerHexSessionId, SessionIdText, lower_hex_iff]

theorem uuid_characters_iff (index : Nat) (text : List UInt8) :
    uuidCharacters index text = true ↔ ∀ i b, text[i]? = some b →
      if index + i ∈ [8, 13, 18, 23] then b = 45 else LowerHex b := by
  induction text generalizing index with
  | nil => simp [uuidCharacters]
  | cons character rest ih =>
    rw [uuidCharacters, Bool.and_eq_true, ih (index + 1)]
    have head : (if index = 8 || index = 13 || index = 18 || index = 23 then
        decide (character = 45) else isLowerHexDigit character) = true ↔
        if index ∈ [8, 13, 18, 23] then character = 45 else LowerHex character := by
      by_cases hyphen : index ∈ [8, 13, 18, 23]
      · rw [if_pos (by simpa [or_assoc] using hyphen), if_pos hyphen, decide_eq_true_eq]
      · rw [if_neg (by simpa [or_assoc] using hyphen), if_neg hyphen, lower_hex_iff]
    rw [head]
    constructor
    · rintro ⟨first, later⟩ i b there
      cases i with
      | zero =>
        obtain rfl : character = b := by simpa using there
        exact first
      | succ i =>
        have step := later i b (by simpa using there)
        rwa [Nat.add_assoc, Nat.add_comm 1 i] at step
    · intro all
      refine ⟨all 0 character rfl, fun i b there => ?_⟩
      have step := all (i + 1) b (by simpa using there)
      rwa [Nat.add_comm i 1, ← Nat.add_assoc] at step

theorem uuid_iff (text : List UInt8) : isLowerUuid text = true ↔ UuidText text := by
  rw [isLowerUuid, Bool.and_eq_true, uuid_characters_iff]
  simp [UuidText]

theorem reason_byte_iff (b : UInt8) :
    (b ≤ 0x7f ∧ ¬ (b < 0x20 ∨ b = 0x7f)) ↔ 0x20 ≤ b ∧ b ≤ 0x7e := by
  simp only [UInt8.le_iff_toNat_le, UInt8.lt_iff_toNat_lt, ← UInt8.toNat_inj, UInt8.reduceToNat]
  omega

theorem reason_iff (text : List UInt8) : isReasonString text = true ↔ Reason text := by
  simp only [isReasonString, isAscii, Reason, gmControlReasonMaxBytes, Bool.and_eq_true,
    Bool.not_eq_true', List.isEmpty_eq_false_iff, decide_eq_true_eq, List.all_eq_true,
    Bool.or_eq_false_iff, decide_eq_false_iff_not]
  constructor
  · rintro ⟨⟨⟨nonempty, short⟩, low⟩, plain⟩
    exact ⟨nonempty, short, fun b member =>
      (reason_byte_iff b).mp ⟨low b member, not_or.mpr (plain b member)⟩⟩
  · rintro ⟨nonempty, short, range⟩
    exact ⟨⟨⟨nonempty, short⟩, fun b member => ((reason_byte_iff b).mpr (range b member)).1⟩,
      fun b member => not_or.mp ((reason_byte_iff b).mpr (range b member)).2⟩

theorem token_iff (text : List UInt8) : isToken text = true ↔ Token text := by
  simp [isToken, isAscii, Token, and_assoc]

theorem endpoint_state_iff (text : List UInt8) :
    isEndpointState text = true ↔ EndpointState text := by
  simp only [isEndpointState, EndpointState, List.any_eq_true, decide_eq_true_eq,
    exists_eq_right']

theorem error_code_iff (text : List UInt8) : isKnownErrorCode text = true ↔ ErrorCode text := by
  simp only [isKnownErrorCode, ErrorCode, List.any_eq_true, decide_eq_true_eq,
    exists_eq_right']

theorem decimal_loop_iff (v w : UInt64) (text : List UInt8) :
    decimalLoop v text = some w ↔ (∀ b ∈ text, IsDigit b) ∧ valueFrom v.toNat text = w.toNat := by
  induction text generalizing v with
  | nil => simp [decimalLoop, UInt64.toNat_inj]
  | cons b rest ih =>
    by_cases digit : IsDigit b
    · have accepted : ¬ (b < 48 || b > 57) = true := by
        simp only [Bool.or_eq_true, decide_eq_true_eq, gt_iff_lt, UInt8.lt_iff_toNat_lt,
          UInt8.reduceToNat]
        have := digit
        simp only [IsDigit] at this
        omega
      obtain ⟨value, small⟩ := digit_toUInt64 digit
      have guard := overflow_guard v (b - 48).toUInt64 small
      rw [value] at guard
      rw [decimalLoop, if_neg accepted, value_from_cons]
      by_cases overflow : 2 ^ 64 ≤ v.toNat * 10 + (b.toNat - 48)
      · have large := le_value_from (v.toNat * 10 + (b.toNat - 48)) rest
        have bound := w.toNat_lt
        rw [if_pos (guard.mpr overflow)]
        simp only [reduceCtorEq, false_iff, not_and]
        intro _ same
        omega
      · have sum := accumulate_toNat v (b - 48).toUInt64 (by omega)
        rw [value] at sum
        rw [if_neg (fun above => overflow (guard.mp above)), ih, sum]
        simp [digit]
    · have refused : (b < 48 || b > 57) = true := by
        simp only [Bool.or_eq_true, decide_eq_true_eq, gt_iff_lt, UInt8.lt_iff_toNat_lt,
          UInt8.reduceToNat]
        simp only [IsDigit] at digit
        omega
      rw [decimalLoop, if_pos refused]
      simp [digit]

/-- `parse_decimal_u64_string` accepts the canonical decimals below 2^64. -/
theorem parse_decimal_iff (text : List UInt8) (w : UInt64) :
    parseDecimalU64String text = some w ↔ Canonical text ∧ value text = w.toNat := by
  have bound : (2 : Nat) ^ 64 ≤ 10 ^ 20 := by decide
  constructor
  · intro read
    rw [parseDecimalU64String] at read
    split at read
    · cases read
    rename_i size
    split at read
    · cases read
    rename_i lead
    simp only [Bool.or_eq_true, decide_eq_true_eq, not_or, Bool.not_eq_true,
      List.isEmpty_eq_false_iff, Bool.and_eq_true, not_and] at size lead
    obtain ⟨digits, same⟩ := (decimal_loop_iff 0 w text).mp read
    exact ⟨⟨size.1, digits, lead⟩, same⟩
  · rintro ⟨canonical, same⟩
    have short := canonical_length canonical (k := 20)
      (by have := w.toNat_lt; omega) (by decide)
    rw [parseDecimalU64String, if_neg, if_neg]
    · exact (decimal_loop_iff 0 w text).mpr ⟨canonical.digits, same⟩
    · simpa using canonical.noLeadingZero
    · simp [canonical.nonempty, short]

theorem decimal_u64_iff (text : List UInt8) :
    (parseDecimalU64String text).isSome = true ↔ DecimalU64 text := by
  rw [Option.isSome_iff_exists]
  constructor
  · rintro ⟨w, read⟩
    obtain ⟨canonical, same⟩ := (parse_decimal_iff text w).mp read
    exact ⟨canonical, same ▸ w.toNat_lt⟩
  · rintro ⟨canonical, small⟩
    refine ⟨UInt64.ofNat (value text), (parse_decimal_iff text _).mpr ⟨canonical, ?_⟩⟩
    rw [UInt64.toNat_ofNat', Nat.mod_eq_of_lt small]

theorem version_entry_iff (read previous : UInt64) (v : UInt8) :
    ¬ (read < 1 || read > 255 || read ≥ previous) = true ∧ read.toUInt8 = v ↔
      read = v.toUInt32.toUInt64 ∧ v ≠ 0 ∧ v.toNat < previous.toNat := by
  have small := v.toNat_lt
  simp only [Bool.or_eq_true, decide_eq_true_eq, not_or, gt_iff_lt, ge_iff_le,
    UInt64.lt_iff_toNat_lt, UInt64.le_iff_toNat_le, UInt64.reduceToNat, ← UInt64.toNat_inj,
    ← UInt8.toNat_inj, ne_eq, UInt64.toNat_toUInt8, UInt32.toNat_toUInt64, UInt8.toNat_toUInt32,
    UInt8.reduceToNat]
  omega

theorem versions_loop_cons (previous : UInt64) (saw : Bool) (read : UInt64)
    (rest : List JsonValue) (versions : List UInt8) (last : Bool) :
    versionsLoop previous saw (.number read :: rest) = .ok (versions, last) ↔
      ∃ v vs, versions = v :: vs ∧ read = v.toUInt32.toUInt64 ∧ v ≠ 0 ∧
        v.toNat < previous.toNat ∧
        versionsLoop read (saw || decide (read = 1)) rest = .ok (vs, last) := by
  by_cases refused : (read < 1 || read > 255 || read ≥ previous) = true
  · have left : versionsLoop previous saw (.number read :: rest) = .error .badMessage := by
      rw [versionsLoop, if_pos refused]
      rfl
    rw [left]
    simp only [reduceCtorEq, false_iff, not_exists, not_and]
    intro v vs _ same nonzero below
    exact absurd refused ((version_entry_iff read previous v).mpr ⟨same, nonzero, below⟩).1
  · have entry := (version_entry_iff read previous read.toUInt8).mp ⟨refused, rfl⟩
    cases run : versionsLoop read (saw || decide (read = 1)) rest with
    | error status =>
      have left : versionsLoop previous saw (.number read :: rest) = .error status := by
        rw [versionsLoop, if_neg refused, run]
        rfl
      simp [left]
    | ok result =>
      obtain ⟨vs, s⟩ := result
      have left : versionsLoop previous saw (.number read :: rest) =
          .ok (read.toUInt8 :: vs, s) := by
        rw [versionsLoop, if_neg refused, run]
        rfl
      simp only [left, Except.ok.injEq, Prod.mk.injEq]
      constructor
      · rintro ⟨rfl, rfl⟩
        exact ⟨_, vs, rfl, entry.1, entry.2.1, entry.2.2, rfl, rfl⟩
      · rintro ⟨v, vs', rfl, same, nonzero, below, rfl, rfl⟩
        have := ((version_entry_iff read previous v).mpr ⟨same, nonzero, below⟩).2
        exact ⟨by rw [this], rfl⟩

theorem versions_loop_iff (previous : UInt64) (saw : Bool) (elements : List JsonValue)
    (versions : List UInt8) (last : Bool) :
    versionsLoop previous saw elements = .ok (versions, last) ↔
      elements = versionNumbers versions ∧ versions.Pairwise (· > ·) ∧
      (∀ v ∈ versions, v.toNat < previous.toNat) ∧ 0 ∉ versions ∧
      last = (saw || decide (1 ∈ versions)) := by
  induction elements generalizing previous saw versions last with
  | nil =>
    have done : versionsLoop previous saw [] = .ok ([], saw) := rfl
    rw [done]
    cases versions with
    | nil =>
      simp only [versionNumbers, Except.ok.injEq, Prod.mk.injEq, true_and, List.map_nil,
        List.Pairwise.nil, List.not_mem_nil, decide_false, Bool.or_false, not_false_eq_true,
        false_implies, implies_true]
      exact eq_comm
    | cons => simp [versionNumbers]
  | cons element rest ih =>
    cases element with
    | number read =>
      rw [versions_loop_cons]
      constructor
      · rintro ⟨v, vs, rfl, rfl, nonzero, below, run⟩
        obtain ⟨rfl, descending, under, noZero, rfl⟩ := (ih _ _ vs last).mp run
        have isOne : decide (v.toUInt32.toUInt64 = 1) = decide (1 = v) := by
          simp only [← UInt64.toNat_inj, ← UInt8.toNat_inj, UInt32.toNat_toUInt64,
            UInt8.toNat_toUInt32, UInt64.reduceToNat, UInt8.reduceToNat, eq_comm]
        refine ⟨rfl, List.pairwise_cons.mpr ⟨fun w member => ?_, descending⟩, ?_, ?_, ?_⟩
        · have := under w member
          simpa [UInt8.lt_iff_toNat_lt] using this
        · intro w member
          rcases List.mem_cons.mp member with rfl | later
          · exact below
          · have := under w later
            simp only [UInt32.toNat_toUInt64, UInt8.toNat_toUInt32] at this
            omega
        · simpa using ⟨Ne.symm nonzero, noZero⟩
        · rw [isOne, Bool.or_assoc]
          congr 1
          simp
      · rintro ⟨same, descending, under, noZero, rfl⟩
        cases versions with
        | nil => simp [versionNumbers] at same
        | cons v vs =>
          simp only [versionNumbers, List.map_cons, List.cons.injEq, number,
            JsonValue.number.injEq] at same
          obtain ⟨rfl, rfl⟩ := same
          simp only [List.mem_cons, not_or] at noZero
          obtain ⟨above, rest⟩ := List.pairwise_cons.mp descending
          have isOne : decide (v.toUInt32.toUInt64 = 1) = decide (1 = v) := by
            simp only [← UInt64.toNat_inj, ← UInt8.toNat_inj, UInt32.toNat_toUInt64,
              UInt8.toNat_toUInt32, UInt64.reduceToNat, UInt8.reduceToNat, eq_comm]
          refine ⟨v, vs, rfl, rfl, Ne.symm noZero.1, under v (by simp), (ih _ _ vs _).mpr
            ⟨rfl, rest, fun w member => ?_, noZero.2, ?_⟩⟩
          · simpa [UInt8.lt_iff_toNat_lt] using above w member
          · rw [isOne, Bool.or_assoc]
            congr 1
            simp
    | _ =>
      constructor
      · intro run
        cases run
      · rintro ⟨same, _⟩
        cases versions <;> simp [versionNumbers, number] at same

theorem validate_versions_iff (elements : List JsonValue) (out info : GmControlMessageInfo) :
    validateVersions elements out = .ok info ↔ ∃ versions, elements = versionNumbers versions ∧
      VersionList versions ∧
      { out with
        versionsCount := versions.length.toUInt8
        versions := CString.fillExact 8 versions } = info := by
  rw [validateVersions, check_bind_ok]
  constructor
  · rintro ⟨size, run⟩
    cases loop : versionsLoop 256 false elements with
    | error status => simp [loop, bind, Except.bind] at run
    | ok result =>
      obtain ⟨versions, saw⟩ := result
      obtain ⟨rfl, descending, _, noZero, rfl⟩ := (versions_loop_iff _ _ _ versions saw).mp loop
      simp only [loop, bind, Except.bind] at run
      split at run
      · rename_i one
        refine ⟨versions, rfl, ⟨descending, by simpa using one, noZero, ?_⟩, ?_⟩
        · simp only [Bool.and_eq_true, decide_eq_true_eq, versionNumbers, List.length_map] at size
          exact size.2
        · simpa [versionNumbers, pure, Except.pure] using run
      · cases run
  · rintro ⟨versions, rfl, ⟨descending, one, noZero, short⟩, rfl⟩
    have loop := (versions_loop_iff 256 false (versionNumbers versions) versions true).mpr
      ⟨rfl, descending, fun v _ => v.toNat_lt, noZero, by simpa using one⟩
    have nonempty : versions ≠ [] := List.ne_nil_of_mem one
    refine ⟨by simpa [versionNumbers, nonempty] using short, ?_⟩
    simp only [loop, bind, Except.bind]
    simp [versionNumbers, pure, Except.pure]

/-- The two families of valid profiles; interval and payload may be left unset. -/
def ValidProfile (p : GmAudioProfile) : Prop :=
  p.sampleRateHz = 48000 ∧ p.channels = 2 ∧ p.channelLayout = gmChannelLayoutStereo ∧
    (p.codec = gmAudioCodecPcmS16le ∧ p.framesPerPacket = 240 ∧
        (p.packetIntervalUs = 0 ∨ p.packetIntervalUs = 5000) ∧
        (p.payloadBytes = 0 ∨ p.payloadBytes = gmAudioPcmS16lePayloadBytes) ∨
      p.codec = gmAudioCodecOpus ∧ p.framesPerPacket = 480 ∧
        (p.packetIntervalUs = 0 ∨ p.packetIntervalUs = 10000) ∧
        (p.payloadBytes = 0 ∨ p.payloadBytes = gmAudioOpusMaxPayloadBytes))

/-- The tests shared by the two codecs. -/
theorem packet_tests_iff (n frames : UInt16) (i interval p payload : UInt32) :
    (if n ≠ frames then GmStatus.badMessage
      else if (i ≠ 0 && i ≠ interval) || (p ≠ 0 && p ≠ payload) then .badMessage
      else .ok) = .ok ↔
      n = frames ∧ (i = 0 ∨ i = interval) ∧ (p = 0 ∨ p = payload) := by
  by_cases same : n = frames
  · rw [if_neg (not_not.mpr same)]
    by_cases refused : ((i ≠ 0 && i ≠ interval) || (p ≠ 0 && p ≠ payload)) = true
    · rw [if_pos refused]
      simp only [ne_eq, Bool.or_eq_true, Bool.and_eq_true, decide_eq_true_eq] at refused
      simp only [reduceCtorEq, false_iff]
      rintro ⟨_, i_ok, p_ok⟩
      rcases refused with ⟨a, b⟩ | ⟨a, b⟩
      · exact i_ok.elim a b
      · exact p_ok.elim a b
    · rw [if_neg refused]
      simp only [ne_eq, Bool.or_eq_true, Bool.and_eq_true, decide_eq_true_eq, not_or, not_and,
        not_not] at refused
      simp only [true_iff]
      exact ⟨same, or_iff_not_imp_left.mpr refused.1, or_iff_not_imp_left.mpr refused.2⟩
  · simp [same]

theorem profile_validate_iff (p : GmAudioProfile) (size : sizeofGmAudioProfile ≤ p.structSize)
    (version : p.abiVersion = gmAbiVersion) :
    gmAudioProfileValidate p = .ok ↔ ValidProfile p := by
  have header : ¬ (p.structSize < sizeofGmAudioProfile || p.abiVersion ≠ gmAbiVersion) = true := by
    simpa [version] using size
  rw [gmAudioProfileValidate, if_neg header, ValidProfile]
  by_cases fixed : (p.sampleRateHz ≠ 48000 || p.channels ≠ 2 ||
      p.channelLayout ≠ gmChannelLayoutStereo) = true
  · rw [if_pos fixed]
    simp only [reduceCtorEq, false_iff]
    rintro ⟨rate, channels, layout, _⟩
    simp [rate, channels, layout] at fixed
  rw [if_neg fixed]
  simp only [ne_eq, Bool.or_eq_true, decide_eq_true_eq, not_or, not_not] at fixed
  obtain ⟨⟨rate, channels⟩, layout⟩ := fixed
  by_cases pcm : p.codec = gmAudioCodecPcmS16le
  · have notOpus : p.codec ≠ gmAudioCodecOpus := by
      rw [pcm]
      decide
    rw [if_pos pcm, packet_tests_iff]
    simp [rate, channels, layout, pcm]
  · rw [if_neg pcm]
    by_cases opus : p.codec = gmAudioCodecOpus
    · rw [if_pos opus, packet_tests_iff]
      simp [rate, channels, layout, opus]
    · rw [if_neg opus]
      simp [pcm, opus]

theorem codec_valid (codec : Codec) : ValidProfile codec.profile := by
  cases codec <;> simp [ValidProfile, Codec.profile]

/-- A parsed profile before its fixed values are checked. -/
def profileRecord (codec interval payload sampleRate : UInt32) (channels frames : UInt16) :
    GmAudioProfile :=
  ⟨sizeofGmAudioProfile, gmAbiVersion, codec, sampleRate, channels, frames,
    gmChannelLayoutStereo, interval, payload⟩

theorem codec_fields_iff (text : List UInt8) (codec interval payload rate : UInt32)
    (channels frames : UInt16) :
    codecFields text = some (codec, interval, payload) ∧
        ValidProfile (profileRecord codec interval payload rate channels frames) ↔
      ∃ c : Codec, text = c.text ∧
        profileRecord codec interval payload rate channels frames = c.profile := by
  constructor
  · rintro ⟨fields, rate, channels, _, family⟩
    simp only [profileRecord] at rate channels family
    rw [codecFields] at fields
    split at fields
    · rename_i isPcm
      simp only [Option.some.injEq, Prod.mk.injEq] at fields
      obtain ⟨rfl, rfl, rfl⟩ := fields
      obtain ⟨_, count, _⟩ | ⟨other, _⟩ := family
      · exact ⟨.pcmS16le, isPcm, by rw [rate, channels, count]; rfl⟩
      · exact absurd other (by decide)
    split at fields
    · rename_i isOpus
      simp only [Option.some.injEq, Prod.mk.injEq] at fields
      obtain ⟨rfl, rfl, rfl⟩ := fields
      obtain ⟨other, _⟩ | ⟨_, count, _⟩ := family
      · exact absurd other (by decide)
      · exact ⟨.opus, isOpus, by rw [rate, channels, count]; rfl⟩
    · cases fields
  · rintro ⟨c, rfl, same⟩
    refine ⟨?_, same ▸ codec_valid c⟩
    cases c <;>
      simp only [profileRecord, Codec.profile, GmAudioProfile.mk.injEq] at same <;>
      obtain ⟨_, _, rfl, _, _, _, _, rfl, rfl⟩ := same <;> rfl

theorem small_number (value : UInt32) (n : UInt16) :
    value ≤ 0xffff ∧ value.toUInt16 = n ↔ value = n.toUInt32 := by
  have small := n.toNat_lt
  simp only [UInt32.le_iff_toNat_le, ← UInt16.toNat_inj, ← UInt32.toNat_inj, UInt32.toNat_toUInt16,
    UInt16.toNat_toUInt32, UInt32.reduceToNat]
  omega

theorem profile_entries_unique (codec : Codec) :
    ((profileEntries codec).map Prod.fst).Nodup := by
  simp only [profileEntries, List.map_cons, List.map_nil]
  decide

theorem profile_object_iff {members : Members} (distinct : (members.map Prod.fst).Nodup)
    (codec : Codec) :
    ProfileObject codec (.object members) ↔
      objectHasExactKeys (.object members) ((profileEntries codec).map Prod.fst) = true ∧
        ∀ entry ∈ profileEntries codec, entry ∈ members := by
  rw [← members_perm_iff distinct _ (profile_entries_unique codec)]
  constructor
  · rintro ⟨_, same, perm⟩
    cases same
    exact perm
  · exact fun perm => ⟨members, rfl, perm⟩

theorem profile_return_iff (record p : GmAudioProfile)
    (size : sizeofGmAudioProfile ≤ record.structSize) (version : record.abiVersion = gmAbiVersion) :
    (match gmAudioProfileValidate record with
      | .ok => (return record : Except GmStatus GmAudioProfile)
      | status => throw status) = .ok p ↔ ValidProfile record ∧ record = p := by
  rw [← profile_validate_iff record size version]
  cases gmAudioProfileValidate record <;> simp [throw, throwThe, MonadExceptOf.throw]

/-- `parse_profile` accepts the profile objects of the two codecs. -/
theorem parse_profile_iff {members : Members} (distinct : (members.map Prod.fst).Nodup)
    (p : GmAudioProfile) :
    parseProfile (.object members) = .ok p ↔
      ∃ codec, ProfileObject codec (.object members) ∧ codec.profile = p := by
  rw [parseProfile]
  simp only [check_bind_ok, require_bind_ok, required_string_iff distinct,
    required_u32_iff distinct, decide_eq_true_eq]
  constructor
  · rintro ⟨keys, text, hasText, rate, ⟨hasRate, _⟩, channels, ⟨hasChannels, _, channelsTop⟩,
      layout, hasLayout, frames, ⟨hasFrames, _, framesTop⟩, ⟨codec, interval, payload⟩, fields,
      rfl, run⟩
    obtain ⟨valid, rfl⟩ := (profile_return_iff _ p (le_refl _) rfl).mp run
    obtain ⟨c, rfl, same⟩ := (codec_fields_iff _ _ _ _ _ _ _).mp ⟨fields, valid⟩
    refine ⟨c, (profile_object_iff distinct c).mpr ⟨keys, ?_⟩, same.symm⟩
    have fixedRate : rate = 48000 :=
      (congrArg GmAudioProfile.sampleRateHz same).trans (by cases c <;> rfl)
    have fixedChannels : channels = 2 := (small_number channels 2).mp
      ⟨channelsTop, (congrArg GmAudioProfile.channels same).trans (by cases c <;> rfl)⟩
    have fixedFrames : frames = c.framesPerPacket.toUInt32 := (small_number frames _).mp
      ⟨framesTop, (congrArg GmAudioProfile.framesPerPacket same).trans (by cases c <;> rfl)⟩
    subst fixedRate fixedChannels fixedFrames
    simpa [profileEntries] using ⟨hasText, hasRate, hasChannels, hasLayout, hasFrames⟩
  · rintro ⟨c, object, rfl⟩
    obtain ⟨keys, present⟩ := (profile_object_iff distinct c).mp object
    simp only [profileEntries, List.forall_mem_cons, List.not_mem_nil, false_implies,
      implies_true, and_true] at present
    obtain ⟨hasText, hasRate, hasChannels, hasLayout, hasFrames⟩ := present
    have frames := (small_number c.framesPerPacket.toUInt32 c.framesPerPacket).mpr rfl
    have read : profileRecord c.profile.codec c.profile.packetIntervalUs c.profile.payloadBytes
        48000 2 c.framesPerPacket = c.profile := by cases c <;> rfl
    refine ⟨keys, c.text, hasText, 48000, ⟨hasRate, by decide⟩, 2, ⟨hasChannels, by decide⟩, _,
      hasLayout, _, ⟨hasFrames, UInt32.zero_le, frames.1⟩,
      (c.profile.codec, c.profile.packetIntervalUs, c.profile.payloadBytes),
      ((codec_fields_iff _ _ _ _ _ _ _).mpr ⟨c, rfl, read⟩).1, rfl, ?_⟩
    refine (profile_return_iff _ _ (le_refl _) rfl).mpr ?_
    rw [frames.2]
    exact ⟨read ▸ codec_valid c, read⟩

theorem parse_profile_ok_iff {object : JsonValue} (names : DistinctNames object)
    (p : GmAudioProfile) :
    parseProfile object = .ok p ↔ ∃ codec, ProfileObject codec object ∧ codec.profile = p := by
  cases names with
  | object distinct => exact parse_profile_iff distinct p
  | _ =>
    rw [parseProfile, check_bind_ok]
    simp [objectHasExactKeys, ProfileObject]

theorem parse_profile_toBool {object : JsonValue} (names : DistinctNames object) :
    (parseProfile object).toBool = true ↔ ∃ codec, ProfileObject codec object := by
  have spec := parse_profile_ok_iff names
  cases run : parseProfile object with
  | ok p =>
    obtain ⟨codec, object, _⟩ := (spec p).mp run
    simpa [Except.toBool] using ⟨codec, object⟩
  | error status =>
    simp only [Except.toBool, Bool.false_eq_true, false_iff, not_exists]
    intro codec object
    have read := (spec codec.profile).mpr ⟨codec, object, rfl⟩
    cases run.symm.trans read

theorem capabilities_entries_unique (receive : Bool) (profiles : List JsonValue) :
    ((capabilitiesEntries receive profiles).map Prod.fst).Nodup := by
  simp only [capabilitiesEntries, List.map_cons, List.map_nil]
  decide

theorem profile_count_iff (receive : Bool) (profiles : List JsonValue) :
    (if receive then !profiles.isEmpty && profiles.length ≤ 2 else profiles.isEmpty) = true ↔
      if receive then profiles ≠ [] ∧ profiles.length ≤ 2 else profiles = [] := by
  cases receive <;> simp

theorem validate_capabilities_iff {members : Members} (names : DistinctNames (.object members)) :
    validateCapabilities (.object members) = true ↔ CapabilitiesObject (.object members) := by
  have distinct := distinct_object names
  rw [validateCapabilities, Bool.and_eq_true]
  constructor
  · rintro ⟨keys, fields⟩
    split at fields
    · rename_i send receive microphone camera profiles hasSend hasReceive hasMicrophone hasCamera
        hasProfiles
      simp only [Bool.and_eq_true, Bool.not_eq_true', Bool.or_eq_false_iff,
        profile_count_iff, List.all_eq_true] at fields
      obtain ⟨⟨⟨⟨rfl, rfl⟩, rfl⟩, count⟩, each⟩ := fields
      rw [required_bool_iff distinct] at hasSend hasReceive hasMicrophone hasCamera
      rw [required_array_iff distinct] at hasProfiles
      refine ⟨members, receive, profiles, rfl, ?_, count, fun profile listed => ?_⟩
      · refine (members_perm_iff distinct _ (capabilities_entries_unique receive profiles)).mpr
          ⟨keys, ?_⟩
        simpa [capabilitiesEntries] using
          ⟨hasSend, hasReceive, hasMicrophone, hasCamera, hasProfiles⟩
      · refine (parse_profile_toBool ?_).mp (each profile listed)
        cases distinct_member names hasProfiles with
        | array inner => exact inner profile listed
    · cases fields
  · rintro ⟨_, receive, profiles, same, perm, count, each⟩
    cases same
    obtain ⟨keys, present⟩ :=
      (members_perm_iff distinct _ (capabilities_entries_unique receive profiles)).mp perm
    simp only [capabilitiesEntries, List.forall_mem_cons, List.not_mem_nil, false_implies,
      implies_true, and_true] at present
    obtain ⟨hasSend, hasReceive, hasMicrophone, hasCamera, hasProfiles⟩ := present
    refine ⟨keys, ?_⟩
    have inner := distinct_member names hasProfiles
    rw [← required_bool_iff distinct] at hasSend hasReceive hasMicrophone hasCamera
    rw [← required_array_iff distinct] at hasProfiles
    rw [hasSend, hasReceive, hasMicrophone, hasCamera, hasProfiles]
    simp only [Bool.or_self, Bool.not_false, Bool.true_and, Bool.and_eq_true, profile_count_iff,
      List.all_eq_true]
    refine ⟨count, fun profile listed => ?_⟩
    cases inner with
    | array inner => exact (parse_profile_toBool (inner profile listed)).mpr (each profile listed)

theorem limits_entries_unique (subscribers playoutMin playoutMax : UInt32) :
    ((limitsEntries subscribers playoutMin playoutMax).map Prod.fst).Nodup := by
  simp only [limitsEntries, List.map_cons, List.map_nil]
  decide

theorem validate_limits_iff {members : Members} (distinct : (members.map Prod.fst).Nodup) :
    validateLimits (.object members) = true ↔ LimitsObject (.object members) := by
  rw [validateLimits, Bool.and_eq_true]
  constructor
  · rintro ⟨keys, fields⟩
    split at fields
    · rename_i subscribers playoutMin playoutMax hasSubscribers hasMin hasMax
      rw [required_u32_iff distinct] at hasSubscribers hasMin hasMax
      refine ⟨members, subscribers, playoutMin, playoutMax, rfl, ?_, by simpa using fields⟩
      refine (members_perm_iff distinct _ (limits_entries_unique _ _ _)).mpr ⟨keys, ?_⟩
      simpa [limitsEntries] using ⟨hasSubscribers.1, hasMin.1, hasMax.1⟩
    · cases fields
  · rintro ⟨_, subscribers, playoutMin, playoutMax, same, perm, ordered⟩
    cases same
    obtain ⟨keys, present⟩ := (members_perm_iff distinct _ (limits_entries_unique _ _ _)).mp perm
    simp only [limitsEntries, List.forall_mem_cons, List.not_mem_nil, false_implies,
      implies_true, and_true] at present
    have whole (value : UInt32) : 0 ≤ value ∧ value ≤ 0xffffffff := by
      have := value.toNat_lt
      simp only [UInt32.le_iff_toNat_le, UInt32.reduceToNat]
      omega
    refine ⟨keys, ?_⟩
    rw [(required_u32_iff distinct _ _ _ _).mpr ⟨present.1, whole subscribers⟩,
      (required_u32_iff distinct _ _ _ _).mpr ⟨present.2.1, whole playoutMin⟩,
      (required_u32_iff distinct _ _ _ _).mpr ⟨present.2.2, whole playoutMax⟩]
    simpa using ordered

theorem reason_plain {value : List UInt8} (shape : Reason value) :
    value.length ≤ 64 ∧ 0 ∉ value := by
  obtain ⟨_, short, range⟩ := shape
  exact ⟨short, fun nul => absurd (range 0 nul).1 (by decide)⟩

theorem decimal_plain {value : List UInt8} (decimal : DecimalU64 value) :
    value.length ≤ 20 ∧ 0 ∉ value := by
  obtain ⟨canonical, small⟩ := decimal
  refine ⟨Decimal.canonical_length canonical ?_ (by decide), fun nul => ?_⟩
  · have : (2 : Nat) ^ 64 ≤ 10 ^ 20 := by decide
    omega
  · exact absurd (canonical.digits 0 nul) (by simp [Decimal.IsDigit])

theorem render_decimal (v : UInt64) : DecimalU64 (Decimal.render v.toNat) :=
  ⟨Decimal.render_canonical v.toNat, (Decimal.render_value v.toNat).symm ▸ v.toNat_lt⟩

theorem lower_hex_nonzero {b : UInt8} (hex : LowerHex b) : b ≠ 0 := by
  rintro rfl
  exact absurd hex (by simp only [LowerHex]; decide)

theorem session_id_plain {value : List UInt8} (shape : SessionIdText value) :
    value.length ≤ 32 ∧ 0 ∉ value :=
  ⟨shape.1.le, fun nul => lower_hex_nonzero (shape.2 0 nul) rfl⟩

theorem uuid_plain {value : List UInt8} (shape : UuidText value) :
    value.length ≤ 36 ∧ 0 ∉ value := by
  refine ⟨shape.1.le, fun nul => ?_⟩
  obtain ⟨i, there⟩ := List.mem_iff_getElem?.mp nul
  have character := shape.2 i 0 there
  split at character
  · exact absurd character (by decide)
  · exact lower_hex_nonzero character rfl

theorem endpoint_state_plain {value : List UInt8} (shape : EndpointState value) :
    value.length ≤ 64 ∧ 0 ∉ value := by
  have table : ∀ text ∈ [ascii "available", ascii "unavailable", ascii "faulted"],
      text.length ≤ 64 ∧ 0 ∉ text := by decide
  exact table value shape

end GhostMedia.Control
