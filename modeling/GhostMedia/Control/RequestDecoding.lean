import GhostMedia.Control.FieldSpecs

/- Each branch of `validate_request`, and `validate_error`, decodes exactly the member
   lists of the messages of its kind into their records. -/
namespace GhostMedia.Control
open Json CString StateLogic

/-- The record before a validator runs on a message with an id. -/
def numberedInfo (size : Nat) (id : UInt32) (type : List UInt8) : GmControlMessageInfo :=
  { clearedInfo size with type := copyStringField _ type, id := id }

/-- The members every message with an id has been read to have. -/
structure Header (members : Members) (id : UInt32) (type : List UInt8) : Prop where
  distinct : (members.map Prod.fst).Nodup
  hasVersion : (ascii "v", number 1) ∈ members
  hasId : (ascii "id", number id) ∈ members
  hasType : (ascii "type", .string type) ∈ members
  positive : 1 ≤ id

theorem header_perm_iff {members : Members} {id : UInt32} {type : List UInt8}
    (header : Header members id type) (fields : Members)
    (unique : (ascii "v" :: ascii "id" :: ascii "type" :: fields.map Prod.fst).Nodup) :
    members.Perm (numbered id type fields) ↔
      objectHasExactKeys (.object members)
        (ascii "v" :: ascii "id" :: ascii "type" :: fields.map Prod.fst) = true ∧
      ∀ entry ∈ fields, entry ∈ members := by
  rw [members_perm_iff header.distinct _ (by simpa [numbered] using unique)]
  simp [numbered, header.hasVersion, header.hasId, header.hasType]

theorem u32_range (value : UInt32) : 0 ≤ value ∧ value ≤ maxU32 := by
  have := value.toNat_lt
  simp only [maxU32, UInt32.le_iff_toNat_le, UInt32.reduceToNat]
  omega

section Requests
variable {members : Members} {id : UInt32} {size : Nat} {info : GmControlMessageInfo}

theorem validate_transport_bind_iff (header : Header members id (ascii "transport.bind")) :
    validateTransportBind (.object members) (numberedInfo size id (ascii "transport.bind")) =
        .ok info ↔
      ∃ sessionId udpPort, (Message.transportBind id sessionId udpPort).Describes members ∧
        (Message.transportBind id sessionId udpPort).info size = info := by
  have distinct := header.distinct
  have perm (sessionId : List UInt8) (udpPort : UInt32) := header_perm_iff header
    [(ascii "session_id", .string sessionId), (ascii "udp_port", number udpPort)]
    (by simp only [List.map_cons, List.map_nil]; decide)
  simp only [validateTransportBind, check_bind_ok, require_bind_ok, return_ok,
    required_string_iff distinct, required_u32_iff distinct, session_id_iff, Message.Describes,
    perm, List.forall_mem_cons, List.map_cons, List.map_nil]
  constructor
  · rintro ⟨keys, sessionId, hasSession, shape, udpPort, ⟨hasPort, low, high⟩, rfl⟩
    exact ⟨sessionId, udpPort, ⟨⟨keys, hasSession, hasPort, by simp⟩, header.positive, shape, low,
      high⟩, rfl⟩
  · rintro ⟨sessionId, udpPort, ⟨⟨keys, hasSession, hasPort, _⟩, _, shape, low, high⟩, rfl⟩
    exact ⟨keys, sessionId, hasSession, shape, udpPort, ⟨hasPort, low, high⟩, rfl⟩

theorem validate_session_hello_iff (header : Header members id (ascii "session.hello")) :
    validateSessionHello (.object members) (numberedInfo size id (ascii "session.hello")) =
        .ok info ↔
      ∃ clientName versions udpPort,
        (Message.sessionHello id clientName versions udpPort).Describes members ∧
        (Message.sessionHello id clientName versions udpPort).info size = info := by
  have distinct := header.distinct
  have perm (clientName versions : List UInt8) (udpPort : UInt32) := header_perm_iff header
    [(ascii "role", .string (ascii "win-client")), (ascii "client_name", .string clientName),
      (ascii "versions", .array (versionNumbers versions)), (ascii "udp_port", number udpPort)]
    (by simp only [List.map_cons, List.map_nil]; decide)
  simp only [validateSessionHello, check_bind_ok, require_bind_ok, return_ok,
    required_string_iff distinct, required_u32_iff distinct, required_array_iff distinct,
    then_ok_iff (validateVersions _ _), validate_versions_iff, Message.Describes,
    decide_eq_true_eq, gmControlClientNameMaxBytes, perm, List.forall_mem_cons, List.map_cons,
    List.map_nil]
  constructor
  · rintro ⟨keys, _, hasRole, rfl, clientName, hasName, short, _, hasVersions, udpPort,
      ⟨hasPort, low, high⟩, _, ⟨versions, rfl, list, rfl⟩, rfl⟩
    exact ⟨clientName, versions, udpPort, ⟨⟨keys, hasRole, hasName, hasVersions, hasPort, by simp⟩,
      header.positive, short, list, low, high⟩, rfl⟩
  · rintro ⟨clientName, versions, udpPort, ⟨⟨keys, hasRole, hasName, hasVersions, hasPort, _⟩, _,
      short, list, low, high⟩, rfl⟩
    exact ⟨keys, _, hasRole, rfl, clientName, hasName, short, _, hasVersions, udpPort,
      ⟨hasPort, low, high⟩, _, ⟨versions, rfl, list, rfl⟩, rfl⟩

theorem validate_stream_open_iff (header : Header members id (ascii "stream.open"))
    (names : DistinctNames (.object members)) :
    validateStreamOpen (.object members) (numberedInfo size id (ascii "stream.open")) =
        .ok info ↔
      ∃ codec playoutTargetMs, (Message.streamOpen id codec playoutTargetMs).Describes members ∧
        (Message.streamOpen id codec playoutTargetMs).info size = info := by
  have distinct := header.distinct
  have perm (profile : JsonValue) (playoutTargetMs : UInt32) := header_perm_iff header
    [(ascii "kind", .string (ascii "audio")), (ascii "direction", .string (ascii "win_to_apple")),
      (ascii "profile", profile), (ascii "playout_target_ms", number playoutTargetMs)]
    (by simp only [List.map_cons, List.map_nil]; decide)
  simp only [validateStreamOpen, check_bind_ok, require_bind_ok, return_ok,
    required_string_iff distinct, required_u32_iff distinct, required_object_iff distinct,
    then_ok_iff (parseProfile _), Message.Describes, decide_eq_true_eq, perm,
    List.forall_mem_cons, List.map_cons, List.map_nil]
  constructor
  · rintro ⟨keys, _, hasKind, rfl, _, hasDirection, rfl, profile, ⟨hasProfile, _⟩, playoutTargetMs,
      ⟨hasPlayout, low, high⟩, parsed, run, rfl⟩
    obtain ⟨codec, object, rfl⟩ :=
      (parse_profile_ok_iff (distinct_member names hasProfile) parsed).mp run
    exact ⟨codec, playoutTargetMs, ⟨profile, object, ⟨keys, hasKind, hasDirection, hasProfile,
      hasPlayout, by simp⟩, header.positive, low, high⟩, rfl⟩
  · rintro ⟨codec, playoutTargetMs, ⟨profile, object, ⟨keys, hasKind, hasDirection, hasProfile,
      hasPlayout, _⟩, _, low, high⟩, rfl⟩
    have run := (parse_profile_ok_iff (distinct_member names hasProfile) _).mpr
      ⟨codec, object, rfl⟩
    obtain ⟨inner, shape, _⟩ := object
    exact ⟨keys, _, hasKind, rfl, _, hasDirection, rfl, profile, ⟨hasProfile, inner, shape⟩,
      playoutTargetMs, ⟨hasPlayout, low, high⟩, _, run, rfl⟩

theorem validate_stream_start_iff (header : Header members id (ascii "stream.start")) :
    validateStreamStart (.object members) (numberedInfo size id (ascii "stream.start")) =
        .ok info ↔
      ∃ streamId timestamp, (Message.streamStart id streamId timestamp).Describes members ∧
        (Message.streamStart id streamId timestamp).info size = info := by
  have distinct := header.distinct
  have perm (streamId : UInt32) (timestamp : List UInt8) := header_perm_iff header
    [(ascii "stream_id", number streamId), (ascii "first_media_timestamp", .string timestamp)]
    (by simp only [List.map_cons, List.map_nil]; decide)
  simp only [validateStreamStart, check_bind_ok, require_bind_ok, return_ok,
    required_string_iff distinct, required_u32_iff distinct, decimal_u64_iff, Message.Describes,
    perm, List.forall_mem_cons, List.map_cons, List.map_nil]
  constructor
  · rintro ⟨keys, streamId, ⟨hasStream, low, _⟩, timestamp, hasTimestamp, decimal, rfl⟩
    exact ⟨streamId, timestamp, ⟨⟨keys, hasStream, hasTimestamp, by simp⟩, header.positive, low,
      decimal⟩, rfl⟩
  · rintro ⟨streamId, timestamp, ⟨⟨keys, hasStream, hasTimestamp, _⟩, _, low, decimal⟩, rfl⟩
    exact ⟨keys, streamId, ⟨hasStream, low, (u32_range _).2⟩, timestamp, hasTimestamp, decimal,
      rfl⟩

theorem validate_stream_end_iff {type : List UInt8} (header : Header members id type)
    (out : GmControlMessageInfo) (kind : GmControlMessageKind) :
    validateStreamEnd (.object members) out kind = .ok info ↔
      ∃ streamId, members.Perm (numbered id type [(ascii "stream_id", number streamId)]) ∧
        1 ≤ streamId ∧ { out with streamId := streamId, kind := kind, mutating := 1 } = info := by
  have distinct := header.distinct
  have perm (streamId : UInt32) := header_perm_iff header [(ascii "stream_id", number streamId)]
    (by simp only [List.map_cons, List.map_nil]; decide)
  simp only [validateStreamEnd, check_bind_ok, require_bind_ok, return_ok,
    required_u32_iff distinct, perm, List.forall_mem_cons, List.map_cons, List.map_nil]
  constructor
  · rintro ⟨keys, streamId, ⟨hasStream, low, _⟩, stored⟩
    exact ⟨streamId, ⟨keys, hasStream, by simp⟩, low, stored⟩
  · rintro ⟨streamId, ⟨keys, hasStream, _⟩, low, stored⟩
    exact ⟨keys, streamId, ⟨hasStream, low, (u32_range _).2⟩, stored⟩

theorem validate_stream_stop_iff (header : Header members id (ascii "stream.stop")) :
    validateStreamEnd (.object members) (numberedInfo size id (ascii "stream.stop"))
        .requestStreamStop = .ok info ↔
      ∃ streamId, (Message.streamStop id streamId).Describes members ∧
        (Message.streamStop id streamId).info size = info := by
  rw [validate_stream_end_iff header]
  constructor
  · rintro ⟨streamId, perm, low, rfl⟩
    exact ⟨streamId, ⟨perm, header.positive, low⟩, rfl⟩
  · rintro ⟨streamId, ⟨perm, _, low⟩, rfl⟩
    exact ⟨streamId, perm, low, rfl⟩

theorem validate_stream_close_iff (header : Header members id (ascii "stream.close")) :
    validateStreamEnd (.object members) (numberedInfo size id (ascii "stream.close"))
        .requestStreamClose = .ok info ↔
      ∃ streamId, (Message.streamClose id streamId).Describes members ∧
        (Message.streamClose id streamId).info size = info := by
  rw [validate_stream_end_iff header]
  constructor
  · rintro ⟨streamId, perm, low, rfl⟩
    exact ⟨streamId, ⟨perm, header.positive, low⟩, rfl⟩
  · rintro ⟨streamId, ⟨perm, _, low⟩, rfl⟩
    exact ⟨streamId, perm, low, rfl⟩

theorem validate_stream_rekey_iff (header : Header members id (ascii "stream.rekey")) :
    validateStreamRekey (.object members) (numberedInfo size id (ascii "stream.rekey")) =
        .ok info ↔
      ∃ streamId keyEpoch, (Message.streamRekey id streamId keyEpoch).Describes members ∧
        (Message.streamRekey id streamId keyEpoch).info size = info := by
  have distinct := header.distinct
  have perm (streamId keyEpoch : UInt32) := header_perm_iff header
    [(ascii "stream_id", number streamId), (ascii "key_epoch", number keyEpoch)]
    (by simp only [List.map_cons, List.map_nil]; decide)
  simp only [validateStreamRekey, check_bind_ok, require_bind_ok, return_ok,
    required_u32_iff distinct, Message.Describes, perm, List.forall_mem_cons, List.map_cons,
    List.map_nil]
  constructor
  · rintro ⟨keys, streamId, ⟨hasStream, lowStream, _⟩, keyEpoch, ⟨hasEpoch, lowEpoch, _⟩, rfl⟩
    exact ⟨streamId, keyEpoch, ⟨⟨keys, hasStream, hasEpoch, by simp⟩, header.positive, lowStream,
      lowEpoch⟩, rfl⟩
  · rintro ⟨streamId, keyEpoch, ⟨⟨keys, hasStream, hasEpoch, _⟩, _, lowStream, lowEpoch⟩, rfl⟩
    exact ⟨keys, streamId, ⟨hasStream, lowStream, (u32_range _).2⟩, keyEpoch,
      ⟨hasEpoch, lowEpoch, (u32_range _).2⟩, rfl⟩

theorem validate_status_get_iff (header : Header members id (ascii "status.get")) :
    validateStatusGet (.object members) (numberedInfo size id (ascii "status.get")) = .ok info ↔
      (Message.statusGet id).Describes members ∧ (Message.statusGet id).info size = info := by
  have perm := header_perm_iff header [] (by decide)
  simp only [validateStatusGet, check_bind_ok, return_ok, Message.Describes, perm, List.map_nil]
  constructor
  · rintro ⟨keys, rfl⟩
    exact ⟨⟨⟨keys, by simp⟩, header.positive⟩, rfl⟩
  · rintro ⟨⟨⟨keys, _⟩, _⟩, rfl⟩
    exact ⟨keys, rfl⟩

theorem validate_ping_iff (header : Header members id (ascii "ping")) :
    validatePing (.object members) (numberedInfo size id (ascii "ping")) = .ok info ↔
      ∃ token, (Message.ping id token).Describes members ∧
        (Message.ping id token).info size = info := by
  have distinct := header.distinct
  have perm (token : List UInt8) := header_perm_iff header [(ascii "token", .string token)]
    (by simp only [List.map_cons, List.map_nil]; decide)
  simp only [validatePing, check_bind_ok, require_bind_ok, return_ok,
    required_string_iff distinct, token_iff, Message.Describes, perm, List.forall_mem_cons,
    List.map_cons, List.map_nil]
  constructor
  · rintro ⟨keys, token, hasToken, shape, rfl⟩
    exact ⟨token, ⟨⟨keys, hasToken, by simp⟩, header.positive, shape⟩, rfl⟩
  · rintro ⟨token, ⟨⟨keys, hasToken, _⟩, _, shape⟩, rfl⟩
    exact ⟨keys, token, hasToken, shape, rfl⟩

theorem find_member_none_iff (distinct : (members.map Prod.fst).Nodup) (name : List UInt8) :
    findMember (.object members) name = none ↔ name ∉ members.map Prod.fst := by
  rw [Option.eq_none_iff_forall_ne_some]
  simp [find_member_iff distinct]

theorem optional_string_none (distinct : (members.map Prod.fst).Nodup) (name : List UInt8) :
    getOptionalString (.object members) name = some none ↔ name ∉ members.map Prod.fst := by
  rw [← find_member_none_iff distinct, getOptionalString]
  cases findMember (.object members) name with
  | none => simp
  | some found => cases found <;> simp

theorem validate_session_close_iff (header : Header members id (ascii "session.close")) :
    validateSessionClose (.object members) (numberedInfo size id (ascii "session.close")) =
        .ok info ↔
      ∃ reason, (Message.sessionClose id reason).Describes members ∧
        (Message.sessionClose id reason).info size = info := by
  have distinct := header.distinct
  have bare := header_perm_iff header [] (by decide)
  have perm (reason : List UInt8) := header_perm_iff header [(ascii "reason", .string reason)]
    (by simp only [List.map_cons, List.map_nil]; decide)
  simp only [List.map_cons, List.map_nil, List.forall_mem_cons] at bare perm
  simp only [validateSessionClose, check_bind_ok, require_bind_ok]
  constructor
  · rintro ⟨keys, found, read, stored⟩
    cases found with
    | none =>
      have absent :=
        (find_member_none_iff distinct _).mpr ((optional_string_none distinct _).mp read)
      rw [absent] at keys
      obtain rfl := return_ok.mp stored
      exact ⟨none, ⟨bare.mpr ⟨keys, by simp⟩, header.positive⟩, rfl⟩
    | some reason =>
      have member := (optional_string_some distinct _ _).mp read
      have present := (find_member_iff distinct _ _).mpr member
      rw [present] at keys
      simp only [check_bind_ok, return_ok, reason_iff] at stored
      obtain ⟨shape, rfl⟩ := stored
      exact ⟨some reason, ⟨(perm reason).mpr ⟨keys, member, by simp⟩, header.positive, shape⟩, rfl⟩
  · rintro ⟨reason, described, rfl⟩
    cases reason with
    | none =>
      obtain ⟨same, _⟩ := described
      obtain ⟨keys, _⟩ := bare.mp same
      have absent : ascii "reason" ∉ members.map Prod.fst := by
        rw [((exact_keys_iff distinct _).mp keys).mem_iff]
        decide
      rw [(find_member_none_iff distinct _).mpr absent]
      exact ⟨keys, none, (optional_string_none distinct _).mpr absent, rfl⟩
    | some reason =>
      obtain ⟨same, _, shape⟩ := described
      obtain ⟨keys, member, _⟩ := (perm reason).mp same
      rw [(find_member_iff distinct _ _).mpr member]
      refine ⟨keys, some reason, (optional_string_some distinct _ _).mpr member, ?_⟩
      simp only [check_bind_ok, return_ok, reason_iff]
      exact ⟨shape, rfl⟩

theorem validate_error_iff (header : Header members id (ascii "error"))
    (names : DistinctNames (.object members)) :
    validateError (.object members) (numberedInfo size id (ascii "error")) = .ok info ↔
      (Message.error id).Describes members ∧ (Message.error id).info size = info := by
  have distinct := header.distinct
  have perm (error : JsonValue) := header_perm_iff header [(ascii "error", error)]
    (by simp only [List.map_cons, List.map_nil]; decide)
  have unique (code message : List UInt8) (retryable : Bool) : (([(ascii "code", .string code),
      (ascii "message", .string message), (ascii "retryable", .boolean retryable)] :
      Members).map Prod.fst).Nodup := by
    simp only [List.map_cons, List.map_nil]
    decide
  simp only [validateError, check_bind_ok, require_bind_ok, return_ok,
    required_object_iff distinct, Message.Describes, perm, List.forall_mem_cons, List.map_cons,
    List.map_nil]
  constructor
  · rintro ⟨keys, _, ⟨hasError, inner, rfl⟩, innerKeys, code, readCode, known, message, readMessage,
      short, retryable, readRetryable, rfl⟩
    have innerDistinct := distinct_object (distinct_member names hasError)
    rw [required_string_iff innerDistinct] at readCode readMessage
    rw [required_bool_iff innerDistinct] at readRetryable
    refine ⟨⟨code, message, retryable, inner, ?_, ⟨keys, hasError, by simp⟩, header.positive,
      (error_code_iff code).mp known, of_decide_eq_true short⟩, rfl⟩
    refine (members_perm_iff innerDistinct _ (unique _ _ _)).mpr ⟨innerKeys, ?_⟩
    simpa using ⟨readCode, readMessage, readRetryable⟩
  · rintro ⟨⟨code, message, retryable, inner, same, ⟨keys, hasError, _⟩, _, known, short⟩, rfl⟩
    have innerDistinct := distinct_object (distinct_member names hasError)
    obtain ⟨innerKeys, fields⟩ := (members_perm_iff innerDistinct _ (unique _ _ _)).mp same
    simp only [List.forall_mem_cons] at fields
    obtain ⟨hasCode, hasMessage, hasRetryable, _⟩ := fields
    rw [← required_string_iff innerDistinct] at hasCode hasMessage
    rw [← required_bool_iff innerDistinct] at hasRetryable
    exact ⟨keys, _, ⟨hasError, inner, rfl⟩, innerKeys, code, hasCode,
      (error_code_iff code).mpr known, message, hasMessage, decide_eq_true short, retryable,
      hasRetryable, rfl⟩

end Requests

end GhostMedia.Control
