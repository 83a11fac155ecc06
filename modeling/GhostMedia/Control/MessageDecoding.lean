import GhostMedia.Control.ResultDecoding

/- `gm_control_parse_message` decodes exactly the described member lists: the events,
   the dispatch on the type, and the checks in front of them. -/
namespace GhostMedia.Control
open Json CString StateLogic

/-- The record before a validator runs on an event. -/
def eventInfo (size : Nat) (type : List UInt8) : GmControlMessageInfo :=
  { clearedInfo size with type := copyStringField _ type }

/-- The members every event has been read to have. -/
structure EventHeader (members : Members) (type : List UInt8) : Prop where
  distinct : (members.map Prod.fst).Nodup
  hasVersion : (ascii "v", number 1) ∈ members
  hasType : (ascii "type", .string type) ∈ members

theorem event_perm_iff {members : Members} {type : List UInt8}
    (header : EventHeader members type) (fields : Members)
    (unique : (ascii "v" :: ascii "type" :: fields.map Prod.fst).Nodup) :
    members.Perm (event type fields) ↔
      objectHasExactKeys (.object members)
        (ascii "v" :: ascii "type" :: fields.map Prod.fst) = true ∧
      ∀ entry ∈ fields, entry ∈ members := by
  rw [members_perm_iff header.distinct _ (by simpa [event] using unique)]
  simp [event, header.hasVersion, header.hasType]

section Events
variable {members : Members} {size : Nat} {info : GmControlMessageInfo}

theorem validate_stream_started_iff
    (header : EventHeader members (ascii "event.stream.started")) :
    validateStreamStarted (.object members) (eventInfo size (ascii "event.stream.started")) =
        .ok info ↔
      ∃ streamId timestamp, (Message.streamStarted streamId timestamp).Describes members ∧
        (Message.streamStarted streamId timestamp).info size = info := by
  have distinct := header.distinct
  have perm (streamId : UInt32) (timestamp : List UInt8) := event_perm_iff header
    [(ascii "stream_id", number streamId), (ascii "first_media_timestamp", .string timestamp)]
    (by simp only [List.map_cons, List.map_nil]; decide)
  simp only [validateStreamStarted, check_bind_ok, require_bind_ok, return_ok,
    required_string_iff distinct, required_u32_iff distinct, decimal_u64_iff, Message.Describes,
    perm, List.forall_mem_cons, List.map_cons, List.map_nil]
  constructor
  · rintro ⟨keys, streamId, ⟨hasStream, low, _⟩, timestamp, hasTimestamp, decimal, rfl⟩
    exact ⟨streamId, timestamp, ⟨⟨keys, hasStream, hasTimestamp, by simp⟩, low, decimal⟩, rfl⟩
  · rintro ⟨streamId, timestamp, ⟨⟨keys, hasStream, hasTimestamp, _⟩, low, decimal⟩, rfl⟩
    exact ⟨keys, streamId, ⟨hasStream, low, (u32_range _).2⟩, timestamp, hasTimestamp, decimal,
      rfl⟩

theorem validate_stream_stopped_iff
    (header : EventHeader members (ascii "event.stream.stopped")) :
    validateStreamStopped (.object members) (eventInfo size (ascii "event.stream.stopped")) =
        .ok info ↔
      ∃ streamId reason, (Message.streamStopped streamId reason).Describes members ∧
        (Message.streamStopped streamId reason).info size = info := by
  have distinct := header.distinct
  have perm (streamId : UInt32) (reason : List UInt8) := event_perm_iff header
    [(ascii "stream_id", number streamId), (ascii "reason", .string reason)]
    (by simp only [List.map_cons, List.map_nil]; decide)
  simp only [validateStreamStopped, check_bind_ok, require_bind_ok, return_ok,
    required_string_iff distinct, required_u32_iff distinct, reason_iff, Message.Describes, perm,
    List.forall_mem_cons, List.map_cons, List.map_nil]
  constructor
  · rintro ⟨keys, streamId, ⟨hasStream, low, _⟩, reason, hasReason, shape, rfl⟩
    exact ⟨streamId, reason, ⟨⟨keys, hasStream, hasReason, by simp⟩, low, shape⟩, rfl⟩
  · rintro ⟨streamId, reason, ⟨⟨keys, hasStream, hasReason, _⟩, low, shape⟩, rfl⟩
    exact ⟨keys, streamId, ⟨hasStream, low, (u32_range _).2⟩, reason, hasReason, shape, rfl⟩

theorem validate_output_state_iff (header : EventHeader members (ascii "event.output.state")) :
    validateOutputState (.object members) (eventInfo size (ascii "event.output.state")) =
        .ok info ↔
      ∃ state reason, (Message.outputState state reason).Describes members ∧
        (Message.outputState state reason).info size = info := by
  have distinct := header.distinct
  have perm (state reason : List UInt8) := event_perm_iff header
    [(ascii "state", .string state), (ascii "reason", .string reason)]
    (by simp only [List.map_cons, List.map_nil]; decide)
  simp only [validateOutputState, check_bind_ok, require_bind_ok, return_ok,
    required_string_iff distinct, endpoint_state_iff, reason_iff, Message.Describes, perm,
    List.forall_mem_cons, List.map_cons, List.map_nil]
  constructor
  · rintro ⟨keys, state, hasState, endpoint, reason, hasReason, shape, rfl⟩
    exact ⟨state, reason, ⟨⟨keys, hasState, hasReason, by simp⟩, endpoint, shape⟩, rfl⟩
  · rintro ⟨state, reason, ⟨⟨keys, hasState, hasReason, _⟩, endpoint, shape⟩, rfl⟩
    exact ⟨keys, state, hasState, endpoint, reason, hasReason, shape, rfl⟩

theorem validate_session_expiring_iff
    (header : EventHeader members (ascii "event.session.expiring")) :
    validateSessionExpiring (.object members) (eventInfo size (ascii "event.session.expiring")) =
        .ok info ↔
      ∃ reason deadline, (Message.sessionExpiring reason deadline).Describes members ∧
        (Message.sessionExpiring reason deadline).info size = info := by
  have distinct := header.distinct
  have perm (reason deadline : List UInt8) := event_perm_iff header
    [(ascii "reason", .string reason), (ascii "deadline_monotonic_ns", .string deadline)]
    (by simp only [List.map_cons, List.map_nil]; decide)
  simp only [validateSessionExpiring, check_bind_ok, require_bind_ok, return_ok,
    required_string_iff distinct, then_ok_iff (validateRequiredDecimalString _ _),
    required_decimal_iff distinct, reason_iff, Message.Describes, perm, List.forall_mem_cons,
    List.map_cons, List.map_nil]
  constructor
  · rintro ⟨keys, reason, hasReason, shape, deadline, ⟨hasDeadline, decimal⟩, rfl⟩
    exact ⟨reason, deadline, ⟨⟨keys, hasReason, hasDeadline, by simp⟩, shape, decimal⟩, rfl⟩
  · rintro ⟨reason, deadline, ⟨⟨keys, hasReason, hasDeadline, _⟩, shape, decimal⟩, rfl⟩
    exact ⟨keys, reason, hasReason, shape, deadline, ⟨hasDeadline, decimal⟩, rfl⟩

theorem validate_event_sound {type : List UInt8} (header : EventHeader members type)
    (run : validateEvent (.object members) (eventInfo size type) type = .ok info) :
    ∃ message : Message, message.Describes members ∧ message.info size = info := by
  rw [validateEvent] at run
  by_cases started : type = ascii "event.stream.started"
  · subst started
    rw [if_pos rfl] at run
    obtain ⟨_, _, message⟩ := (validate_stream_started_iff header).mp run
    exact ⟨_, message⟩
  rw [if_neg started] at run
  by_cases stopped : type = ascii "event.stream.stopped"
  · subst stopped
    rw [if_pos rfl] at run
    obtain ⟨_, _, message⟩ := (validate_stream_stopped_iff header).mp run
    exact ⟨_, message⟩
  rw [if_neg stopped] at run
  by_cases output : type = ascii "event.output.state"
  · subst output
    rw [if_pos rfl] at run
    obtain ⟨_, _, message⟩ := (validate_output_state_iff header).mp run
    exact ⟨_, message⟩
  rw [if_neg output] at run
  by_cases expiring : type = ascii "event.session.expiring"
  · subst expiring
    rw [if_pos rfl] at run
    obtain ⟨_, _, message⟩ := (validate_session_expiring_iff header).mp run
    exact ⟨_, message⟩
  rw [if_neg expiring] at run
  cases run

end Events

section Dispatch
variable {members : Members} {id : UInt32} {type : List UInt8} {size : Nat}
  {info : GmControlMessageInfo}

theorem validate_request_sound (header : Header members id type)
    (names : DistinctNames (.object members))
    (run : validateRequest (.object members) (numberedInfo size id type) type = .ok info) :
    ∃ message : Message, message.Describes members ∧ message.info size = info := by
  rw [validateRequest] at run
  by_cases hello : type = ascii "session.hello"
  · subst hello
    rw [if_pos rfl] at run
    obtain ⟨_, _, _, message⟩ := (validate_session_hello_iff header).mp run
    exact ⟨_, message⟩
  rw [if_neg hello] at run
  by_cases bind : type = ascii "transport.bind"
  · subst bind
    rw [if_pos rfl] at run
    obtain ⟨_, _, message⟩ := (validate_transport_bind_iff header).mp run
    exact ⟨_, message⟩
  rw [if_neg bind] at run
  by_cases opened : type = ascii "stream.open"
  · subst opened
    rw [if_pos rfl] at run
    obtain ⟨_, _, message⟩ := (validate_stream_open_iff header names).mp run
    exact ⟨_, message⟩
  rw [if_neg opened] at run
  by_cases start : type = ascii "stream.start"
  · subst start
    rw [if_pos rfl] at run
    obtain ⟨_, _, message⟩ := (validate_stream_start_iff header).mp run
    exact ⟨_, message⟩
  rw [if_neg start] at run
  by_cases stop : type = ascii "stream.stop"
  · subst stop
    rw [if_pos rfl] at run
    obtain ⟨_, message⟩ := (validate_stream_stop_iff header).mp run
    exact ⟨_, message⟩
  rw [if_neg stop] at run
  by_cases close : type = ascii "stream.close"
  · subst close
    rw [if_pos rfl] at run
    obtain ⟨_, message⟩ := (validate_stream_close_iff header).mp run
    exact ⟨_, message⟩
  rw [if_neg close] at run
  by_cases rekey : type = ascii "stream.rekey"
  · subst rekey
    rw [if_pos rfl] at run
    obtain ⟨_, _, message⟩ := (validate_stream_rekey_iff header).mp run
    exact ⟨_, message⟩
  rw [if_neg rekey] at run
  by_cases status : type = ascii "status.get"
  · subst status
    rw [if_pos rfl] at run
    obtain message := (validate_status_get_iff header).mp run
    exact ⟨_, message⟩
  rw [if_neg status] at run
  by_cases ping : type = ascii "ping"
  · subst ping
    rw [if_pos rfl] at run
    obtain ⟨_, message⟩ := (validate_ping_iff header).mp run
    exact ⟨_, message⟩
  rw [if_neg ping] at run
  by_cases sessionClose : type = ascii "session.close"
  · subst sessionClose
    rw [if_pos rfl] at run
    obtain ⟨_, message⟩ := (validate_session_close_iff header).mp run
    exact ⟨_, message⟩
  rw [if_neg sessionClose] at run
  cases run

theorem validate_result_iff (header : Header members id (ascii "result"))
    (names : DistinctNames (.object members)) :
    validateResult (.object members) (numberedInfo size id (ascii "result")) = .ok info ↔
      ∃ body, (Message.result id body).Describes members ∧
        (Message.result id body).info size = info := by
  have distinct := header.distinct
  have perm (result : JsonValue) := header_perm_iff header [(ascii "result", result)]
    (by simp only [List.map_cons, List.map_nil]; decide)
  simp only [validateResult, check_bind_ok, require_bind_ok, required_object_iff distinct,
    Message.Describes, perm, List.forall_mem_cons, List.map_cons, List.map_nil]
  constructor
  · rintro ⟨keys, _, ⟨hasResult, inner, rfl⟩, run⟩
    obtain ⟨body, described, stored⟩ :=
      (validate_result_object_iff (distinct_member names hasResult)).mp run
    exact ⟨body, ⟨inner, described, ⟨keys, hasResult, by simp⟩, header.positive⟩, stored⟩
  · rintro ⟨body, ⟨inner, described, ⟨keys, hasResult, _⟩, _⟩, stored⟩
    exact ⟨keys, _, ⟨hasResult, inner, rfl⟩,
      (validate_result_object_iff (distinct_member names hasResult)).mpr ⟨body, described, stored⟩⟩

theorem header_of_perm (distinct : (members.map Prod.fst).Nodup) {fields : Members}
    (same : members.Perm (numbered id type fields)) (positive : 1 ≤ id) :
    Header members id type :=
  ⟨distinct, same.symm.subset (by simp [numbered]), same.symm.subset (by simp [numbered]),
    same.symm.subset (by simp [numbered]), positive⟩

theorem event_header_of_perm (distinct : (members.map Prod.fst).Nodup) {fields : Members}
    (same : members.Perm (event type fields)) : EventHeader members type :=
  ⟨distinct, same.symm.subset (by simp [event]), same.symm.subset (by simp [event])⟩

/-- A described message with an id has been read up to the validators. -/
theorem parse_root_numbered (header : Header members id type) (shape : isTypeString type = true)
    (notEvent : (ascii "event.").isPrefixOf type = false) :
    parseRoot (.object members) (clearedInfo size) =
      if type = ascii "result" then validateResult (.object members) (numberedInfo size id type)
      else if type = ascii "error" then validateError (.object members) (numberedInfo size id type)
      else validateRequest (.object members) (numberedInfo size id type) type := by
  have distinct := header.distinct
  have version := (required_u32_iff distinct (ascii "v") 1 255 1).mpr ⟨header.hasVersion, by decide⟩
  have read := (required_string_iff distinct (ascii "type") type).mpr header.hasType
  have ident := (required_u32_iff distinct (ascii "id") 1 maxU32 id).mpr
    ⟨header.hasId, header.positive, (u32_range id).2⟩
  rw [parseRoot, version, read]
  simp only [require, check, bind, Except.bind, shape, notEvent, ident, if_true]
  rfl

theorem parse_root_event (header : EventHeader members type) (shape : isTypeString type = true)
    (isEvent : (ascii "event.").isPrefixOf type = true) :
    parseRoot (.object members) (clearedInfo size) =
      validateEvent (.object members) (eventInfo size type) type := by
  have distinct := header.distinct
  have version := (required_u32_iff distinct (ascii "v") 1 255 1).mpr ⟨header.hasVersion, by decide⟩
  have read := (required_string_iff distinct (ascii "type") type).mpr header.hasType
  rw [parseRoot, version, read]
  simp only [require, check, bind, Except.bind, shape, isEvent, if_true]
  rfl

theorem parse_root_sound (names : DistinctNames (.object members))
    (run : parseRoot (.object members) (clearedInfo size) = .ok info) :
    ∃ message : Message, message.Describes members ∧ message.info size = info := by
  have distinct := distinct_object names
  rw [parseRoot] at run
  simp only [require_bind_ok, check_bind_ok, required_u32_iff distinct,
    required_string_iff distinct] at run
  obtain ⟨version, ⟨hasVersion, _⟩, type, hasType, shape, run⟩ := run
  by_cases current : version ≠ gmProtocolMajor
  · rw [if_pos current] at run
    cases run
  rw [if_neg current] at run
  obtain rfl : version = 1 := not_not.mp current
  by_cases isEvent : (ascii "event.").isPrefixOf type = true
  · rw [if_pos isEvent] at run
    exact validate_event_sound ⟨distinct, hasVersion, hasType⟩ run
  rw [if_neg isEvent] at run
  simp only [require_bind_ok, required_u32_iff distinct] at run
  obtain ⟨id, ⟨hasId, positive, _⟩, run⟩ := run
  have header : Header members id type := ⟨distinct, hasVersion, hasId, hasType, positive⟩
  by_cases result : type = ascii "result"
  · subst result
    rw [if_pos rfl] at run
    obtain ⟨_, message⟩ := (validate_result_iff header names).mp run
    exact ⟨_, message⟩
  rw [if_neg result] at run
  by_cases error : type = ascii "error"
  · subst error
    rw [if_pos rfl] at run
    exact ⟨_, (validate_error_iff header names).mp run⟩
  rw [if_neg error] at run
  exact validate_request_sound header names run

theorem parse_root_complete (names : DistinctNames (.object members)) (message : Message)
    (described : message.Describes members) :
    parseRoot (.object members) (clearedInfo size) = .ok (message.info size) := by
  have distinct := distinct_object names
  cases message with
  | sessionHello id clientName versions udpPort =>
    have ⟨same, positive, _⟩ := described
    have header := header_of_perm distinct same positive
    rw [parse_root_numbered header (by decide) (by decide)]
    exact (validate_session_hello_iff header).mpr ⟨_, _, _, described, rfl⟩
  | transportBind id sessionId udpPort =>
    have ⟨same, positive, _⟩ := described
    have header := header_of_perm distinct same positive
    rw [parse_root_numbered header (by decide) (by decide)]
    exact (validate_transport_bind_iff header).mpr ⟨_, _, described, rfl⟩
  | streamOpen id codec playoutTargetMs =>
    have ⟨profile, object, same, positive, _⟩ := described
    have header := header_of_perm distinct same positive
    rw [parse_root_numbered header (by decide) (by decide)]
    exact (validate_stream_open_iff header names).mpr ⟨_, _, described, rfl⟩
  | streamStart id streamId timestamp =>
    have ⟨same, positive, _⟩ := described
    have header := header_of_perm distinct same positive
    rw [parse_root_numbered header (by decide) (by decide)]
    exact (validate_stream_start_iff header).mpr ⟨_, _, described, rfl⟩
  | streamStop id streamId =>
    have ⟨same, positive, _⟩ := described
    have header := header_of_perm distinct same positive
    rw [parse_root_numbered header (by decide) (by decide)]
    exact (validate_stream_stop_iff header).mpr ⟨_, described, rfl⟩
  | streamClose id streamId =>
    have ⟨same, positive, _⟩ := described
    have header := header_of_perm distinct same positive
    rw [parse_root_numbered header (by decide) (by decide)]
    exact (validate_stream_close_iff header).mpr ⟨_, described, rfl⟩
  | streamRekey id streamId keyEpoch =>
    have ⟨same, positive, _⟩ := described
    have header := header_of_perm distinct same positive
    rw [parse_root_numbered header (by decide) (by decide)]
    exact (validate_stream_rekey_iff header).mpr ⟨_, _, described, rfl⟩
  | statusGet id =>
    have ⟨same, positive⟩ := described
    have header := header_of_perm distinct same positive
    rw [parse_root_numbered header (by decide) (by decide)]
    exact (validate_status_get_iff header).mpr ⟨described, rfl⟩
  | ping id token =>
    have ⟨same, positive, _⟩ := described
    have header := header_of_perm distinct same positive
    rw [parse_root_numbered header (by decide) (by decide)]
    exact (validate_ping_iff header).mpr ⟨_, described, rfl⟩
  | sessionClose id reason =>
    have header : Header members id (ascii "session.close") := by
      cases reason with
      | none => exact header_of_perm distinct described.1 described.2
      | some reason => exact header_of_perm distinct described.1 described.2.1
    rw [parse_root_numbered header (by decide) (by decide)]
    exact (validate_session_close_iff header).mpr ⟨_, described, rfl⟩
  | error id =>
    have ⟨code, message, retryable, inner, body, same, positive, _⟩ := described
    have header := header_of_perm distinct same positive
    rw [parse_root_numbered header (by decide) (by decide)]
    exact (validate_error_iff header names).mpr ⟨described, rfl⟩
  | result id body =>
    have ⟨inner, body, same, positive⟩ := described
    have header := header_of_perm distinct same positive
    rw [parse_root_numbered header (by decide) (by decide)]
    exact (validate_result_iff header names).mpr ⟨_, described, rfl⟩
  | streamStarted streamId timestamp =>
    have ⟨same, _⟩ := described
    have header := event_header_of_perm distinct same
    rw [parse_root_event header (by decide) (by decide)]
    exact (validate_stream_started_iff header).mpr ⟨_, _, described, rfl⟩
  | streamStopped streamId reason =>
    have ⟨same, _⟩ := described
    have header := event_header_of_perm distinct same
    rw [parse_root_event header (by decide) (by decide)]
    exact (validate_stream_stopped_iff header).mpr ⟨_, _, described, rfl⟩
  | outputState state reason =>
    have ⟨same, _⟩ := described
    have header := event_header_of_perm distinct same
    rw [parse_root_event header (by decide) (by decide)]
    exact (validate_output_state_iff header).mpr ⟨_, _, described, rfl⟩
  | sessionExpiring reason deadline =>
    have ⟨same, _⟩ := described
    have header := event_header_of_perm distinct same
    rw [parse_root_event header (by decide) (by decide)]
    exact (validate_session_expiring_iff header).mpr ⟨_, _, described, rfl⟩

end Dispatch

theorem parse_message_iff (text : List UInt8) (out info : GmControlMessageInfo) :
    gmControlParseMessage (.view text) out = .ok info ↔
      sizeofGmControlMessageInfo ≤ out.structSize ∧ ∃ (members : Members) (message : Message),
        Acceptable text (.object members) ∧ message.Describes members ∧
        message.info out.structSize = info := by
  rw [gmControlParseMessage]
  by_cases small : out.structSize < sizeofGmControlMessageInfo
  · rw [if_pos small]
    simp only [throw, throwThe, MonadExceptOf.throw, reduceCtorEq, false_iff, not_and]
    omega
  rw [if_neg small, then_ok_iff]
  constructor
  · rintro ⟨root, parsed, run⟩
    obtain ⟨long, short, utf8, document, members, rfl⟩ := parse_json_sound parsed
    obtain ⟨_, size, run⟩ := (then_ok_iff _ _ _).mp run
    obtain ⟨message, described, stored⟩ := parse_root_sound (document_distinct_names document) run
    have room := (enforce_size_iff (document_distinct document) text).mp size
    exact ⟨by omega, members, message, ⟨long, short, utf8, document, members, rfl, room⟩, described,
      stored⟩
  · rintro ⟨_, members, message, accepted, described, rfl⟩
    obtain ⟨_, same, room⟩ := accepted.object
    cases same
    have distinct := document_distinct accepted.document
    refine ⟨_, parse_json_complete accepted.long accepted.short accepted.utf8 accepted.document, ?_⟩
    rw [(enforce_size_iff distinct text).mpr room]
    exact parse_root_complete (document_distinct_names accepted.document) message described

/-- A text is a message exactly when it validates and its tree has one of the schemas,
    whatever the order of the members. -/
theorem message_schemas_closed (text : List UInt8) (out : GmControlMessageInfo) :
    (∃ info, gmControlParseMessage (.view text) out = .ok info) ↔
      sizeofGmControlMessageInfo ≤ out.structSize ∧
        gmControlValidateJsonText (.view text) = .ok ∧
        ∃ (members : Members) (message : Message),
          DocumentText text (.object members) ∧ message.Describes members := by
  constructor
  · rintro ⟨info, accepted⟩
    obtain ⟨size, members, message, acceptable, described, _⟩ :=
      (parse_message_iff text out info).mp accepted
    exact ⟨size, ((acceptable_iff text _).mp acceptable).1, members, message, acceptable.document,
      described⟩
  · rintro ⟨size, valid, members, message, document, described⟩
    obtain ⟨root, acceptable⟩ := (validate_iff text).mp valid
    have tree := parse_json_complete acceptable.long acceptable.short acceptable.utf8 document
    have whole := (acceptable_iff text _).mpr ⟨valid, tree⟩
    exact ⟨_, (parse_message_iff text out _).mpr ⟨size, members, message, whole, described, rfl⟩⟩

theorem parse_message_described {jsonText : GmBytes} {out info : GmControlMessageInfo}
    (accepted : gmControlParseMessage jsonText out = .ok info) :
    ∃ (text : List UInt8) (members : Members) (message : Message), jsonText = .view text ∧
      message.Describes members ∧ info = message.info out.structSize := by
  cases jsonText with
  | view text =>
    obtain ⟨_, members, message, _, described, rfl⟩ := (parse_message_iff text out info).mp accepted
    exact ⟨text, members, message, rfl, described, rfl⟩
  | null size =>
    rw [gmControlParseMessage] at accepted
    by_cases small : out.structSize < sizeofGmControlMessageInfo
    · rw [if_pos small] at accepted
      cases accepted
    · rw [if_neg small] at accepted
      cases size <;> cases accepted

def Message.kind : Message → GmControlMessageKind
  | sessionHello .. => .requestSessionHello
  | transportBind .. => .requestTransportBind
  | streamOpen .. => .requestStreamOpen
  | streamStart .. => .requestStreamStart
  | streamStop .. => .requestStreamStop
  | streamClose .. => .requestStreamClose
  | streamRekey .. => .requestStreamRekey
  | statusGet .. => .requestStatusGet
  | ping .. => .requestPing
  | sessionClose .. => .requestSessionClose
  | error .. => .responseError
  | result .. => .responseResult
  | streamStarted .. => .eventStreamStarted
  | streamStopped .. => .eventStreamStopped
  | outputState .. => .eventOutputState
  | sessionExpiring .. => .eventSessionExpiring

theorem info_kind (size : Nat) (message : Message) : (message.info size).kind = message.kind := by
  cases message with
  | sessionClose id reason => cases reason <;> rfl
  | result id body => cases body <;> rfl
  | _ => rfl

end GhostMedia.Control
