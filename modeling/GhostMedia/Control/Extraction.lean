import GhostMedia.Control.MessageDecoding

/- What a parsed record says about the JSON tree it was read from. A record is
   faithful to a tree when each stored member is read back unchanged and everything
   else is zero; C strings lose what follows a NUL, so this takes clean texts. -/
namespace GhostMedia.Control
open Json CString

inductive StringField where
  | type
  | role
  | clientName
  | serverId
  | bootId
  | sessionId
  | token
  | reason
  | state
  | pathState
  | outputState
  | sessionStreamState
  | transportState
  | firstMediaTimestamp
  | monotonicNs
  deriving DecidableEq

inductive NumberField where
  | id
  | udpPort
  | streamId
  | keyEpoch
  | playoutTargetMs
  deriving DecidableEq

/-- The member names a string field is stored from. -/
def StringField.memberNames : StringField → List (List UInt8)
  | type => [ascii "type"]
  | role => [ascii "role"]
  | clientName => [ascii "client_name"]
  | serverId => [ascii "server_id"]
  | bootId => [ascii "boot_id"]
  | sessionId => [ascii "session_id"]
  | token => [ascii "token"]
  | reason => [ascii "reason"]
  | state => [ascii "state"]
  | pathState => [ascii "path_state"]
  | outputState => [ascii "output_state"]
  | sessionStreamState => [ascii "session_stream_state"]
  | transportState => [ascii "transport_state"]
  | firstMediaTimestamp => [ascii "first_media_timestamp"]
  | monotonicNs => [ascii "monotonic_ns", ascii "deadline_monotonic_ns"]

def NumberField.memberName : NumberField → List UInt8
  | id => ascii "id"
  | udpPort => ascii "udp_port"
  | streamId => ascii "stream_id"
  | keyEpoch => ascii "key_epoch"
  | playoutTargetMs => ascii "playout_target_ms"

/-- The object a message keeps its fields in: a result's own object, else the root. -/
def fieldsObject (root : JsonValue) : JsonValue :=
  match findMember root (ascii "result") with
  | some (.object inner) => .object inner
  | _ => root

def decodedString (root : JsonValue) : StringField → Option (List UInt8)
  | .type => getRequiredString root (ascii "type")
  | field => field.memberNames.findSome? (getRequiredString (fieldsObject root))

def getNumber (object : JsonValue) (name : List UInt8) : Option UInt64 :=
  match findMember object name with
  | some (.number value) => some value
  | _ => none

def decodedNumber (root : JsonValue) : NumberField → Option UInt64
  | .id => getNumber root (ascii "id")
  | field => getNumber (fieldsObject root) field.memberName

/-- A stored string as a C reader sees it. -/
def storedString (info : GmControlMessageInfo) : StringField → List UInt8
  | .type => info.type.text
  | .role => info.role.text
  | .clientName => info.clientName.text
  | .serverId => info.serverId.text
  | .bootId => info.bootId.text
  | .sessionId => info.sessionId.text
  | .token => info.token.text
  | .reason => info.reason.text
  | .state => info.state.text
  | .pathState => info.pathState.text
  | .outputState => info.outputState.text
  | .sessionStreamState => info.sessionStreamState.text
  | .transportState => info.transportState.text
  | .firstMediaTimestamp => info.firstMediaTimestamp.text
  | .monotonicNs => info.monotonicNs.text

def storedNumber (info : GmControlMessageInfo) : NumberField → UInt32
  | .id => info.id
  | .udpPort => info.udpPort
  | .streamId => info.streamId
  | .keyEpoch => info.keyEpoch
  | .playoutTargetMs => info.playoutTargetMs

/-- The version entries in use. -/
def storedVersions (info : GmControlMessageInfo) : List UInt8 :=
  info.versions.bytes.take info.versionsCount.toNat

/-- Each field holds the value of its member, or zero where the message has none. -/
structure Faithful (root : JsonValue) (info : GmControlMessageInfo) : Prop where
  strings : ∀ field, storedString info field = (decodedString root field).getD []
  numbers : ∀ field, (storedNumber info field).toUInt64 = (decodedNumber root field).getD 0
  versions : versionNumbers (storedVersions info) =
    (getRequiredArray (fieldsObject root) (ascii "versions")).getD []
  versionsRest : ∀ v ∈ info.versions.bytes.drop info.versionsCount.toNat, v = 0
  profile : match findMember (fieldsObject root) (ascii "profile") with
    | some object => ∃ codec, ProfileObject codec object ∧ info.profile = codec.profile
    | none => info.profile = clearedProfile
  hasReason : info.hasReason =
    if (findMember (fieldsObject root) (ascii "reason")).isSome then 1 else 0

/-- The two texts that are stored without a rule against NUL. -/
def CleanTexts (root : JsonValue) : Prop :=
  ∀ field ∈ [StringField.clientName, StringField.token], ∀ value,
    decodedString root field = some value → 0 ∉ value

/-- The strings of a result by field. -/
def Result.strings : Result → List (StringField × List UInt8)
  | hello serverId sessionId bootId _ => [(.role, ascii "apple-output-server"),
      (.serverId, serverId), (.sessionId, sessionId), (.bootId, bootId)]
  | bind _ => [(.pathState, ascii "bound")]
  | .open .. => [(.pathState, ascii "probing")]
  | rekey _ _ state => [(.state, state)]
  | stream _ state => [(.state, state)]
  | sessionState state => [(.state, state)]
  | status output sessionStream transport => [(.outputState, output),
      (.sessionStreamState, sessionStream), (.transportState, transport)]
  | ping token monotonicNs => [(.token, token), (.monotonicNs, monotonicNs)]

def Message.strings (message : Message) : List (StringField × List UInt8) :=
  (.type, message.typeText) ::
    match message with
    | sessionHello _ clientName .. => [(.role, ascii "win-client"), (.clientName, clientName)]
    | transportBind _ sessionId _ => [(.sessionId, sessionId)]
    | streamStart _ _ timestamp => [(.firstMediaTimestamp, timestamp)]
    | ping _ token => [(.token, token)]
    | sessionClose _ (some reason) => [(.reason, reason)]
    | result _ body => body.strings
    | streamStarted _ timestamp => [(.firstMediaTimestamp, timestamp)]
    | streamStopped _ reason => [(.reason, reason)]
    | outputState state reason => [(.state, state), (.reason, reason)]
    | sessionExpiring reason deadline => [(.reason, reason), (.monotonicNs, deadline)]
    | _ => []

def Result.numbers : Result → List (NumberField × UInt32)
  | hello _ _ _ udpPort => [(.udpPort, udpPort)]
  | bind udpPort => [(.udpPort, udpPort)]
  | .open streamId keyEpoch _ => [(.streamId, streamId), (.keyEpoch, keyEpoch)]
  | rekey streamId keyEpoch _ => [(.streamId, streamId), (.keyEpoch, keyEpoch)]
  | stream streamId _ => [(.streamId, streamId)]
  | _ => []

def Message.numbers : Message → List (NumberField × UInt32)
  | sessionHello id _ _ udpPort => [(.id, id), (.udpPort, udpPort)]
  | transportBind id _ udpPort => [(.id, id), (.udpPort, udpPort)]
  | streamOpen id _ playoutTargetMs => [(.id, id), (.playoutTargetMs, playoutTargetMs)]
  | streamStart id streamId _ => [(.id, id), (.streamId, streamId)]
  | streamStop id streamId => [(.id, id), (.streamId, streamId)]
  | streamClose id streamId => [(.id, id), (.streamId, streamId)]
  | streamRekey id streamId keyEpoch => [(.id, id), (.streamId, streamId), (.keyEpoch, keyEpoch)]
  | statusGet id => [(.id, id)]
  | ping id _ => [(.id, id)]
  | sessionClose id _ => [(.id, id)]
  | error id => [(.id, id)]
  | result id body => (.id, id) :: body.numbers
  | streamStarted streamId _ => [(.streamId, streamId)]
  | streamStopped streamId _ => [(.streamId, streamId)]
  | outputState .. => []
  | sessionExpiring .. => []

def Message.versions : Message → List UInt8
  | sessionHello _ _ versions _ => versions
  | _ => []

def Message.codec : Message → Option Codec
  | streamOpen _ codec _ => some codec
  | result _ (.open _ _ codec) => some codec
  | _ => none

/-- A tree with the values of a message under the names of their fields. -/
structure Carries (root : JsonValue) (message : Message) : Prop where
  strings : ∀ field, decodedString root field = message.strings.lookup field
  numbers : ∀ field, decodedNumber root field =
    (message.numbers.lookup field).map UInt32.toUInt64
  versions : (getRequiredArray (fieldsObject root) (ascii "versions")).getD [] =
    versionNumbers message.versions
  profile : match findMember (fieldsObject root) (ascii "profile"), message.codec with
    | some object, some codec => ProfileObject codec object
    | none, none => True
    | _, _ => False
  reason : (findMember (fieldsObject root) (ascii "reason")).isSome =
    (message.strings.lookup .reason).isSome

theorem find_member_perm {members entries : Members} (distinct : (members.map Prod.fst).Nodup)
    (same : members.Perm entries) (name : List UInt8) :
    findMember (.object members) name = findMember (.object entries) name := by
  have entriesDistinct := (same.map Prod.fst).nodup_iff.mp distinct
  apply Option.ext
  intro value
  rw [find_member_iff distinct, find_member_iff entriesDistinct, same.mem_iff]

/-- Two trees that read the same by name, as roots and in their fields. -/
structure SameReads (a b : JsonValue) : Prop where
  root : ∀ name, name ≠ ascii "result" → findMember a name = findMember b name
  fields : ∀ name, findMember (fieldsObject a) name = findMember (fieldsObject b) name

theorem same_reads_perm {members entries : Members} (distinct : (members.map Prod.fst).Nodup)
    (same : members.Perm entries) : SameReads (.object members) (.object entries) := by
  have root := find_member_perm distinct same
  refine ⟨fun name _ => root name, fun name => ?_⟩
  rw [fieldsObject, fieldsObject, root (ascii "result")]
  split
  · rfl
  · exact root name

theorem same_reads_result {a : JsonValue} {id : UInt32} {inner entries : Members}
    (reads : SameReads a (.object (numbered id (ascii "result")
      [(ascii "result", .object inner)])))
    (distinct : (inner.map Prod.fst).Nodup) (same : inner.Perm entries) :
    SameReads a (.object (numbered id (ascii "result") [(ascii "result", .object entries)])) := by
  refine ⟨fun name other => ?_, fun name => ?_⟩
  · rw [reads.root name other]
    simp only [findMember, numbered, List.find?_cons, Ne.symm other, decide_false]
  · rw [reads.fields name]
    exact find_member_perm distinct same name

theorem carries_congr {a b : JsonValue} {message : Message} (reads : SameReads a b)
    (carries : Carries b message) : Carries a message where
  strings field := by
    rw [← carries.strings field]
    have strings (name : List UInt8) : getRequiredString (fieldsObject a) name =
        getRequiredString (fieldsObject b) name := by
      rw [getRequiredString, getRequiredString, reads.fields name]
    cases field
    case type =>
      rw [decodedString, decodedString, getRequiredString, getRequiredString,
        reads.root _ (by decide)]
    all_goals simp only [decodedString, funext strings]
  numbers field := by
    rw [← carries.numbers field]
    cases field
    case id => rw [decodedNumber, decodedNumber, getNumber, getNumber, reads.root _ (by decide)]
    all_goals simp only [decodedNumber, getNumber, reads.fields]
  versions := by
    rw [← carries.versions, getRequiredArray, getRequiredArray, reads.fields]
  profile := by
    rw [reads.fields]
    exact carries.profile
  reason := by
    rw [reads.fields]
    exact carries.reason

theorem result_carries {inner : Members} (distinct : (inner.map Prod.fst).Nodup) (id : UInt32)
    (body : Result) (described : body.Describes inner) :
    Carries (.object (numbered id (ascii "result") [(ascii "result", .object inner)]))
      (.result id body) := by
  have direct {entries : Members} (same : inner.Perm entries)
      (carries : Carries (.object (numbered id (ascii "result")
        [(ascii "result", .object entries)])) (.result id body)) :
      Carries (.object (numbered id (ascii "result") [(ascii "result", .object inner)]))
        (.result id body) :=
    carries_congr (same_reads_result ⟨fun _ _ => rfl, fun _ => rfl⟩ distinct same) carries
  cases body with
  | bind | rekey | stream | sessionState | ping =>
    refine direct described.1 ⟨fun field => ?_, fun field => ?_, rfl, trivial, rfl⟩
    · cases field <;> rfl
    · cases field <;> rfl
  | hello =>
    obtain ⟨_, _, _, _, same, _⟩ := described
    refine direct same ⟨fun field => ?_, fun field => ?_, rfl, trivial, rfl⟩
    · cases field <;> rfl
    · cases field <;> rfl
  | «open» =>
    obtain ⟨_, object, same, _⟩ := described
    refine direct same ⟨fun field => ?_, fun field => ?_, rfl, object, rfl⟩
    · cases field <;> rfl
    · cases field <;> rfl
  | status =>
    obtain ⟨_, same, _⟩ := described
    refine direct same ⟨fun field => ?_, fun field => ?_, rfl, trivial, rfl⟩
    · cases field <;> rfl
    · cases field <;> rfl

theorem described_carries {members : Members} (names : DistinctNames (.object members))
    (message : Message) (described : message.Describes members) :
    Carries (.object members) message := by
  have distinct := distinct_object names
  have direct {entries : Members} (same : members.Perm entries)
      (carries : Carries (.object entries) message) : Carries (.object members) message :=
    carries_congr (same_reads_perm distinct same) carries
  cases message with
  | sessionHello | transportBind | streamStart | streamStop | streamClose | streamRekey
  | statusGet | ping | streamStarted | streamStopped | outputState | sessionExpiring =>
    refine direct described.1 ⟨fun field => ?_, fun field => ?_, rfl, trivial, rfl⟩
    · cases field <;> rfl
    · cases field <;> rfl
  | streamOpen =>
    obtain ⟨_, object, same, _⟩ := described
    refine direct same ⟨fun field => ?_, fun field => ?_, rfl, object, rfl⟩
    · cases field <;> rfl
    · cases field <;> rfl
  | sessionClose id reason =>
    cases reason with
    | none | some =>
      refine direct described.1 ⟨fun field => ?_, fun field => ?_, rfl, trivial, rfl⟩
      · cases field <;> rfl
      · cases field <;> rfl
  | error =>
    obtain ⟨_, _, _, _, _, same, _⟩ := described
    refine direct same ⟨fun field => ?_, fun field => ?_, rfl, trivial, rfl⟩
    · cases field <;> rfl
    · cases field <;> rfl
  | result id body =>
    obtain ⟨inner, describes, same, _⟩ := described
    have nested := distinct_member names (same.symm.subset (by simp [numbered]) :
      (ascii "result", .object inner) ∈ members)
    exact direct same (result_carries (distinct_object nested) id body describes)

def StringField.capacity : StringField → Nat
  | type => gmControlTypeMaxBytes
  | role => gmControlRoleMaxBytes
  | clientName => gmControlClientNameMaxBytes
  | serverId | bootId => gmControlUuidBytes
  | sessionId => gmControlSessionIdHexBytes
  | token => gmControlTokenMaxBytes
  | firstMediaTimestamp | monotonicNs => gmControlDecimalU64MaxBytes
  | _ => gmControlReasonMaxBytes

/-- A text that its field can hold, without NUL outside the two free texts. -/
structure Stores (field : StringField) (value : List UInt8) : Prop where
  fits : value.length ≤ field.capacity
  clean : field ∈ [StringField.clientName, .token] ∨ 0 ∉ value

theorem stores_clean {field : StringField} {value : List UInt8}
    (shape : value.length ≤ field.capacity ∧ 0 ∉ value) : Stores field value :=
  ⟨shape.1, .inr shape.2⟩

theorem result_stores {inner : Members} (body : Result) (described : body.Describes inner) :
    ∀ entry ∈ body.strings, Stores entry.1 entry.2 := by
  cases body with
  | hello =>
    obtain ⟨_, _, _, _, _, server, session, boot, _⟩ := described
    simpa [Result.strings] using ⟨stores_clean (by decide), stores_clean (uuid_plain server),
      stores_clean (session_id_plain session), stores_clean (uuid_plain boot)⟩
  | bind | «open» => simpa [Result.strings] using stores_clean (by decide)
  | rekey =>
    obtain ⟨_, _, _, state⟩ := described
    simpa [Result.strings] using stores_clean (reason_plain state)
  | stream =>
    obtain ⟨_, _, state⟩ := described
    simpa [Result.strings] using stores_clean (reason_plain state)
  | sessionState => simpa [Result.strings] using stores_clean (reason_plain described.2)
  | status =>
    obtain ⟨_, _, output, stream, transport, _⟩ := described
    simpa [Result.strings] using ⟨stores_clean (endpoint_state_plain output),
      stores_clean (reason_plain stream), stores_clean (reason_plain transport)⟩
  | ping =>
    obtain ⟨_, token, decimal⟩ := described
    simpa [Result.strings] using
      ⟨⟨token.2.1, .inl (by decide)⟩, stores_clean (decimal_plain decimal)⟩

theorem type_stores (message : Message) : Stores .type message.typeText := by
  apply stores_clean
  cases message <;> simp only [Message.typeText] <;> decide

theorem message_stores {members : Members} (message : Message)
    (described : message.Describes members) :
    ∀ entry ∈ message.strings, Stores entry.1 entry.2 := by
  unfold Message.strings
  rw [List.forall_mem_cons]
  refine ⟨type_stores message, ?_⟩
  cases message with
  | sessionHello =>
    obtain ⟨_, _, name, _⟩ := described
    simpa using ⟨stores_clean (by decide), name, .inl (by decide)⟩
  | transportBind =>
    obtain ⟨_, _, session, _⟩ := described
    simpa using stores_clean (session_id_plain session)
  | streamStart =>
    obtain ⟨_, _, _, decimal⟩ := described
    simpa using stores_clean (decimal_plain decimal)
  | ping =>
    obtain ⟨_, _, token⟩ := described
    simpa using ⟨token.2.1, .inl (by decide)⟩
  | sessionClose id reason =>
    cases reason with
    | none => simp
    | some reason =>
      obtain ⟨_, _, shape⟩ := described
      simpa using stores_clean (reason_plain shape)
  | result id body =>
    obtain ⟨inner, described, _⟩ := described
    exact result_stores body described
  | streamStarted =>
    obtain ⟨_, _, decimal⟩ := described
    simpa using stores_clean (decimal_plain decimal)
  | streamStopped =>
    obtain ⟨_, _, shape⟩ := described
    simpa using stores_clean (reason_plain shape)
  | outputState =>
    obtain ⟨_, state, reason⟩ := described
    simpa using ⟨stores_clean (endpoint_state_plain state), stores_clean (reason_plain reason)⟩
  | sessionExpiring =>
    obtain ⟨_, reason, decimal⟩ := described
    simpa using ⟨stores_clean (reason_plain reason), stores_clean (decimal_plain decimal)⟩
  | streamOpen | streamStop | streamClose | streamRekey | statusGet | error => simp

theorem stored_strings (size : Nat) (message : Message) (field : StringField) :
    storedString (message.info size) field = match message.strings.lookup field with
      | some value => (fill (field.capacity + 1) value).text
      | none => (zero (field.capacity + 1)).text := by
  cases message with
  | sessionClose id reason => cases reason <;> cases field <;> rfl
  | result id body => cases body <;> cases field <;> rfl
  | _ => cases field <;> rfl

theorem stored_numbers (size : Nat) (message : Message) (field : NumberField) :
    storedNumber (message.info size) field = (message.numbers.lookup field).getD 0 := by
  cases message with
  | sessionClose id reason => cases reason <;> cases field <;> rfl
  | result id body => cases body <;> cases field <;> rfl
  | _ => cases field <;> rfl

theorem stored_versions {members : Members} (size : Nat) (message : Message)
    (described : message.Describes members) :
    storedVersions (message.info size) = message.versions ∧
      ∀ v ∈ (message.info size).versions.bytes.drop (message.info size).versionsCount.toNat,
        v = 0 := by
  have unused : ∀ v ∈ (zero 8).bytes, v = 0 := by simp [zero]
  cases message with
  | sessionHello id clientName versions udpPort =>
    obtain ⟨_, _, _, ⟨_, _, _, count⟩, _⟩ := described
    have size8 : versions.length.toUInt8.toNat = versions.length := by
      simp only [Nat.toUInt8_eq, UInt8.toNat_ofNat']
      omega
    have whole : versions.take 8 = versions := List.take_of_length_le count
    simp [storedVersions, Message.info, Message.versions, fillExact, size8, whole]
  | sessionClose id reason => cases reason <;> exact ⟨rfl, unused⟩
  | result id body => cases body <;> exact ⟨rfl, unused⟩
  | _ => exact ⟨rfl, unused⟩

theorem stored_profile (size : Nat) (message : Message) :
    (message.info size).profile = match message.codec with
      | some codec => codec.profile
      | none => clearedProfile := by
  cases message with
  | sessionClose id reason => cases reason <;> rfl
  | result id body => cases body <;> rfl
  | _ => rfl

theorem stored_has_reason (size : Nat) (message : Message) :
    (message.info size).hasReason =
      if (message.strings.lookup .reason).isSome then 1 else 0 := by
  cases message with
  | sessionClose id reason => cases reason <;> rfl
  | result id body => cases body <;> rfl
  | _ => rfl

theorem lookup_mem {α β : Type} [DecidableEq α] {key : α} {value : β} {entries : List (α × β)}
    (found : entries.lookup key = some value) : (key, value) ∈ entries := by
  obtain ⟨before, after, rfl, _⟩ := List.lookup_eq_some_iff.mp found
  simp

theorem faithful_iff {members : Members} {root : JsonValue} (message : Message)
    (described : message.Describes members) (carries : Carries root message) (size : Nat) :
    Faithful root (message.info size) ↔ CleanTexts root := by
  have stores {field : StringField} {value : List UInt8}
      (found : message.strings.lookup field = some value) : Stores field value :=
    message_stores message described _ (lookup_mem found)
  have read {field : StringField} {value : List UInt8}
      (found : message.strings.lookup field = some value) :
      storedString (message.info size) field = CString.text value := by
    have fits := (stores found).fits
    rw [stored_strings, found]
    exact fill_text (by omega)
  constructor
  · intro faithful field _ value decoded
    have found := (carries.strings field).symm.trans decoded
    have same := faithful.strings field
    rw [decoded, read found] at same
    exact (text_eq_self_iff value).mp same
  · intro clean
    refine ⟨fun field => ?_, fun field => ?_, ?_, ?_, ?_, ?_⟩
    · rw [carries.strings field]
      cases found : message.strings.lookup field with
      | none =>
        rw [stored_strings, found]
        exact zero_text _
      | some value =>
        rw [read found]
        apply text_of_no_nul
        rcases (stores found).clean with free | clean'
        · exact clean field free value ((carries.strings field).trans found)
        · exact clean'
    · rw [carries.numbers field, stored_numbers]
      cases message.numbers.lookup field <;> rfl
    · rw [(stored_versions size message described).1, carries.versions]
    · exact (stored_versions size message described).2
    · have profile := carries.profile
      rw [stored_profile]
      split at profile
      · rename_i object codec hasObject hasCodec
        rw [hasObject, hasCodec]
        exact ⟨codec, profile, rfl⟩
      · rename_i noObject noCodec
        rw [noObject, noCodec]
      · exact profile.elim
    · rw [stored_has_reason, carries.reason]

/-- An accepted message is extracted faithfully exactly when neither of its free texts
    contains NUL. -/
theorem extraction_faithful_iff (text : List UInt8) (out info : GmControlMessageInfo)
    (accepted : gmControlParseMessage (.view text) out = .ok info) :
    ∃ root, parseJson (.view text) = .ok root ∧ (Faithful root info ↔ CleanTexts root) := by
  obtain ⟨_, members, message, acceptable, described, rfl⟩ :=
    (parse_message_iff text out info).mp accepted
  have names := document_distinct_names acceptable.document
  have parsed := parse_json_complete acceptable.long acceptable.short acceptable.utf8
    acceptable.document
  exact ⟨_, parsed, faithful_iff message described (described_carries names message described) _⟩

/-- A ping whose token is given as it stands between the quotes. -/
def pingText (token : String) : List UInt8 :=
  ascii "\x7b\"v\":1,\"id\":7,\"type\":\"ping\",\"token\":\"" ++ ascii token ++ ascii "\"\x7d"

theorem ping_texts_parse :
    gmControlParseMessage (.view (pingText "abc")) (clearedInfo 928) =
        .ok ((Message.ping 7 (ascii "abc")).info 928) ∧
      gmControlParseMessage (.view (pingText "a\\u0000b")) (clearedInfo 928) =
        .ok ((Message.ping 7 [97, 0, 98]).info 928) ∧
      (parseJson (.view (pingText "a\\u0000b"))).toOption.map
          (fun root => (decodedString root .type, decodedString root .token)) =
        some (some (ascii "ping"), some [97, 0, 98]) := by
  decide +kernel

theorem extraction_faithful_ping :
    gmControlParseMessage (.view (pingText "abc")) (clearedInfo 928) =
        .ok ((Message.ping 7 (ascii "abc")).info 928) ∧
      ∃ root, parseJson (.view (pingText "abc")) = .ok root ∧
        (Faithful root ((Message.ping 7 (ascii "abc")).info 928) ↔ CleanTexts root) := by
  have accepted := ping_texts_parse.1
  exact ⟨accepted, extraction_faithful_iff _ _ _ accepted⟩

/-- The token `a\u0000b` is accepted and read back as `a`. -/
theorem ping_token_truncated : ∃ info root,
    gmControlParseMessage (.view (pingText "a\\u0000b")) (clearedInfo 928) = .ok info ∧
      parseJson (.view (pingText "a\\u0000b")) = .ok root ∧
      decodedString root .token = some [97, 0, 98] ∧ storedString info .token = [97] ∧
      ¬ Faithful root info := by
  obtain ⟨_, accepted, read⟩ := ping_texts_parse
  have stored : storedString ((Message.ping 7 [97, 0, 98]).info 928) .token = [97] := by decide
  obtain ⟨root, parsed, fields⟩ := Option.map_eq_some_iff.mp read
  have decoded : decodedString root .token = some [97, 0, 98] := (Prod.mk.inj fields).2
  refine ⟨_, root, accepted, (to_option_eq_some _ _).mp parsed, decoded, stored, ?_⟩
  intro faithful
  have same := faithful.strings .token
  rw [decoded, stored] at same
  exact absurd same (by decide)

end GhostMedia.Control
