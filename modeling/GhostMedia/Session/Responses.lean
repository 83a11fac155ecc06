import GhostMedia.Control.Extraction
import GhostMedia.Control.ResultTexts
import GhostMedia.Session.Representation

/- The results a peer is sent meet the schema it enforces. The result message of a
   granted request is assembled from the action, and every text of it is parsed back
   to the action's values. A ping token with a NUL is the one exception. -/
namespace GhostMedia.Session
open CString Control Json Runs

/-- What an action does not hold: the capabilities and limits of a hello result and the
    feedback age of a status result. -/
structure Completion where
  capabilities : JsonValue
  limits : JsonValue
  feedbackAgeMs : UInt32

/-- A completion that the validators accept, of trees with distinct member names. -/
structure Completion.Valid (completion : Completion) : Prop where
  names : DistinctNames completion.capabilities ∧ DistinctNames completion.limits
  capabilities : validateCapabilities completion.capabilities = true
  limits : validateLimits completion.limits = true
  feedback : completion.feedbackAgeMs ≤ 6000

def profileMembers (profile : GmAudioProfile) : Members :=
  [(ascii "codec", .string
      (if profile.codec = gmAudioCodecPcmS16le then ascii "pcm_s16le"
        else if profile.codec = gmAudioCodecOpus then ascii "opus" else [])),
    (ascii "sample_rate_hz", number profile.sampleRateHz),
    (ascii "channels", number profile.channels.toUInt32),
    (ascii "channel_layout", .string
      (if profile.channelLayout = gmChannelLayoutStereo then ascii "stereo" else [])),
    (ascii "frames_per_packet", number profile.framesPerPacket.toUInt32)]

/-- The result members of each request kind, taken from the action. -/
def resultEntries (request : GmControlMessageKind) (action : GmControlAction)
    (completion : Completion) (profile : JsonValue) : Members :=
  match request with
  | .requestSessionHello =>
    [(ascii "version", number 1), (ascii "role", .string (ascii "apple-output-server")),
      (ascii "server_id", .string action.serverId.text),
      (ascii "session_id", .string action.sessionId.text),
      (ascii "boot_id", .string action.bootId.text), (ascii "udp_port", number action.udpPort),
      (ascii "capabilities", completion.capabilities), (ascii "limits", completion.limits)]
  | .requestTransportBind =>
    [(ascii "udp_port", number action.udpPort), (ascii "path_state", .string action.pathState.text)]
  | .requestStreamOpen =>
    [(ascii "stream_id", number action.streamId), (ascii "key_epoch", number action.keyEpoch),
      (ascii "profile", profile), (ascii "packet_interval_us", number action.packetIntervalUs),
      (ascii "path_state", .string action.pathState.text)]
  | .requestStreamRekey =>
    [(ascii "stream_id", number action.streamId), (ascii "key_epoch", number action.keyEpoch),
      (ascii "state", .string action.state.text)]
  | .requestStreamStart | .requestSessionClose => [(ascii "state", .string action.state.text)]
  | .requestStreamStop | .requestStreamClose =>
    [(ascii "stream_id", number action.streamId), (ascii "state", .string action.state.text)]
  | .requestStatusGet =>
    [(ascii "output_state", .string action.outputState.text),
      (ascii "session_stream_state", .string action.sessionStreamState.text),
      (ascii "transport_state", .string action.transportState.text),
      (ascii "feedback_age_ms", number completion.feedbackAgeMs)]
  | .requestPing =>
    [(ascii "token", .string action.token.text),
      (ascii "monotonic_ns", .string action.monotonicNs.text)]
  | _ => []

/-- The members of the result message for a request, in any order. -/
def Assembles (request : GmControlMessageKind) (action : GmControlAction)
    (completion : Completion) (members : Members) : Prop :=
  ∃ profile inner : Members, profile.Perm (profileMembers action.profile) ∧
    inner.Perm (resultEntries request action completion (.object profile)) ∧
    members.Perm (numbered action.responseId (ascii "result") [(ascii "result", .object inner)])

/-- The record a peer reads has the values of the action. -/
def Reports (request : GmControlMessageKind) (action : GmControlAction)
    (info : GmControlMessageInfo) : Prop :=
  info.kind = .responseResult ∧ info.id = action.responseId ∧
    match request with
    | .requestSessionHello =>
      info.serverId.text = action.serverId.text ∧ info.sessionId.text = action.sessionId.text ∧
        info.bootId.text = action.bootId.text ∧ info.udpPort = action.udpPort
    | .requestTransportBind =>
      info.udpPort = action.udpPort ∧ info.pathState.text = action.pathState.text
    | .requestStreamOpen =>
      info.streamId = action.streamId ∧ info.keyEpoch = action.keyEpoch ∧
        info.profile = action.profile ∧ info.profile.packetIntervalUs = action.packetIntervalUs ∧
        info.pathState.text = action.pathState.text
    | .requestStreamRekey =>
      info.streamId = action.streamId ∧ info.keyEpoch = action.keyEpoch ∧
        info.state.text = action.state.text
    | .requestStreamStart | .requestSessionClose => info.state.text = action.state.text
    | .requestStreamStop | .requestStreamClose =>
      info.streamId = action.streamId ∧ info.state.text = action.state.text
    | .requestStatusGet =>
      info.outputState.text = action.outputState.text ∧
        info.sessionStreamState.text = action.sessionStreamState.text ∧
        info.transportState.text = action.transportState.text
    | .requestPing =>
      info.token.text = action.token.text ∧ info.monotonicNs.text = action.monotonicNs.text
    | _ => False

/-- The payload is a ping with this token, as its JSON string decodes. -/
def PingToken (jsonText : GmBytes) (token : List UInt8) : Prop :=
  ∃ root, parseJson jsonText = .ok root ∧ decodedString root .type = some (ascii "ping") ∧
    decodedString root .token = some token

/-- The peer accepts the assembled result, whatever completes it, and reads the values of
    the action from every text of it; and a ping's token comes back unchanged. -/
def MeetsSchema (jsonText : GmBytes) (action : GmControlAction) : Prop :=
  (∃ m, gmControlParseMessage jsonText (clearedInfo sizeofGmControlMessageInfo) = .ok m ∧
    ∀ completion : Completion, completion.Valid →
      (∃ text members, Assembles m.kind action completion members ∧
        Acceptable text (.object members)) ∧
      ∀ text members out, Assembles m.kind action completion members →
        Acceptable text (.object members) → sizeofGmControlMessageInfo ≤ out.structSize →
        ∃ info, gmControlParseMessage (.view text) out = .ok info ∧
          Reports m.kind action info) ∧
    ∀ token, PingToken jsonText token → action.token.text = token

/-- The result that an action denotes as the answer to a request. -/
structure Responds (request : GmControlMessageKind) (action : GmControlAction) (body : Result) :
    Prop where
  positive : 1 ≤ action.responseId
  describes : ∀ completion : Completion, completion.Valid → ∀ profile inner : Members,
    profile.Perm (profileMembers action.profile) →
    inner.Perm (resultEntries request action completion (.object profile)) → body.Describes inner
  reports : ∀ size, Reports request action ((Message.result action.responseId body).info size)

section Texts

theorem copy_literal_text {n : Nat} {source : List UInt8} (clean : 0 ∉ source)
    (short : source.length < n) : (copyLiteral n source).text = source := by
  rw [copyLiteral, text_of_no_nul clean, fill_text short, text_of_no_nul clean]

theorem digit_byte (v : UInt64) :
    48 + (v % 10).toUInt8 = UInt8.ofNat (48 + v.toNat % 10) := by
  apply UInt8.toNat_inj.mp
  simp only [UInt8.toNat_add, UInt64.toNat_toUInt8, UInt64.toNat_mod, UInt8.toNat_ofNat',
    UInt8.reduceToNat, UInt64.reduceToNat]
  omega

/-- The digit loop writes the decimal numeral in front of what is there. -/
theorem digits_loop_render (k : Nat) (v : UInt64) (written : List UInt8)
    (small : v.toNat < 10 ^ (k + 1)) :
    digitsLoop (k + 1) v written = Decimal.render v.toNat ++ written := by
  have quotient : (v / 10).toNat = v.toNat / 10 := UInt64.toNat_div v 10
  induction k generalizing v written with
  | zero =>
    have one : v.toNat < 10 := by simpa using small
    rw [digitsLoop, if_neg (by simp), digit_byte, Decimal.render, if_pos one,
      Nat.mod_eq_of_lt one]
    rfl
  | succ k ih =>
    rw [digitsLoop, Decimal.render, digit_byte]
    by_cases one : v.toNat < 10
    · have last : v / 10 = 0 := by
        apply UInt64.toNat_inj.mp
        rw [quotient, Nat.div_eq_of_lt one]
        rfl
      rw [if_neg (by simp [last]), if_pos one, Nat.mod_eq_of_lt one]
      rfl
    · have more : v / 10 ≠ 0 := fun zero => by
        have tens : v.toNat / 10 = 0 := quotient.symm.trans (congrArg UInt64.toNat zero)
        omega
      rw [if_pos (by simp [more]), if_neg one, ih _ _ (by rw [quotient]; omega)
        (UInt64.toNat_div _ 10), quotient, List.append_assoc]
      rfl

theorem clock_text (nowNs : UInt64) (b : Buffer (gmControlDecimalU64MaxBytes + 1))
    (clock : b = copyLiteral _
      (if nowNs = 0 then ascii "0" else digitsLoop gmControlDecimalU64MaxBytes nowNs [])) :
    b.text = Decimal.render nowNs.toNat := by
  have bound : nowNs.toNat < 10 ^ 20 := nowNs.toNat_lt.trans (by decide)
  obtain ⟨short, clean⟩ := decimal_plain (render_decimal nowNs)
  have digits : (if nowNs = 0 then ascii "0"
      else digitsLoop gmControlDecimalU64MaxBytes nowNs []) = Decimal.render nowNs.toNat := by
    by_cases zero : nowNs = 0
    · rw [if_pos zero, zero, show (0 : UInt64).toNat = 0 from rfl, Decimal.render]
      rfl
    · rw [if_neg zero, digits_loop_render 19 nowNs [] bound, List.append_nil]
  rw [clock, digits, copy_literal_text clean (Nat.lt_succ_of_le short)]

end Texts

section Bodies
variable {request : GmControlMessageKind} {action : GmControlAction}

theorem capabilities_object {object : JsonValue} (names : DistinctNames object)
    (accepted : validateCapabilities object = true) : CapabilitiesObject object := by
  cases names with
  | object distinct inner => exact (validate_capabilities_iff (.object distinct inner)).mp accepted
  | _ => simp [validateCapabilities, objectHasExactKeys] at accepted

theorem limits_object {object : JsonValue} (names : DistinctNames object)
    (accepted : validateLimits object = true) : LimitsObject object := by
  cases names with
  | object distinct inner => exact (validate_limits_iff distinct).mp accepted
  | _ => simp [validateLimits, objectHasExactKeys] at accepted

theorem profile_members_codec (codec : Codec) :
    profileMembers codec.profile = profileEntries codec := by
  cases codec <;> rfl

theorem hello_responds (positive : 1 ≤ action.responseId) (server : UuidText action.serverId.text)
    (session : SessionIdText action.sessionId.text) (boot : UuidText action.bootId.text)
    (port : 1 ≤ action.udpPort ∧ action.udpPort ≤ 65535) :
    ∃ body, Responds .requestSessionHello action body := by
  refine ⟨.hello action.serverId.text action.sessionId.text action.bootId.text action.udpPort,
    positive, fun completion valid profile inner _ same => ?_, fun size => ?_⟩
  · exact ⟨_, _, capabilities_object valid.names.1 valid.capabilities,
      limits_object valid.names.2 valid.limits, same, server, session, boot, port⟩
  · exact ⟨rfl, rfl, refill_text (Nat.lt_succ_of_le (uuid_plain server).1),
      refill_text (Nat.lt_succ_of_le (session_id_plain session).1),
      refill_text (Nat.lt_succ_of_le (uuid_plain boot).1), rfl⟩

theorem bind_responds (positive : 1 ≤ action.responseId)
    (path : action.pathState.text = ascii "bound")
    (port : 1 ≤ action.udpPort ∧ action.udpPort ≤ 65535) :
    ∃ body, Responds .requestTransportBind action body := by
  refine ⟨.bind action.udpPort, positive, fun completion valid profile inner _ same => ?_,
    fun size => ⟨rfl, rfl, rfl, ?_⟩⟩
  · rw [resultEntries, path] at same
    exact ⟨same, port⟩
  · have stored : (fill (gmControlReasonMaxBytes + 1) (ascii "bound")).text =
        ascii "bound" := by decide
    exact stored.trans path.symm

theorem open_responds (positive : 1 ≤ action.responseId)
    (path : action.pathState.text = ascii "probing") (codec : Codec)
    (profile : action.profile = codec.profile)
    (interval : action.packetIntervalUs = codec.profile.packetIntervalUs)
    (stream : 1 ≤ action.streamId) (epoch : 1 ≤ action.keyEpoch) :
    ∃ body, Responds .requestStreamOpen action body := by
  refine ⟨.open action.streamId action.keyEpoch codec, positive,
    fun completion valid members inner object same => ?_,
    fun size => ⟨rfl, rfl, rfl, rfl, profile.symm, interval.symm, ?_⟩⟩
  · rw [profile, profile_members_codec] at object
    rw [resultEntries, path, interval] at same
    exact ⟨_, ⟨members, rfl, object⟩, same, stream, epoch⟩
  · have stored : (fill (gmControlReasonMaxBytes + 1) (ascii "probing")).text =
        ascii "probing" := by decide
    exact stored.trans path.symm

theorem rekey_responds (positive : 1 ≤ action.responseId) (stream : 1 ≤ action.streamId)
    (epoch : 1 ≤ action.keyEpoch) (state : Reason action.state.text) :
    ∃ body, Responds .requestStreamRekey action body :=
  ⟨.rekey action.streamId action.keyEpoch action.state.text, positive,
    fun _ _ _ _ _ same => ⟨same, stream, epoch, state⟩,
    fun _ => ⟨rfl, rfl, rfl, rfl, refill_text (Nat.lt_succ_of_le (reason_plain state).1)⟩⟩

theorem state_responds
    (kind : request = .requestStreamStart ∨ request = .requestSessionClose)
    (positive : 1 ≤ action.responseId) (state : Reason action.state.text) :
    ∃ body, Responds request action body := by
  have text := refill_text (Nat.lt_succ_of_le (reason_plain state).1)
  rcases kind with rfl | rfl <;>
    exact ⟨.sessionState action.state.text, positive, fun _ _ _ _ _ same => ⟨same, state⟩,
      fun _ => ⟨rfl, rfl, text⟩⟩

theorem stream_responds
    (kind : request = .requestStreamStop ∨ request = .requestStreamClose)
    (positive : 1 ≤ action.responseId) (stream : 1 ≤ action.streamId)
    (state : Reason action.state.text) : ∃ body, Responds request action body := by
  have text := refill_text (Nat.lt_succ_of_le (reason_plain state).1)
  rcases kind with rfl | rfl <;>
    exact ⟨.stream action.streamId action.state.text, positive,
      fun _ _ _ _ _ same => ⟨same, stream, state⟩, fun _ => ⟨rfl, rfl, rfl, text⟩⟩

theorem status_responds (positive : 1 ≤ action.responseId)
    (output : EndpointState action.outputState.text)
    (sessionStream : Reason action.sessionStreamState.text)
    (transport : Reason action.transportState.text) :
    ∃ body, Responds .requestStatusGet action body :=
  ⟨.status action.outputState.text action.sessionStreamState.text action.transportState.text,
    positive,
    fun completion valid _ _ _ same =>
      ⟨completion.feedbackAgeMs, same, output, sessionStream, transport, valid.feedback⟩,
    fun _ => ⟨rfl, rfl, refill_text (Nat.lt_succ_of_le (endpoint_state_plain output).1),
      refill_text (Nat.lt_succ_of_le (reason_plain sessionStream).1),
      refill_text (Nat.lt_succ_of_le (reason_plain transport).1)⟩⟩

theorem ping_responds (positive : 1 ≤ action.responseId) (token : Token action.token.text)
    (clock : DecimalU64 action.monotonicNs.text) :
    ∃ body, Responds .requestPing action body :=
  ⟨.ping action.token.text action.monotonicNs.text, positive,
    fun _ _ _ _ _ same => ⟨same, token, clock⟩,
    fun _ => ⟨rfl, rfl, refill_text (Nat.lt_succ_of_le token.2.1),
      refill_text (Nat.lt_succ_of_le (decimal_plain clock).1)⟩⟩

end Bodies

section Granted
variable {config : GmControlSessionConfig} {s : GmControlSession}

theorem config_uuid {value : Buffer (gmControlUuidBytes + 1)}
    (checked : isLowerUuidText value = true) : UuidText value.text := by
  obtain ⟨bounded, characters⟩ := Bool.and_eq_true_iff.mp checked
  obtain ⟨text, length, _⟩ := bounded_c_string_some (of_decide_eq_true bounded)
  refine (uuid_iff value.text).mp ?_
  rw [isLowerUuid, Bool.and_eq_true, decide_eq_true_eq]
  exact ⟨length, text ▸ characters⟩

theorem config_session_id {value : Buffer (gmControlSessionIdHexBytes + 1)}
    (checked : isLowerSessionIdText value = true) : SessionIdText value.text := by
  obtain ⟨bounded, characters⟩ := Bool.and_eq_true_iff.mp checked
  obtain ⟨text, length, _⟩ := bounded_c_string_some (of_decide_eq_true bounded)
  refine (session_id_iff value.text).mp ?_
  rw [isLowerHexSessionId, Bool.and_eq_true, decide_eq_true_eq]
  exact ⟨length, text ▸ characters⟩

/-- An identifier taken from the configuration and copied into an action. -/
theorem copied_text {n : Nat} {field source : Buffer n} (kept : field = fill n source.text)
    (terminated : source.text.length < n) : (copyCString n field.bytes).text = source.text := by
  have same : field.text = source.text := kept ▸ refill_text terminated
  rw [copy_c_string_text (same ▸ terminated), same]

theorem literal_reason {source : List UInt8} (shape : isReasonString source = true) :
    Reason (copyLiteral (gmControlReasonMaxBytes + 1) source).text := by
  have reason := (reason_iff source).mp shape
  obtain ⟨short, clean⟩ := reason_plain reason
  rwa [copy_literal_text clean (Nat.lt_succ_of_le short)]

theorem literal_endpoint {source : List UInt8} (shape : isEndpointState source = true) :
    EndpointState (copyLiteral (gmControlReasonMaxBytes + 1) source).text := by
  have endpoint := (endpoint_state_iff source).mp shape
  obtain ⟨short, clean⟩ := endpoint_state_plain endpoint
  rwa [copy_literal_text clean (Nat.lt_succ_of_le short)]

theorem stream_positive (inv : Invariant config s) (owns : OwnsStream s) :
    1 ≤ s.streamId ∧ 1 ≤ s.keyEpoch := by
  have owned := inv.owned owns
  exact ⟨(nonzero_iff s.streamId).mp owned.nonzero, UInt32.le_trans owned.initial owned.keyEpoch⟩

/-- Every granted request has an answer in the schema, given a ping with a proper token. -/
theorem granted_responds {jsonText : GmBytes} {m : GmControlMessageInfo} {nowNs : UInt64}
    {outAction : GmControlAction} {kind next edit} (valid : ValidConfig config)
    (inv : Invariant config s) (brings : Brings s (.ingest jsonText nowNs outAction) m)
    (token : m.kind = .requestPing → Token m.token.text)
    (grants : Grants (received s m nowNs) m nowNs kind next edit) :
    ∃ body, Responds m.kind (answer next m outAction kind edit).action body := by
  have positive : 1 ≤ m.id := arrives_id brings.2
  have configured := inv.configured
  have port : 1 ≤ s.appleUdpPort ∧ s.appleUdpPort ≤ 65535 := configured.appleUdpPort ▸ valid.port
  cases grants with
  | hello kind =>
    have server := config_uuid valid.serverId
    have session := config_session_id valid.sessionId
    have boot := config_uuid valid.bootId
    rw [kind]
    refine hello_responds positive ?_ ?_ ?_ port
    · exact (copied_text configured.serverId (Nat.lt_succ_of_le server.1.le)).symm ▸ server
    · exact (copied_text configured.sessionId (Nat.lt_succ_of_le session.1.le)).symm ▸ session
    · exact (copied_text configured.bootId (Nat.lt_succ_of_le boot.1.le)).symm ▸ boot
  | bind kind =>
    rw [kind]
    exact bind_responds positive (copy_literal_text (by decide) (by decide)) port
  | «open» kind =>
    obtain ⟨⟨codec, profile⟩, _⟩ := open_arrives brings.2 kind
    rw [kind]
    exact open_responds positive (copy_literal_text (by decide) (by decide)) codec profile
      (congrArg GmAudioProfile.packetIntervalUs profile) ((nonzero_iff _).mp inv.next) inv.epoch
  | openAgain kind owns =>
    obtain ⟨codec, profile⟩ := inv.codec owns
    obtain ⟨stream, epoch⟩ := stream_positive inv owns
    rw [kind]
    exact open_responds positive (copy_literal_text (by decide) (by decide)) codec profile
      (congrArg GmAudioProfile.packetIntervalUs profile) stream epoch
  | start kind =>
    exact state_responds (.inl kind) positive (literal_reason (by decide))
  | stop kind active =>
    obtain ⟨_, _, owns⟩ := (active_iff _ _).mp active
    exact stream_responds (.inl kind) positive (stream_positive inv owns).1
      (literal_reason (by decide))
  | close kind | closeAgain kind =>
    exact stream_responds (.inr kind) positive (close_arrives brings.2 kind)
      (literal_reason (by decide))
  | rekey kind active =>
    obtain ⟨_, _, owns⟩ := (active_iff _ _).mp active
    rw [kind]
    exact rekey_responds positive (stream_positive inv owns).1 (rekey_arrives brings.2 kind)
      (literal_reason (by decide))
  | rekeyAgain kind active =>
    obtain ⟨_, _, owns⟩ := (active_iff _ _).mp active
    obtain ⟨stream, epoch⟩ := stream_positive inv owns
    rw [kind]
    exact rekey_responds positive stream epoch (literal_reason (by decide))
  | status kind =>
    rw [kind]
    refine status_responds positive (literal_endpoint ?_) (literal_reason ?_) (literal_reason ?_)
    · split <;> decide
    · split
      · decide
      · split <;> decide
    · split <;> decide
  | ping kind =>
    have shape := token kind
    rw [kind]
    refine ping_responds positive ?_ ?_
    · exact (copy_c_string_text (Nat.lt_succ_of_le shape.2.1)).symm ▸ shape
    · exact (clock_text nowNs _ rfl).symm ▸ render_decimal nowNs
  | sessionCloseActive kind | sessionCloseIdle kind =>
    exact state_responds (.inr kind) positive (literal_reason (by decide))

end Granted

section Ping

theorem ping_text_iff (message : Message) :
    message.typeText = ascii "ping" ↔ ∃ id token, message = .ping id token := by
  constructor
  · intro text
    cases message with
    | ping id token => exact ⟨id, token, rfl⟩
    | _ => exact absurd text (by simp only [Message.typeText]; decide)
  · rintro ⟨id, token, rfl⟩
    rfl

/-- The token of a ping payload is the token of the message it denotes. -/
theorem ping_token_iff {text : List UInt8} {members : Members} {message : Message}
    (accepted : Acceptable text (.object members)) (described : message.Describes members)
    (token : List UInt8) :
    PingToken (.view text) token ↔ ∃ id, message = .ping id token := by
  have names := document_distinct_names accepted.document
  have carries := described_carries names message described
  have parsed := parse_json_complete accepted.long accepted.short accepted.utf8 accepted.document
  have type : decodedString (.object members) .type = some message.typeText :=
    carries.strings .type
  constructor
  · rintro ⟨root, read, isPing, hasToken⟩
    cases parsed.symm.trans read
    obtain ⟨id, sent, rfl⟩ :=
      (ping_text_iff message).mp (Option.some.inj (type.symm.trans isPing))
    have stored : decodedString (.object members) .token = some sent := carries.strings .token
    obtain rfl : sent = token := Option.some.inj (stored.symm.trans hasToken)
    exact ⟨id, rfl⟩
  · rintro ⟨id, rfl⟩
    exact ⟨_, parsed, type, carries.strings .token⟩

/-- What is stored of a ping's token: the part before its first NUL. -/
theorem ping_arrives {s : GmControlSession} {jsonText : GmBytes} {m : GmControlMessageInfo}
    (arrives : Arrives s jsonText m) :
    (m.kind = .requestPing → ∃ token, PingToken jsonText token ∧ Token token ∧
      m.token.text = text token) ∧
    ∀ token, PingToken jsonText token → m.kind = .requestPing ∧ m.token.text = text token := by
  obtain ⟨bytes, -, -, rfl, -⟩ := parse_message_described arrives.1
  obtain ⟨_, members, message, accepted, described, rfl⟩ :=
    (parse_message_iff bytes _ _).mp arrives.1
  have iff := ping_token_iff accepted described
  have stored {id : UInt32} {token : List UInt8}
      (described : (Message.ping id token).Describes members) :
      (fill (gmControlTokenMaxBytes + 1) token).text = text token :=
    fill_text (Nat.lt_succ_of_le described.2.2.2.1)
  constructor
  · intro kind
    rw [info_kind] at kind
    cases message <;> cases kind
    rename_i id token
    exact ⟨token, (iff token).mpr ⟨id, rfl⟩, described.2.2, stored described⟩
  · intro token ping
    obtain ⟨id, rfl⟩ := (iff token).mp ping
    exact ⟨rfl, stored described⟩

end Ping

theorem responds_meets {jsonText : GmBytes} {action : GmControlAction} {m : GmControlMessageInfo}
    {body : Result}
    (read : gmControlParseMessage jsonText (clearedInfo sizeofGmControlMessageInfo) = .ok m)
    (responds : Responds m.kind action body)
    (token : ∀ token, PingToken jsonText token → action.token.text = token) :
    MeetsSchema jsonText action := by
  refine ⟨⟨m, read, fun completion valid => ⟨?_, ?_⟩⟩, token⟩
  · have object := responds.describes completion valid _ _ (List.Perm.refl _) (List.Perm.refl _)
    have described : (Message.result action.responseId body).Describes _ :=
      ⟨_, object, List.Perm.refl _, responds.positive⟩
    obtain ⟨text, accepted⟩ := result_has_text described
    exact ⟨text, _, ⟨_, _, List.Perm.refl _, List.Perm.refl _, List.Perm.refl _⟩, accepted⟩
  · rintro text members out ⟨profile, inner, ofProfile, ofInner, ofMembers⟩ accepted size
    have object := responds.describes completion valid profile inner ofProfile ofInner
    have described : (Message.result action.responseId body).Describes members :=
      ⟨inner, object, ofMembers, responds.positive⟩
    exact ⟨_, (parse_message_iff text out _).mpr ⟨size, members, _, accepted, described, rfl⟩,
      responds.reports out.structSize⟩

/-- In every reachable session the answer to an accepted request meets the schema exactly
    when the request is not a ping with a NUL in its token. -/
theorem responses_meet_schema_iff {config : GmControlSessionConfig} {blank start : GmControlSession}
    (init : gmControlSessionInit config blank = (.ok, start)) (calls : List Call)
    (jsonText : GmBytes) (nowNs : UInt64) (outAction : GmControlAction)
    (accepted : (step (final step start calls) (.ingest jsonText nowNs outAction)).1.status = .ok) :
    MeetsSchema jsonText
        (step (final step start calls) (.ingest jsonText nowNs outAction)).1.action ↔
      ∀ token, PingToken jsonText token → 0 ∉ token := by
  obtain ⟨valid, _, _⟩ := init_ok init
  have inv := run_invariant init calls
  obtain ⟨m, kind, next, edit, brings, _, grants, reply⟩ := accepted_step accepted
  obtain ⟨sent, stored⟩ := ping_arrives brings.2
  rw [reply]
  constructor
  · rintro ⟨_, same⟩ token ping
    exact same token ping ▸ text_no_nul _
  · intro clean
    have shape (isPing : m.kind = .requestPing) : Token m.token.text := by
      obtain ⟨token, ping, shape, read⟩ := sent isPing
      rwa [read, text_of_no_nul (clean token ping)]
    obtain ⟨body, responds⟩ := granted_responds valid inv brings shape grants
    refine responds_meets brings.2.1 responds fun token ping => ?_
    obtain ⟨isPing, read⟩ := stored token ping
    have copied : (answer next m outAction kind edit).action.token.text = m.token.text := by
      cases grants with
      | ping => exact copy_c_string_text (Nat.lt_succ_of_le (shape isPing).2.1)
      | hello other | bind other | «open» other | openAgain other | start other | stop other
      | close other | closeAgain other | rekey other | rekeyAgain other | status other
      | sessionCloseActive other | sessionCloseIdle other => cases isPing.symm.trans other
    rw [copied, read, text_of_no_nul (clean token ping)]

theorem responses_meet_schema_ping :
    (step (final step sampleSession sampleOpening)
        (.ingest (.view (pingText "abc")) 2000 blankAction)).1.status = .ok ∧
      (MeetsSchema (.view (pingText "abc")) (step (final step sampleSession sampleOpening)
          (.ingest (.view (pingText "abc")) 2000 blankAction)).1.action ↔
        ∀ token, PingToken (.view (pingText "abc")) token → 0 ∉ token) := by
  have accepted : (step (final step sampleSession sampleOpening)
      (.ingest (.view (pingText "abc")) 2000 blankAction)).1.status = .ok := by
    rw [sample_opened]
    decide +kernel
  exact ⟨accepted, responses_meet_schema_iff sample_init _ _ _ _ accepted⟩

/-- The token `a\u0000b` is answered with the token `a`. -/
theorem nul_token_not_echoed :
    gmControlSessionInit sampleConfig sampleSession = (.ok, sampleSession) ∧
      final step sampleSession sampleOpening = openedSession ∧
      (step openedSession
        (.ingest (.view (pingText "a\\u0000b")) 2000 blankAction)).1.status = .ok ∧
      PingToken (.view (pingText "a\\u0000b")) [97, 0, 98] ∧
      ¬ MeetsSchema (.view (pingText "a\\u0000b"))
        (step openedSession
          (.ingest (.view (pingText "a\\u0000b")) 2000 blankAction)).1.action := by
  have reply : (step openedSession
      (.ingest (.view (pingText "a\\u0000b")) 2000 blankAction)).1.status = .ok ∧
      (step openedSession
        (.ingest (.view (pingText "a\\u0000b")) 2000 blankAction)).1.action.token.text = [97] := by
    decide +kernel
  have read : (parseJson (.view (pingText "a\\u0000b"))).toOption.map
      (fun root => (decodedString root .type, decodedString root .token)) =
        some (some (ascii "ping"), some [97, 0, 98]) := by
    decide +kernel
  have token : PingToken (.view (pingText "a\\u0000b")) [97, 0, 98] := by
    obtain ⟨root, parsed, fields⟩ := Option.map_eq_some_iff.mp read
    obtain ⟨type, token⟩ := Prod.mk.inj fields
    exact ⟨root, (to_option_eq_some _ _).mp parsed, type, token⟩
  refine ⟨sample_init, sample_opened, reply.1, token, fun meets => ?_⟩
  have same := reply.2.symm.trans (meets.2 _ token)
  exact absurd same (by decide)

end GhostMedia.Session
