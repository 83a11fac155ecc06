import GhostMedia.Control.RequestDecoding

/- The branches of `validate_result` decode exactly their result objects, and since no
   two key sets are the same up to order the chain of tests decodes exactly the results. -/
namespace GhostMedia.Control
open Json CString StateLogic

section Results
variable {inner : Members} {out info : GmControlMessageInfo}

theorem validate_hello_result_iff (names : DistinctNames (.object inner)) :
    objectHasExactKeys (.object inner) helloResultKeys = true ∧
        validateHelloResult (.object inner) out = .ok info ↔
      ∃ serverId sessionId bootId udpPort,
        (Result.hello serverId sessionId bootId udpPort).Describes inner ∧
        (Result.hello serverId sessionId bootId udpPort).store out = info := by
  have distinct := distinct_object names
  have perm (serverId sessionId bootId : List UInt8) (udpPort : UInt32)
      (capabilities limits : JsonValue) := members_perm_iff distinct
    [(ascii "version", number 1), (ascii "role", .string (ascii "apple-output-server")),
      (ascii "server_id", .string serverId), (ascii "session_id", .string sessionId),
      (ascii "boot_id", .string bootId), (ascii "udp_port", number udpPort),
      (ascii "capabilities", capabilities), (ascii "limits", limits)]
    (by simp only [List.map_cons, List.map_nil]; decide)
  simp only [validateHelloResult, check_bind_ok, require_bind_ok, return_ok, helloResultKeys,
    required_string_iff distinct, required_u32_iff distinct, required_object_iff distinct,
    decide_eq_true_eq, session_id_iff, uuid_iff, Result.Describes, perm, List.forall_mem_cons,
    List.map_cons, List.map_nil]
  constructor
  · rintro ⟨keys, _, ⟨hasVersion, _⟩, rfl, _, hasRole, rfl, serverId, hasServer, server, sessionId,
      hasSession, session, bootId, hasBoot, boot, udpPort, ⟨hasPort, low, high⟩, _,
      ⟨hasCapabilities, capabilities, rfl⟩, receives, _, ⟨hasLimits, limits, rfl⟩, bounds, rfl⟩
    have capable := (validate_capabilities_iff (distinct_member names hasCapabilities)).mp receives
    have unique := distinct_object (distinct_member names hasLimits)
    have limited := (validate_limits_iff unique).mp bounds
    exact ⟨serverId, sessionId, bootId, udpPort, ⟨_, _, capable, limited, ⟨keys, hasVersion,
      hasRole, hasServer, hasSession, hasBoot, hasPort, hasCapabilities, hasLimits, by simp⟩,
      server, session, boot, low, high⟩, rfl⟩
  · rintro ⟨serverId, sessionId, bootId, udpPort, ⟨_, _, capable, limited, ⟨keys, hasVersion,
      hasRole, hasServer, hasSession, hasBoot, hasPort, hasCapabilities, hasLimits, _⟩, server,
      session, boot, low, high⟩, rfl⟩
    obtain ⟨capabilities, _, _, rfl, _⟩ := id capable
    obtain ⟨limits, _, _, _, rfl, _⟩ := id limited
    have receives := (validate_capabilities_iff (distinct_member names hasCapabilities)).mpr capable
    have unique := distinct_object (distinct_member names hasLimits)
    have bounds := (validate_limits_iff unique).mpr limited
    exact ⟨keys, 1, ⟨hasVersion, by decide⟩, rfl, _, hasRole, rfl, serverId, hasServer, server,
      sessionId, hasSession, session, bootId, hasBoot, boot, udpPort, ⟨hasPort, low, high⟩, _,
      ⟨hasCapabilities, capabilities, rfl⟩, receives, _, ⟨hasLimits, limits, rfl⟩, bounds, rfl⟩

theorem validate_bind_result_iff (distinct : (inner.map Prod.fst).Nodup) :
    objectHasExactKeys (.object inner) bindResultKeys = true ∧
        validateBindResult (.object inner) out = .ok info ↔
      ∃ udpPort, (Result.bind udpPort).Describes inner ∧
        (Result.bind udpPort).store out = info := by
  have perm (udpPort : UInt32) := members_perm_iff distinct
    [(ascii "udp_port", number udpPort), (ascii "path_state", .string (ascii "bound"))]
    (by simp only [List.map_cons, List.map_nil]; decide)
  simp only [validateBindResult, check_bind_ok, require_bind_ok, return_ok, bindResultKeys,
    required_string_iff distinct, required_u32_iff distinct, decide_eq_true_eq, Result.Describes,
    perm, List.forall_mem_cons, List.map_cons, List.map_nil]
  constructor
  · rintro ⟨keys, udpPort, ⟨hasPort, low, high⟩, _, hasPath, rfl, rfl⟩
    exact ⟨udpPort, ⟨⟨keys, hasPort, hasPath, by simp⟩, low, high⟩, rfl⟩
  · rintro ⟨udpPort, ⟨⟨keys, hasPort, hasPath, _⟩, low, high⟩, rfl⟩
    exact ⟨keys, udpPort, ⟨hasPort, low, high⟩, _, hasPath, rfl, rfl⟩

theorem to_option_eq_some {α : Type} (step : Except GmStatus α) (a : α) :
    step.toOption = some a ↔ step = .ok a := by
  cases step <;> simp [Except.toOption]

theorem validate_open_result_iff (names : DistinctNames (.object inner)) :
    objectHasExactKeys (.object inner) openResultKeys = true ∧
        validateOpenResult (.object inner) out = .ok info ↔
      ∃ streamId keyEpoch codec, (Result.open streamId keyEpoch codec).Describes inner ∧
        (Result.open streamId keyEpoch codec).store out = info := by
  have distinct := distinct_object names
  have perm (streamId keyEpoch interval : UInt32) (profile : JsonValue) := members_perm_iff distinct
    [(ascii "stream_id", number streamId), (ascii "key_epoch", number keyEpoch),
      (ascii "profile", profile), (ascii "packet_interval_us", number interval),
      (ascii "path_state", .string (ascii "probing"))]
    (by simp only [List.map_cons, List.map_nil]; decide)
  simp only [validateOpenResult, check_bind_ok, require_bind_ok, return_ok, openResultKeys,
    required_string_iff distinct, required_u32_iff distinct, required_object_iff distinct,
    to_option_eq_some, decide_eq_true_eq, Result.Describes, perm, List.forall_mem_cons,
    List.map_cons, List.map_nil]
  constructor
  · rintro ⟨keys, streamId, ⟨hasStream, lowStream, _⟩, keyEpoch, ⟨hasEpoch, lowEpoch, _⟩, profile,
      ⟨hasProfile, _⟩, parsed, run, interval, ⟨hasInterval, _⟩, _, hasPath, rfl, rfl, rfl⟩
    obtain ⟨codec, object, rfl⟩ :=
      (parse_profile_ok_iff (distinct_member names hasProfile) parsed).mp run
    exact ⟨streamId, keyEpoch, codec, ⟨profile, object, ⟨keys, hasStream, hasEpoch, hasProfile,
      hasInterval, hasPath, by simp⟩, lowStream, lowEpoch⟩, rfl⟩
  · rintro ⟨streamId, keyEpoch, codec, ⟨profile, object, ⟨keys, hasStream, hasEpoch, hasProfile,
      hasInterval, hasPath, _⟩, lowStream, lowEpoch⟩, rfl⟩
    have run := (parse_profile_ok_iff (distinct_member names hasProfile) _).mpr
      ⟨codec, object, rfl⟩
    obtain ⟨members, shape, _⟩ := object
    exact ⟨keys, streamId, ⟨hasStream, lowStream, (u32_range _).2⟩, keyEpoch,
      ⟨hasEpoch, lowEpoch, (u32_range _).2⟩, profile, ⟨hasProfile, members, shape⟩, _, run, _,
      ⟨hasInterval, u32_range _⟩, _, hasPath, rfl, rfl, rfl⟩

theorem validate_rekey_result_iff (distinct : (inner.map Prod.fst).Nodup) :
    objectHasExactKeys (.object inner) rekeyResultKeys = true ∧
        validateRekeyResult (.object inner) out = .ok info ↔
      ∃ streamId keyEpoch state, (Result.rekey streamId keyEpoch state).Describes inner ∧
        (Result.rekey streamId keyEpoch state).store out = info := by
  have perm (streamId keyEpoch : UInt32) (state : List UInt8) := members_perm_iff distinct
    [(ascii "stream_id", number streamId), (ascii "key_epoch", number keyEpoch),
      (ascii "state", .string state)] (by simp only [List.map_cons, List.map_nil]; decide)
  simp only [validateRekeyResult, isStateToken, check_bind_ok, require_bind_ok, return_ok,
    rekeyResultKeys, required_string_iff distinct, required_u32_iff distinct, reason_iff,
    Result.Describes, perm, List.forall_mem_cons, List.map_cons, List.map_nil]
  constructor
  · rintro ⟨keys, streamId, ⟨hasStream, lowStream, _⟩, keyEpoch, ⟨hasEpoch, lowEpoch, _⟩, state,
      hasState, shape, rfl⟩
    exact ⟨streamId, keyEpoch, state, ⟨⟨keys, hasStream, hasEpoch, hasState, by simp⟩, lowStream,
      lowEpoch, shape⟩, rfl⟩
  · rintro ⟨streamId, keyEpoch, state, ⟨⟨keys, hasStream, hasEpoch, hasState, _⟩, lowStream,
      lowEpoch, shape⟩, rfl⟩
    exact ⟨keys, streamId, ⟨hasStream, lowStream, (u32_range _).2⟩, keyEpoch,
      ⟨hasEpoch, lowEpoch, (u32_range _).2⟩, state, hasState, shape, rfl⟩

theorem validate_stream_result_iff (distinct : (inner.map Prod.fst).Nodup) :
    objectHasExactKeys (.object inner) streamResultKeys = true ∧
        validateStreamResult (.object inner) out = .ok info ↔
      ∃ streamId state, (Result.stream streamId state).Describes inner ∧
        (Result.stream streamId state).store out = info := by
  have perm (streamId : UInt32) (state : List UInt8) := members_perm_iff distinct
    [(ascii "stream_id", number streamId), (ascii "state", .string state)]
    (by simp only [List.map_cons, List.map_nil]; decide)
  simp only [validateStreamResult, isStateToken, check_bind_ok, require_bind_ok, return_ok,
    streamResultKeys, required_string_iff distinct, required_u32_iff distinct, reason_iff,
    Result.Describes, perm, List.forall_mem_cons, List.map_cons, List.map_nil]
  constructor
  · rintro ⟨keys, streamId, ⟨hasStream, low, _⟩, state, hasState, shape, rfl⟩
    exact ⟨streamId, state, ⟨⟨keys, hasStream, hasState, by simp⟩, low, shape⟩, rfl⟩
  · rintro ⟨streamId, state, ⟨⟨keys, hasStream, hasState, _⟩, low, shape⟩, rfl⟩
    exact ⟨keys, streamId, ⟨hasStream, low, (u32_range _).2⟩, state, hasState, shape, rfl⟩

theorem validate_state_result_iff (distinct : (inner.map Prod.fst).Nodup) :
    objectHasExactKeys (.object inner) stateResultKeys = true ∧
        validateStateResult (.object inner) out = .ok info ↔
      ∃ state, (Result.sessionState state).Describes inner ∧
        (Result.sessionState state).store out = info := by
  have perm (state : List UInt8) := members_perm_iff distinct [(ascii "state", .string state)]
    (by simp only [List.map_cons, List.map_nil]; decide)
  simp only [validateStateResult, isStateToken, check_bind_ok, require_bind_ok, return_ok,
    stateResultKeys, required_string_iff distinct, reason_iff, Result.Describes, perm,
    List.forall_mem_cons, List.map_cons, List.map_nil]
  constructor
  · rintro ⟨keys, state, hasState, shape, rfl⟩
    exact ⟨state, ⟨⟨keys, hasState, by simp⟩, shape⟩, rfl⟩
  · rintro ⟨state, ⟨⟨keys, hasState, _⟩, shape⟩, rfl⟩
    exact ⟨keys, state, hasState, shape, rfl⟩

theorem validate_status_result_iff (distinct : (inner.map Prod.fst).Nodup) :
    objectHasExactKeys (.object inner) statusResultKeys = true ∧
        validateStatusResult (.object inner) out = .ok info ↔
      ∃ output sessionStream transport,
        (Result.status output sessionStream transport).Describes inner ∧
        (Result.status output sessionStream transport).store out = info := by
  have perm (output sessionStream transport : List UInt8) (age : UInt32) :=
    members_perm_iff distinct [(ascii "output_state", .string output),
      (ascii "session_stream_state", .string sessionStream),
      (ascii "transport_state", .string transport), (ascii "feedback_age_ms", number age)]
    (by simp only [List.map_cons, List.map_nil]; decide)
  have floor (age : UInt32) : 0 ≤ age := (u32_range age).1
  simp only [validateStatusResult, isStateToken, check_bind_ok, require_bind_ok, return_ok,
    statusResultKeys, required_string_iff distinct, required_u32_iff distinct, reason_iff,
    endpoint_state_iff, Result.Describes, perm, List.forall_mem_cons, List.map_cons, List.map_nil]
  constructor
  · rintro ⟨keys, output, hasOutput, endpoint, sessionStream, hasStream, stream, transport,
      hasTransport, path, age, ⟨hasAge, _, young⟩, rfl⟩
    exact ⟨output, sessionStream, transport, ⟨age, ⟨keys, hasOutput, hasStream, hasTransport,
      hasAge, by simp⟩, endpoint, stream, path, young⟩, rfl⟩
  · rintro ⟨output, sessionStream, transport, ⟨age, ⟨keys, hasOutput, hasStream, hasTransport,
      hasAge, _⟩, endpoint, stream, path, young⟩, rfl⟩
    exact ⟨keys, output, hasOutput, endpoint, sessionStream, hasStream, stream, transport,
      hasTransport, path, age, ⟨hasAge, floor age, young⟩, rfl⟩

theorem required_decimal_iff (distinct : (inner.map Prod.fst).Nodup) (name value : List UInt8) :
    validateRequiredDecimalString (.object inner) name = .ok value ↔
      (name, .string value) ∈ inner ∧ DecimalU64 value := by
  simp only [validateRequiredDecimalString, require_bind_ok, check_bind_ok, return_ok,
    required_string_iff distinct, decimal_u64_iff]
  constructor
  · rintro ⟨_, hasValue, decimal, rfl⟩
    exact ⟨hasValue, decimal⟩
  · rintro ⟨hasValue, decimal⟩
    exact ⟨value, hasValue, decimal, rfl⟩

theorem validate_ping_result_iff (distinct : (inner.map Prod.fst).Nodup) :
    objectHasExactKeys (.object inner) pingResultKeys = true ∧
        validatePingResult (.object inner) out = .ok info ↔
      ∃ token monotonicNs, (Result.ping token monotonicNs).Describes inner ∧
        (Result.ping token monotonicNs).store out = info := by
  have perm (token monotonicNs : List UInt8) := members_perm_iff distinct
    [(ascii "token", .string token), (ascii "monotonic_ns", .string monotonicNs)]
    (by simp only [List.map_cons, List.map_nil]; decide)
  simp only [validatePingResult, check_bind_ok, require_bind_ok, return_ok, pingResultKeys,
    required_string_iff distinct, then_ok_iff (validateRequiredDecimalString _ _),
    required_decimal_iff distinct, token_iff, Result.Describes, perm, List.forall_mem_cons,
    List.map_cons, List.map_nil]
  constructor
  · rintro ⟨keys, token, hasToken, shape, monotonicNs, ⟨hasClock, decimal⟩, rfl⟩
    exact ⟨token, monotonicNs, ⟨⟨keys, hasToken, hasClock, by simp⟩, shape, decimal⟩, rfl⟩
  · rintro ⟨token, monotonicNs, ⟨⟨keys, hasToken, hasClock, _⟩, shape, decimal⟩, rfl⟩
    exact ⟨keys, token, hasToken, shape, monotonicNs, ⟨hasClock, decimal⟩, rfl⟩

/-- No two of the key sets of results agree, so at most one test of the chain passes. -/
theorem keys_exclusive (distinct : (inner.map Prod.fst).Nodup) {these others : List (List UInt8)}
    (keys : objectHasExactKeys (.object inner) these = true) (differ : ¬ these.Perm others) :
    ¬ objectHasExactKeys (.object inner) others = true := by
  rw [exact_keys_iff distinct] at keys ⊢
  exact fun same => differ (keys.symm.trans same)

theorem result_keys_differ : [helloResultKeys, bindResultKeys, openResultKeys, rekeyResultKeys,
    streamResultKeys, stateResultKeys, statusResultKeys, pingResultKeys].Pairwise
      fun these others => ¬ others.Perm these := by decide

theorem validate_result_object_iff (names : DistinctNames (.object inner)) :
    validateResultObject (.object inner) out = .ok info ↔
      ∃ body : Result, body.Describes inner ∧ body.store out = info := by
  have distinct := distinct_object names
  constructor
  · intro run
    rw [validateResultObject] at run
    split_ifs at run with hello bind opened rekey stream state status ping
    · obtain ⟨_, _, _, _, body⟩ := (validate_hello_result_iff names).mp ⟨hello, run⟩
      exact ⟨_, body⟩
    · obtain ⟨_, body⟩ := (validate_bind_result_iff distinct).mp ⟨bind, run⟩
      exact ⟨_, body⟩
    · obtain ⟨_, _, _, body⟩ := (validate_open_result_iff names).mp ⟨opened, run⟩
      exact ⟨_, body⟩
    · obtain ⟨_, _, _, body⟩ := (validate_rekey_result_iff distinct).mp ⟨rekey, run⟩
      exact ⟨_, body⟩
    · obtain ⟨_, _, body⟩ := (validate_stream_result_iff distinct).mp ⟨stream, run⟩
      exact ⟨_, body⟩
    · obtain ⟨_, body⟩ := (validate_state_result_iff distinct).mp ⟨state, run⟩
      exact ⟨_, body⟩
    · obtain ⟨_, _, _, body⟩ := (validate_status_result_iff distinct).mp ⟨status, run⟩
      exact ⟨_, body⟩
    · obtain ⟨_, _, body⟩ := (validate_ping_result_iff distinct).mp ⟨ping, run⟩
      exact ⟨_, body⟩
  · have differ := result_keys_differ
    simp only [List.pairwise_cons, List.forall_mem_cons] at differ
    rintro ⟨body, described⟩
    cases body with
    | hello serverId sessionId bootId udpPort =>
      obtain ⟨keys, run⟩ := (validate_hello_result_iff names).mpr ⟨_, _, _, _, described⟩
      rw [validateResultObject, if_pos keys, run]
    | bind udpPort =>
      obtain ⟨keys, run⟩ := (validate_bind_result_iff distinct).mpr ⟨_, described⟩
      simp only [validateResultObject, keys, keys_exclusive distinct keys, differ, if_true,
        if_false, Bool.false_eq_true, not_false_eq_true, run]
    | «open» streamId keyEpoch codec =>
      obtain ⟨keys, run⟩ := (validate_open_result_iff names).mpr ⟨_, _, _, described⟩
      simp only [validateResultObject, keys, keys_exclusive distinct keys, differ, if_true,
        if_false, Bool.false_eq_true, not_false_eq_true, run]
    | rekey streamId keyEpoch state =>
      obtain ⟨keys, run⟩ := (validate_rekey_result_iff distinct).mpr ⟨_, _, _, described⟩
      simp only [validateResultObject, keys, keys_exclusive distinct keys, differ, if_true,
        if_false, Bool.false_eq_true, not_false_eq_true, run]
    | stream streamId state =>
      obtain ⟨keys, run⟩ := (validate_stream_result_iff distinct).mpr ⟨_, _, described⟩
      simp only [validateResultObject, keys, keys_exclusive distinct keys, differ, if_true,
        if_false, Bool.false_eq_true, not_false_eq_true, run]
    | sessionState state =>
      obtain ⟨keys, run⟩ := (validate_state_result_iff distinct).mpr ⟨_, described⟩
      simp only [validateResultObject, keys, keys_exclusive distinct keys, differ, if_true,
        if_false, Bool.false_eq_true, not_false_eq_true, run]
    | status output sessionStream transport =>
      obtain ⟨keys, run⟩ := (validate_status_result_iff distinct).mpr ⟨_, _, _, described⟩
      simp only [validateResultObject, keys, keys_exclusive distinct keys, differ, if_true,
        if_false, Bool.false_eq_true, not_false_eq_true, run]
    | ping token monotonicNs =>
      obtain ⟨keys, run⟩ := (validate_ping_result_iff distinct).mpr ⟨_, _, described⟩
      simp only [validateResultObject, keys, keys_exclusive distinct keys, differ, if_true,
        if_false, Bool.false_eq_true, not_false_eq_true, run]

end Results

end GhostMedia.Control
