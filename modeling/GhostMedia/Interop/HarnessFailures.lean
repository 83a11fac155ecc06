import GhostMedia.Interop.HarnessRun

/- The ways in which the harness may stop on its own account, and that none of the functions it
   calls fails in one of these ways. -/
namespace GhostMedia.Interop.Harness
open Control Media Bridge GhostMedia.Runtime

/-- The calls and the checks that the listener makes of its own session and window. -/
def ownCalls : List String :=
  ["gm_control_session_init", "gm_control_session_mark_path_validated",
    "gm_control_session_get_metrics", "gm_replay_window_init"]

def ownChecks : List String :=
  ["shared control state rejected validated UDP path",
    "shared control metrics did not record the Phase 3 lifecycle"]

def ForeignCall : ProtocolCoreError → Prop
  | .callFailed operation _ => operation ∉ ownCalls
  | .invalidSessionIdLength .. => True

def Foreign : AppleError → Prop
  | .protocolCore error => ForeignCall error
  | .crypto _ => True
  | .unexpectedMessage message => message ∉ ownChecks

/-- Neither a trap nor a failure of what the listener itself keeps. -/
def Plain : Stop → Prop
  | .thrown (.apple error) => Foreign error
  | .thrown (.runtime ..) => True
  | .trapped => False

section Errors
variable {α β ε : Type}

/-- A step that fails only in some ways. -/
def Spares (fine : ε → Prop) (step : Except ε α) : Prop :=
  ∀ error, step = .error error → fine error

theorem spares_ok (fine : ε → Prop) (a : α) : Spares fine (pure a : Except ε α) := by
  intro error failed
  cases failed

theorem spares_bind {fine : ε → Prop} {step : Except ε α} {next : α → Except ε β}
    (first : Spares fine step) (after : ∀ a, Spares fine (next a)) :
    Spares fine (step >>= next) := by
  cases step with
  | ok a => exact after a
  | error error =>
    intro other failed
    cases failed
    exact first error rfl

theorem spares_core {step : Except ProtocolCoreError α} (spares : Spares ForeignCall step) :
    Spares Foreign (step.mapError .protocolCore) := by
  intro error failed
  cases step with
  | ok a => cases failed
  | error inner =>
    cases failed
    exact spares inner rfl

theorem spares_crypto (step : Except AppleCryptoError α) :
    Spares Foreign (step.mapError .crypto) := by
  intro error failed
  cases step with
  | ok a => cases failed
  | error inner =>
    cases failed
    trivial

theorem foreign_call {operation status : String} (other : operation ∉ ownCalls) :
    ForeignCall (.callFailed operation status) := other

theorem foreign_message {message : String} (other : message ∉ ownChecks) :
    Foreign (.unexpectedMessage message) := other

theorem spares_require {operation : String} (other : operation ∉ ownCalls) (status : GmStatus) :
    Spares ForeignCall (requireOk status operation) := by
  intro error failed
  unfold requireOk at failed
  split at failed
  · cases failed
  · cases failed
    exact foreign_call other

theorem raw_header_spares (header : MediaHeader) : Spares ForeignCall (rawMediaHeader header) := by
  intro error failed
  unfold rawMediaHeader at failed
  split at failed
  · cases failed
    trivial
  · cases failed

theorem build_nonce_spares (keyEpoch : UInt32) (sequence : UInt64) :
    Spares ForeignCall (buildMediaNonce keyEpoch sequence) := by
  unfold buildMediaNonce
  exact spares_bind (spares_require (by decide) _) fun _ => spares_ok _ _

theorem media_kind_spares (rawKind : UInt32) : Spares ForeignCall (mediaKind rawKind) := by
  intro error failed
  unfold mediaKind at failed
  repeat' split at failed
  all_goals cases failed
  exact foreign_call (by decide)

theorem media_direction_spares (rawDirection : UInt32) :
    Spares ForeignCall (mediaDirection rawDirection) := by
  intro error failed
  unfold mediaDirection at failed
  repeat' split at failed
  all_goals cases failed
  exact foreign_call (by decide)

theorem decode_header_spares (datagram : List UInt8) :
    Spares ForeignCall (decodeMediaHeader datagram) := by
  unfold decodeMediaHeader
  apply spares_bind (spares_require (by decide) _)
  intro _
  apply spares_bind (media_kind_spares _)
  intro kind
  exact spares_bind (media_direction_spares _) fun _ => spares_ok _ _

theorem open_media_spares (evp : Evp) (datagram key : List UInt8) :
    Spares Foreign (openMedia evp datagram key) := by
  have opens (header : MediaHeader) (sealedPayload : AppleAesGcm.SealedPayload)
      (aad : List UInt8) : Spares Foreign (do
        let nonce ← (buildMediaNonce header.keyEpoch header.sequence).mapError .protocolCore
        let plaintext ← (AppleAesGcm.openPayload evp sealedPayload key nonce aad).mapError .crypto
        return (header, plaintext)) := by
    apply spares_bind (spares_core (build_nonce_spares _ _))
    intro nonce
    exact spares_bind (spares_crypto _) fun _ => spares_ok _ _
  unfold openMedia
  apply spares_bind (spares_core (decode_header_spares _))
  intro header
  dsimp only
  split
  · apply spares_bind
    · intro error failed
      cases failed
      exact foreign_message (by decide)
    · exact fun _ => opens _ _ _
  · exact opens _ _ _

theorem seal_media_spares (evp : Evp) (header : MediaHeader) (plaintext key : List UInt8) :
    Spares Foreign (sealMedia evp header plaintext key) := by
  unfold sealMedia
  apply spares_bind
  · apply spares_core
    unfold buildMediaAad
    apply spares_bind (raw_header_spares header)
    intro raw
    exact spares_bind (spares_require (by decide) _) fun _ => spares_ok _ _
  intro aad
  apply spares_bind (spares_core (build_nonce_spares _ _))
  intro nonce
  exact spares_bind (spares_crypto _) fun _ => spares_ok _ _

theorem fixed_bytes_spare (n : Nat) (data : List UInt8) :
    Spares ForeignCall (copyFixedBytes n data) := by
  intro error failed
  unfold copyFixedBytes at failed
  split at failed
  · cases failed
  · cases failed
    exact foreign_call (by decide)

theorem derive_keys_spare (tlsExport : TlsExport) (sessionId : List UInt8)
    (direction : MediaDirection) (senderDigest receiverDigest : List UInt8) :
    Spares Foreign
      (derivePhase3Keys tlsExport sessionId 1 direction 1 senderDigest receiverDigest) := by
  unfold derivePhase3Keys
  apply spares_bind
  · apply spares_core
    unfold exporterContext
    apply spares_bind (fixed_bytes_spare _ _)
    intro session
    apply spares_bind (fixed_bytes_spare _ _)
    intro sender
    apply spares_bind (fixed_bytes_spare _ _)
    intro receiver
    exact spares_bind (spares_require (by decide) _) fun _ => spares_ok _ _
  intro context
  apply spares_bind
  · unfold exporter
    cases tlsExport context with
    | ok output => exact spares_ok _ _
    | error status =>
      intro error failed
      cases failed
      trivial
  · intro exported
    apply spares_core
    unfold splitExporterOutput
    exact spares_bind (spares_require (by decide) _) fun _ => spares_ok _ _

theorem replay_accept_spares (window : GmReplayWindow) (sequence : UInt64) :
    Spares ForeignCall (replayAccept window sequence) := by
  unfold replayAccept
  apply spares_bind (spares_require (by decide) _)
  intro _
  dsimp only
  split
  · exact spares_ok _ _
  · intro error failed
    cases failed
    exact foreign_call (by decide)

theorem encode_frame_spares (json : List UInt8) : Spares ForeignCall (encodeControlFrame json) := by
  unfold encodeControlFrame
  dsimp only
  split <;> exact spares_bind (spares_require (by decide) _) fun _ => spares_ok _ _

theorem parse_message_spares (json : List UInt8) :
    Spares ForeignCall (parseControlMessage json) := by
  intro error failed
  unfold parseControlMessage at failed
  split at failed
  · cases failed
  · cases failed
    exact foreign_call (by decide)

theorem ingest_spares {payload : GmBytes} {now : UInt64} {session after : ControlSession}
    {error : ProtocolCoreError}
    (failed : ControlSession.ingest payload now session = .error error after) :
    ForeignCall error := by
  unfold ControlSession.ingest ControlSession.perform at failed
  split at failed
  · rename_i inner refused
    obtain rfl : inner = error := (EStateM.Result.error.inj failed).1
    exact spares_require (by decide) _ _ refused
  · cases failed

variable {context : AudioContext} {state : AudioState} {arrival : Arrival}

theorem audio_turn_errors {error : AppleError}
    (thrown : audioTurn context state arrival = .thrown error) : Foreign error := by
  unfold audioTurn at thrown
  split at thrown
  · cases thrown
    exact foreign_message (by decide)
  split at thrown
  · rename_i error failed
    cases thrown
    exact open_media_spares _ _ _ _ failed
  split at thrown
  · cases thrown
    exact foreign_message (by decide)
  split at thrown
  · rename_i failed
    cases thrown
    exact replay_accept_spares _ _ _ failed
  split at thrown
  · cases thrown
    exact foreign_message (by decide)
  dsimp only at thrown
  split at thrown <;> cases thrown

/-- A turn that takes a packet takes it from the source, and traps where the timeline has no
    room for the next one. -/
def Roomed (context : AudioContext) (state : AudioState) (arrival : Arrival) : AudioTurn → Prop
  | .thrown _ => True
  | .trapped _ => 2 ^ 64 ≤ state.expectedTimestamp.toNat + 240
  | .next _ next => state.expectedTimestamp.toNat + 240 < 2 ^ 64 ∧
    next.acceptedPackets = state.acceptedPackets + 1 ∧
    next.expectedTimestamp = state.expectedTimestamp + 240 ∧
    arrival.host = context.sourceHost ∧ arrival.port = context.sourcePort

theorem audio_turn_roomed (context : AudioContext) (state : AudioState) (arrival : Arrival) :
    Roomed context state arrival (audioTurn context state arrival) := by
  unfold audioTurn
  split
  · trivial
  rename_i source
  split
  · trivial
  split
  · trivial
  split
  · trivial
  split
  · trivial
  dsimp only
  split
  · rename_i full
    exact full
  · rename_i room
    simp only [Bool.or_eq_true, decide_eq_true_eq, not_or, not_not] at source
    exact ⟨Nat.lt_of_not_le room, rfl, rfl, source⟩

end Errors

end GhostMedia.Interop.Harness
