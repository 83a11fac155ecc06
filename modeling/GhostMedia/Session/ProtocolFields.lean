import GhostMedia.Session.Acceptance
import GhostMedia.Session.Reading

/- Where the C session keeps the state of the protocol, and how its guards read there. -/
namespace GhostMedia.Session.Protocol
open Control CString

def server (config : GmControlSessionConfig) : Server where
  sessionId := config.sessionId.text
  firstKeyEpoch := (keyEpochOrDefault config.keyEpoch).toNat
  outputAvailable := decide (config.outputAvailable ≠ 0)

section Fields
variable {first : ℕ}

def Phase.state : Phase first → GmControlSessionState
  | .ready => .tlsReady
  | .greeted _ => .hello
  | .bound _ => .bound
  | .owning _ stream => if stream.started.isSome then .streaming else .streamOpen

def Phase.port : Phase first → Option Port
  | .ready => none
  | .greeted port | .bound port | .owning port _ => some port

def Phase.stream : Phase first → Option (Stream first)
  | .owning _ stream => some stream
  | _ => none

structure StreamFields (s : GmControlSession) (stream : Stream first) : Prop where
  keyEpoch : s.keyEpoch.toNat = stream.keyEpoch
  profile : s.profile = stream.codec.profile
  playout : s.playoutTargetMs.toNat = stream.playout.val
  validated : s.pathValidated ≠ 0 ↔ stream.validated = true
  timestamp : ∀ timestamp ∈ stream.started, s.firstMediaTimestamp.text = timestamp.val

structure LiveFields (s : GmControlSession) (l : Live first) : Prop where
  request : s.lastRequestId.toNat = l.lastRequestId
  next : s.nextStreamId.toNat = l.next.val
  closed : ∀ id : StreamId, s.lastClosedStreamId.toNat = id.val ↔ l.lastClosed = some id
  state : s.state = l.phase.state
  port : ∀ port ∈ l.phase.port, s.windowsUdpPort.toNat = port.val
  stream : ∀ stream ∈ l.phase.stream, StreamFields s stream

def StateFields (s : GmControlSession) : State first → Prop
  | .live l => LiveFields s l
  | .closed => s.state = .closed

theorem of_no_member {α : Type} {p : α → Prop} : ∀ a ∈ (none : Option α), p a :=
  fun a member => absurd member (Option.not_mem_none a)

theorem of_one_member {α : Type} {p : α → Prop} {one : α} (holds : p one) :
    ∀ a ∈ some one, p a :=
  fun _ member => Option.some.inj member ▸ holds

/-- A closed session keeps whatever else it had. -/
theorem state_closed_iff {s : GmControlSession} {t : State first} (fields : StateFields s t) :
    s.state = .closed ↔ t = .closed := by
  cases t with
  | closed => exact iff_of_true fields rfl
  | live l =>
    refine iff_of_false ?_ (by simp)
    rw [fields.state]
    cases l.phase with
    | owning port stream =>
      rw [Phase.state]
      split <;> simp
    | _ => simp [Phase.state]

end Fields

section Guards
variable {config : GmControlSessionConfig} {s : GmControlSession}
  {l : Live (server config).firstKeyEpoch} {port : Port}
  {stream : Stream (server config).firstKeyEpoch}

theorem ready_state (fields : LiveFields s l) (phase : l.phase = .ready) : s.state = .tlsReady := by
  rw [fields.state, phase]
  rfl

theorem greeted_state (fields : LiveFields s l) (phase : l.phase = .greeted port) :
    s.state = .hello ∧ s.windowsUdpPort.toNat = port.val := by
  refine ⟨?_, fields.port port (by simp [phase, Phase.port])⟩
  rw [fields.state, phase]
  rfl

theorem bound_state (fields : LiveFields s l) (phase : l.phase = .bound port) :
    s.state = .bound ∧ s.windowsUdpPort.toNat = port.val := by
  refine ⟨?_, fields.port port (by simp [phase, Phase.port])⟩
  rw [fields.state, phase]
  rfl

theorem owning_state (fields : LiveFields s l) (phase : l.phase = .owning port stream) :
    s.state = (if stream.started.isSome then .streaming else .streamOpen) ∧ OwnsStream s := by
  have state : s.state = if stream.started.isSome then .streaming else .streamOpen := by
    rw [fields.state, phase]
    rfl
  refine ⟨state, ?_⟩
  rw [OwnsStream, state]
  split <;> simp

theorem owning_fields (fields : LiveFields s l) (phase : l.phase = .owning port stream) :
    s.windowsUdpPort.toNat = port.val ∧ StreamFields s stream :=
  ⟨fields.port port (by simp [phase, Phase.port]),
    fields.stream stream (by simp [phase, Phase.stream])⟩

/-- A request names the stream that is owned by its id. -/
theorem owning_active (inv : Invariant config s) (fields : LiveFields s l)
    (phase : l.phase = .owning port stream) {streamId : UInt32} {id : StreamId}
    (same : streamId.toNat = id.val) :
    activeStreamMatches s streamId = true ↔ id = l.next := by
  have owns := (owning_state fields phase).2
  have owned := inv.owned owns
  have current : s.streamId.toNat = l.next.val := owned.streamId ▸ fields.next
  rw [active_iff, ← UInt32.toNat_inj (b := streamId), same, current]
  constructor
  · intro active
    exact Subtype.ext active.2.1.symm
  · rintro rfl
    exact ⟨owned.nonzero, rfl, owns⟩

theorem idle_inactive (fields : LiveFields s l)
    (idle : ∀ port stream, l.phase ≠ .owning port stream) (streamId : UInt32) :
    ¬ activeStreamMatches s streamId = true := by
  rw [active_iff]
  rintro ⟨_, _, owns⟩
  rw [OwnsStream, fields.state] at owns
  cases phase : l.phase with
  | owning port stream => exact idle port stream phase
  | _ => simp [phase, Phase.state] at owns

theorem session_named_iff {asked : List UInt8} (inv : Invariant config s)
    (valid : ValidConfig config) {named : Buffer (gmControlSessionIdHexBytes + 1)}
    (text : named.text = asked) :
    sameCStringWithin (gmControlSessionIdHexBytes + 1) named.bytes s.sessionId.bytes = true ↔
      asked = (server config).sessionId := by
  have shape := config_session_id valid.sessionId
  have kept : s.sessionId.text = config.sessionId.text := by
    rw [inv.configured.sessionId]
    exact refill_text (Nat.lt_succ_of_le shape.1.le)
  have whole (b : Buffer (gmControlSessionIdHexBytes + 1)) :
      b.bytes.take (gmControlSessionIdHexBytes + 1) = b.bytes :=
    List.take_of_length_le b.size.le
  rw [sameCStringWithin, whole, whole, decide_eq_true_eq]
  constructor
  · exact fun same => text.symm.trans (same.trans kept)
  · exact fun same => text.trans (same.trans kept.symm)

theorem same_codec_iff (left right : Codec) :
    sameProfile left.profile right.profile = true ↔ left = right := by
  cases left <;> cases right <;> decide

/-- The successor of a key epoch, which no message can name past the last one. -/
theorem next_epoch_iff {old new : UInt32} (positive : 1 ≤ new) :
    new = old + 1 ↔ new.toNat = old.toNat + 1 := by
  constructor
  · intro next
    exact rekey_successor next positive
  · intro next
    have small := new.toNat_lt
    apply UInt32.toNat_inj.mp
    simp only [UInt32.toNat_add, UInt32.reduceToNat]
    omega

/-- A rekey to the current epoch repeats one when the epoch is not the first. -/
theorem rekeyed_iff (inv : Invariant config s) (owns : OwnsStream s) :
    s.keyEpoch = s.lastRekeyEpoch ↔ (server config).firstKeyEpoch < s.keyEpoch.toNat := by
  have owned := inv.owned owns
  have first : s.initialKeyEpoch.toNat = (server config).firstKeyEpoch :=
    congrArg UInt32.toNat inv.configured.initialKeyEpoch
  have later : s.initialKeyEpoch.toNat ≤ s.keyEpoch.toNat := owned.keyEpoch
  have positive := (stream_positive inv owns).2
  constructor
  · intro same
    have rekeyed : s.lastRekeyEpoch ≠ 0 := same ▸ (nonzero_iff _).mpr positive
    have other : s.keyEpoch.toNat ≠ s.initialKeyEpoch.toNat := fun initial =>
      rekeyed (owned.rekeyed.mpr (UInt32.toNat_inj.mp initial))
    omega
  · intro past
    have rekeyed : s.lastRekeyEpoch ≠ 0 := fun never => by
      have initial := congrArg UInt32.toNat (owned.rekeyed.mp never)
      omega
    exact (owned.lastRekey rekeyed).symm

theorem close_next {next : UInt32} {id : StreamId} (same : next.toNat = id.val) :
    (nextAfterClose next next).toNat = id.after.val := by
  by_cases top : next = maxU32
  · have last : ¬ id.val < 4294967295 := by
      rw [← same, top]
      decide
    rw [StreamId.after, dif_neg last, top, next_after_close_top, ← same, top]
  · have sum := add_one_toNat top
    have below : id.val < 4294967295 := by
      have bound : next.toNat ≠ 4294967295 := fun last => top (UInt32.toNat_inj.mp last)
      have small := next.toNat_lt
      omega
    rw [StreamId.after, dif_pos below, next_after_close_below top, sum, same]

end Guards

end GhostMedia.Session.Protocol
