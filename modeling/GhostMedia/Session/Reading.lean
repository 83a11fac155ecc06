import GhostMedia.Foundation.Simulation
import GhostMedia.Session.ErrorReplies
import GhostMedia.Session.Protocol

/- What a call to the session says in the words of the protocol. A payload is read by the
   grammar and the message schemas, not by the parser. -/
namespace GhostMedia.Session.Protocol
open Control Json

def idOf : Message → ℕ
  | .sessionHello id .. | .transportBind id .. | .streamOpen id .. | .streamStart id ..
  | .streamStop id .. | .streamClose id .. | .streamRekey id .. | .statusGet id | .ping id _
  | .sessionClose id _ | .error id | .result id _ => id.toNat
  | .streamStarted .. | .streamStopped .. | .outputState .. | .sessionExpiring .. => 0

inductive Makes : Message → Request → Prop where
  | hello {id clientName versions udpPort} {port : Port} (same : udpPort.toNat = port.val) :
    Makes (.sessionHello id clientName versions udpPort) (.hello port)
  | bind {id sessionId udpPort} {port : Port} (same : udpPort.toNat = port.val) :
    Makes (.transportBind id sessionId udpPort) (.bind sessionId port)
  | open {id codec playoutTargetMs} {playout : Playout}
      (same : playoutTargetMs.toNat = playout.val) :
    Makes (.streamOpen id codec playoutTargetMs) (.open codec playout)
  | start {id streamId firstMediaTimestamp} {stream : StreamId} {timestamp : Timestamp}
      (same : streamId.toNat = stream.val) (text : firstMediaTimestamp = timestamp.val) :
    Makes (.streamStart id streamId firstMediaTimestamp) (.start stream timestamp)
  | stop {id streamId} {stream : StreamId} (same : streamId.toNat = stream.val) :
    Makes (.streamStop id streamId) (.stop stream)
  | close {id streamId} {stream : StreamId} (same : streamId.toNat = stream.val) :
    Makes (.streamClose id streamId) (.close stream)
  | rekey {id streamId keyEpoch} {stream : StreamId} (same : streamId.toNat = stream.val) :
    Makes (.streamRekey id streamId keyEpoch) (.rekey stream keyEpoch.toNat)
  | status {id} : Makes (.statusGet id) .status
  | ping {id token} : Makes (.ping id token) (.ping token)
  | leave {id reason} : Makes (.sessionClose id reason) .leave

/-- The payload is a text of the message. -/
def Holds (jsonText : GmBytes) (message : Message) : Prop :=
  ∃ (text : List UInt8) (members : Members), jsonText = .view text ∧
    Acceptable text (.object members) ∧ message.Describes members

inductive Says : Call → Input → Prop where
  | misuse {call : Call} (small : call.outAction.structSize < sizeofGmControlAction) :
    Says call .misuse
  | garbage {jsonText nowNs outAction} (sized : sizeofGmControlAction ≤ outAction.structSize)
      (none : ∀ message, ¬ Holds jsonText message) :
    Says (.ingest jsonText nowNs outAction) .garbage
  | stray {jsonText nowNs outAction} {message : Message}
      (sized : sizeofGmControlAction ≤ outAction.structSize) (holds : Holds jsonText message)
      (other : ∀ body, ¬ Makes message body) :
    Says (.ingest jsonText nowNs outAction) (.stray (idOf message))
  | request {jsonText nowNs outAction} {message : Message} {body : Request}
      (sized : sizeofGmControlAction ≤ outAction.structSize) (holds : Holds jsonText message)
      (makes : Makes message body) :
    Says (.ingest jsonText nowNs outAction) (.request (idOf message) nowNs.toNat body)
  | validated {streamId keyEpoch : UInt32} {outAction : GmControlAction}
      (sized : sizeofGmControlAction ≤ outAction.structSize) :
    Says (.markPathValidated streamId keyEpoch outAction)
      (.validated streamId.toNat keyEpoch.toNat)

section Payloads
variable {jsonText : GmBytes} {message : Message}

theorem info_id (size : Nat) (message : Message) : (message.info size).id.toNat = idOf message := by
  cases message with
  | sessionClose id reason => cases reason <;> rfl
  | result id body => cases body <;> rfl
  | _ => rfl

/-- The parser accepts a payload as the record of the message it is a text of. -/
theorem parsed_iff (info : GmControlMessageInfo) :
    gmControlParseMessage jsonText (clearedInfo sizeofGmControlMessageInfo) = .ok info ↔
      ∃ message, Holds jsonText message ∧ message.info sizeofGmControlMessageInfo = info := by
  constructor
  · intro parsed
    obtain ⟨text, _, _, rfl, _, _⟩ := parse_message_described parsed
    obtain ⟨_, members, message, accepted, described, same⟩ :=
      (parse_message_iff text _ info).mp parsed
    exact ⟨message, ⟨text, members, rfl, accepted, described⟩, same⟩
  · intro held
    obtain ⟨message, ⟨text, members, rfl, accepted, described⟩, same⟩ := held
    exact (parse_message_iff text _ info).mpr ⟨le_rfl, members, message, accepted, described, same⟩

theorem held_parsed (held : Holds jsonText message) :
    gmControlParseMessage jsonText (clearedInfo sizeofGmControlMessageInfo) =
      .ok (message.info sizeofGmControlMessageInfo) :=
  (parsed_iff _).mpr ⟨message, held, rfl⟩

theorem garbage_errs (none : ∀ message, ¬ Holds jsonText message) :
    ∃ status, gmControlParseMessage jsonText (clearedInfo sizeofGmControlMessageInfo) =
      .error status := by
  cases parsed : gmControlParseMessage jsonText (clearedInfo sizeofGmControlMessageInfo) with
  | error status => exact ⟨status, rfl⟩
  | ok info =>
    obtain ⟨message, held, _⟩ := (parsed_iff info).mp parsed
    exact absurd held (none message)

theorem below_limits {value : UInt32} (positive : 1 ≤ value) :
    1 ≤ value.toNat ∧ value.toNat ≤ 4294967295 := by
  have small := value.toNat_lt
  simp only [UInt32.le_iff_toNat_le, UInt32.reduceToNat] at positive
  omega

/-- A described message of a request kind makes a request. -/
theorem described_makes {members : Members} (described : message.Describes members)
    (low : GmControlMessageKind.requestSessionHello.code ≤ message.kind.code)
    (high : message.kind.code ≤ GmControlMessageKind.requestSessionClose.code) :
    ∃ body, Makes message body := by
  cases message with
  | sessionHello id clientName versions udpPort =>
    obtain ⟨_, _, _, _, port⟩ := described
    exact ⟨.hello ⟨udpPort.toNat, port⟩, .hello rfl⟩
  | transportBind id sessionId udpPort =>
    obtain ⟨_, _, _, port⟩ := described
    exact ⟨.bind sessionId ⟨udpPort.toNat, port⟩, .bind rfl⟩
  | streamOpen id codec playoutTargetMs =>
    obtain ⟨_, _, _, _, playout⟩ := described
    exact ⟨.open codec ⟨playoutTargetMs.toNat, playout⟩, .open rfl⟩
  | streamStart id streamId firstMediaTimestamp =>
    obtain ⟨_, _, positive, decimal⟩ := described
    exact ⟨.start ⟨streamId.toNat, below_limits positive⟩ ⟨firstMediaTimestamp, decimal⟩,
      .start rfl rfl⟩
  | streamStop id streamId =>
    obtain ⟨_, _, positive⟩ := described
    exact ⟨.stop ⟨streamId.toNat, below_limits positive⟩, .stop rfl⟩
  | streamClose id streamId =>
    obtain ⟨_, _, positive⟩ := described
    exact ⟨.close ⟨streamId.toNat, below_limits positive⟩, .close rfl⟩
  | streamRekey id streamId keyEpoch =>
    obtain ⟨_, _, positive, _⟩ := described
    exact ⟨.rekey ⟨streamId.toNat, below_limits positive⟩ keyEpoch.toNat, .rekey rfl⟩
  | statusGet id => exact ⟨.status, .status⟩
  | ping id token => exact ⟨.ping token, .ping⟩
  | sessionClose id reason => exact ⟨.leave, .leave⟩
  | _ =>
    simp [Message.kind, GmControlMessageKind.code] at low high

theorem makes_kind {body : Request} (makes : Makes message body) :
    GmControlMessageKind.requestSessionHello.code ≤ message.kind.code ∧
      message.kind.code ≤ GmControlMessageKind.requestSessionClose.code := by
  cases makes <;> simp [Message.kind, GmControlMessageKind.code]

end Payloads

theorem call_said (call : Call) : ∃ input, Says call input := by
  by_cases small : call.outAction.structSize < sizeofGmControlAction
  · exact ⟨.misuse, .misuse small⟩
  have sized := Nat.le_of_not_lt small
  cases call with
  | markPathValidated streamId keyEpoch outAction =>
    exact ⟨.validated streamId.toNat keyEpoch.toNat, .validated sized⟩
  | ingest jsonText nowNs outAction =>
    by_cases held : ∃ message, Holds jsonText message
    · obtain ⟨message, held⟩ := held
      by_cases made : ∃ body, Makes message body
      · obtain ⟨body, makes⟩ := made
        exact ⟨_, .request sized held makes⟩
      · exact ⟨_, .stray sized held fun body makes => made ⟨body, makes⟩⟩
    · exact ⟨.garbage, .garbage sized fun message holds => held ⟨message, holds⟩⟩

end GhostMedia.Session.Protocol
