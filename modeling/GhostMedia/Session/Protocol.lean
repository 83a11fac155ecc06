import GhostMedia.Control.MessageSpec
import GhostMedia.Foundation.Runs

/- What the session is for, apart from how it is stored. A peer greets, binds its
   transport and owns at most one stream at a time; every request has a larger id than
   the one before. The fields that one phase needs exist in that phase only, and carry
   what holds of them. -/
namespace GhostMedia.Session.Protocol
open Control

abbrev StreamId := {id : ℕ // 1 ≤ id ∧ id ≤ 4294967295}
abbrev Port := {port : ℕ // 1 ≤ port ∧ port ≤ 65535}
abbrev Playout := {ms : ℕ // 15 ≤ ms ∧ ms ≤ 120}
abbrev Timestamp := {text : List UInt8 // DecimalU64 text}

/-- Stream ids count up to the last one, which is given out again. -/
def StreamId.after (id : StreamId) : StreamId :=
  if below : id.val < 4294967295 then ⟨id.val + 1, by omega⟩ else id

structure Server where
  sessionId : List UInt8
  firstKeyEpoch : ℕ
  outputAvailable : Bool

/-- A stream between its open and its close. Once it has been started, only a rekey can
    have taken its path's validation away. -/
structure Stream (first : ℕ) where
  keyEpoch : ℕ
  codec : Codec
  playout : Playout
  validated : Bool
  started : Option Timestamp
  later : first ≤ keyEpoch
  media : started ≠ none → validated = true ∨ first < keyEpoch

inductive Phase (first : ℕ) where
  | ready
  | greeted (port : Port)
  | bound (port : Port)
  | owning (port : Port) (stream : Stream first)

/-- A session that is not closed. The stream it owns has the id `next`. -/
structure Live (first : ℕ) where
  lastRequestId : ℕ
  next : StreamId
  lastClosed : Option StreamId
  phase : Phase first
  follows : ∀ id ∈ lastClosed, next = id.after

inductive State (first : ℕ) where
  | live (session : Live first)
  | closed

inductive Request where
  | hello (port : Port)
  | bind (sessionId : List UInt8) (port : Port)
  | open (codec : Codec) (playout : Playout)
  | start (id : StreamId) (timestamp : Timestamp)
  | stop (id : StreamId)
  | close (id : StreamId)
  | rekey (id : StreamId) (keyEpoch : ℕ)
  | status
  | ping (token : List UInt8)
  | leave

inductive Activity where
  | none
  | open
  | started
  deriving DecidableEq

inductive Answer where
  | greeting
  | pathBound
  | opened (id : StreamId) (keyEpoch : ℕ) (codec : Codec) (playout : Playout)
  | started (id : StreamId) (timestamp : Timestamp)
  | stopped (id : StreamId)
  | streamClosed (id : StreamId)
  | rekeying (id : StreamId) (keyEpoch : ℕ)
  | status (available bound : Bool) (activity : Activity)
  | pong (token : List UInt8) (nowNs : ℕ)
  | goodbye

section Streams
variable {first : ℕ}

def Stream.fresh (codec : Codec) (playout : Playout) : Stream first where
  keyEpoch := first
  codec := codec
  playout := playout
  validated := false
  started := none
  later := le_rfl
  media started := absurd rfl started

def Stream.validate (stream : Stream first) : Stream first :=
  { stream with validated := true, media := fun _ => .inl rfl }

def Stream.start (stream : Stream first) (timestamp : Timestamp) (valid : stream.validated = true) :
    Stream first :=
  { stream with started := some timestamp, media := fun _ => .inl valid }

def Stream.stop (stream : Stream first) : Stream first :=
  { stream with started := none, media := fun started => absurd rfl started }

/-- A rekeyed stream goes on, and its path has to be validated again. -/
def Stream.rekey (stream : Stream first) : Stream first :=
  { stream with
    keyEpoch := stream.keyEpoch + 1
    validated := false
    later := Nat.le_succ_of_le stream.later
    media := fun _ => .inr (Nat.lt_succ_of_le stream.later) }

def Phase.activity : Phase first → Activity
  | .owning _ stream => if stream.started.isSome then .started else .open
  | _ => .none

def Phase.isBound : Phase first → Bool
  | .bound _ | .owning _ _ => true
  | _ => false

def Live.at (l : Live first) (phase : Phase first) : State first := .live { l with phase := phase }

/-- The stream is gone, and the next one gets another id. -/
def Live.close (l : Live first) (port : Port) : State first :=
  .live
    { l with
      next := l.next.after
      lastClosed := some l.next
      phase := .bound port
      follows := fun _ same => congrArg StreamId.after (Option.some.inj same) }

end Streams

section Machine
variable (server : Server)

/-- The answer to a request and where it leads, or none when it does not fit the phase. -/
def serve (l : Live server.firstKeyEpoch) (nowNs : ℕ) :
    Request → Option (Answer × State server.firstKeyEpoch)
  | .hello port =>
    match l.phase with
    | .ready => some (.greeting, l.at (.greeted port))
    | _ => none
  | .bind sessionId port =>
    match l.phase with
    | .greeted peer | .bound peer =>
      if sessionId = server.sessionId ∧ port = peer then some (.pathBound, l.at (.bound peer))
      else none
    | .owning peer _ =>
      if sessionId = server.sessionId ∧ port = peer then some (.pathBound, .live l) else none
    | .ready => none
  | .open codec playout =>
    match l.phase with
    | .bound port =>
      some (.opened l.next server.firstKeyEpoch codec playout,
        l.at (.owning port (.fresh codec playout)))
    | .owning _ stream =>
      if stream.codec = codec ∧ stream.playout = playout then
        some (.opened l.next stream.keyEpoch codec playout, .live l)
      else none
    | _ => none
  | .start id timestamp =>
    match l.phase with
    | .owning port stream =>
      if fits : id = l.next ∧ stream.validated = true ∧
          ∀ running ∈ stream.started, running = timestamp then
        some (.started id timestamp, l.at (.owning port (stream.start timestamp fits.2.1)))
      else none
    | _ => none
  | .stop id =>
    match l.phase with
    | .owning port stream =>
      if id = l.next then some (.stopped id, l.at (.owning port stream.stop)) else none
    | _ => none
  | .close id =>
    match l.phase with
    | .owning port _ => if id = l.next then some (.streamClosed id, l.close port) else none
    | .bound _ => if l.lastClosed = some id then some (.streamClosed id, .live l) else none
    | _ => none
  | .rekey id keyEpoch =>
    match l.phase with
    | .owning port stream =>
      if id = l.next ∧ keyEpoch = stream.keyEpoch + 1 then
        some (.rekeying id keyEpoch, l.at (.owning port stream.rekey))
      else if id = l.next ∧ keyEpoch = stream.keyEpoch ∧ server.firstKeyEpoch < keyEpoch then
        some (.rekeying id keyEpoch, .live l)
      else none
    | _ => none
  | .status =>
    match l.phase with
    | .ready => none
    | phase =>
      some (.status server.outputAvailable phase.isBound phase.activity, .live l)
  | .ping token =>
    match l.phase with
    | .ready => none
    | _ => some (.pong token nowNs, .live l)
  | .leave =>
    match l.phase with
    | .ready => none
    | _ => some (.goodbye, .closed)

/-- What can happen to a session: a call without a proper record, a payload that is no
    message, a message that is no request, a request, and the word that datagrams come
    through on the path. -/
inductive Input where
  | misuse
  | garbage
  | stray (id : ℕ)
  | request (id nowNs : ℕ) (body : Request)
  | validated (streamId keyEpoch : ℕ)

inductive Reaction where
  | ignored
  | granted (id : ℕ) (answer : Answer)
  | conflict (id : ℕ)
  | hangUp (id : ℕ)
  | validated (id : StreamId) (keyEpoch : ℕ)

def react : State server.firstKeyEpoch → Input → Reaction × State server.firstKeyEpoch
  | s, .misuse => (.ignored, s)
  | .closed, _ => (.conflict 0, .closed)
  | .live _, .garbage => (.hangUp 0, .closed)
  | .live _, .stray id => (.hangUp id, .closed)
  | .live l, .request id nowNs body =>
    if id ≤ l.lastRequestId then (.hangUp id, .closed)
    else
      match serve server { l with lastRequestId := id } nowNs body with
      | some (answer, next) => (.granted id answer, next)
      | none => (.conflict id, .live { l with lastRequestId := id })
  | .live l, .validated streamId keyEpoch =>
    match l.phase with
    | .owning port stream =>
      if streamId = l.next ∧ keyEpoch = stream.keyEpoch then
        (.validated l.next keyEpoch, l.at (.owning port stream.validate))
      else (.conflict 0, .live l)
    | _ => (.conflict 0, .live l)

/-- The session before its first request. -/
def begin (next : StreamId) : State server.firstKeyEpoch :=
  .live ⟨0, next, none, .ready, fun _ none => nomatch none⟩

end Machine

end GhostMedia.Session.Protocol
