import GhostMedia.Interop.HarnessRun

/- The harness's listener of the first interoperability test: whatever the other side sends, it
   answers the three requests in their order and nothing else. -/
namespace GhostMedia.Interop.Harness
open CString Control Media Bridge Dialogue GhostMedia.Runtime

/-- What the request after so many others has to be. -/
def Asks : Nat → ControlMessage → Prop
  | 0, hello => hello.kind = .requestSessionHello ∧ hello.id = some 1 ∧
      hello.role = some (ascii "win-client") ∧ hello.udpPort ≠ none
  | 1, bind => bind.kind = .requestTransportBind ∧ bind.id = some 2 ∧
      bind.sessionId = some testSessionId ∧ bind.udpPort ≠ none
  | 2, open_ => open_.kind = .requestStreamOpen ∧ open_.id = some 3 ∧
      open_.playoutTargetMilliseconds ≠ none ∧
      open_.profile.map AudioProfile.codec = some .pcmS16LE
  | _, _ => False

def resultJson : Nat → List UInt8
  | 0 => helloResultJson
  | 1 => bindResultJson
  | 2 => openResultJson
  | _ => []

structure Responds (count : Nat) (payload frame : List UInt8) : Prop where
  asks : ∃ message, parseControlMessage payload = .ok message ∧ Asks count message
  framed : encodeControlFrame (resultJson count) = .ok frame

inductive Exchanges : Nat → List (Event Answer) → Prop
  | start : Exchanges 0 []
  | next {count past payload frame} (before : Exchanges count past)
    (responds : Responds count payload frame) :
    Exchanges (count + 1)
      (past ++ [⟨.receivePayload, .ok payload⟩] ++ [⟨.sendAll frame, GmStatus.ok⟩])

/-- Where the listener may be: between two exchanges, or in one. -/
inductive Listens : List (Event Answer) → Prop
  | between {count past} (done : Exchanges count past) : Listens past
  | received {count past answer} (done : Exchanges count past) :
    Listens (past ++ [⟨.receivePayload, answer⟩])
  | sent {count past payload frame status} (done : Exchanges count past)
    (responds : Responds count payload frame) :
    Listens (past ++ [⟨.receivePayload, .ok payload⟩] ++ [⟨.sendAll frame, status⟩])

variable {count : Nat} {past : List (Event Answer)}

theorem message_upholds (done : Exchanges count past) :
    Upholds Listens
      (fun next message => ∃ payload, next = past ++ [⟨.receivePayload, .ok payload⟩] ∧
        parseControlMessage payload = .ok message)
      (fun _ _ => True) past receiveControlMessage := by
  intro (answer : Except ReceiveError (List UInt8))
  refine ⟨.received done, ?_⟩
  cases answer with
  | error error => trivial
  | ok payload =>
    apply upholds_except
    · intro message parsed
      exact ⟨payload, rfl, map_error_ok_iff.mp (map_error_ok_iff.mp parsed)⟩
    · exact fun _ _ => trivial

theorem result_upholds {payload json : List UInt8} (same : json = resultJson count)
    (done : Exchanges count past)
    (asks : ∃ message, parseControlMessage payload = .ok message ∧ Asks count message) :
    Upholds Listens (fun next _ => Exchanges (count + 1) next) (fun _ _ => True)
      (past ++ [⟨.receivePayload, .ok payload⟩]) (sendResponse false json) := by
  subst same
  unfold sendResponse
  refine upholds_except_then (fun _ _ => ?_) fun _ _ => trivial
  refine upholds_except_then (fun frame encoded => ?_) fun _ _ => trivial
  have framed : encodeControlFrame (resultJson count) = .ok frame :=
    map_error_ok_iff.mp (map_error_ok_iff.mp encoded)
  intro (status : GmStatus)
  refine ⟨.sent done ⟨asks, framed⟩, ?_⟩
  change Upholds _ _ _ _ (if status = .ok then _ else _)
  split
  · next ok => exact ok ▸ .next done ⟨asks, framed⟩
  · trivial

theorem asked_then {condition : Prop} [Decidable condition] {message : String}
    {next : Unit → Run Unit} {post : List (Event Answer) → Unit → Prop}
    (holds : condition → Upholds Listens post (fun _ _ => True) past (next ())) :
    Upholds Listens post (fun _ _ => True) past (require condition message >>= next) := by
  by_cases here : condition
  · rw [require, if_pos here]
    exact holds here
  · rw [require, if_neg here]
    trivial

/-- Whatever it is answered, the listener is in the course of its exchanges, and it has had
    all three when it returns. -/
theorem plaintext_conduct {q : Run Unit} (run : Reaches runPlaintextListener past q) :
    Listens past ∧ (q = .done () → Exchanges 3 past) := by
  have upholds : Upholds Listens (fun past _ => Exchanges 3 past) (fun _ _ => True) []
      runPlaintextListener := by
    unfold runPlaintextListener
    have first : helloResultJson = resultJson 0 := by rw [resultJson]
    have second : bindResultJson = resultJson 1 := by rw [resultJson]
    have third : openResultJson = resultJson 2 := by rw [resultJson]
    generalize helloResultJson = helloJson at first ⊢
    generalize bindResultJson = bindJson at second ⊢
    generalize openResultJson = openJson at third ⊢
    apply upholds_bind (message_upholds .start)
    rintro _ hello ⟨payload, rfl, parsed⟩
    apply asked_then
    intro asks
    apply upholds_bind (result_upholds first .start ⟨hello, parsed, asks⟩)
    intro past _ greeted
    apply upholds_bind (message_upholds greeted)
    rintro _ bind ⟨payload, rfl, parsed⟩
    apply asked_then
    intro asks
    apply upholds_bind (result_upholds second greeted ⟨bind, parsed, asks⟩)
    intro past _ bound
    apply upholds_bind (message_upholds bound)
    rintro _ open_ ⟨payload, rfl, parsed⟩
    apply asked_then
    intro asks
    exact result_upholds third bound ⟨open_, parsed, asks⟩
  obtain ⟨listens, ends⟩ := upholds_reaches upholds (.between .start) run
  refine ⟨listens, fun returned => ?_⟩
  subst returned
  exact ends

end GhostMedia.Interop.Harness
