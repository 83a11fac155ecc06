import GhostMedia.Control.JsonParser

/- `parse_json`, the size rule of version 1 and `gm_control_validate_json_text`.
   Allocation is assumed to succeed. -/
namespace GhostMedia.Json

def hasByteOrderMark (text : List UInt8) : Bool :=
  match text with
  | 0xef :: 0xbb :: 0xbf :: _ => true
  | _ => false

def isObject : JsonValue → Bool
  | .object _ => true
  | _ => false

def parseJson (jsonText : GmBytes) : Except GmStatus JsonValue :=
  if !hasReadableData jsonText then .error .badArgument
  else if jsonText.size < gmControlFrameMinPayloadBytes then .error .badMessage
  else if jsonText.size > gmControlHelloMaxBytes then .error .limitExceeded
  else if hasByteOrderMark jsonText.data then .error .badMessage
  else if !isValidUtf8 jsonText.data then .error .badMessage
  else
    match parse jsonText.data ⟨0, 0⟩ with
    | .ok root _ => if isObject root then .ok root else .error .badMessage
    | .error (.status status) _ => .error status
    -- the two faults never occur; any other exception would be `GM_INTERNAL`
    | .error .outOfBounds _ => .error .internal
    | .error .outOfFuel _ => .error .internal

def findMember (object : JsonValue) (name : List UInt8) : Option JsonValue :=
  match object with
  | .object members => (members.find? fun member => member.1 = name).map Prod.snd
  | _ => none

def isHello (root : JsonValue) : Bool :=
  match findMember root (ascii "type") with
  | some (.string value) => value = ascii "session.hello"
  | _ => false

def enforceV1MessageSize (jsonText : GmBytes) (root : JsonValue) : Except GmStatus Unit :=
  if !isHello root && jsonText.size > gmControlMessageMaxBytes then .error .limitExceeded
  else .ok ()

/-- The status of a call that returns its result by reference. -/
def statusOf {α : Type} : Except GmStatus α → GmStatus
  | .ok _ => .ok
  | .error status => status

def gmControlValidateJsonText (jsonText : GmBytes) : GmStatus :=
  statusOf do
    let root ← parseJson jsonText
    enforceV1MessageSize jsonText root

end GhostMedia.Json
