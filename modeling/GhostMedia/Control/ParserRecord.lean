import GhostMedia.Control.JsonParser
import GhostMedia.Foundation.Recording

/- `JsonParser` and `is_valid_utf8` once more, with a record of every read of the input,
   every move of the cursor, every iteration of a loop and every call of `parse_value`.
   That both end alike is proved beside the safety of the record. The cursor of
   `is_valid_utf8` is its `index`. A guard adds six at most to a position inside the input,
   so that no sum of the source wraps. -/
namespace GhostMedia.Json

/-- The loops of the two functions. `names` compares a new member's name with those before. -/
inductive Loop where
  | whitespace | string | hexDigits | digits | object | array | names | utf8
  deriving DecidableEq

/-- An iteration is entered; it is turned when it goes round or returns with success, and
    left without a turn when it refuses the input. -/
inductive Event where
  | read (index : Nat)
  | move (start stop : Nat)
  | enter (loop : Loop) (start : Nat)
  | turn (loop : Loop) (start stop : Nat)
  | call
  | leave
  deriving DecidableEq

namespace Recorded
open Recording

abbrev Recorder := EStateM Halt (State Cursor Event)

def failWith {α : Type} (status : GmStatus) : Recorder α := throw (.status status)

def here : Recorder Nat := do return (← get).state.position

def advance (count : Nat) : Recorder Unit := do
  let start ← here
  lift (Json.advance count)
  note (.move start (start + count))

def enter (loop : Loop) : Recorder Nat := do
  let start ← here
  note (.enter loop start)
  return start

def turn (loop : Loop) (start : Nat) : Recorder Unit := do
  let stop ← here
  note (.turn loop start stop)

section Input
variable (input : List UInt8)

def dataAt (index : Nat) : Recorder UInt8 := do
  note (.read index)
  lift (Json.dataAt input index)

def moreInput : Recorder Bool := lift (Json.moreInput input)

def peek : Recorder UInt8 := do dataAt input (← here)

def take : Recorder UInt8 := do
  let byte ← peek input
  advance 1
  return byte

def skipWsLoop : Nat → Recorder Unit
  | 0 => throw .outOfFuel
  | fuel + 1 => do
    if ← moreInput input then
      if isJsonWhitespace (← peek input) then
        let start ← enter .whitespace
        advance 1
        turn .whitespace start
        skipWsLoop fuel

def skipWs : Recorder Unit := skipWsLoop input (input.length + 1)

/-- `memcmp` may look at every byte of its range. -/
def readRange (first : Nat) : Nat → Recorder Unit
  | 0 => return ()
  | count + 1 => do
    note (.read first)
    readRange (first + 1) count

def matchLiteral (literal : List UInt8) : Recorder Bool := do
  let position ← here
  if position + literal.length > input.length then
    return false
  else
    readRange position literal.length
    if (input.drop position).take literal.length ≠ literal then
      return false
    else
      advance literal.length
      return true

def parseHex4Loop : Nat → UInt32 → Recorder UInt32
  | 0, value => return value
  | count + 1, value => do
    let start ← enter .hexDigits
    let digit ← take input
    if !isHexDigit digit then failWith .badMessage
    else
      turn .hexDigits start
      parseHex4Loop count ((value <<< 4) ||| hexValue digit)

def parseHex4 : Recorder UInt32 := do
  if (← here) + 4 > input.length then failWith .badMessage
  else parseHex4Loop input 4 0

def parseCodeUnit (codeUnit : UInt32) (out : List UInt8) : Recorder (List UInt8) := do
  if 0xd800 ≤ codeUnit && codeUnit ≤ 0xdbff then
    let position ← here
    if position + 6 > input.length then failWith .badMessage
    else if (← dataAt input position) ≠ 92 then failWith .badMessage
    else if (← dataAt input (position + 1)) ≠ 117 then failWith .badMessage
    else
      advance 2
      let low ← parseHex4 input
      if low < 0xdc00 || low > 0xdfff then failWith .badMessage
      else
        let highTen := codeUnit - 0xd800
        let lowTen := low - 0xdc00
        return appendUtf8 ((0x10000 : UInt32) + ((highTen <<< 10) ||| lowTen)) out
  else if 0xdc00 ≤ codeUnit && codeUnit ≤ 0xdfff then failWith .badMessage
  else return appendUtf8 codeUnit out

def parseEscape (escape : UInt8) (out : List UInt8) : Recorder (List UInt8) := do
  if escape = 34 || escape = 92 || escape = 47 then return out ++ [escape]
  else if escape = 98 then return out ++ [8]
  else if escape = 102 then return out ++ [12]
  else if escape = 110 then return out ++ [10]
  else if escape = 114 then return out ++ [13]
  else if escape = 116 then return out ++ [9]
  else if escape = 117 then
    let codeUnit ← parseHex4 input
    parseCodeUnit input codeUnit out
  else failWith .badMessage

def parseStringLoop : Nat → List UInt8 → Recorder (List UInt8)
  | 0, _ => throw .outOfFuel
  | fuel + 1, out => do
    if ← moreInput input then
      let start ← enter .string
      let value ← take input
      if value = 34 then
        turn .string start
        return out
      else if value < 0x20 then failWith .badMessage
      else if value ≠ 92 then
        let out := out ++ [value]
        if out.length > gmControlMaxStringBytes then failWith .limitExceeded
        else
          turn .string start
          parseStringLoop fuel out
      else if ← moreInput input then
        let escape ← take input
        let out ← parseEscape input escape out
        if out.length > gmControlMaxStringBytes then failWith .limitExceeded
        else
          turn .string start
          parseStringLoop fuel out
      else failWith .badMessage
    else failWith .badMessage

def parseString : Recorder (List UInt8) := do
  if ← moreInput input then
    if (← peek input) ≠ 34 then failWith .badMessage
    else
      advance 1
      parseStringLoop input (input.length + 1) []
  else failWith .badMessage

def parseDigits : Nat → UInt64 → Recorder UInt64
  | 0, _ => throw .outOfFuel
  | fuel + 1, value => do
    if ← moreInput input then
      let byte ← peek input
      if isDigit byte then
        let start ← enter .digits
        let digit := (byte - 48).toUInt64
        if value > (0xffffffffffffffff - digit) / 10 then failWith .badMessage
        else
          advance 1
          turn .digits start
          parseDigits fuel (value * 10 + digit)
      else return value
    else return value

def rejectDigit : Recorder Unit := do
  if ← moreInput input then
    if isDigit (← peek input) then failWith .badMessage

def rejectFraction : Recorder Unit := do
  if ← moreInput input then
    let byte ← peek input
    if byte = 46 || byte = 101 || byte = 69 then failWith .badMessage

def parseNumber : Recorder UInt64 := do
  if ← moreInput input then
    let first ← peek input
    if !isDigit first then failWith .badMessage
    else if first = 48 then
      advance 1
      rejectDigit input
      rejectFraction input
      return 0
    else
      let value ← parseDigits input (input.length + 1) 0
      rejectFraction input
      return value
  else failWith .badMessage

/-- The loop over the members already read. -/
def rejectName (name : List UInt8) : List (List UInt8 × JsonValue) → Recorder Unit
  | [] => return ()
  | member :: members => do
    let start ← enter .names
    if member.1 = name then failWith .badMessage
    else
      turn .names start
      rejectName name members

def parseMemberName (members : List (List UInt8 × JsonValue)) : Recorder (List UInt8) := do
  if members.length ≥ gmControlMaxObjectMembers ||
      (← get).state.totalMembers ≥ gmControlMaxMessageMembers then failWith .limitExceeded
  else
    let name ← parseString input
    rejectName name members
    lift (modify fun c => { c with totalMembers := c.totalMembers + 1 })
    skipWs input
    if ← moreInput input then
      if (← peek input) ≠ 58 then failWith .badMessage
      else
        advance 1
        skipWs input
        return name
    else failWith .badMessage

def parseSeparator (close : UInt8) : Recorder Bool := do
  skipWs input
  if ← moreInput input then
    let byte ← peek input
    if byte = close then
      advance 1
      return true
    else if byte ≠ 44 then failWith .badMessage
    else
      advance 1
      skipWs input
      return false
  else failWith .badMessage

def parseObjectLoop (parseMember : Recorder JsonValue) :
    Nat → List (List UInt8 × JsonValue) → Recorder JsonValue
  | 0, _ => throw .outOfFuel
  | fuel + 1, members => do
    if ← moreInput input then
      let start ← enter .object
      let name ← parseMemberName input members
      let value ← parseMember
      let members := members ++ [(name, value)]
      let closed ← parseSeparator input 125
      turn .object start
      if closed then return .object members
      else parseObjectLoop parseMember fuel members
    else failWith .badMessage

def parseContainer (close : UInt8) (empty : JsonValue) (loop : Recorder JsonValue) :
    Recorder JsonValue := do
  advance 1
  skipWs input
  if ← moreInput input then
    if (← peek input) = close then
      advance 1
      return empty
    else loop
  else loop

def parseObject (parseMember : Recorder JsonValue) : Recorder JsonValue :=
  parseContainer input 125 (.object [])
    (parseObjectLoop input parseMember (input.length + 1) [])

def parseArrayLoop (parseElement : Recorder JsonValue) :
    Nat → List JsonValue → Recorder JsonValue
  | 0, _ => throw .outOfFuel
  | fuel + 1, elements => do
    if ← moreInput input then
      let start ← enter .array
      if elements.length ≥ gmControlMaxArrayElements then failWith .limitExceeded
      else
        let value ← parseElement
        let elements := elements ++ [value]
        let closed ← parseSeparator input 93
        turn .array start
        if closed then return .array elements
        else parseArrayLoop parseElement fuel elements
    else failWith .badMessage

def parseArray (parseElement : Recorder JsonValue) : Recorder JsonValue :=
  parseContainer input 93 (.array [])
    (parseArrayLoop input parseElement (input.length + 1) [])

def parseValue : Nat → Nat → Recorder JsonValue
  | 0, _ => throw .outOfFuel
  | fuel + 1, depth => between .call .leave do
    if depth > gmControlMaxDepth then failWith .limitExceeded
    else if ← moreInput input then
      let value ← peek input
      if value = 123 then parseObject input (parseValue fuel (depth + 1))
      else if value = 91 then parseArray input (parseValue fuel (depth + 1))
      else if value = 34 then return .string (← parseString input)
      else if isDigit value then return .number (← parseNumber input)
      else if ← matchLiteral input (ascii "true") then return .boolean true
      else if ← matchLiteral input (ascii "false") then return .boolean false
      else failWith .badMessage
    else failWith .badMessage

def parse : Recorder JsonValue := do
  skipWs input
  let out ← parseValue input (gmControlMaxDepth + 1) 1
  skipWs input
  if (← here) = input.length then return out
  else failWith .badMessage

def isValidUtf8Loop : Nat → Recorder Bool
  | 0 => throw .outOfFuel
  | fuel + 1 => do
    if ← moreInput input then
      let index ← enter .utf8
      let first ← dataAt input index
      if first ≤ 0x7f then
        advance 1
        turn .utf8 index
        isValidUtf8Loop fuel
      else if 0xc2 ≤ first && first ≤ 0xdf then
        if index + 1 ≥ input.length then return false
        else if (← dataAt input (index + 1)) &&& 0xc0 ≠ 0x80 then return false
        else
          advance 2
          turn .utf8 index
          isValidUtf8Loop fuel
      else if 0xe0 ≤ first && first ≤ 0xef then
        if index + 2 ≥ input.length then return false
        else
          let second ← dataAt input (index + 1)
          let third ← dataAt input (index + 2)
          if second &&& 0xc0 ≠ 0x80 || third &&& 0xc0 ≠ 0x80 then return false
          else if (first = 0xe0 && second < 0xa0) || (first = 0xed && second ≥ 0xa0) then
            return false
          else
            advance 3
            turn .utf8 index
            isValidUtf8Loop fuel
      else if 0xf0 ≤ first && first ≤ 0xf4 then
        if index + 3 ≥ input.length then return false
        else
          let second ← dataAt input (index + 1)
          let third ← dataAt input (index + 2)
          let fourth ← dataAt input (index + 3)
          if second &&& 0xc0 ≠ 0x80 || third &&& 0xc0 ≠ 0x80 || fourth &&& 0xc0 ≠ 0x80 then
            return false
          else if (first = 0xf0 && second < 0x90) || (first = 0xf4 && second > 0x8f) then
            return false
          else
            advance 4
            turn .utf8 index
            isValidUtf8Loop fuel
      else return false
    else return true

def isValidUtf8 : Recorder Bool := isValidUtf8Loop input (input.length + 1)

/-- Nothing recorded yet, the cursor at the first byte. -/
def start : State Cursor Event := ⟨⟨0, 0⟩, []⟩

end Input

end Recorded

end GhostMedia.Json
