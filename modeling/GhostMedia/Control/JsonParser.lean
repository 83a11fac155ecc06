import GhostMedia.Core.Abi

/- `JsonParser` of gm_control.cpp. The cursor and the member counter are explicit
   state over a fixed input. A read outside the input and an exhausted loop bound
   are outcomes of their own, so that their absence can be proved and not assumed.
   Every loop bound is the input size plus one; nesting is bounded by the depth
   check. -/
namespace GhostMedia.Json

inductive JsonValue where
  | object (members : List (List UInt8 × JsonValue))
  | array (elements : List JsonValue)
  | string (value : List UInt8)
  | number (value : UInt64)
  | boolean (value : Bool)

structure Cursor where
  position : Nat
  totalMembers : Nat
  deriving DecidableEq

inductive Halt where
  | status (status : GmStatus)
  | outOfBounds
  | outOfFuel
  deriving DecidableEq

abbrev Parser := EStateM Halt Cursor

def failWith {α : Type} (status : GmStatus) : Parser α := throw (.status status)

def advance (count : Nat) : Parser Unit :=
  modify fun c => { c with position := c.position + count }

def isJsonWhitespace (value : UInt8) : Bool :=
  value = 0x20 || value = 0x09 || value = 0x0a || value = 0x0d

def isDigit (value : UInt8) : Bool := 48 ≤ value && value ≤ 57

def isHexDigit (value : UInt8) : Bool :=
  (48 ≤ value && value ≤ 57) || (97 ≤ value && value ≤ 102) || (65 ≤ value && value ≤ 70)

def hexValue (value : UInt8) : UInt32 :=
  if 48 ≤ value && value ≤ 57 then (value - 48).toUInt32
  else if 97 ≤ value && value ≤ 102 then 10 + (value - 97).toUInt32
  else 10 + (value - 65).toUInt32

def appendUtf8 (codePoint : UInt32) (out : List UInt8) : List UInt8 :=
  if codePoint ≤ 0x7f then
    out ++ [codePoint.toUInt8]
  else if codePoint ≤ 0x7ff then
    out ++ [((0xc0 : UInt32) ||| (codePoint >>> 6)).toUInt8,
      ((0x80 : UInt32) ||| (codePoint &&& 0x3f)).toUInt8]
  else if codePoint ≤ 0xffff then
    out ++ [((0xe0 : UInt32) ||| (codePoint >>> 12)).toUInt8,
      ((0x80 : UInt32) ||| ((codePoint >>> 6) &&& 0x3f)).toUInt8,
      ((0x80 : UInt32) ||| (codePoint &&& 0x3f)).toUInt8]
  else
    out ++ [((0xf0 : UInt32) ||| (codePoint >>> 18)).toUInt8,
      ((0x80 : UInt32) ||| ((codePoint >>> 12) &&& 0x3f)).toUInt8,
      ((0x80 : UInt32) ||| ((codePoint >>> 6) &&& 0x3f)).toUInt8,
      ((0x80 : UInt32) ||| (codePoint &&& 0x3f)).toUInt8]

section Input
variable (input : List UInt8)

/-- `input_.data[index]`. -/
def dataAt (index : Nat) : Parser UInt8 :=
  match input[index]? with
  | some byte => pure byte
  | none => throw .outOfBounds

/-- `position_ < input_.size`. -/
def moreInput : Parser Bool := do return decide ((← get).position < input.length)

/-- `input_.data[position_]`. -/
def peek : Parser UInt8 := do dataAt input (← get).position

/-- `input_.data[position_++]`. -/
def take : Parser UInt8 := do
  let byte ← peek input
  advance 1
  return byte

def skipWsLoop : Nat → Parser Unit
  | 0 => throw .outOfFuel
  | fuel + 1 => do
    if ← moreInput input then
      if isJsonWhitespace (← peek input) then
        advance 1
        skipWsLoop fuel

def skipWs : Parser Unit := skipWsLoop input (input.length + 1)

def matchLiteral (literal : List UInt8) : Parser Bool := do
  let position := (← get).position
  if position + literal.length > input.length then
    return false
  else if (input.drop position).take literal.length ≠ literal then
    return false
  else
    advance literal.length
    return true

def parseHex4Loop : Nat → UInt32 → Parser UInt32
  | 0, value => return value
  | count + 1, value => do
    let digit ← take input
    if !isHexDigit digit then failWith .badMessage
    else parseHex4Loop count ((value <<< 4) ||| hexValue digit)

def parseHex4 : Parser UInt32 := do
  if (← get).position + 4 > input.length then failWith .badMessage
  else parseHex4Loop input 4 0

/-- The second half of a `\u` escape, once its first code unit is known. -/
def parseCodeUnit (codeUnit : UInt32) (out : List UInt8) : Parser (List UInt8) := do
  if 0xd800 ≤ codeUnit && codeUnit ≤ 0xdbff then
    let position := (← get).position
    if position + 6 > input.length then failWith .badMessage
    else if (← dataAt input position) ≠ 92 then failWith .badMessage
    else if (← dataAt input (position + 1)) ≠ 117 then failWith .badMessage
    else
      advance 2
      -- `parse_hex4` fails only with `GM_BAD_MESSAGE`, the status returned here
      let low ← parseHex4 input
      if low < 0xdc00 || low > 0xdfff then failWith .badMessage
      else
        let highTen := codeUnit - 0xd800
        let lowTen := low - 0xdc00
        return appendUtf8 ((0x10000 : UInt32) + ((highTen <<< 10) ||| lowTen)) out
  else if 0xdc00 ≤ codeUnit && codeUnit ≤ 0xdfff then failWith .badMessage
  else return appendUtf8 codeUnit out

/-- The `switch` on the byte after a backslash. -/
def parseEscape (escape : UInt8) (out : List UInt8) : Parser (List UInt8) := do
  if escape = 34 || escape = 92 || escape = 47 then return out ++ [escape]
  else if escape = 98 then return out ++ [8]
  else if escape = 102 then return out ++ [12]
  else if escape = 110 then return out ++ [10]
  else if escape = 114 then return out ++ [13]
  else if escape = 116 then return out ++ [9]
  else if escape = 117 then
    let codeUnit ← parseHex4 input
    parseCodeUnit input codeUnit out
  else failWith .badMessage

def parseStringLoop : Nat → List UInt8 → Parser (List UInt8)
  | 0, _ => throw .outOfFuel
  | fuel + 1, out => do
    if ← moreInput input then
      let value ← take input
      if value = 34 then return out
      else if value < 0x20 then failWith .badMessage
      else if value ≠ 92 then
        let out := out ++ [value]
        if out.length > gmControlMaxStringBytes then failWith .limitExceeded
        else parseStringLoop fuel out
      else if ← moreInput input then
        let escape ← take input
        let out ← parseEscape input escape out
        if out.length > gmControlMaxStringBytes then failWith .limitExceeded
        else parseStringLoop fuel out
      else failWith .badMessage
    else failWith .badMessage

def parseString : Parser (List UInt8) := do
  if ← moreInput input then
    if (← peek input) ≠ 34 then failWith .badMessage
    else
      advance 1
      parseStringLoop input (input.length + 1) []
  else failWith .badMessage

def parseDigits : Nat → UInt64 → Parser UInt64
  | 0, _ => throw .outOfFuel
  | fuel + 1, value => do
    if ← moreInput input then
      let byte ← peek input
      if isDigit byte then
        let digit := (byte - 48).toUInt64
        if value > (0xffffffffffffffff - digit) / 10 then failWith .badMessage
        else
          advance 1
          parseDigits fuel (value * 10 + digit)
      else return value
    else return value

/-- A leading zero stands alone. -/
def rejectDigit : Parser Unit := do
  if ← moreInput input then
    if isDigit (← peek input) then failWith .badMessage

/-- A number may not run into a fraction or an exponent. -/
def rejectFraction : Parser Unit := do
  if ← moreInput input then
    let byte ← peek input
    if byte = 46 || byte = 101 || byte = 69 then failWith .badMessage

def parseNumber : Parser UInt64 := do
  if ← moreInput input then
    let first ← peek input
    if !isDigit first then failWith .badMessage
    else if first = 48 then
      advance 1
      rejectDigit input
      rejectFraction input
      return 0
    else
      let value ← parseDigits input (input.length + 1) 0
      rejectFraction input
      return value
  else failWith .badMessage

/-- The part of one object iteration before the member's value. -/
def parseMemberName (members : List (List UInt8 × JsonValue)) : Parser (List UInt8) := do
  if members.length ≥ gmControlMaxObjectMembers ||
      (← get).totalMembers ≥ gmControlMaxMessageMembers then failWith .limitExceeded
  else
    let name ← parseString input
    if members.any fun member => member.1 = name then failWith .badMessage
    else
      modify fun c => { c with totalMembers := c.totalMembers + 1 }
      skipWs input
      if ← moreInput input then
        if (← peek input) ≠ 58 then failWith .badMessage
        else
          advance 1
          skipWs input
          return name
      else failWith .badMessage

/-- What follows a member or an element: `true` after `close`, `false` after a comma. -/
def parseSeparator (close : UInt8) : Parser Bool := do
  skipWs input
  if ← moreInput input then
    let byte ← peek input
    if byte = close then
      advance 1
      return true
    else if byte ≠ 44 then failWith .badMessage
    else
      advance 1
      skipWs input
      return false
  else failWith .badMessage

def parseObjectLoop (parseMember : Parser JsonValue) :
    Nat → List (List UInt8 × JsonValue) → Parser JsonValue
  | 0, _ => throw .outOfFuel
  | fuel + 1, members => do
    if ← moreInput input then
      let name ← parseMemberName input members
      let value ← parseMember
      let members := members ++ [(name, value)]
      if ← parseSeparator input 125 then return .object members
      else parseObjectLoop parseMember fuel members
    else failWith .badMessage

/-- An empty container is closed at once; otherwise `loop` reads its contents. -/
def parseContainer (close : UInt8) (empty : JsonValue) (loop : Parser JsonValue) :
    Parser JsonValue := do
  advance 1
  skipWs input
  if ← moreInput input then
    if (← peek input) = close then
      advance 1
      return empty
    else loop
  else loop

def parseObject (parseMember : Parser JsonValue) : Parser JsonValue :=
  parseContainer input 125 (.object [])
    (parseObjectLoop input parseMember (input.length + 1) [])

def parseArrayLoop (parseElement : Parser JsonValue) :
    Nat → List JsonValue → Parser JsonValue
  | 0, _ => throw .outOfFuel
  | fuel + 1, elements => do
    if ← moreInput input then
      if elements.length ≥ gmControlMaxArrayElements then failWith .limitExceeded
      else
        let value ← parseElement
        let elements := elements ++ [value]
        if ← parseSeparator input 93 then return .array elements
        else parseArrayLoop parseElement fuel elements
    else failWith .badMessage

def parseArray (parseElement : Parser JsonValue) : Parser JsonValue :=
  parseContainer input 93 (.array [])
    (parseArrayLoop input parseElement (input.length + 1) [])

/-- `fuel` counts the nested calls still allowed; seventeen are always enough. -/
def parseValue : Nat → Nat → Parser JsonValue
  | 0, _ => throw .outOfFuel
  | fuel + 1, depth => do
    if depth > gmControlMaxDepth then failWith .limitExceeded
    else if ← moreInput input then
      let value ← peek input
      if value = 123 then parseObject input (parseValue fuel (depth + 1))
      else if value = 91 then parseArray input (parseValue fuel (depth + 1))
      else if value = 34 then return .string (← parseString input)
      else if isDigit value then return .number (← parseNumber input)
      else if ← matchLiteral input (ascii "true") then return .boolean true
      else if ← matchLiteral input (ascii "false") then return .boolean false
      else failWith .badMessage
    else failWith .badMessage

def parse : Parser JsonValue := do
  skipWs input
  let out ← parseValue input (gmControlMaxDepth + 1) 1
  skipWs input
  if (← get).position = input.length then return out
  else failWith .badMessage

end Input

def isValidUtf8 : List UInt8 → Bool
  | [] => true
  | first :: rest =>
    if first ≤ 0x7f then isValidUtf8 rest
    else if 0xc2 ≤ first && first ≤ 0xdf then
      match rest with
      | second :: rest => second &&& 0xc0 = 0x80 && isValidUtf8 rest
      | _ => false
    else if 0xe0 ≤ first && first ≤ 0xef then
      match rest with
      | second :: third :: rest =>
        second &&& 0xc0 = 0x80 && third &&& 0xc0 = 0x80 &&
          !((first = 0xe0 && second < 0xa0) || (first = 0xed && second ≥ 0xa0)) &&
          isValidUtf8 rest
      | _ => false
    else if 0xf0 ≤ first && first ≤ 0xf4 then
      match rest with
      | second :: third :: fourth :: rest =>
        second &&& 0xc0 = 0x80 && third &&& 0xc0 = 0x80 && fourth &&& 0xc0 = 0x80 &&
          !((first = 0xf0 && second < 0x90) || (first = 0xf4 && second > 0x8f)) &&
          isValidUtf8 rest
      | _ => false
    else false

end GhostMedia.Json
