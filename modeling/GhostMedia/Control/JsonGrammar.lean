import GhostMedia.Control.JsonParser
import GhostMedia.Foundation.Decimal

/- The control-channel JSON grammar, stated on texts and trees without reference to
   the parser. A value relation takes the relation of the values one level deeper,
   so that `NestedValue n` holds the values of at most `n` levels. -/
namespace GhostMedia.Json

def Blank (text : List UInt8) : Prop := ∀ b ∈ text, b ∈ ([0x20, 0x09, 0x0a, 0x0d] : List UInt8)

/-- The escapes of one letter, with the byte each stands for. -/
def shortEscapes : List (UInt8 × UInt8) :=
  [(34, 34), (92, 92), (47, 47), (98, 8), (102, 12), (110, 10), (114, 13), (116, 9)]

def HexDigit (b : UInt8) (d : Nat) : Prop :=
  d < 10 ∧ b.toNat = 48 + d ∨ 10 ≤ d ∧ d < 16 ∧ (b.toNat = 87 + d ∨ b.toNat = 55 + d)

inductive HexUnit : List UInt8 → Nat → Prop
  | four {b₃ b₂ b₁ b₀ : UInt8} {d₃ d₂ d₁ d₀ : Nat} (third : HexDigit b₃ d₃)
      (second : HexDigit b₂ d₂) (first : HexDigit b₁ d₁) (zeroth : HexDigit b₀ d₀) :
      HexUnit [b₃, b₂, b₁, b₀] (((d₃ * 16 + d₂) * 16 + d₁) * 16 + d₀)

/-- The text after a backslash and the bytes it denotes. A character is never a
    surrogate, so a lone surrogate has no escape. -/
inductive EscapeText : List UInt8 → List UInt8 → Prop
  | short {e b : UInt8} (known : (e, b) ∈ shortEscapes) : EscapeText [e] [b]
  | unit {digits : List UInt8} {c : Char} (unit : HexUnit digits c.toNat) :
      EscapeText (117 :: digits) (String.utf8EncodeChar c)
  | pair {first second : List UInt8} {high low : Nat} {c : Char}
      (firstUnit : HexUnit first high) (isHigh : 0xd800 ≤ high ∧ high ≤ 0xdbff)
      (secondUnit : HexUnit second low) (isLow : 0xdc00 ≤ low ∧ low ≤ 0xdfff)
      (point : c.toNat = 0x10000 + (high - 0xd800) * 0x400 + (low - 0xdc00)) :
      EscapeText (117 :: (first ++ 92 :: 117 :: second)) (String.utf8EncodeChar c)

/-- The text between the quotes and its decoded bytes. -/
inductive StringBody : List UInt8 → List UInt8 → Prop
  | done : StringBody [] []
  | raw {b : UInt8} {text value : List UInt8} (plain : 0x20 ≤ b ∧ b ≠ 34 ∧ b ≠ 92)
      (rest : StringBody text value) : StringBody (b :: text) (b :: value)
  | escape {escape text bytes value : List UInt8} (first : EscapeText escape bytes)
      (rest : StringBody text value) : StringBody (92 :: (escape ++ text)) (bytes ++ value)

def StringText (text value : List UInt8) : Prop :=
  ∃ body, text = 34 :: (body ++ [34]) ∧ StringBody body value ∧ value.length ≤ 4096

def NumberText (text : List UInt8) (value : UInt64) : Prop :=
  Decimal.Canonical text ∧ Decimal.value text = value.toNat

section Containers
variable {α : Type}

inductive Separated (item : List UInt8 → α → Prop) : List UInt8 → List α → Prop
  | one {text : List UInt8} {a : α} (only : item text a) : Separated item text [a]
  | more {text rest : List UInt8} {a : α} {as : List α} (first : item text a)
      (others : Separated item rest as) : Separated item (text ++ 44 :: rest) (a :: as)

inductive Enclosed (first last : UInt8) (item : List UInt8 → α → Prop) :
    List UInt8 → List α → Prop
  | empty {blank : List UInt8} (isBlank : Blank blank) :
      Enclosed first last item (first :: (blank ++ [last])) []
  | items {text : List UInt8} {as : List α} (contents : Separated item text as) :
      Enclosed first last item (first :: (text ++ [last])) as

end Containers

/-- Whitespace may surround a member's name and its value. -/
def MemberText (inner : List UInt8 → JsonValue → Prop) (text : List UInt8)
    (member : List UInt8 × JsonValue) : Prop :=
  ∃ w₁ name w₂ w₃ value w₄, text = w₁ ++ name ++ w₂ ++ 58 :: (w₃ ++ value ++ w₄) ∧
    Blank w₁ ∧ Blank w₂ ∧ Blank w₃ ∧ Blank w₄ ∧
    StringText name member.1 ∧ inner value member.2

def ElementText (inner : List UInt8 → JsonValue → Prop) (text : List UInt8)
    (element : JsonValue) : Prop :=
  ∃ w₁ value w₂, text = w₁ ++ value ++ w₂ ∧ Blank w₁ ∧ Blank w₂ ∧ inner value element

inductive ValueText (inner : List UInt8 → JsonValue → Prop) : List UInt8 → JsonValue → Prop
  | object {text : List UInt8} {members : List (List UInt8 × JsonValue)}
      (contents : Enclosed 123 125 (MemberText inner) text members)
      (distinct : (members.map Prod.fst).Nodup) (few : members.length ≤ 32) :
      ValueText inner text (.object members)
  | array {text : List UInt8} {elements : List JsonValue}
      (contents : Enclosed 91 93 (ElementText inner) text elements)
      (few : elements.length ≤ 8) : ValueText inner text (.array elements)
  | string {text value : List UInt8} (string : StringText text value) :
      ValueText inner text (.string value)
  | number {text : List UInt8} {value : UInt64} (number : NumberText text value) :
      ValueText inner text (.number value)
  | true : ValueText inner (ascii "true") (.boolean Bool.true)
  | false : ValueText inner (ascii "false") (.boolean Bool.false)

/-- A value of at most so many levels, a scalar counting as one. -/
def NestedValue : Nat → List UInt8 → JsonValue → Prop
  | 0 => fun _ _ => False
  | levels + 1 => ValueText (NestedValue levels)

mutual
/-- The members of all objects in a value. -/
def memberCount : JsonValue → Nat
  | .object members => membersCount members
  | .array elements => elementsCount elements
  | _ => 0

def membersCount : List (List UInt8 × JsonValue) → Nat
  | [] => 0
  | (_, value) :: rest => 1 + memberCount value + membersCount rest

def elementsCount : List JsonValue → Nat
  | [] => 0
  | value :: rest => memberCount value + elementsCount rest
end

/-- A whole text: one value of at most sixteen levels and sixty-four members. -/
def DocumentText (text : List UInt8) (root : JsonValue) : Prop :=
  memberCount root ≤ 64 ∧
    ∃ w₁ value w₂, text = w₁ ++ value ++ w₂ ∧ Blank w₁ ∧ Blank w₂ ∧ NestedValue 16 value root

theorem blank_nil : Blank [] := by
  intro b member
  cases member

end GhostMedia.Json
