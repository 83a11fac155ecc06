import GhostMedia.Control.JsonAcceptance

/- Texts without blanks: an object written as its members between commas denotes the
   object of these members. -/
namespace GhostMedia.Json
open CString

/-- The text of a member whose name needs no escape. -/
def memberBytes (name value : List UInt8) : List UInt8 := 34 :: (name ++ 34 :: 58 :: value)

def commaBytes : List (List UInt8) → List UInt8
  | [] => []
  | [text] => text
  | text :: next :: texts => text ++ 44 :: commaBytes (next :: texts)

def objectBytes (texts : List (List UInt8)) : List UInt8 := 123 :: (commaBytes texts ++ [125])

/-- A byte that stands for itself between quotes. -/
def Plain (b : UInt8) : Prop := 0x20 ≤ b ∧ b ≠ 34 ∧ b ≠ 92

instance (b : UInt8) : Decidable (Plain b) := inferInstanceAs (Decidable (_ ∧ _))

def PlainText (text : List UInt8) : Prop := ∀ b ∈ text, Plain b

instance (text : List UInt8) : Decidable (PlainText text) := List.decidableBAll Plain text

theorem plain_body {text : List UInt8} (plain : PlainText text) : StringBody text text := by
  induction text with
  | nil => exact .done
  | cons b rest ih =>
    rw [PlainText, List.forall_mem_cons] at plain
    exact .raw plain.1 (ih plain.2)

theorem quoted_text {body value : List UInt8} (written : StringBody body value)
    (short : value.length ≤ 4096) : StringText (34 :: (body ++ [34])) value :=
  ⟨body, rfl, written, short⟩

theorem plain_text {text : List UInt8} (plain : PlainText text)
    (short : text.length ≤ 4096) : StringText (34 :: (text ++ [34])) text :=
  quoted_text (plain_body plain) short

theorem number_text (value : UInt64) : NumberText (Decimal.render value.toNat) value :=
  ⟨Decimal.render_canonical value.toNat, Decimal.render_value value.toNat⟩

section Containers
variable {inner : List UInt8 → JsonValue → Prop}

theorem member_text {name text : List UInt8} {value : JsonValue} (plain : PlainText name)
    (short : name.length ≤ 4096) (shape : inner text value) :
    MemberText inner (memberBytes name text) (name, value) := by
  refine ⟨[], 34 :: (name ++ [34]), [], [], text, [], ?_, blank_nil, blank_nil, blank_nil,
    blank_nil, plain_text plain short, shape⟩
  simp [memberBytes]

theorem comma_separated {α : Type} {item : List UInt8 → α → Prop} {texts : List (List UInt8)}
    {as : List α} (each : List.Forall₂ item texts as) (nonempty : as ≠ []) :
    Separated item (commaBytes texts) as := by
  induction each with
  | nil => exact absurd rfl nonempty
  | @cons text a texts as first later ih =>
    cases later with
    | nil => exact .one first
    | cons next later => exact .more first (ih (List.cons_ne_nil _ _))

theorem object_text {texts : List (List UInt8)} {members : List (List UInt8 × JsonValue)}
    (each : List.Forall₂ (MemberText inner) texts members) (nonempty : members ≠ [])
    (distinct : (members.map Prod.fst).Nodup) (few : members.length ≤ 32) :
    ValueText inner (objectBytes texts) (.object members) :=
  .object (.items (comma_separated each nonempty)) distinct few

theorem single_text {text : List UInt8} {element : JsonValue} (shape : inner text element) :
    ValueText inner (91 :: (text ++ [93])) (.array [element]) :=
  .array (.items (.one ⟨[], text, [], by simp, blank_nil, blank_nil, shape⟩)) (by simp)

end Containers

/-- An object of few members whose text is short and valid is accepted. -/
theorem object_acceptable {texts : List (List UInt8)} {members : List (List UInt8 × JsonValue)}
    (each : List.Forall₂ (MemberText (NestedValue 15)) texts members) (nonempty : members ≠ [])
    (distinct : (members.map Prod.fst).Nodup) (few : membersCount members ≤ 64)
    (flat : members.length ≤ 32) (short : (objectBytes texts).length ≤ 8192)
    (utf8 : Utf8.Valid (objectBytes texts)) : Acceptable (objectBytes texts) (.object members) where
  long := by
    simp only [objectBytes, List.length_cons, List.length_append, List.length_nil]
    omega
  short := short.trans (by decide)
  utf8 := utf8
  document := ⟨few, [], _, [], by simp, blank_nil, blank_nil,
    object_text each nonempty distinct flat⟩
  object := ⟨members, rfl, .inl short⟩

end GhostMedia.Json
