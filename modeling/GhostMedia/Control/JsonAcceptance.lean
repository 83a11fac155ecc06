import GhostMedia.Control.JsonText
import GhostMedia.Control.JsonValues

/- The texts that `gm_control_validate_json_text` accepts are exactly the texts of
   the grammar within the size limits, and the tree it builds is the one they
   denote. -/
namespace GhostMedia.Json
open StateLogic

theorem parse_sound (input : List UInt8) :
    Meets IsStatus (fun root _ => DocumentText input root) (parse input ⟨0, 0⟩) := by
  rw [start_cursor input 0, parse]
  refine meets_bind (skip_ws_sound (List.suffix_refl input)) ?_
  rintro _ c ⟨w₁, rest, split, blank₁, rfl⟩
  have suffix : rest <:+ input := ⟨w₁, split.symm⟩
  refine meets_bind (parse_value_sound 16 1 rfl rest 0 suffix (by decide)) ?_
  rintro root c ⟨text, rest', rfl, value, count, rfl⟩
  refine meets_bind (skip_ws_sound (suffix_append suffix)) ?_
  rintro _ c ⟨w₂, rest, rfl, blank₂, rfl⟩
  have whole := congrArg List.length split
  simp only [List.length_append] at whole
  have here : (get : Parser Cursor) (cursorAt input rest (0 + memberCount root)) = .ok _ _ := rfl
  rw [bind_ok here, cursor_at_position]
  split
  · obtain rfl : rest = [] := List.eq_nil_of_length_eq_zero (by omega)
    exact ⟨by omega, w₁, text, w₂, by simpa using split, blank₁, blank₂, value⟩
  · exact fail_meets (by decide)

theorem parse_complete {input : List UInt8} {root : JsonValue}
    (document : DocumentText input root) :
    parse input ⟨0, 0⟩ = .ok root (cursorAt input [] (memberCount root)) := by
  obtain ⟨count, w₁, text, w₂, split, blank₁, blank₂, value⟩ := document
  rw [List.append_assoc] at split
  have suffix : w₁ ++ (text ++ w₂) <:+ input := split ▸ List.suffix_refl _
  have start : (⟨0, 0⟩ : Cursor) = cursorAt input (w₁ ++ (text ++ w₂)) 0 := by
    rw [← split]
    exact start_cursor input 0
  have first := skip_ws_complete (t := 0) blank₁
    (starts_settled (nested_value_starts 16 text root value) w₂) suffix
  have delimited : Delimited w₂ := by
    intro b member
    exact .inl ((whitespace_iff b).mpr (blank₂ b (List.mem_of_mem_head? member)))
  have middle := parse_value_complete 16 1 rfl text root w₂ 0 value delimited
    (suffix_append suffix) (by omega)
  have last := skip_ws_complete (t := 0 + memberCount root) blank₂ settled_nil
    (show w₂ ++ [] <:+ input by simpa using suffix_append (suffix_append suffix))
  have here : (get : Parser Cursor) (cursorAt input [] (0 + memberCount root)) = .ok _ _ := rfl
  rw [List.append_nil] at last
  rw [parse, start, bind_ok first]
  refine (bind_ok middle).trans ?_
  rw [bind_ok last, bind_ok here, if_pos (by simp), Nat.zero_add]
  rfl

/-- The texts a version 1 peer may send, each with the tree it denotes. -/
structure Acceptable (text : List UInt8) (root : JsonValue) : Prop where
  long : 2 ≤ text.length
  short : text.length ≤ 12288
  utf8 : Utf8.Valid text
  document : DocumentText text root
  object : ∃ members, root = .object members ∧ (text.length ≤ 8192 ∨
    (ascii "type", .string (ascii "session.hello")) ∈ members)

theorem document_distinct {text : List UInt8} {members : List (List UInt8 × JsonValue)}
    (document : DocumentText text (.object members)) : (members.map Prod.fst).Nodup := by
  obtain ⟨_, _, _, _, _, _, _, value⟩ := document
  cases value with
  | object _ distinct => exact distinct

theorem find_member_iff {members : List (List UInt8 × JsonValue)}
    (distinct : (members.map Prod.fst).Nodup) (name : List UInt8) (value : JsonValue) :
    findMember (.object members) name = some value ↔ (name, value) ∈ members := by
  induction members with
  | nil => simp [findMember]
  | cons member rest ih =>
    obtain ⟨first, v⟩ := member
    rw [List.map_cons, List.nodup_cons] at distinct
    by_cases same : first = name
    · subst same
      have other : (first, value) ∉ rest := by
        intro later
        exact distinct.1 (List.mem_map.mpr ⟨_, later, rfl⟩)
      simp [findMember, other, eq_comm]
    · have step := ih distinct.2
      simp only [findMember] at step
      simp [findMember, same, step, Ne.symm same]

theorem is_hello_iff {members : List (List UInt8 × JsonValue)}
    (distinct : (members.map Prod.fst).Nodup) :
    isHello (.object members) = true ↔
      (ascii "type", .string (ascii "session.hello")) ∈ members := by
  rw [← find_member_iff distinct, isHello]
  split
  · rename_i value found
    simp [found]
  · rename_i other
    simp only [Bool.false_eq_true, false_iff]
    exact fun found => other _ found

theorem document_no_mark {text : List UInt8} {members : List (List UInt8 × JsonValue)}
    (document : DocumentText text (.object members)) : hasByteOrderMark text = false := by
  obtain ⟨_, w₁, body, w₂, rfl, blank₁, _, value⟩ := document
  have first : ∃ c rest, w₁ ++ body ++ w₂ = c :: rest ∧ c ≠ 0xef := by
    cases w₁ with
    | nil =>
      cases value with
      | object contents => cases contents <;> exact ⟨123, _, rfl, by decide⟩
    | cons c w₁ =>
      refine ⟨c, _, rfl, ?_⟩
      rintro rfl
      exact absurd (blank₁ 0xef (by simp)) (by decide)
  obtain ⟨c, rest, shape, other⟩ := first
  rw [shape, hasByteOrderMark]
  intro tail same
  exact other (List.cons.inj same).1

theorem parse_json_view (text : List UInt8) :
    parseJson (.view text) =
      if text.length < 2 then .error .badMessage
      else if text.length > 12288 then .error .limitExceeded
      else if hasByteOrderMark text then .error .badMessage
      else if !isValidUtf8 text then .error .badMessage
      else
        match parse text ⟨0, 0⟩ with
        | .ok root _ => if isObject root then .ok root else .error .badMessage
        | .error (.status status) _ => .error status
        | .error .outOfBounds _ => .error .internal
        | .error .outOfFuel _ => .error .internal := rfl

/-- A text is refused with an error status, or it is a document of the grammar. -/
theorem parse_json_outcome (text : List UInt8) :
    (∃ status, Refusal status ∧ parseJson (.view text) = .error status) ∨
    ∃ members, parseJson (.view text) = .ok (.object members) ∧ 2 ≤ text.length ∧
      text.length ≤ 12288 ∧ Utf8.Valid text ∧ DocumentText text (.object members) := by
  have sound := parse_sound text
  rw [parse_json_view]
  by_cases long : text.length < 2
  · rw [if_pos long]
    exact .inl ⟨_, by decide, rfl⟩
  by_cases short : text.length > 12288
  · rw [if_neg long, if_pos short]
    exact .inl ⟨_, by decide, rfl⟩
  by_cases mark : hasByteOrderMark text = true
  · rw [if_neg long, if_neg short, if_pos mark]
    exact .inl ⟨_, by decide, rfl⟩
  by_cases invalid : (!isValidUtf8 text) = true
  · rw [if_neg long, if_neg short, if_neg mark, if_pos invalid]
    exact .inl ⟨_, by decide, rfl⟩
  rw [if_neg long, if_neg short, if_neg mark, if_neg invalid]
  have valid : isValidUtf8 text = true := by simpa using invalid
  cases run : parse text ⟨0, 0⟩ with
  | ok root c =>
    rw [run] at sound
    cases root with
    | object members =>
      exact .inr ⟨members, rfl, by omega, by omega, (is_valid_utf8_iff text).mp valid, sound⟩
    | _ => exact .inl ⟨_, by decide, rfl⟩
  | error halt c =>
    rw [run] at sound
    cases halt with
    | status status => exact .inl ⟨status, sound, rfl⟩
    | outOfBounds => exact absurd sound id
    | outOfFuel => exact absurd sound id

theorem parse_json_sound {text : List UInt8} {root : JsonValue}
    (accepted : parseJson (.view text) = .ok root) :
    2 ≤ text.length ∧ text.length ≤ 12288 ∧ Utf8.Valid text ∧ DocumentText text root ∧
      ∃ members, root = .object members := by
  rcases parse_json_outcome text with ⟨_, _, refused⟩ | ⟨members, run, long, short, valid, document⟩
  · cases accepted.symm.trans refused
  · cases accepted.symm.trans run
    exact ⟨long, short, valid, document, members, rfl⟩

theorem parse_json_error {text : List UInt8} {status : GmStatus}
    (refused : parseJson (.view text) = .error status) : Refusal status := by
  rcases parse_json_outcome text with ⟨_, error, run⟩ | ⟨_, run, _⟩
  · cases refused.symm.trans run
    exact error
  · cases refused.symm.trans run

theorem parse_json_complete {text : List UInt8} {members : List (List UInt8 × JsonValue)}
    (long : 2 ≤ text.length) (short : text.length ≤ 12288) (valid : Utf8.Valid text)
    (document : DocumentText text (.object members)) :
    parseJson (.view text) = .ok (.object members) := by
  have noMark := document_no_mark document
  have utf8 := (is_valid_utf8_iff text).mpr valid
  have notShort : ¬ text.length < 2 := by omega
  have notLong : ¬ text.length > 12288 := by omega
  rw [parse_json_view, if_neg notShort, if_neg notLong, if_neg (by simp [noMark]),
    if_neg (by simp [utf8]), parse_complete document]
  rfl

theorem enforce_size_iff {members : List (List UInt8 × JsonValue)}
    (distinct : (members.map Prod.fst).Nodup) (text : List UInt8) :
    enforceV1MessageSize (.view text) (.object members) = .ok () ↔ text.length ≤ 8192 ∨
      (ascii "type", .string (ascii "session.hello")) ∈ members := by
  rw [← is_hello_iff distinct, enforceV1MessageSize, view_size]
  cases isHello (.object members) <;> simp

theorem enforce_size_error {jsonText : GmBytes} {root : JsonValue}
    (refused : enforceV1MessageSize jsonText root ≠ .ok ()) :
    enforceV1MessageSize jsonText root = .error .limitExceeded := by
  rw [enforceV1MessageSize] at refused ⊢
  split at refused
  · rename_i large
    rw [if_pos large]
  · exact absurd rfl refused

/-- An acceptable text validates, and is parsed to the tree it denotes. -/
theorem acceptable_iff (text : List UInt8) (root : JsonValue) : Acceptable text root ↔
    gmControlValidateJsonText (.view text) = .ok ∧ parseJson (.view text) = .ok root := by
  constructor
  · rintro ⟨long, short, valid, document, members, rfl, size⟩
    have run := parse_json_complete long short valid document
    have fits := (enforce_size_iff (document_distinct document) text).mpr size
    refine ⟨?_, run⟩
    rw [gmControlValidateJsonText, run]
    exact congrArg statusOf fits
  · rintro ⟨accepted, run⟩
    obtain ⟨long, short, valid, document, members, rfl⟩ := parse_json_sound run
    rw [gmControlValidateJsonText, run] at accepted
    have fits : enforceV1MessageSize (.view text) (.object members) = .ok () := by
      by_contra refused
      have error := enforce_size_error refused
      exact absurd (accepted.symm.trans (congrArg statusOf error)) (by decide)
    exact ⟨long, short, valid, document, members, rfl,
      (enforce_size_iff (document_distinct document) text).mp fits⟩

theorem validate_iff (text : List UInt8) :
    gmControlValidateJsonText (.view text) = .ok ↔ ∃ root, Acceptable text root := by
  refine ⟨fun accepted => ?_,
    fun ⟨root, acceptable⟩ => ((acceptable_iff text root).mp acceptable).1⟩
  cases run : parseJson (.view text) with
  | ok root => exact ⟨root, (acceptable_iff text root).mpr ⟨accepted, run⟩⟩
  | error status =>
    rw [gmControlValidateJsonText, run] at accepted
    exact absurd accepted (parse_json_error run).1

/-- `gm_control_validate_json_text` accepts exactly the texts of the grammar, and
    the tree built for an accepted text is the one it denotes. -/
theorem validate_json_text_accepts_grammar (text : List UInt8) :
    (gmControlValidateJsonText (.view text) = .ok ↔ ∃ root, Acceptable text root) ∧
    ∀ root, Acceptable text root ↔
      gmControlValidateJsonText (.view text) = .ok ∧ parseJson (.view text) = .ok root :=
  ⟨validate_iff text, acceptable_iff text⟩

end GhostMedia.Json
