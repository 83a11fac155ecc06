import GhostMedia.Control.JsonContainers
import GhostMedia.Control.JsonNumbers

/- `parse_value` against the nested grammar: seventeen calls suffice for sixteen
   levels. The induction is on the levels still allowed below the current depth. -/
namespace GhostMedia.Json
open StateLogic

section Values
variable {input rest : List UInt8} {t : Nat} {inner : List UInt8 → JsonValue → Prop}
  {parseInner : Parser JsonValue}

theorem parse_object_sound (reads : ReadsValue input inner parseInner)
    (suffix : 123 :: rest <:+ input) (room : t ≤ 64) :
    Meets IsStatus (ValueRead input (123 :: rest) t (ValueText inner))
      (parseObject input parseInner (cursorAt input (123 :: rest) t)) := by
  refine parse_container_meets suffix ?_ ?_
  · rintro w rest' rfl blank
    exact ⟨123 :: (w ++ [125]), rest', by simp, .object (.empty blank) (by simp) (by simp), room,
      rfl⟩
  · rintro w rest' rfl blank
    have after := suffix_append (suffix_tail suffix)
    refine meets_mono (object_loop_sound reads after [] (by simp) _
      (Nat.lt_succ_of_le after.length_le)) ?_
    rintro v c ⟨text, rest'', members, rfl, rfl, separated, distinct, few, count, rfl⟩
    exact ⟨123 :: (w ++ text ++ [125]), rest'', by simp,
      .object (.items (separated w blank)) distinct few, count, rfl⟩

theorem parse_array_sound (reads : ReadsValue input inner parseInner)
    (suffix : 91 :: rest <:+ input) (room : t ≤ 64) :
    Meets IsStatus (ValueRead input (91 :: rest) t (ValueText inner))
      (parseArray input parseInner (cursorAt input (91 :: rest) t)) := by
  refine parse_container_meets suffix ?_ ?_
  · rintro w rest' rfl blank
    exact ⟨91 :: (w ++ [93]), rest', by simp, .array (.empty blank) (by simp), room, rfl⟩
  · rintro w rest' rfl blank
    have after := suffix_append (suffix_tail suffix)
    refine meets_mono (array_loop_sound reads after [] room _
      (Nat.lt_succ_of_le after.length_le)) ?_
    rintro v c ⟨text, rest'', elements, rfl, rfl, separated, few, count, rfl⟩
    exact ⟨91 :: (w ++ text ++ [93]), rest'', by simp,
      .array (.items (separated w blank)) few, count, rfl⟩

/-- The two literals are tried last. -/
theorem parse_literal_sound (suffix : rest <:+ input) (room : t ≤ 64) :
    Meets IsStatus (ValueRead input rest t (ValueText inner))
      ((do
        if ← matchLiteral input (ascii "true") then return .boolean true
        else if ← matchLiteral input (ascii "false") then return .boolean false
        else failWith .badMessage : Parser JsonValue) (cursorAt input rest t)) := by
  have first := match_literal_run (t := t) suffix (ascii "true")
  have second := match_literal_run (t := t) suffix (ascii "false")
  by_cases isTrue : ascii "true" <+: rest
  · rw [if_pos isTrue] at first
    rw [bind_ok first]
    obtain ⟨tail, rfl⟩ := isTrue
    exact ⟨ascii "true", tail, rfl, .true, room, by rw [List.drop_left]; rfl⟩
  · rw [if_neg isTrue] at first
    rw [bind_ok first, if_neg (by simp)]
    by_cases isFalse : ascii "false" <+: rest
    · rw [if_pos isFalse] at second
      rw [bind_ok second]
      obtain ⟨tail, rfl⟩ := isFalse
      exact ⟨ascii "false", tail, rfl, .false, room, by rw [List.drop_left]; rfl⟩
    · rw [if_neg isFalse] at second
      rw [bind_ok second]
      exact fail_meets (by decide)

theorem parse_value_sound (levels depth : Nat) (sum : depth + levels = 17) :
    ReadsValue input (NestedValue levels) (parseValue input (levels + 1) depth) := by
  induction levels generalizing depth with
  | zero =>
    intro rest t suffix room
    rw [parseValue, if_pos (by simp only [gmControlMaxDepth]; omega)]
    exact fail_meets (by decide)
  | succ levels ih =>
    intro rest t suffix room
    rw [parseValue, if_neg (by simp only [gmControlMaxDepth]; omega)]
    match rest with
    | [] =>
      rw [bind_ok more_input_end]
      exact fail_meets (by decide)
    | b :: tail =>
      rw [bind_ok (more_input_cons suffix), if_pos rfl, bind_ok (peek_cons suffix)]
      have reads := ih (depth + 1) (by omega)
      split
      · rename_i object
        subst object
        exact parse_object_sound reads suffix room
      split
      · rename_i array
        subst array
        exact parse_array_sound reads suffix room
      split
      · refine meets_bind (parse_string_sound suffix) ?_
        rintro value c ⟨text, rest', split, string, rfl⟩
        exact ⟨text, rest', split, .string string, room, rfl⟩
      split
      · refine meets_bind (parse_number_sound suffix) ?_
        rintro value c ⟨text, rest', split, number, rfl⟩
        exact ⟨text, rest', split, .number number, room, rfl⟩
      · exact parse_literal_sound suffix room

theorem enclosed_starts {α : Type} {first last : UInt8} {item : List UInt8 → α → Prop}
    {text : List UInt8} {as : List α} (enclosed : Enclosed first last item text as)
    (black : isJsonWhitespace first = false) (other : first ≠ 93 ∧ first ≠ 125) :
    Starts text := by
  cases enclosed with
  | empty => exact ⟨first, _, rfl, black, other⟩
  | items => exact ⟨first, _, rfl, black, other⟩

theorem digit_not_special {b : UInt8} (digit : Decimal.IsDigit b) :
    isJsonWhitespace b = false ∧ b ≠ 93 ∧ b ≠ 125 ∧ b ≠ 123 ∧ b ≠ 91 ∧ b ≠ 34 := by
  obtain ⟨low, high⟩ := digit
  simp only [isJsonWhitespace, Bool.or_eq_false_iff, decide_eq_false_iff_not, ne_eq,
    ← UInt8.toNat_inj, UInt8.reduceToNat]
  omega

theorem number_text_cons {text : List UInt8} {value : UInt64} (number : NumberText text value) :
    ∃ b tail, text = b :: tail ∧ Decimal.IsDigit b := by
  obtain ⟨canonical, _⟩ := number
  match text with
  | [] => exact absurd rfl canonical.nonempty
  | b :: tail => exact ⟨b, tail, rfl, canonical.digits b (by simp)⟩

theorem value_text_starts {text : List UInt8} {v : JsonValue} (value : ValueText inner text v) :
    Starts text := by
  cases value with
  | object contents => exact enclosed_starts contents (by decide) (by decide)
  | array contents => exact enclosed_starts contents (by decide) (by decide)
  | string string => exact string_text_starts string
  | number number =>
    obtain ⟨b, tail, rfl, digit⟩ := number_text_cons number
    have special := digit_not_special digit
    exact ⟨b, tail, rfl, special.1, special.2.1, special.2.2.1⟩
  | true => exact ⟨116, _, rfl, by decide, by decide, by decide⟩
  | false => exact ⟨102, _, rfl, by decide, by decide, by decide⟩

theorem nested_value_starts (levels : Nat) (text : List UInt8) (v : JsonValue)
    (value : NestedValue levels text v) : Starts text := by
  cases levels with
  | zero => cases value
  | succ levels => exact value_text_starts value

theorem delimited_ended (delimited : Delimited rest) : Ended rest := by
  intro b member
  have ends := delimited b member
  simp only [isJsonWhitespace, isDigit, Bool.or_eq_true, decide_eq_true_eq, Bool.and_eq_false_iff,
    decide_eq_false_iff_not, UInt8.le_iff_toNat_le, ne_eq, ← UInt8.toNat_inj,
    UInt8.reduceToNat] at ends ⊢
  omega

theorem parse_object_complete (accepts : AcceptsValue input inner parseInner)
    (begins : ∀ text v, inner text v → Starts text) {text : List UInt8}
    {members : List (List UInt8 × JsonValue)}
    (contents : Enclosed 123 125 (MemberText inner) text members)
    (distinct : (members.map Prod.fst).Nodup) (few : members.length ≤ 32)
    (room : t + membersCount members ≤ 64) (suffix : text ++ rest <:+ input) :
    parseObject input parseInner (cursorAt input (text ++ rest) t) =
      .ok (.object members) (cursorAt input rest (t + membersCount members)) := by
  cases contents with
  | empty blank =>
    simp only [List.cons_append, List.append_assoc, List.nil_append] at suffix ⊢
    exact parse_container_empty blank (by decide) suffix
  | @items text _ separated =>
    simp only [List.cons_append, List.append_assoc, List.nil_append] at suffix ⊢
    have fits := suffix.length_le
    simp only [List.length_cons, List.length_append] at fits
    obtain ⟨lead, body, rfl, blank, ⟨b, tail, rfl, black, _, other⟩, run⟩ :=
      object_loop_complete accepts begins separated [] (by simpa using distinct)
        (by simpa using few) room (suffix_tail suffix) (input.length + 1) (by omega)
    simp only [List.append_assoc, List.cons_append] at suffix run ⊢
    exact (parse_container_items blank black other suffix).trans run

theorem parse_array_complete (accepts : AcceptsValue input inner parseInner)
    (begins : ∀ text v, inner text v → Starts text) {text : List UInt8}
    {elements : List JsonValue} (contents : Enclosed 91 93 (ElementText inner) text elements)
    (few : elements.length ≤ 8) (room : t + elementsCount elements ≤ 64)
    (suffix : text ++ rest <:+ input) :
    parseArray input parseInner (cursorAt input (text ++ rest) t) =
      .ok (.array elements) (cursorAt input rest (t + elementsCount elements)) := by
  cases contents with
  | empty blank =>
    simp only [List.cons_append, List.append_assoc, List.nil_append] at suffix ⊢
    exact parse_container_empty blank (by decide) suffix
  | @items text _ separated =>
    simp only [List.cons_append, List.append_assoc, List.nil_append] at suffix ⊢
    have fits := suffix.length_le
    simp only [List.length_cons, List.length_append] at fits
    obtain ⟨lead, body, rfl, blank, ⟨b, tail, rfl, black, other, _⟩, run⟩ :=
      array_loop_complete accepts begins separated [] (by simpa using few) room
        (suffix_tail suffix) (input.length + 1) (by omega)
    simp only [List.append_assoc, List.cons_append] at suffix run ⊢
    exact (parse_container_items blank black other suffix).trans run

theorem parse_value_complete (levels depth : Nat) (sum : depth + levels = 17) :
    AcceptsValue input (NestedValue levels) (parseValue input (levels + 1) depth) := by
  induction levels generalizing depth with
  | zero =>
    intro text v rest t value
    cases value
  | succ levels ih =>
    intro text v rest t value delimited suffix room
    have accepts := ih (depth + 1) (by omega)
    obtain ⟨b, tail, shape, _⟩ := value_text_starts value
    have here : parseValue input (levels + 1 + 1) depth (cursorAt input (text ++ rest) t) =
        (if b = 123 then parseObject input (parseValue input (levels + 1) (depth + 1))
        else if b = 91 then parseArray input (parseValue input (levels + 1) (depth + 1))
        else if b = 34 then do return .string (← parseString input)
        else if isDigit b then do return .number (← parseNumber input)
        else do
          if ← matchLiteral input (ascii "true") then return .boolean true
          else if ← matchLiteral input (ascii "false") then return .boolean false
          else failWith .badMessage) (cursorAt input (text ++ rest) t) := by
      rw [shape, List.cons_append] at suffix ⊢
      rw [parseValue, if_neg (by simp only [gmControlMaxDepth]; omega),
        bind_ok (more_input_cons suffix), if_pos rfl, bind_ok (peek_cons suffix)]
    rw [here]
    cases value with
    | object contents distinct few =>
      obtain rfl : b = 123 := by cases contents <;> exact (List.cons.inj shape).1.symm
      exact parse_object_complete accepts (nested_value_starts levels) contents distinct few room
        suffix
    | array contents few =>
      obtain rfl : b = 91 := by cases contents <;> exact (List.cons.inj shape).1.symm
      exact parse_array_complete accepts (nested_value_starts levels) contents few room suffix
    | string string =>
      obtain rfl : b = 34 := by
        obtain ⟨body, rfl, _⟩ := string
        exact (List.cons.inj shape).1.symm
      exact bind_ok (parse_string_complete string suffix)
    | number number =>
      obtain ⟨d, rest', shape', digit⟩ := number_text_cons number
      obtain rfl : b = d := (List.cons.inj (shape.symm.trans shape')).1
      obtain ⟨_, _, _, object, array, string⟩ := digit_not_special digit
      rw [if_neg object, if_neg array, if_neg string, if_pos ((digit_iff b).mpr digit)]
      exact bind_ok (parse_number_complete number (delimited_ended delimited) suffix)
    | true =>
      obtain rfl : b = 116 := (List.cons.inj shape).1.symm
      have run := match_literal_run (t := t) suffix (ascii "true")
      rw [if_pos (List.prefix_append _ _), List.drop_left] at run
      exact bind_ok run
    | false =>
      obtain rfl : b = 102 := (List.cons.inj shape).1.symm
      have other := match_literal_run (t := t) suffix (ascii "true")
      have differ : ¬ ascii "true" <+: ascii "false" ++ rest := by
        rintro ⟨tail, same⟩
        exact absurd (List.cons.inj (show (116 : UInt8) :: _ = 102 :: _ from same)).1 (by decide)
      rw [if_neg differ] at other
      have run := match_literal_run (t := t) suffix (ascii "false")
      rw [if_pos (List.prefix_append _ _), List.drop_left] at run
      exact (bind_ok other).trans (bind_ok run)

end Values

end GhostMedia.Json
