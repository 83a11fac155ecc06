import GhostMedia.Control.JsonStrings

/- Objects and arrays over an arbitrary parser of the values one level deeper. The
   shared parts (member names, separators, the empty container) come first; then
   each loop is proved sound and complete once. -/
namespace GhostMedia.Json
open StateLogic

section Parts
variable {input rest : List UInt8} {b : UInt8} {t : Nat}

theorem name_taken_iff (members : List (List UInt8 × JsonValue)) (name : List UInt8) :
    (members.any fun member => member.1 = name) = true ↔ name ∈ members.map Prod.fst := by
  simp only [List.any_eq_true, decide_eq_true_eq, List.mem_map]

theorem parse_member_name_sound (suffix : rest <:+ input)
    (members : List (List UInt8 × JsonValue)) :
    Meets IsStatus
      (fun name c => ∃ text w₂ w₃ rest', rest = text ++ (w₂ ++ 58 :: (w₃ ++ rest')) ∧
        StringText text name ∧ Blank w₂ ∧ Blank w₃ ∧ members.length < 32 ∧ t < 64 ∧
        name ∉ members.map Prod.fst ∧ c = cursorAt input rest' (t + 1))
      (parseMemberName input members (cursorAt input rest t)) := by
  have here : (get : Parser Cursor) (cursorAt input rest t) = .ok _ _ := rfl
  rw [parseMemberName, bind_ok here]
  split
  · exact fail_meets (by decide)
  rename_i limits
  simp only [gmControlMaxObjectMembers, gmControlMaxMessageMembers, cursor_at_total,
    Bool.or_eq_true, decide_eq_true_eq, not_or, ge_iff_le, Nat.not_le] at limits
  refine meets_bind (parse_string_sound suffix) ?_
  rintro name c ⟨text, tail, rfl, string, rfl⟩
  split
  · exact fail_meets (by decide)
  rename_i fresh
  rw [name_taken_iff] at fresh
  have after := suffix_append suffix
  have counted : (modify fun c => { c with totalMembers := c.totalMembers + 1 } : Parser PUnit)
      (cursorAt input tail t) = .ok () (cursorAt input tail (t + 1)) := rfl
  rw [bind_ok counted]
  refine meets_bind (skip_ws_sound after) ?_
  rintro _ c ⟨w₂, tail, rfl, blank₂, rfl⟩
  have after := suffix_append after
  match tail with
  | [] =>
    rw [bind_ok more_input_end]
    exact fail_meets (by decide)
  | b :: tail =>
    rw [bind_ok (more_input_cons after), if_pos rfl, bind_ok (peek_cons after)]
    split
    · exact fail_meets (by decide)
    rename_i colon
    obtain rfl : b = 58 := by simpa using colon
    rw [bind_ok (advance_cons after)]
    refine meets_bind (skip_ws_sound (suffix_tail after)) ?_
    rintro _ c ⟨w₃, rest', rfl, blank₃, rfl⟩
    exact ⟨text, w₂, w₃, rest', rfl, string, blank₂, blank₃, limits.1, limits.2, fresh, rfl⟩

theorem parse_member_name_complete {text name w₂ w₃ : List UInt8}
    (members : List (List UInt8 × JsonValue)) (string : StringText text name)
    (blank₂ : Blank w₂) (blank₃ : Blank w₃) (settled : Settled rest)
    (few : members.length < 32) (room : t < 64) (fresh : name ∉ members.map Prod.fst)
    (suffix : text ++ (w₂ ++ 58 :: (w₃ ++ rest)) <:+ input) :
    parseMemberName input members
        (cursorAt input (text ++ (w₂ ++ 58 :: (w₃ ++ rest))) t) =
      .ok name (cursorAt input rest (t + 1)) := by
  have here : (get : Parser Cursor)
      (cursorAt input (text ++ (w₂ ++ 58 :: (w₃ ++ rest))) t) = .ok _ _ := rfl
  have after := suffix_append suffix
  have colon := suffix_append after
  have counted : (modify fun c => { c with totalMembers := c.totalMembers + 1 } : Parser PUnit)
      (cursorAt input (w₂ ++ 58 :: (w₃ ++ rest)) t) =
        .ok () (cursorAt input (w₂ ++ 58 :: (w₃ ++ rest)) (t + 1)) := rfl
  have limits : ¬ (decide (members.length ≥ gmControlMaxObjectMembers) ||
      decide ((cursorAt input (text ++ (w₂ ++ 58 :: (w₃ ++ rest))) t).totalMembers ≥
        gmControlMaxMessageMembers)) = true := by
    rw [Bool.or_eq_true]
    rintro (many | full)
    · have : 32 ≤ members.length := of_decide_eq_true many
      omega
    · have : 64 ≤ t := of_decide_eq_true full
      omega
  have untaken : ¬ (members.any fun member => member.1 = name) = true :=
    (name_taken_iff members name).not.mpr fresh
  rw [parseMemberName, bind_ok here, if_neg limits, bind_ok (parse_string_complete string suffix),
    if_neg untaken, bind_ok counted,
    bind_ok (skip_ws_complete blank₂ (settled_cons (by decide)) after),
    bind_ok (more_input_cons colon), if_pos rfl, bind_ok (peek_cons colon), if_neg (by simp),
    bind_ok (advance_cons colon),
    bind_ok (skip_ws_complete blank₃ settled (suffix_tail colon))]
  rfl

/-- What a successful separator has read: the closing byte, or a comma with the
    whitespace behind it. -/
def SeparatorRead (input rest : List UInt8) (t : Nat) (close : UInt8) (closed : Bool)
    (c : Cursor) : Prop :=
  ∃ w rest', Blank w ∧ c = cursorAt input rest' t ∧
    (closed = true ∧ rest = w ++ close :: rest' ∨
      closed = false ∧ ∃ w', Blank w' ∧ rest = w ++ 44 :: (w' ++ rest'))

theorem parse_separator_sound (close : UInt8) (suffix : rest <:+ input) :
    Meets IsStatus (SeparatorRead input rest t close)
      (parseSeparator input close (cursorAt input rest t)) := by
  rw [parseSeparator]
  refine meets_bind (skip_ws_sound suffix) ?_
  rintro _ c ⟨w, tail, rfl, blank, rfl⟩
  have after := suffix_append suffix
  match tail with
  | [] =>
    rw [bind_ok more_input_end]
    exact fail_meets (by decide)
  | b :: tail =>
    rw [bind_ok (more_input_cons after), if_pos rfl, bind_ok (peek_cons after)]
    split
    · rename_i closed
      subst closed
      rw [bind_ok (advance_cons after)]
      exact ⟨w, tail, blank, rfl, .inl ⟨rfl, rfl⟩⟩
    split
    · exact fail_meets (by decide)
    rename_i comma
    obtain rfl : b = 44 := by simpa using comma
    rw [bind_ok (advance_cons after)]
    refine meets_bind (skip_ws_sound (suffix_tail after)) ?_
    rintro _ c ⟨w', rest', rfl, blank', rfl⟩
    exact ⟨w, rest', blank, rfl, .inr ⟨rfl, w', blank', rfl⟩⟩

theorem parse_separator_close {close : UInt8} {w : List UInt8} (blank : Blank w)
    (black : isJsonWhitespace close = false) (suffix : w ++ close :: rest <:+ input) :
    parseSeparator input close (cursorAt input (w ++ close :: rest) t) =
      .ok true (cursorAt input rest t) := by
  have after := suffix_append suffix
  rw [parseSeparator, bind_ok (skip_ws_complete blank (settled_cons black) suffix),
    bind_ok (more_input_cons after), if_pos rfl, bind_ok (peek_cons after), if_pos rfl,
    bind_ok (advance_cons after)]
  rfl

theorem parse_separator_comma (close : UInt8) {w w' : List UInt8} (blank : Blank w)
    (blank' : Blank w') (other : close ≠ 44) (settled : Settled rest)
    (suffix : w ++ 44 :: (w' ++ rest) <:+ input) :
    parseSeparator input close (cursorAt input (w ++ 44 :: (w' ++ rest)) t) =
      .ok false (cursorAt input rest t) := by
  have after := suffix_append suffix
  rw [parseSeparator, bind_ok (skip_ws_complete blank (settled_cons (by decide)) suffix),
    bind_ok (more_input_cons after), if_pos rfl, bind_ok (peek_cons after),
    if_neg (Ne.symm other), if_neg (by simp), bind_ok (advance_cons after),
    bind_ok (skip_ws_complete blank' settled (suffix_tail after))]
  rfl

theorem parse_container_meets {post : JsonValue → Cursor → Prop} {first close : UInt8}
    {empty : JsonValue} {loop : Parser JsonValue} (suffix : first :: rest <:+ input)
    (nothing : ∀ w rest', rest = w ++ close :: rest' → Blank w →
      post empty (cursorAt input rest' t))
    (contents : ∀ w rest', rest = w ++ rest' → Blank w →
      Meets IsStatus post (loop (cursorAt input rest' t))) :
    Meets IsStatus post
      (parseContainer input close empty loop (cursorAt input (first :: rest) t)) := by
  rw [parseContainer, bind_ok (advance_cons suffix)]
  refine meets_bind (skip_ws_sound (suffix_tail suffix)) ?_
  rintro _ c ⟨w, tail, rfl, blank, rfl⟩
  have after := suffix_append (suffix_tail suffix)
  match tail with
  | [] =>
    rw [bind_ok more_input_end]
    exact contents w [] rfl blank
  | b :: tail =>
    rw [bind_ok (more_input_cons after), if_pos rfl, bind_ok (peek_cons after)]
    split
    · rename_i closed
      subst closed
      rw [bind_ok (advance_cons after)]
      exact nothing w tail rfl blank
    · exact contents w (b :: tail) rfl blank

theorem parse_container_empty {first close : UInt8} {empty : JsonValue}
    {loop : Parser JsonValue} {w : List UInt8} (blank : Blank w)
    (black : isJsonWhitespace close = false) (suffix : first :: (w ++ close :: rest) <:+ input) :
    parseContainer input close empty loop
        (cursorAt input (first :: (w ++ close :: rest)) t) =
      .ok empty (cursorAt input rest t) := by
  have tail := suffix_tail suffix
  have after := suffix_append tail
  rw [parseContainer, bind_ok (advance_cons suffix),
    bind_ok (skip_ws_complete blank (settled_cons black) tail),
    bind_ok (more_input_cons after), if_pos rfl, bind_ok (peek_cons after), if_pos rfl,
    bind_ok (advance_cons after)]
  rfl

theorem parse_container_items {first close : UInt8} {empty : JsonValue}
    {loop : Parser JsonValue} {w : List UInt8} (blank : Blank w)
    (black : isJsonWhitespace b = false) (other : b ≠ close)
    (suffix : first :: (w ++ b :: rest) <:+ input) :
    parseContainer input close empty loop (cursorAt input (first :: (w ++ b :: rest)) t) =
      loop (cursorAt input (b :: rest) t) := by
  have tail := suffix_tail suffix
  have after := suffix_append tail
  rw [parseContainer, bind_ok (advance_cons suffix),
    bind_ok (skip_ws_complete blank (settled_cons black) tail),
    bind_ok (more_input_cons after), if_pos rfl, bind_ok (peek_cons after), if_neg other]

end Parts

/-- What a successful value parser has read, and the members it has counted. -/
def ValueRead (input rest : List UInt8) (t : Nat) (inner : List UInt8 → JsonValue → Prop)
    (v : JsonValue) (c : Cursor) : Prop :=
  ∃ text rest', rest = text ++ rest' ∧ inner text v ∧ t + memberCount v ≤ 64 ∧
    c = cursorAt input rest' (t + memberCount v)

def ReadsValue (input : List UInt8) (inner : List UInt8 → JsonValue → Prop)
    (p : Parser JsonValue) : Prop :=
  ∀ rest t, rest <:+ input → t ≤ 64 →
    Meets IsStatus (ValueRead input rest t inner) (p (cursorAt input rest t))

/-- The text ahead may follow a value. -/
def Delimited (rest : List UInt8) : Prop :=
  ∀ b ∈ rest.head?, isJsonWhitespace b = true ∨ b = 44 ∨ b = 93 ∨ b = 125

def AcceptsValue (input : List UInt8) (inner : List UInt8 → JsonValue → Prop)
    (p : Parser JsonValue) : Prop :=
  ∀ text v rest t, inner text v → Delimited rest → text ++ rest <:+ input →
    t + memberCount v ≤ 64 →
    p (cursorAt input (text ++ rest) t) =
      .ok v (cursorAt input rest (t + memberCount v))

/-- A text whose first byte is neither whitespace nor a closing byte. -/
def Starts (text : List UInt8) : Prop :=
  ∃ b tail, text = b :: tail ∧ isJsonWhitespace b = false ∧ b ≠ 93 ∧ b ≠ 125

theorem starts_settled {text : List UInt8} (starts : Starts text) (rest : List UInt8) :
    Settled (text ++ rest) := by
  obtain ⟨b, tail, rfl, black, _⟩ := starts
  exact settled_cons black

theorem delimited_blank {w : List UInt8} (blank : Blank w) {b : UInt8} {rest : List UInt8}
    (delimiter : b = 44 ∨ b = 93 ∨ b = 125) : Delimited (w ++ b :: rest) := by
  intro c member
  cases w with
  | nil =>
    obtain rfl : b = c := by simpa using member
    exact .inr delimiter
  | cons d w =>
    obtain rfl : d = c := by simpa using member
    exact .inl ((whitespace_iff d).mpr (blank d (by simp)))

section Objects
variable {input rest : List UInt8} {t : Nat} {inner : List UInt8 → JsonValue → Prop}
  {parseMember : Parser JsonValue}

/-- What the object loop has read behind the members it was given. -/
def MembersRead (input rest : List UInt8) (t : Nat) (inner : List UInt8 → JsonValue → Prop)
    (members : List (List UInt8 × JsonValue)) (v : JsonValue) (c : Cursor) : Prop :=
  ∃ text rest' more, rest = text ++ 125 :: rest' ∧ v = .object (members ++ more) ∧
    (∀ lead, Blank lead → Separated (MemberText inner) (lead ++ text) more) ∧
    ((members ++ more).map Prod.fst).Nodup ∧ (members ++ more).length ≤ 32 ∧
    t + membersCount more ≤ 64 ∧ c = cursorAt input rest' (t + membersCount more)

theorem object_loop_sound (reads : ReadsValue input inner parseMember)
    (suffix : rest <:+ input) (members : List (List UInt8 × JsonValue))
    (distinct : (members.map Prod.fst).Nodup) (fuel : Nat) (enough : rest.length < fuel) :
    Meets IsStatus (MembersRead input rest t inner members)
      (parseObjectLoop input parseMember fuel members (cursorAt input rest t)) := by
  induction fuel generalizing rest members t with
  | zero => omega
  | succ fuel ih =>
    match rest with
    | [] =>
      rw [parseObjectLoop, bind_ok more_input_end]
      exact fail_meets (by decide)
    | b :: tail =>
      rw [parseObjectLoop, bind_ok (more_input_cons suffix), if_pos rfl]
      refine meets_bind (parse_member_name_sound suffix members) ?_
      rintro name c ⟨nameText, w₂, w₃, rest₁, split₁, string, blank₂, blank₃, few, room, fresh, rfl⟩
      rw [split₁] at suffix enough ⊢
      have after₁ := suffix_append (suffix_tail (suffix_append (suffix_append suffix)))
      refine meets_bind (reads rest₁ (t + 1) after₁ (by omega)) ?_
      rintro v c ⟨valueText, rest₂, rfl, inside, bound, rfl⟩
      have after₂ := suffix_append after₁
      have grown : ((members ++ [(name, v)]).map Prod.fst).Nodup := by
        rw [List.map_append, List.nodup_append]
        refine ⟨distinct, by simp, ?_⟩
        rintro a member b last rfl
        obtain rfl : a = name := by simpa using last
        exact fresh member
      refine meets_bind (parse_separator_sound 125 after₂) ?_
      rintro closed c ⟨w₄, rest₃, blank₄, rfl, ⟨rfl, rfl⟩ | ⟨rfl, w', blank', rfl⟩⟩
      · refine ⟨nameText ++ w₂ ++ 58 :: (w₃ ++ valueText ++ w₄), rest₃, [(name, v)], by simp, rfl,
          ?_, grown, by simp; omega, ?_, ?_⟩
        · intro lead blank
          exact .one ⟨lead, nameText, w₂, w₃, valueText, w₄, by simp, blank, blank₂, blank₃,
            blank₄, string, inside⟩
        · simp only [membersCount]
          omega
        · simp only [membersCount]
          congr 1
          omega
      · simp only [List.length_append, List.length_cons] at enough
        have after₃ := suffix_append (suffix_tail (suffix_append after₂))
        refine meets_mono (ih after₃ (members ++ [(name, v)]) grown (by omega)) ?_
        rintro object c ⟨text, rest₄, more, rfl, rfl, separated, nodup, size, count, rfl⟩
        refine ⟨nameText ++ w₂ ++ 58 :: (w₃ ++ valueText ++ w₄) ++ 44 :: (w' ++ text), rest₄,
          (name, v) :: more, by simp, by simp, ?_, by simpa using nodup, by simpa using size,
          ?_, ?_⟩
        · intro lead blank
          have first : MemberText inner
              (lead ++ (nameText ++ w₂ ++ 58 :: (w₃ ++ valueText ++ w₄))) (name, v) :=
            ⟨lead, nameText, w₂, w₃, valueText, w₄, by simp, blank, blank₂, blank₃, blank₄,
              string, inside⟩
          simpa using Separated.more first (separated w' blank')
        · simp only [membersCount]
          omega
        · simp only [membersCount]
          congr 1
          omega

theorem string_text_starts {text value : List UInt8} (string : StringText text value) :
    Starts text := by
  obtain ⟨body, rfl, _⟩ := string
  exact ⟨34, _, rfl, by decide, by decide, by decide⟩

/-- One pass of the object loop over a member of the grammar. -/
theorem object_loop_member (accepts : AcceptsValue input inner parseMember)
    (begins : ∀ text v, inner text v → Starts text) {name w₂ w₃ value w₄ : List UInt8}
    {member : List UInt8 × JsonValue} (blank₂ : Blank w₂) (blank₃ : Blank w₃)
    (string : StringText name member.1) (inside : inner value member.2)
    {members : List (List UInt8 × JsonValue)} (few : members.length < 32)
    (fresh : member.1 ∉ members.map Prod.fst) (room : t + 1 + memberCount member.2 ≤ 64)
    (delimited : Delimited (w₄ ++ rest))
    (suffix : name ++ (w₂ ++ 58 :: (w₃ ++ (value ++ (w₄ ++ rest)))) <:+ input) (fuel : Nat) :
    parseObjectLoop input parseMember (fuel + 1) members
        (cursorAt input (name ++ (w₂ ++ 58 :: (w₃ ++ (value ++ (w₄ ++ rest))))) t) =
      (do
        if ← parseSeparator input 125 then return JsonValue.object (members ++ [member])
        else parseObjectLoop input parseMember fuel (members ++ [member]))
        (cursorAt input (w₄ ++ rest) (t + 1 + memberCount member.2)) := by
  have named := parse_member_name_complete (t := t) members string blank₂
    blank₃ (starts_settled (begins _ _ inside) (w₄ ++ rest)) few (by omega) fresh suffix
  have after := suffix_append (suffix_tail (suffix_append (suffix_append suffix)))
  have read := accepts value member.2 (w₄ ++ rest) (t + 1) inside delimited after (by omega)
  obtain ⟨b, tail, shape, _⟩ := string_text_starts string
  rw [shape, List.cons_append] at suffix named ⊢
  rw [parseObjectLoop, bind_ok (more_input_cons suffix), if_pos rfl, bind_ok named, bind_ok read]

theorem object_loop_complete (accepts : AcceptsValue input inner parseMember)
    (begins : ∀ text v, inner text v → Starts text) {text : List UInt8}
    {more : List (List UInt8 × JsonValue)} (separated : Separated (MemberText inner) text more)
    (members : List (List UInt8 × JsonValue))
    (distinct : ((members ++ more).map Prod.fst).Nodup) (few : (members ++ more).length ≤ 32)
    (room : t + membersCount more ≤ 64) (suffix : text ++ 125 :: rest <:+ input)
    (fuel : Nat) (enough : text.length < fuel) :
    ∃ lead body, text = lead ++ body ∧ Blank lead ∧ Starts body ∧
      parseObjectLoop input parseMember fuel members
          (cursorAt input (body ++ 125 :: rest) t) =
        .ok (.object (members ++ more))
          (cursorAt input rest (t + membersCount more)) := by
  induction separated generalizing members t fuel with
  | @one text member only =>
    obtain ⟨fuel, rfl⟩ := Nat.exists_eq_succ_of_ne_zero (Nat.ne_zero_of_lt enough)
    obtain ⟨w₁, name, w₂, w₃, value, w₄, rfl, blank₁, blank₂, blank₃, blank₄, string, inside⟩ :=
      only
    obtain ⟨memberName, v⟩ := member
    simp only [membersCount, List.length_append, List.length_cons, List.length_nil] at room few
    have fresh : memberName ∉ members.map Prod.fst := by
      simp only [List.map_append, List.nodup_append] at distinct
      exact fun taken => distinct.2.2 _ taken memberName (by simp) rfl
    have inPlace : name ++ (w₂ ++ 58 :: (w₃ ++ (value ++ (w₄ ++ 125 :: rest)))) <:+ input := by
      refine suffix_append (w := w₁) ?_
      simpa using suffix
    have step := object_loop_member (t := t) accepts begins blank₂ blank₃ string inside
      (by omega) fresh (by simp only; omega) (delimited_blank blank₄ (by simp)) inPlace fuel
    have after :=
      suffix_append (suffix_append (suffix_tail (suffix_append (suffix_append inPlace))))
    obtain ⟨b, tail, shape, black, other⟩ := string_text_starts string
    refine ⟨w₁, name ++ w₂ ++ 58 :: (w₃ ++ value ++ w₄), by simp, blank₁,
      ⟨b, _, by rw [shape]; rfl, black, other⟩, ?_⟩
    simp only [List.append_assoc, List.cons_append] at step ⊢
    rw [step, bind_ok (parse_separator_close blank₄ (by decide) after)]
    simp [membersCount, pure, EStateM.pure, Nat.add_assoc]
  | @more text others member more first _ ih =>
    obtain ⟨fuel, rfl⟩ := Nat.exists_eq_succ_of_ne_zero (Nat.ne_zero_of_lt enough)
    obtain ⟨w₁, name, w₂, w₃, value, w₄, rfl, blank₁, blank₂, blank₃, blank₄, string, inside⟩ :=
      first
    obtain ⟨memberName, v⟩ := member
    simp only [membersCount, List.length_append, List.length_cons] at room few enough
    have fresh : memberName ∉ members.map Prod.fst := by
      simp only [List.map_append, List.nodup_append] at distinct
      exact fun taken => distinct.2.2 _ taken memberName (by simp) rfl
    have inPlace : name ++ (w₂ ++ 58 :: (w₃ ++ (value ++ (w₄ ++ 44 :: (others ++ 125 :: rest)))))
        <:+ input := by
      refine suffix_append (w := w₁) ?_
      simpa using suffix
    have after :=
      suffix_append (suffix_append (suffix_tail (suffix_append (suffix_append inPlace))))
    obtain ⟨w', body, rfl, blank', startsBody, run⟩ :=
      ih (t := t + 1 + memberCount v) (members ++ [(memberName, v)])
        (by simpa using distinct) (by simp; omega) (by omega)
        (suffix_tail (suffix_append after)) fuel (by omega)
    have step := object_loop_member (t := t) accepts begins blank₂ blank₃ string inside
      (by omega) fresh (by simp only; omega) (delimited_blank blank₄ (by simp)) inPlace fuel
    simp only [List.append_assoc] at after
    have comma := parse_separator_comma (t := t + 1 + memberCount v) 125
      blank₄ blank' (by decide) (starts_settled startsBody (125 :: rest)) after
    obtain ⟨b, tail, shape, black, other⟩ := string_text_starts string
    refine ⟨w₁, name ++ w₂ ++ 58 :: (w₃ ++ value ++ w₄) ++ 44 :: (w' ++ body), by simp, blank₁,
      ⟨b, _, by rw [shape]; rfl, black, other⟩, ?_⟩
    simp only [List.append_assoc, List.cons_append] at step ⊢
    rw [step, bind_ok comma]
    simp only [Bool.false_eq_true, ↓reduceIte]
    rw [run]
    simp [membersCount, Nat.add_assoc]

end Objects

section Arrays
variable {input rest : List UInt8} {t : Nat} {inner : List UInt8 → JsonValue → Prop}
  {parseElement : Parser JsonValue}

/-- What the array loop has read behind the elements it was given. -/
def ElementsRead (input rest : List UInt8) (t : Nat) (inner : List UInt8 → JsonValue → Prop)
    (elements : List JsonValue) (v : JsonValue) (c : Cursor) : Prop :=
  ∃ text rest' more, rest = text ++ 93 :: rest' ∧ v = .array (elements ++ more) ∧
    (∀ lead, Blank lead → Separated (ElementText inner) (lead ++ text) more) ∧
    (elements ++ more).length ≤ 8 ∧ t + elementsCount more ≤ 64 ∧
    c = cursorAt input rest' (t + elementsCount more)

theorem array_loop_sound (reads : ReadsValue input inner parseElement)
    (suffix : rest <:+ input) (elements : List JsonValue) (room : t ≤ 64) (fuel : Nat)
    (enough : rest.length < fuel) :
    Meets IsStatus (ElementsRead input rest t inner elements)
      (parseArrayLoop input parseElement fuel elements (cursorAt input rest t)) := by
  induction fuel generalizing rest elements t with
  | zero => omega
  | succ fuel ih =>
    match rest with
    | [] =>
      rw [parseArrayLoop, bind_ok more_input_end]
      exact fail_meets (by decide)
    | b :: tail =>
      rw [parseArrayLoop, bind_ok (more_input_cons suffix), if_pos rfl]
      split
      · exact fail_meets (by decide)
      rename_i few
      simp only [gmControlMaxArrayElements, ge_iff_le, Nat.not_le] at few
      refine meets_bind (reads _ t suffix room) ?_
      rintro v c ⟨valueText, rest₂, split₁, inside, bound, rfl⟩
      rw [split₁] at suffix enough ⊢
      have after₂ := suffix_append suffix
      refine meets_bind (parse_separator_sound 93 after₂) ?_
      rintro closed c ⟨w, rest₃, blank, rfl, ⟨rfl, rfl⟩ | ⟨rfl, w', blank', rfl⟩⟩
      · refine ⟨valueText ++ w, rest₃, [v], by simp, rfl, ?_, by simp; omega, ?_, ?_⟩
        · intro lead blankLead
          exact .one ⟨lead, valueText, w, by simp, blankLead, blank, inside⟩
        · simpa [elementsCount] using bound
        · simp [elementsCount]
      · simp only [List.length_append, List.length_cons] at enough
        have after₃ := suffix_append (suffix_tail (suffix_append after₂))
        refine meets_mono (ih after₃ (elements ++ [v]) bound (by omega)) ?_
        rintro array c ⟨text, rest₄, more, rfl, rfl, separated, size, count, rfl⟩
        refine ⟨valueText ++ w ++ 44 :: (w' ++ text), rest₄, v :: more, by simp, by simp, ?_,
          by simpa using size, ?_, ?_⟩
        · intro lead blankLead
          have first : ElementText inner (lead ++ (valueText ++ w)) v :=
            ⟨lead, valueText, w, by simp, blankLead, blank, inside⟩
          simpa using Separated.more first (separated w' blank')
        · simpa [elementsCount, Nat.add_assoc] using count
        · simp [elementsCount, Nat.add_assoc]

/-- One pass of the array loop over an element of the grammar. -/
theorem array_loop_element (accepts : AcceptsValue input inner parseElement)
    (begins : ∀ text v, inner text v → Starts text) {value w : List UInt8} {v : JsonValue}
    (inside : inner value v) (elements : List JsonValue) (few : elements.length < 8)
    (room : t + memberCount v ≤ 64) (delimited : Delimited (w ++ rest))
    (suffix : value ++ (w ++ rest) <:+ input) (fuel : Nat) :
    parseArrayLoop input parseElement (fuel + 1) elements
        (cursorAt input (value ++ (w ++ rest)) t) =
      (do
        if ← parseSeparator input 93 then return JsonValue.array (elements ++ [v])
        else parseArrayLoop input parseElement fuel (elements ++ [v]))
        (cursorAt input (w ++ rest) (t + memberCount v)) := by
  have read := accepts value v (w ++ rest) t inside delimited suffix room
  have limit : ¬ elements.length ≥ gmControlMaxArrayElements := Nat.not_le.mpr few
  obtain ⟨b, tail, shape, _⟩ := begins _ _ inside
  rw [shape, List.cons_append] at suffix read ⊢
  rw [parseArrayLoop, bind_ok (more_input_cons suffix), if_pos rfl, if_neg limit, bind_ok read]

theorem array_loop_complete (accepts : AcceptsValue input inner parseElement)
    (begins : ∀ text v, inner text v → Starts text) {text : List UInt8} {more : List JsonValue}
    (separated : Separated (ElementText inner) text more) (elements : List JsonValue)
    (few : (elements ++ more).length ≤ 8) (room : t + elementsCount more ≤ 64)
    (suffix : text ++ 93 :: rest <:+ input) (fuel : Nat) (enough : text.length < fuel) :
    ∃ lead body, text = lead ++ body ∧ Blank lead ∧ Starts body ∧
      parseArrayLoop input parseElement fuel elements
          (cursorAt input (body ++ 93 :: rest) t) =
        .ok (.array (elements ++ more))
          (cursorAt input rest (t + elementsCount more)) := by
  induction separated generalizing elements t fuel with
  | @one text v only =>
    obtain ⟨fuel, rfl⟩ := Nat.exists_eq_succ_of_ne_zero (Nat.ne_zero_of_lt enough)
    obtain ⟨w₁, value, w₂, rfl, blank₁, blank₂, inside⟩ := only
    simp only [elementsCount, List.length_append, List.length_cons, List.length_nil] at room few
    have inPlace : value ++ (w₂ ++ 93 :: rest) <:+ input := by
      refine suffix_append (w := w₁) ?_
      simpa using suffix
    have step := array_loop_element (t := t) accepts begins inside elements
      (by omega) (by omega) (delimited_blank blank₂ (by simp)) inPlace fuel
    obtain ⟨b, tail, shape, black, other⟩ := begins _ _ inside
    refine ⟨w₁, value ++ w₂, by simp, blank₁, ⟨b, _, by rw [shape]; rfl, black, other⟩, ?_⟩
    rw [List.append_assoc, step,
      bind_ok (parse_separator_close blank₂ (by decide) (suffix_append inPlace))]
    simp [elementsCount, pure, EStateM.pure]
  | @more text others v more first _ ih =>
    obtain ⟨fuel, rfl⟩ := Nat.exists_eq_succ_of_ne_zero (Nat.ne_zero_of_lt enough)
    obtain ⟨w₁, value, w₂, rfl, blank₁, blank₂, inside⟩ := first
    simp only [elementsCount, List.length_append, List.length_cons] at room few enough
    have inPlace : value ++ (w₂ ++ 44 :: (others ++ 93 :: rest)) <:+ input := by
      refine suffix_append (w := w₁) ?_
      simpa using suffix
    have after := suffix_append inPlace
    obtain ⟨w', body, rfl, blank', startsBody, run⟩ :=
      ih (t := t + memberCount v) (elements ++ [v]) (by simp; omega) (by omega)
        (suffix_tail (suffix_append after)) fuel (by omega)
    have step := array_loop_element (t := t) accepts begins inside elements
      (by omega) (by omega) (delimited_blank blank₂ (by simp)) inPlace fuel
    simp only [List.append_assoc] at after
    have comma := parse_separator_comma (t := t + memberCount v) 93
      blank₂ blank' (by decide) (starts_settled startsBody (93 :: rest)) after
    obtain ⟨b, tail, shape, black, other⟩ := begins _ _ inside
    refine ⟨w₁, value ++ w₂ ++ 44 :: (w' ++ body), by simp, blank₁,
      ⟨b, _, by rw [shape]; rfl, black, other⟩, ?_⟩
    simp only [List.append_assoc, List.cons_append] at step ⊢
    rw [step, bind_ok comma]
    simp only [Bool.false_eq_true, ↓reduceIte]
    rw [run]
    simp [elementsCount, Nat.add_assoc]

end Arrays

end GhostMedia.Json
