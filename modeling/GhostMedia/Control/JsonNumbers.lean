import GhostMedia.Control.JsonScan

/- Numbers: `parse_number` reads the canonical decimals below 2^64. -/
namespace GhostMedia.Json
open StateLogic Decimal

section Numbers
variable {input rest : List UInt8} {b : UInt8} {t : Nat}

theorem digit_iff (b : UInt8) : isDigit b = true ↔ IsDigit b := by
  simp [isDigit, IsDigit, UInt8.le_iff_toNat_le]

/-- What may follow a number: no further digit, fraction or exponent. -/
def Ended (rest : List UInt8) : Prop :=
  ∀ b ∈ rest.head?, isDigit b = false ∧ b ≠ 46 ∧ b ≠ 101 ∧ b ≠ 69

theorem reject_digit_complete (suffix : rest <:+ input) (ended : Ended rest) :
    rejectDigit input (cursorAt input rest t) = .ok () (cursorAt input rest t) := by
  cases rest with
  | nil =>
    rw [rejectDigit, bind_ok more_input_end]
    rfl
  | cons b rest =>
    have notDigit := (ended b (by simp)).1
    rw [rejectDigit, bind_ok (more_input_cons suffix), if_pos rfl, bind_ok (peek_cons suffix),
      notDigit]
    rfl

theorem reject_digit_sound (suffix : rest <:+ input) :
    Meets IsStatus (fun _ c => c = cursorAt input rest t)
      (rejectDigit input (cursorAt input rest t)) := by
  cases rest with
  | nil =>
    rw [rejectDigit, bind_ok more_input_end]
    exact rfl
  | cons b rest =>
    rw [rejectDigit, bind_ok (more_input_cons suffix), if_pos rfl, bind_ok (peek_cons suffix)]
    split
    · exact fail_meets (by decide)
    · exact rfl

theorem reject_fraction_complete (suffix : rest <:+ input) (ended : Ended rest) :
    rejectFraction input (cursorAt input rest t) = .ok () (cursorAt input rest t) := by
  cases rest with
  | nil =>
    rw [rejectFraction, bind_ok more_input_end]
    rfl
  | cons b rest =>
    have other := (ended b (by simp)).2
    rw [rejectFraction, bind_ok (more_input_cons suffix), if_pos rfl, bind_ok (peek_cons suffix),
      if_neg (by simp [other])]
    rfl

theorem reject_fraction_sound (suffix : rest <:+ input) :
    Meets IsStatus (fun _ c => c = cursorAt input rest t)
      (rejectFraction input (cursorAt input rest t)) := by
  cases rest with
  | nil =>
    rw [rejectFraction, bind_ok more_input_end]
    exact rfl
  | cons b rest =>
    rw [rejectFraction, bind_ok (more_input_cons suffix), if_pos rfl, bind_ok (peek_cons suffix)]
    split
    · exact fail_meets (by decide)
    · exact rfl

theorem digits_stop (suffix : rest <:+ input) (stop : ∀ b ∈ rest.head?, isDigit b = false)
    (fuel : Nat) (v : UInt64) :
    parseDigits input (fuel + 1) v (cursorAt input rest t) =
      .ok v (cursorAt input rest t) := by
  cases rest with
  | nil =>
    rw [parseDigits, bind_ok more_input_end]
    rfl
  | cons b rest =>
    rw [parseDigits, bind_ok (more_input_cons suffix), if_pos rfl, bind_ok (peek_cons suffix),
      stop b (by simp)]
    rfl

theorem digits_step (suffix : b :: rest <:+ input) (digit : IsDigit b) (fuel : Nat)
    (v : UInt64) :
    parseDigits input (fuel + 1) v (cursorAt input (b :: rest) t) =
      if 2 ^ 64 ≤ v.toNat * 10 + (b.toNat - 48) then
        failWith .badMessage (cursorAt input (b :: rest) t)
      else parseDigits input fuel (v * 10 + (b - 48).toUInt64) (cursorAt input rest t) := by
  obtain ⟨value, small⟩ := digit_toUInt64 digit
  have guard := overflow_guard v (b - 48).toUInt64 small
  rw [value] at guard
  rw [parseDigits, bind_ok (more_input_cons suffix), if_pos rfl, bind_ok (peek_cons suffix),
    if_pos ((digit_iff b).mpr digit)]
  by_cases overflow : 2 ^ 64 ≤ v.toNat * 10 + (b.toNat - 48)
  · rw [if_pos overflow]
    exact congrFun (if_pos (guard.mpr overflow)) _
  · rw [if_neg overflow]
    refine (congrFun (if_neg (fun above => overflow (guard.mp above))) _).trans ?_
    exact bind_ok (advance_cons suffix)

theorem parse_digits_complete {text : List UInt8} (digits : ∀ b ∈ text, IsDigit b)
    (stop : ∀ b ∈ rest.head?, isDigit b = false) (v : UInt64)
    (fits : valueFrom v.toNat text < 2 ^ 64) (suffix : text ++ rest <:+ input) (fuel : Nat)
    (enough : text.length < fuel) :
    ∃ w : UInt64, w.toNat = valueFrom v.toNat text ∧
      parseDigits input fuel v (cursorAt input (text ++ rest) t) =
        .ok w (cursorAt input rest t) := by
  induction text generalizing v fuel with
  | nil =>
    obtain ⟨fuel, rfl⟩ := Nat.exists_eq_succ_of_ne_zero (Nat.ne_zero_of_lt enough)
    exact ⟨v, rfl, digits_stop suffix stop fuel v⟩
  | cons b text ih =>
    obtain ⟨fuel, rfl⟩ := Nat.exists_eq_succ_of_ne_zero (Nat.ne_zero_of_lt enough)
    have digit := digits b (by simp)
    rw [value_from_cons] at fits ⊢
    have room : v.toNat * 10 + (b.toNat - 48) < 2 ^ 64 :=
      (le_value_from _ text).trans_lt fits
    have sum := accumulate_toNat v (b - 48).toUInt64 (by rwa [(digit_toUInt64 digit).1])
    rw [(digit_toUInt64 digit).1] at sum
    rw [List.cons_append] at suffix ⊢
    rw [digits_step suffix digit, if_neg (by omega), ← sum]
    exact ih (fun d member => digits d (by simp [member])) _ (sum ▸ fits) (suffix_tail suffix)
      fuel (by simpa using enough)

theorem parse_digits_sound (suffix : rest <:+ input) (v : UInt64) (fuel : Nat)
    (enough : rest.length < fuel) :
    Meets IsStatus
      (fun w c => ∃ text rest', rest = text ++ rest' ∧ (∀ b ∈ text, IsDigit b) ∧
        (∀ b ∈ rest'.head?, isDigit b = false) ∧ valueFrom v.toNat text = w.toNat ∧
        c = cursorAt input rest' t)
      (parseDigits input fuel v (cursorAt input rest t)) := by
  induction fuel generalizing rest v with
  | zero => omega
  | succ fuel ih =>
    by_cases stop : ∀ b ∈ rest.head?, isDigit b = false
    · rw [digits_stop suffix stop]
      exact ⟨[], rest, rfl, by simp, stop, rfl, rfl⟩
    · match rest with
      | [] => simp at stop
      | b :: rest =>
        have digit : IsDigit b := (digit_iff b).mp (by simpa using stop)
        rw [digits_step suffix digit]
        split
        · exact fail_meets (by decide)
        rename_i room
        have sum := accumulate_toNat v (b - 48).toUInt64
          (by rw [(digit_toUInt64 digit).1]; omega)
        rw [(digit_toUInt64 digit).1] at sum
        refine meets_mono (ih (suffix_tail suffix) _ (by simpa using enough)) ?_
        rintro w c ⟨text, rest', rfl, digits, ended, value, rfl⟩
        refine ⟨b :: text, rest', rfl, ?_, ended, ?_, rfl⟩
        · intro d member
          rcases List.mem_cons.mp member with rfl | later
          · exact digit
          · exact digits d later
        · rw [value_from_cons, ← sum]
          exact value

theorem parse_number_complete {text : List UInt8} {value : UInt64}
    (number : NumberText text value) (ended : Ended rest) (suffix : text ++ rest <:+ input) :
    parseNumber input (cursorAt input (text ++ rest) t) =
      .ok value (cursorAt input rest t) := by
  obtain ⟨canonical, same⟩ := number
  match shape : text with
  | [] => exact absurd rfl canonical.nonempty
  | b :: tail =>
    have digit := canonical.digits b (by simp)
    have after := suffix_append suffix
    rw [List.cons_append] at suffix ⊢
    rw [parseNumber, bind_ok (more_input_cons suffix), if_pos rfl, bind_ok (peek_cons suffix),
      if_neg (by simp [(digit_iff b).mpr digit])]
    by_cases zero : b = 48
    · subst zero
      -- a numeral that starts with zero is the single digit
      have alone : tail = [] := by
        by_contra more
        have : 0 < tail.length := List.length_pos_of_ne_nil more
        exact canonical.noLeadingZero (by simpa using this) rfl
      subst alone
      have isZero : value = 0 := UInt64.toNat_inj.mp (by simpa using same.symm)
      rw [if_pos rfl, bind_ok (advance_cons suffix),
        bind_ok (reject_digit_complete (suffix_tail suffix) ended),
        bind_ok (reject_fraction_complete (suffix_tail suffix) ended), isZero]
      rfl
    · have fits := suffix.length_le
      simp only [List.length_cons, List.length_append] at fits
      obtain ⟨w, read, run⟩ := parse_digits_complete (t := t) canonical.digits
        (fun c member => (ended c member).1) 0
        (by rw [UInt64.toNat_zero]; exact same.trans_lt value.toNat_lt) suffix (input.length + 1)
        (by simp only [List.length_cons]; omega)
      have isValue : w = value := UInt64.toNat_inj.mp (read.trans same)
      rw [if_neg zero, ← isValue]
      rw [List.cons_append] at run
      rw [bind_ok run, bind_ok (reject_fraction_complete after ended)]
      rfl

theorem parse_number_sound (suffix : rest <:+ input) :
    Meets IsStatus
      (fun value c => ∃ text rest', rest = text ++ rest' ∧ NumberText text value ∧
        c = cursorAt input rest' t)
      (parseNumber input (cursorAt input rest t)) := by
  match rest with
  | [] =>
    rw [parseNumber, bind_ok more_input_end]
    exact fail_meets (by decide)
  | b :: rest =>
    have fits := suffix.length_le
    rw [parseNumber, bind_ok (more_input_cons suffix), if_pos rfl, bind_ok (peek_cons suffix)]
    split
    · exact fail_meets (by decide)
    rename_i accepted
    have digit : IsDigit b := (digit_iff b).mp (by simpa using accepted)
    split
    · rename_i zero
      subst zero
      rw [bind_ok (advance_cons suffix)]
      refine meets_bind (reject_digit_sound (suffix_tail suffix)) ?_
      rintro _ c rfl
      refine meets_bind (reject_fraction_sound (suffix_tail suffix)) ?_
      rintro _ c rfl
      exact ⟨[48], rest, rfl, ⟨⟨by simp, by simpa using digit, by simp⟩, rfl⟩, rfl⟩
    · rename_i notZero
      refine meets_bind (parse_digits_sound suffix 0 _ (by omega)) ?_
      rintro w c ⟨text, rest', split, digits, stop, value, rfl⟩
      have after : rest' <:+ input := suffix_append (split ▸ suffix)
      -- the first byte is a digit, so the numeral starts with it
      obtain ⟨tail, rfl⟩ : ∃ tail, text = b :: tail := by
        cases text with
        | nil =>
          rw [List.nil_append] at split
          have := stop b (by simp [← split])
          rw [(digit_iff b).mpr digit] at this
          cases this
        | cons d tail =>
          rw [List.cons_append] at split
          exact ⟨tail, by rw [(List.cons.inj split).1]⟩
      refine meets_bind (reject_fraction_sound after) ?_
      rintro _ c rfl
      exact ⟨b :: tail, rest', split, ⟨⟨by simp, digits, by simpa using fun _ => notZero⟩, value⟩,
        rfl⟩

end Numbers

end GhostMedia.Json
