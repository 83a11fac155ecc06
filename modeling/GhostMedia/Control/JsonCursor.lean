import GhostMedia.Control.JsonParser
import GhostMedia.Foundation.StateLogic

/- The parser positioned at a suffix of its input. Each primitive has one equation
   there, so that no later proof reasons about positions or bounds. -/
namespace GhostMedia.Json
open StateLogic

def cursorAt (input rest : List UInt8) (t : Nat) : Cursor := ⟨input.length - rest.length, t⟩

@[simp] theorem cursor_at_total (input rest : List UInt8) (t : Nat) :
    (cursorAt input rest t).totalMembers = t := rfl

@[simp] theorem cursor_at_position (input rest : List UInt8) (t : Nat) :
    (cursorAt input rest t).position = input.length - rest.length := rfl

theorem start_cursor (input : List UInt8) (t : Nat) :
    (⟨0, t⟩ : Cursor) = cursorAt input input t := by
  simp [cursorAt]

section Suffix
variable {input rest : List UInt8} {b : UInt8} {t : Nat}

theorem suffix_tail (suffix : b :: rest <:+ input) : rest <:+ input :=
  (List.suffix_cons b rest).trans suffix

theorem suffix_append {w : List UInt8} (suffix : w ++ rest <:+ input) : rest <:+ input :=
  (List.suffix_append w rest).trans suffix

theorem suffix_drop (suffix : rest <:+ input) : input.drop (input.length - rest.length) = rest := by
  obtain ⟨front, rfl⟩ := suffix
  simp

theorem suffix_getElem (suffix : rest <:+ input) (i : Nat) :
    input[input.length - rest.length + i]? = rest[i]? := by
  conv => rhs; rw [← suffix_drop suffix]
  rw [List.getElem?_drop]

theorem more_input_run (rest : List UInt8) :
    moreInput input (cursorAt input rest t) =
      .ok (decide (input.length - rest.length < input.length)) (cursorAt input rest t) := rfl

theorem more_input_end : moreInput input (cursorAt input [] t) =
    .ok false (cursorAt input [] t) := by
  rw [more_input_run]
  simp

theorem more_input_cons (suffix : b :: rest <:+ input) :
    moreInput input (cursorAt input (b :: rest) t) =
      .ok true (cursorAt input (b :: rest) t) := by
  have fits := suffix.length_le
  have inside : input.length - (b :: rest).length < input.length := by
    simp only [List.length_cons] at fits ⊢
    omega
  rw [more_input_run, decide_eq_true inside]

theorem data_at {c : UInt8} (suffix : rest <:+ input) (i : Nat) (there : rest[i]? = some c)
    (s : Cursor) : dataAt input ((cursorAt input rest t).position + i) s = .ok c s := by
  simp [dataAt, suffix_getElem suffix, there, pure, EStateM.pure]

theorem peek_cons (suffix : b :: rest <:+ input) :
    peek input (cursorAt input (b :: rest) t) =
      .ok b (cursorAt input (b :: rest) t) :=
  data_at (t := t) suffix 0 rfl _

theorem advance_append {w : List UInt8} (suffix : w ++ rest <:+ input) (count : Nat)
    (same : count = w.length) :
    advance count (cursorAt input (w ++ rest) t) = .ok () (cursorAt input rest t) := by
  have fits := suffix.length_le
  simp only [List.length_append] at fits
  have moved : input.length - (w ++ rest).length + count = input.length - rest.length := by
    rw [List.length_append, same]
    omega
  exact congrArg (fun position => EStateM.Result.ok () (Cursor.mk position t)) moved

theorem advance_cons (suffix : b :: rest <:+ input) :
    advance 1 (cursorAt input (b :: rest) t) = .ok () (cursorAt input rest t) :=
  advance_append (w := [b]) suffix 1 rfl

theorem take_cons (suffix : b :: rest <:+ input) :
    take input (cursorAt input (b :: rest) t) = .ok b (cursorAt input rest t) := by
  rw [take, bind_ok (peek_cons suffix), bind_ok (advance_cons suffix)]
  rfl

end Suffix

end GhostMedia.Json
