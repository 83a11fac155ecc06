import Mathlib.Data.List.Basic
import Mathlib.Data.List.TakeWhile

/- Fixed-size character buffers and the C strings read out of them. A buffer
   carries its own length; a C string ends before the first zero byte. -/
namespace CString

structure Buffer (capacity : Nat) where
  bytes : List UInt8
  size : bytes.length = capacity
  deriving DecidableEq

theorem buffer_ext {n : Nat} {a b : Buffer n} (same : a.bytes = b.bytes) : a = b := by
  cases a; cases b
  simp_all

def zero (n : Nat) : Buffer n := ⟨List.replicate n 0, List.length_replicate⟩

/-- The text a C reader sees: everything before the first NUL. -/
def text (bytes : List UInt8) : List UInt8 := bytes.takeWhile (· ≠ 0)

def Buffer.text {n : Nat} (b : Buffer n) : List UInt8 := CString.text b.bytes

/-- Clear a buffer, then copy as much of `value` as leaves one zero byte. -/
def fill (n : Nat) (value : List UInt8) : Buffer n where
  bytes := value.take (n - 1) ++ List.replicate (n - (value.take (n - 1)).length) 0
  size := by
    simp only [List.length_append, List.length_replicate, List.length_take]
    omega

/-- Copy exactly `n` bytes of `value`; a shorter source is padded with zeros. -/
def fillExact (n : Nat) (value : List UInt8) : Buffer n where
  bytes := value.take n ++ List.replicate (n - (value.take n).length) 0
  size := by
    simp only [List.length_append, List.length_replicate, List.length_take]
    omega

theorem text_append_zero (value : List UInt8) (k : Nat) :
    text (value ++ List.replicate k 0) = text value := by
  induction value with
  | nil => cases k <;> simp [text, List.replicate_succ]
  | cons b rest ih =>
    by_cases nul : b = 0
    · simp [text, nul]
    · simpa [text, nul] using ih

theorem text_of_no_nul {value : List UInt8} (clean : 0 ∉ value) : text value = value := by
  apply List.takeWhile_eq_self_iff.mpr
  intro b member
  simpa using fun nul : b = 0 => clean (nul ▸ member)

theorem text_no_nul (value : List UInt8) : 0 ∉ text value := by
  intro member
  simpa using List.mem_takeWhile_imp member

theorem text_eq_self_iff (value : List UInt8) : text value = value ↔ 0 ∉ value :=
  ⟨fun same => same ▸ text_no_nul value, text_of_no_nul⟩

@[simp] theorem text_text (value : List UInt8) : text (text value) = text value :=
  text_of_no_nul (text_no_nul value)

theorem text_length_le (value : List UInt8) : (text value).length ≤ value.length :=
  (List.takeWhile_prefix _).length_le

@[simp] theorem zero_text (n : Nat) : (zero n).text = [] := by
  exact text_append_zero [] n

/-- A value that fits is read back up to its own first NUL. -/
theorem fill_text {n : Nat} {value : List UInt8} (fits : value.length < n) :
    (fill n value).text = text value := by
  have whole : value.take (n - 1) = value := List.take_of_length_le (by omega)
  simp [fill, Buffer.text, whole, text_append_zero]

theorem refill_text {n : Nat} {b : Buffer n} (terminated : b.text.length < n) :
    (fill n b.text).text = b.text := by
  rw [fill_text terminated]
  exact text_text b.bytes

end CString
