import Mathlib.Algebra.BigOperators.Ring.Finset
import Mathlib.Data.Nat.Bitwise
import Mathlib.Tactic.Ring

/- Numbers written as lists of words of `w` bits, the lowest word first. Bit `i` of
   the number is bit `i % w` of word `i / w`. -/
namespace Words

/-- The sum of `digits[i] * 2 ^ (w * i)`. -/
def value (w : Nat) (digits : List Nat) : Nat :=
  ∑ i ∈ Finset.range digits.length, digits.getD i 0 * 2 ^ (w * i)

theorem value_nil (w : Nat) : value w [] = 0 := rfl

theorem value_cons (w d : Nat) (digits : List Nat) :
    value w (d :: digits) = 2 ^ w * value w digits + d := by
  unfold value
  rw [List.length_cons, Finset.sum_range_succ']
  have lowest : (d :: digits).getD 0 0 * 2 ^ (w * 0) = d := by simp
  have higher : ∀ i ∈ Finset.range digits.length,
      (d :: digits).getD (i + 1) 0 * 2 ^ (w * (i + 1)) =
        2 ^ w * (digits.getD i 0 * 2 ^ (w * i)) := by
    intro i _
    rw [List.getD_cons_succ, Nat.mul_succ, Nat.pow_add]
    ring
  rw [lowest, Finset.sum_congr rfl higher, Finset.mul_sum]

theorem testBit_value {w : Nat} (positive : 0 < w) (digits : List Nat)
    (small : ∀ d ∈ digits, d < 2 ^ w) (i : Nat) :
    (value w digits).testBit i = (digits.getD (i / w) 0).testBit (i % w) := by
  induction digits generalizing i with
  | nil => simp [value_nil]
  | cons d digits ih =>
    rw [List.forall_mem_cons] at small
    rw [value_cons, Nat.testBit_two_pow_mul_add _ small.1]
    by_cases low : i < w
    · rw [if_pos low, Nat.div_eq_of_lt low, Nat.mod_eq_of_lt low, List.getD_cons_zero]
    · have next : i / w = (i - w) / w + 1 := Nat.div_eq_sub_div positive (Nat.le_of_not_lt low)
      have place : i % w = (i - w) % w := Nat.mod_eq_sub_mod (Nat.le_of_not_lt low)
      rw [if_neg low, ih small.2, next, place, List.getD_cons_succ]

/-- A shift by the whole width or more leaves nothing. -/
theorem shifted_out {width amount : Nat} (far : width ≤ amount) (n : Nat) :
    n * 2 ^ amount % 2 ^ width = 0 :=
  Nat.mod_eq_zero_of_dvd (Nat.dvd_mul_left_of_dvd (Nat.pow_dvd_pow 2 far) n)

end Words
