import Mathlib.Data.Finset.Max

/- Duplicate detection over an unbounded history, and the bounded memory that
   decides it: the highest number seen and one flag for each of the `width`
   numbers up to it. -/
namespace SlidingWindow

inductive Verdict where
  | accepted
  | duplicate
  | tooOld
  deriving DecidableEq, Repr

/-- The reference answer, from the whole set of numbers accepted so far. -/
def verdict (width : Nat) (seen : Finset Nat) (n : Nat) : Verdict :=
  if nonempty : seen.Nonempty then
    let highest := seen.max' nonempty
    if highest < n then .accepted
    else if width ≤ highest - n then .tooOld
    else if n ∈ seen then .duplicate
    else .accepted
  else .accepted

def record (width : Nat) (seen : Finset Nat) (n : Nat) : Finset Nat :=
  if verdict width seen n = .accepted then insert n seen else seen

def verdicts (width : Nat) : Finset Nat → List Nat → List Verdict
  | _, [] => []
  | seen, n :: rest => verdict width seen n :: verdicts width (record width seen n) rest

def acceptedNumbers (width : Nat) : Finset Nat → List Nat → List Nat
  | _, [] => []
  | seen, n :: rest =>
    if verdict width seen n = .accepted then
      n :: acceptedNumbers width (record width seen n) rest
    else acceptedNumbers width (record width seen n) rest

theorem accepted_is_fresh {width n : Nat} {seen : Finset Nat}
    (accepted : verdict width seen n = .accepted) : n ∉ seen := by
  intro member
  have nonempty : seen.Nonempty := ⟨n, member⟩
  have below := seen.le_max' n member
  simp only [verdict, nonempty, dite_true] at accepted
  rw [if_neg (by omega)] at accepted
  split at accepted
  · contradiction
  · simp at accepted

theorem accepted_not_seen {width : Nat} {seen : Finset Nat} {ns : List Nat} {n : Nat}
    (member : n ∈ acceptedNumbers width seen ns) : n ∉ seen := by
  induction ns generalizing seen with
  | nil => simp [acceptedNumbers] at member
  | cons m rest ih =>
    by_cases fresh : verdict width seen m = .accepted
    · simp only [acceptedNumbers, fresh, if_true, List.mem_cons] at member
      rcases member with same | later
      · subst n
        exact accepted_is_fresh fresh
      · intro old
        exact ih later (by simp [record, fresh, old])
    · simp only [acceptedNumbers, fresh, if_false] at member
      simpa [record, fresh] using ih member

/-- No number is accepted twice, in any order of arrival. -/
theorem accepted_nodup (width : Nat) (seen : Finset Nat) (ns : List Nat) :
    (acceptedNumbers width seen ns).Nodup := by
  induction ns generalizing seen with
  | nil => simp [acceptedNumbers]
  | cons m rest ih =>
    by_cases fresh : verdict width seen m = .accepted
    · simp only [acceptedNumbers, fresh, if_true, List.nodup_cons]
      refine ⟨?_, ih _⟩
      intro again
      exact accepted_not_seen again (by simp [record, fresh])
    · simpa [acceptedNumbers, fresh] using ih _

/-- What the bounded memory must say about the history. -/
structure Remembers (width : Nat) (seen : Finset Nat) (highest : Nat)
    (recent : Nat → Bool) : Prop where
  top : highest ∈ seen
  above : ∀ n ∈ seen, n ≤ highest
  flags : ∀ i < width, recent i = true ↔ i ≤ highest ∧ highest - i ∈ seen

theorem remembers_first {width n : Nat} {recent : Nat → Bool}
    (only : ∀ i < width, recent i = true ↔ i = 0) :
    Remembers width {n} n recent := by
  refine ⟨by simp, by simp, ?_⟩
  intro i inside
  rw [only i inside]
  simp only [Finset.mem_singleton]
  omega

theorem remembers_advance {width highest n : Nat} {seen : Finset Nat}
    {recent shifted : Nat → Bool} (old : Remembers width seen highest recent)
    (higher : highest < n)
    (moved : ∀ i < width, shifted i = true ↔
      i = 0 ∨ n - highest ≤ i ∧ recent (i - (n - highest)) = true) :
    Remembers width (insert n seen) n shifted := by
  refine ⟨by simp, ?_, ?_⟩
  · intro m member
    rcases Finset.mem_insert.mp member with same | earlier
    · omega
    · have := old.above m earlier
      omega
  · intro i inside
    rw [moved i inside, Finset.mem_insert]
    constructor
    · rintro (zero | ⟨far, flag⟩)
      · subst i; simp
      · have known := (old.flags _ (by omega)).mp flag
        have same : n - i = highest - (i - (n - highest)) := by omega
        exact ⟨by omega, Or.inr (same ▸ known.2)⟩
    · rintro ⟨reach, same | earlier⟩
      · exact Or.inl (by omega)
      · have bound := old.above _ earlier
        have same : n - i = highest - (i - (n - highest)) := by omega
        exact Or.inr ⟨by omega, (old.flags _ (by omega)).mpr ⟨by omega, same ▸ earlier⟩⟩

theorem remembers_fill {width highest n : Nat} {seen : Finset Nat}
    {recent marked : Nat → Bool} (old : Remembers width seen highest recent)
    (lower : n ≤ highest)
    (set : ∀ i < width, marked i = true ↔ i = highest - n ∨ recent i = true) :
    Remembers width (insert n seen) highest marked := by
  refine ⟨Finset.mem_insert_of_mem old.top, ?_, ?_⟩
  · intro m member
    rcases Finset.mem_insert.mp member with same | earlier
    · omega
    · exact old.above m earlier
  · intro i inside
    rw [set i inside, old.flags i inside, Finset.mem_insert]
    constructor
    · rintro (same | ⟨reach, known⟩)
      · exact ⟨by omega, Or.inl (by omega)⟩
      · exact ⟨reach, Or.inr known⟩
    · rintro ⟨reach, same | earlier⟩
      · exact Or.inl (by omega)
      · exact Or.inr ⟨reach, earlier⟩

/-- The reference answer read from the bounded memory alone. -/
theorem verdict_of_memory {width highest n : Nat} {seen : Finset Nat} {recent : Nat → Bool}
    (memory : Remembers width seen highest recent) :
    verdict width seen n =
      if highest < n then .accepted
      else if width ≤ highest - n then .tooOld
      else if recent (highest - n) then .duplicate
      else .accepted := by
  have nonempty : seen.Nonempty := ⟨highest, memory.top⟩
  have top : seen.max' nonempty = highest :=
    le_antisymm (seen.max'_le nonempty highest memory.above) (seen.le_max' highest memory.top)
  simp only [verdict, nonempty, dite_true, top]
  split
  · rfl
  split
  · rfl
  have inside : highest - n < width := by omega
  have back : highest - (highest - n) = n := by omega
  have flag := memory.flags (highest - n) inside
  rw [back] at flag
  by_cases member : n ∈ seen
  · rw [if_pos member, if_pos (flag.mpr ⟨by omega, member⟩)]
  · rw [if_neg member, if_neg fun on => member (flag.mp on).2]

end SlidingWindow
