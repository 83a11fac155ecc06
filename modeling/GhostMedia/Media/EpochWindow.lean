import GhostMedia.Core.Abi
import GhostMedia.Foundation.Runs
import Mathlib.Algebra.Group.Nat.Defs

/- The epoch window of gm_media.cpp over runs of its two calls: what it accepts is the
   last committed epoch and, for five seconds, the one before it. -/
namespace GhostMedia.Epochs
open Runs

def kRekeyGraceNs : UInt64 := gmRekeyGraceMs * 1000 * 1000

def maxU64 : UInt64 := 0xffffffffffffffff

def gmEpochWindowInit (window : GmEpochWindow) (initialEpoch : UInt32) :
    GmStatus × GmEpochWindow :=
  if window.structSize < sizeofGmEpochWindow then (.badArgument, window)
  else if initialEpoch = 0 then (.badMessage, window)
  else
    (.ok,
      { structSize := window.structSize
        abiVersion := gmAbiVersion
        currentEpoch := initialEpoch
        previousEpoch := 0
        previousEpochExpiresNs := 0
        hasPreviousEpoch := 0 })

def gmEpochWindowBeginRekey (window : GmEpochWindow) (newEpoch : UInt32) (nowNs : UInt64) :
    GmStatus × GmEpochWindow :=
  if window.structSize < sizeofGmEpochWindow || window.abiVersion ≠ gmAbiVersion then
    (.badArgument, window)
  else if newEpoch = 0 || window.currentEpoch = 0 || newEpoch ≠ window.currentEpoch + 1 then
    (.badMessage, window)
  else
    (.ok,
      { window with
        previousEpoch := window.currentEpoch
        currentEpoch := newEpoch
        hasPreviousEpoch := 1
        previousEpochExpiresNs :=
          if nowNs > maxU64 - kRekeyGraceNs then maxU64 else nowNs + kRekeyGraceNs })

/-- `*out_acceptance` is written only when the call returns `GM_OK`. -/
def gmEpochWindowAccept (window : GmEpochWindow) (keyEpoch : UInt32) (nowNs : UInt64) :
    GmStatus × Option GmEpochAcceptance :=
  if window.structSize < sizeofGmEpochWindow || window.abiVersion ≠ gmAbiVersion ||
      window.currentEpoch = 0 then
    (.badArgument, none)
  else if keyEpoch = 0 then (.badMessage, none)
  else if keyEpoch = window.currentEpoch then (.ok, some .current)
  else if window.hasPreviousEpoch ≠ 0 && keyEpoch = window.previousEpoch &&
      nowNs ≤ window.previousEpochExpiresNs then
    (.ok, some .previousGrace)
  else (.ok, some .rejected)

inductive EpochCall where
  | beginRekey (newEpoch : UInt32) (nowNs : UInt64)
  | accept (keyEpoch : UInt32) (nowNs : UInt64)

def EpochCall.now : EpochCall → UInt64
  | .beginRekey _ nowNs => nowNs
  | .accept _ nowNs => nowNs

structure EpochReply where
  status : GmStatus
  acceptance : Option GmEpochAcceptance
  deriving DecidableEq

def step (window : GmEpochWindow) : EpochCall → EpochReply × GmEpochWindow
  | .beginRekey newEpoch nowNs =>
    let (status, window) := gmEpochWindowBeginRekey window newEpoch nowNs
    (⟨status, none⟩, window)
  | .accept keyEpoch nowNs =>
    let (status, acceptance) := gmEpochWindowAccept window keyEpoch nowNs
    (⟨status, acceptance⟩, window)

section History

abbrev EpochEvent := Event GmEpochWindow EpochCall EpochReply

/-- The epoch that an event commits, with the time of the call. -/
def commit? (e : EpochEvent) : Option (UInt32 × UInt64) :=
  match e.input with
  | .beginRekey newEpoch nowNs => if e.output.status = .ok then some (newEpoch, nowNs) else none
  | .accept _ _ => none

def commits (past : List EpochEvent) : List (UInt32 × UInt64) := past.filterMap commit?

/-- The first epoch and those committed after it, in order. -/
def epochs (initial : UInt32) (committed : List (UInt32 × UInt64)) : List UInt32 :=
  initial :: committed.map Prod.fst

def IsCurrent (initial : UInt32) (committed : List (UInt32 × UInt64)) (e : UInt32) : Prop :=
  (epochs initial committed).getLast? = some e

/-- The end of the grace period of an epoch replaced at `t`, at most the last instant. -/
def graceEnd (t : UInt64) : Nat := min (t.toNat + 5 * 10 ^ 9) (2 ^ 64 - 1)

/-- The epoch was replaced by the current one, and its grace period lasts at `t`. -/
def InGrace (initial : UInt32) (committed : List (UInt32 × UInt64)) (e : UInt32) (t : UInt64) :
    Prop :=
  ∃ earlier last replacedAt, committed = earlier ++ [(last, replacedAt)] ∧
    IsCurrent initial earlier e ∧ t.toNat ≤ graceEnd replacedAt

end History

theorem grace_end_eq (t : UInt64) :
    (if t > maxU64 - kRekeyGraceNs then maxU64 else t + kRekeyGraceNs).toNat = graceEnd t := by
  have top : maxU64.toNat = 2 ^ 64 - 1 := rfl
  have grace : kRekeyGraceNs.toNat = 5 * 10 ^ 9 := rfl
  have limit : (maxU64 - kRekeyGraceNs).toNat = 2 ^ 64 - 1 - 5 * 10 ^ 9 := rfl
  have bound := t.toNat_lt
  rw [graceEnd]
  by_cases late : t > maxU64 - kRekeyGraceNs
  · rw [if_pos late, top]
    have : (maxU64 - kRekeyGraceNs).toNat < t.toNat := late
    omega
  · rw [if_neg late, UInt64.toNat_add, grace]
    have : ¬ (maxU64 - kRekeyGraceNs).toNat < t.toNat := late
    omega

section Steps
variable {window : GmEpochWindow}

/-- What initialisation establishes and every call keeps. -/
structure Sound (window : GmEpochWindow) : Prop where
  sized : sizeofGmEpochWindow ≤ window.structSize
  version : window.abiVersion = gmAbiVersion
  positive : window.currentEpoch ≠ 0

theorem next_epoch_iff {current new : UInt32} :
    new ≠ 0 ∧ new = current + 1 ↔ new.toNat = current.toNat + 1 := by
  have bound := current.toNat_lt
  have zero (v : UInt32) : v = 0 ↔ v.toNat = 0 := UInt32.toNat_inj.symm
  have one : (1 : UInt32).toNat = 1 := rfl
  rw [ne_eq, zero, ← UInt32.toNat_inj, UInt32.toNat_add, one]
  have := new.toNat_lt
  omega

/-- A rekey commits exactly the next epoch and refuses every other one. -/
theorem begin_rekey_cases (sound : Sound window) (newEpoch : UInt32) (nowNs : UInt64) :
    newEpoch.toNat = window.currentEpoch.toNat + 1 ∧
      step window (.beginRekey newEpoch nowNs) =
        (⟨.ok, none⟩,
          { window with
            previousEpoch := window.currentEpoch
            currentEpoch := newEpoch
            hasPreviousEpoch := 1
            previousEpochExpiresNs :=
              if nowNs > maxU64 - kRekeyGraceNs then maxU64 else nowNs + kRekeyGraceNs }) ∨
    newEpoch.toNat ≠ window.currentEpoch.toNat + 1 ∧
      step window (.beginRekey newEpoch nowNs) = (⟨.badMessage, none⟩, window) := by
  have small : ¬ window.structSize < sizeofGmEpochWindow := Nat.not_lt.mpr sound.sized
  have record : (window.structSize < sizeofGmEpochWindow ||
      window.abiVersion ≠ gmAbiVersion) = false := by simp [small, sound.version]
  by_cases next : newEpoch.toNat = window.currentEpoch.toNat + 1
  · left
    obtain ⟨nonzero, succ⟩ := next_epoch_iff.mpr next
    have taken : (newEpoch = 0 || window.currentEpoch = 0 ||
        newEpoch ≠ window.currentEpoch + 1) = false := by simp [nonzero, sound.positive, ← succ]
    refine ⟨next, ?_⟩
    simp only [step, gmEpochWindowBeginRekey, record, taken, Bool.false_eq_true, if_false]
  · right
    have refused : (newEpoch = 0 || window.currentEpoch = 0 ||
        newEpoch ≠ window.currentEpoch + 1) = true := by
      have other := mt next_epoch_iff.mp next
      simp only [Bool.or_eq_true, decide_eq_true_eq]
      tauto
    refine ⟨next, ?_⟩
    simp only [step, gmEpochWindowBeginRekey, record, refused, Bool.false_eq_true, if_false,
      if_true]

theorem accept_step (sound : Sound window) {keyEpoch : UInt32} (nowNs : UInt64)
    (nonzero : keyEpoch ≠ 0) :
    step window (.accept keyEpoch nowNs) =
      (⟨.ok, some
        (if keyEpoch = window.currentEpoch then .current
        else if window.hasPreviousEpoch ≠ 0 && keyEpoch = window.previousEpoch &&
            nowNs ≤ window.previousEpochExpiresNs then .previousGrace
        else .rejected)⟩, window) := by
  have small : ¬ window.structSize < sizeofGmEpochWindow := Nat.not_lt.mpr sound.sized
  have record : (window.structSize < sizeofGmEpochWindow ||
      window.abiVersion ≠ gmAbiVersion || window.currentEpoch = 0) = false := by
    simp [small, sound.version, sound.positive]
  simp only [step, gmEpochWindowAccept, record, Bool.false_eq_true, if_false, nonzero]
  split
  · rfl
  split
  · rfl
  · rfl

theorem accept_keeps (keyEpoch : UInt32) (nowNs : UInt64) :
    (step window (.accept keyEpoch nowNs)).2 = window := rfl

end Steps

section Runs

/-- The window against the epochs committed so far. -/
structure Tracks (initial : UInt32) (committed : List (UInt32 × UInt64))
    (window : GmEpochWindow) : Prop extends Sound window where
  counted : (epochs initial committed).map UInt32.toNat =
    List.range' initial.toNat (committed.length + 1)
  current : IsCurrent initial committed window.currentEpoch
  fresh : committed = [] → window.hasPreviousEpoch = 0
  replaced : ∀ earlier last replacedAt, committed = earlier ++ [(last, replacedAt)] →
    window.hasPreviousEpoch ≠ 0 ∧ IsCurrent initial earlier window.previousEpoch ∧
      window.previousEpochExpiresNs.toNat = graceEnd replacedAt

theorem commits_snoc (past : List EpochEvent) (e : EpochEvent) :
    commits (past ++ [e]) = commits past ++ (commit? e).toList := by
  rw [commits, List.filterMap_append, commits]
  cases found : commit? e with
  | none => simp [found]
  | some entry => simp [found]

variable {initial : UInt32} {committed : List (UInt32 × UInt64)} {window : GmEpochWindow}

theorem current_toNat (tracks : Tracks initial committed window) :
    window.currentEpoch.toNat = initial.toNat + committed.length := by
  have last := congrArg List.getLast? tracks.counted
  rw [List.getLast?_map, tracks.current, List.getLast?_range'] at last
  simpa using last

theorem is_current_iff (tracks : Tracks initial committed window) (e : UInt32) :
    IsCurrent initial committed e ↔ e = window.currentEpoch := by
  rw [IsCurrent, tracks.current, Option.some.injEq, eq_comm]

theorem is_current_snoc (initial : UInt32) (committed : List (UInt32 × UInt64))
    (entry : UInt32 × UInt64) : IsCurrent initial (committed ++ [entry]) entry.1 := by
  rw [IsCurrent, epochs, List.map_append, List.map_singleton, ← List.cons_append,
    List.getLast?_concat]

theorem tracks_rekey (tracks : Tracks initial committed window) {newEpoch : UInt32}
    (next : newEpoch.toNat = window.currentEpoch.toNat + 1) (nowNs : UInt64) :
    Tracks initial (committed ++ [(newEpoch, nowNs)])
      { window with
        previousEpoch := window.currentEpoch
        currentEpoch := newEpoch
        hasPreviousEpoch := 1
        previousEpochExpiresNs :=
          if nowNs > maxU64 - kRekeyGraceNs then maxU64 else nowNs + kRekeyGraceNs } where
  sized := tracks.sized
  version := tracks.version
  positive := (next_epoch_iff.mpr next).1
  counted := by
    have count := tracks.counted
    have longer : List.range' initial.toNat (committed.length + 1 + 1) =
        List.range' initial.toNat (committed.length + 1) ++
          [initial.toNat + 1 * (committed.length + 1)] := List.range'_concat
    rw [current_toNat tracks] at next
    simp only [epochs, List.map_cons] at count
    simp only [epochs, List.map_append, List.map_cons, List.map_nil, List.length_append,
      List.length_singleton, ← List.cons_append, count, next]
    rw [longer, Nat.one_mul, Nat.add_assoc]
  current := is_current_snoc initial committed (newEpoch, nowNs)
  fresh := by simp
  replaced := by
    intro earlier last replacedAt split
    obtain ⟨rfl, entry⟩ := List.append_inj' split rfl
    cases entry
    have present : (1 : UInt8) ≠ 0 := by decide
    exact ⟨present, tracks.current, grace_end_eq _⟩

theorem tracks_of_run {start : GmEpochWindow} (tracks : Tracks initial [] start)
    (inputs : List EpochCall) :
    Tracks initial (commits (events step start inputs)) (final step start inputs) := by
  apply history_of_run step (fun past s => Tracks initial (commits past) s) tracks
  intro past s call held
  rw [commits_snoc]
  cases call with
  | accept keyEpoch nowNs =>
    rw [accept_keeps]
    simpa [commit?, event] using held
  | beginRekey newEpoch nowNs =>
    rcases begin_rekey_cases held.toSound newEpoch nowNs with ⟨next, taken⟩ | ⟨_, refused⟩
    · simpa [commit?, event, taken] using tracks_rekey held next nowNs
    · simpa [commit?, event, refused] using held

theorem init_tracks {window started : GmEpochWindow}
    (init : gmEpochWindowInit window initial = (.ok, started)) : Tracks initial [] started := by
  unfold gmEpochWindowInit at init
  split at init
  · cases init
  split at init
  · cases init
  rename_i sized nonzero
  obtain rfl := (Prod.mk.inj init).2
  exact {
    sized := Nat.not_lt.mp sized
    version := rfl
    positive := nonzero
    counted := by simp [epochs]
    current := rfl
    fresh := fun _ => rfl
    replaced := by simp }

/-- The window's own test of the previous epoch, in terms of the history. -/
theorem in_grace_iff (tracks : Tracks initial committed window) (e : UInt32) (t : UInt64) :
    InGrace initial committed e t ↔
      (window.hasPreviousEpoch ≠ 0 && e = window.previousEpoch &&
        t ≤ window.previousEpochExpiresNs) = true := by
  simp only [Bool.and_eq_true, decide_eq_true_eq]
  rcases List.eq_nil_or_concat committed with empty | ⟨earlier, ⟨last, replacedAt⟩, split⟩
  · refine iff_of_false ?_ fun held => held.1.1 (tracks.fresh empty)
    rintro ⟨earlier, last, replacedAt, split, _⟩
    simp [empty] at split
  · rw [List.concat_eq_append] at split
    obtain ⟨present, previous, expires⟩ := tracks.replaced earlier last replacedAt split
    constructor
    · rintro ⟨others, other, at', same, current, open'⟩
      obtain ⟨rfl, entry⟩ := List.append_inj' (split.symm.trans same) rfl
      cases entry
      refine ⟨⟨present, Option.some.inj (current.symm.trans previous)⟩, ?_⟩
      rw [UInt64.le_iff_toNat_le, expires]
      exact open'
    · rintro ⟨⟨_, rfl⟩, open'⟩
      rw [UInt64.le_iff_toNat_le, expires] at open'
      exact ⟨earlier, last, replacedAt, split, previous, open'⟩

/-- The previous epoch is one below the current one. -/
theorem in_grace_toNat (tracks : Tracks initial committed window) {e : UInt32} {t : UInt64}
    (grace : InGrace initial committed e t) : e.toNat + 1 = window.currentEpoch.toNat := by
  obtain ⟨earlier, last, replacedAt, rfl, current, _⟩ := grace
  have shorter : (epochs initial earlier).map UInt32.toNat =
      List.range' initial.toNat (earlier.length + 1) := by
    have count := tracks.counted
    rw [List.length_append, List.length_singleton, List.range'_concat] at count
    simp only [epochs, List.map_append, List.map_cons, List.map_nil, ← List.cons_append] at count
    exact (List.append_inj' count rfl).1
  have at' := congrArg List.getLast? shorter
  rw [List.getLast?_map, current, List.getLast?_range'] at at'
  have top := current_toNat tracks
  simp at at' top
  omega

theorem accept_of_run (tracks : Tracks initial committed window) {e : UInt32} (t : UInt64)
    (nonzero : e ≠ 0) :
    ∃ a, (step window (.accept e t)).1 = ⟨.ok, some a⟩ ∧
      (a = .current ↔ IsCurrent initial committed e) ∧
      (a = .previousGrace ↔ InGrace initial committed e t) ∧
      (a = .rejected ↔ ¬ IsCurrent initial committed e ∧ ¬ InGrace initial committed e t) := by
  have apart : e = window.currentEpoch → ¬ InGrace initial committed e t := by
    intro current grace
    have below := in_grace_toNat tracks grace
    rw [current] at below
    omega
  refine ⟨_, congrArg Prod.fst (accept_step tracks.toSound t nonzero), ?_⟩
  rw [in_grace_iff tracks] at apart
  rw [is_current_iff tracks, in_grace_iff tracks]
  generalize (window.hasPreviousEpoch ≠ 0 && e = window.previousEpoch &&
    t ≤ window.previousEpochExpiresNs) = inGrace at apart ⊢
  by_cases current : e = window.currentEpoch
  · simp [current, apart current]
  · cases inGrace <;> simp [current]

/-- An epoch behind the current one that the window does not accept at `t`. -/
def Spent (window : GmEpochWindow) (e : UInt32) (t : UInt64) : Prop :=
  e.toNat < window.currentEpoch.toNat ∧
    (window.hasPreviousEpoch ≠ 0 → e = window.previousEpoch → window.previousEpochExpiresNs < t)

theorem spent_rejected (sound : Sound window) {e : UInt32} {t : UInt64} (nonzero : e ≠ 0)
    (spent : Spent window e t) : (step window (.accept e t)).1 = ⟨.ok, some .rejected⟩ := by
  have behind : e ≠ window.currentEpoch := by
    intro same
    have := spent.1
    rw [same] at this
    omega
  have closed : (window.hasPreviousEpoch ≠ 0 && e = window.previousEpoch &&
      t ≤ window.previousEpochExpiresNs) = false := by
    rw [Bool.eq_false_iff]
    intro held
    simp only [Bool.and_eq_true, decide_eq_true_eq] at held
    exact absurd held.2 (UInt64.not_le.mpr (spent.2 held.1.1 held.1.2))
  rw [accept_step sound t nonzero, if_neg behind, if_neg (by rw [closed]; decide)]

/-- No call brings a spent epoch back. -/
theorem spent_kept (sound : Sound window) {e : UInt32} {t u : UInt64} (later : t ≤ u)
    (spent : Spent window e t) (call : EpochCall) : Spent (step window call).2 e u := by
  cases call with
  | accept keyEpoch nowNs =>
    refine ⟨spent.1, fun present previous => ?_⟩
    exact UInt64.lt_of_lt_of_le (spent.2 present previous) later
  | beginRekey newEpoch nowNs =>
    rcases begin_rekey_cases sound newEpoch nowNs with ⟨next, taken⟩ | ⟨_, refused⟩
    · rw [taken]
      refine ⟨by simp only [next]; exact Nat.lt_succ_of_lt spent.1, fun _ previous => ?_⟩
      exact absurd (previous ▸ spent.1) (Nat.lt_irrefl _)
    · rw [refused]
      refine ⟨spent.1, fun present previous => ?_⟩
      exact UInt64.lt_of_lt_of_le (spent.2 present previous) later

theorem step_sound (sound : Sound window) (call : EpochCall) : Sound (step window call).2 := by
  cases call with
  | accept keyEpoch nowNs => exact sound
  | beginRekey newEpoch nowNs =>
    rcases begin_rekey_cases sound newEpoch nowNs with ⟨next, taken⟩ | ⟨_, refused⟩
    · rw [taken]
      exact ⟨sound.sized, sound.version, (next_epoch_iff.mpr next).1⟩
    · rw [refused]
      exact sound

theorem spent_of_run {e : UInt32} {t : UInt64} (sound : Sound window) (spent : Spent window e t)
    (calls : List EpochCall) : Spent (final step window calls) e t := by
  have both := invariant_of_run step (fun s => Sound s ∧ Spent s e t) ⟨sound, spent⟩
    (fun s call held => ⟨step_sound held.1 call, spent_kept held.1 (UInt64.le_refl t) held.2 call⟩)
    calls
  exact both.2

theorem committed_le (tracks : Tracks initial committed window) {e : UInt32}
    (member : e ∈ epochs initial committed) :
    initial.toNat ≤ e.toNat ∧ e.toNat ≤ window.currentEpoch.toNat := by
  have inside : e.toNat ∈ (epochs initial committed).map UInt32.toNat :=
    List.mem_map_of_mem member
  rw [tracks.counted, List.mem_range'_1] at inside
  rw [current_toNat tracks]
  omega

/-- An epoch that was current and is rejected at `t` is spent. -/
theorem rejected_spent (tracks : Tracks initial committed window) {e : UInt32} {t : UInt64}
    (member : e ∈ epochs initial committed) (nonzero : e ≠ 0)
    (rejected : (step window (.accept e t)).1.acceptance = some .rejected) :
    Spent window e t := by
  obtain ⟨a, reply, _, _, verdict⟩ := accept_of_run tracks t nonzero
  rw [reply] at rejected
  obtain ⟨other, closed⟩ := verdict.mp (Option.some.inj rejected)
  rw [is_current_iff tracks] at other
  rw [in_grace_iff tracks] at closed
  have bound := (committed_le tracks member).2
  have differ : e.toNat ≠ window.currentEpoch.toNat := mt UInt32.toNat_inj.mp other
  refine ⟨Nat.lt_of_le_of_ne bound differ, fun present previous => ?_⟩
  apply UInt64.not_le.mp
  intro open'
  exact closed (by simp [present, previous, open'])

theorem accepted_pair (tracks : Tracks initial committed window) {e : UInt32} {t : UInt64}
    {a : GmEpochAcceptance} (answer : (step window (.accept e t)).1.acceptance = some a)
    (open' : a ≠ .rejected) : e = window.currentEpoch ∨ e = window.previousEpoch := by
  have nonzero : e ≠ 0 := by
    rintro rfl
    simp only [step, gmEpochWindowAccept, if_true] at answer
    split at answer
    · cases answer
    · cases answer
  rw [accept_step tracks.toSound t nonzero] at answer
  obtain rfl := Option.some.inj answer
  by_cases current : e = window.currentEpoch
  · exact .inl current
  · rw [if_neg current] at open'
    split at open'
    · rename_i grace
      simp only [Bool.and_eq_true, decide_eq_true_eq] at grace
      exact .inr grace.1.2
    · exact absurd rfl open'

end Runs

/-- In every run the window answers as the history of its commits says, accepts at most
    two epochs, rejects a spent epoch for ever, and commits the epochs one by one. -/
theorem epoch_window_over_runs {window started : GmEpochWindow} {initial : UInt32}
    (init : gmEpochWindowInit window initial = (.ok, started)) :
    (∀ (inputs : List EpochCall) (e : UInt32) (t : UInt64), e ≠ 0 →
      ∃ a, step (final step started inputs) (.accept e t) =
          (⟨.ok, some a⟩, final step started inputs) ∧
        (a = .current ↔ IsCurrent initial (commits (events step started inputs)) e) ∧
        (a = .previousGrace ↔ InGrace initial (commits (events step started inputs)) e t) ∧
        (a = .rejected ↔ ¬ IsCurrent initial (commits (events step started inputs)) e ∧
          ¬ InGrace initial (commits (events step started inputs)) e t)) ∧
    (∀ (inputs : List EpochCall) (t : UInt64), ∃ p q, ∀ (e : UInt32) (a : GmEpochAcceptance),
      (step (final step started inputs) (.accept e t)).1.acceptance = some a → a ≠ .rejected →
        e = p ∨ e = q) ∧
    (∀ (xs ys : List EpochCall) (e : UInt32) (t u : UInt64),
      ((xs ++ EpochCall.accept e t :: ys ++ [EpochCall.accept e u]).map EpochCall.now).Pairwise
        (· ≤ ·) →
      e ∈ epochs initial (commits (events step started xs)) →
      (step (final step started xs) (.accept e t)).1.acceptance = some .rejected →
        (step (final step started (xs ++ .accept e t :: ys)) (.accept e u)).1 =
          ⟨.ok, some .rejected⟩) ∧
    (∀ inputs : List EpochCall,
      (epochs initial (commits (events step started inputs))).map UInt32.toNat =
        List.range' initial.toNat ((commits (events step started inputs)).length + 1)) ∧
    ∀ (inputs : List EpochCall) (newEpoch current : UInt32) (t : UInt64),
      IsCurrent initial (commits (events step started inputs)) current →
        (newEpoch.toNat = current.toNat + 1 →
          (step (final step started inputs) (.beginRekey newEpoch t)).1.status = .ok) ∧
        (newEpoch.toNat ≠ current.toNat + 1 →
          step (final step started inputs) (.beginRekey newEpoch t) =
            (⟨.badMessage, none⟩, final step started inputs)) := by
  have tracks := tracks_of_run (init_tracks init)
  refine ⟨?_, ?_, ?_, fun inputs => (tracks inputs).counted, ?_⟩
  · intro inputs e t nonzero
    obtain ⟨a, reply, verdicts⟩ := accept_of_run (tracks inputs) t nonzero
    exact ⟨a, Prod.ext reply (accept_keeps e t), verdicts⟩
  · intro inputs t
    exact ⟨_, _, fun e a answer open' => accepted_pair (tracks inputs) answer open'⟩
  · intro xs ys e t u ordered member rejected
    have nonzero : e ≠ 0 := by
      have low := (committed_le (tracks xs) member).1
      have first := (committed_le (tracks []) (by simp [epochs, commits] :
        initial ∈ epochs initial (commits (events step started [])))).2
      rintro rfl
      have positive := (init_tracks init).positive
      have same : initial = started.currentEpoch :=
        (is_current_iff (init_tracks init) initial).mp rfl
      rw [← same] at positive
      exact positive (UInt32.toNat_inj.mp (Nat.le_zero.mp low))
    have later : t ≤ u := by
      simp only [List.map_append, List.map_cons, List.map_nil, List.append_assoc,
        List.cons_append] at ordered
      have tail := (List.pairwise_append.mp ordered).2.1
      exact (List.pairwise_cons.mp tail).1 u (by simp [EpochCall.now])
    have spent := rejected_spent (tracks xs) member nonzero rejected
    have kept := spent_of_run (tracks xs).toSound spent (.accept e t :: ys)
    rw [final_append]
    have sound := (tracks (xs ++ .accept e t :: ys)).toSound
    rw [final_append] at sound
    exact spent_rejected sound nonzero
      ⟨kept.1, fun present previous => UInt64.lt_of_lt_of_le (kept.2 present previous) later⟩
  · intro inputs newEpoch current t last
    rw [is_current_iff (tracks inputs)] at last
    subst last
    rcases begin_rekey_cases (tracks inputs).toSound newEpoch t with
    ⟨next, taken⟩ | ⟨other, refused⟩
    · exact ⟨fun _ => by rw [taken], fun other => absurd next other⟩
    · exact ⟨fun next => absurd next other, fun _ => refused⟩

def blankWindow : GmEpochWindow where
  structSize := sizeofGmEpochWindow
  abiVersion := 0
  currentEpoch := 0
  previousEpoch := 0
  previousEpochExpiresNs := 0
  hasPreviousEpoch := 0

/-- Two rekeys within the grace period: the first epoch is gone at once, and for ever. -/
theorem epoch_window_sample :
    (step (final step (gmEpochWindowInit blankWindow 7).2
        ([.beginRekey 8 1000, .beginRekey 9 2000] ++ .accept 7 2000 :: []))
      (.accept 7 2500)).1 = ⟨.ok, some .rejected⟩ := by
  have init : gmEpochWindowInit blankWindow 7 = (.ok, (gmEpochWindowInit blankWindow 7).2) := rfl
  exact (epoch_window_over_runs init).2.2.1 [.beginRekey 8 1000, .beginRekey 9 2000] [] 7 2000 2500
    (by decide) (by decide) (by decide)

end GhostMedia.Epochs
