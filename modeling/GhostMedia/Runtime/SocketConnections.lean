import GhostMedia.Runtime.SocketSafety
import Mathlib.Data.List.Induction

/- How a connection comes about, by accepting or connecting: what it does on the way, how it is
   left, and that a clock that advances ends it. -/
namespace GhostMedia.Runtime.SocketProvider
open Dialogue Monitor

/-- Every reading after the first one came before the deadline that the first one sets. -/
def Early (timeoutMs : UInt32) : List Nat → Prop
  | [] => True
  | first :: rest => ∀ now ∈ rest, now < deadlineAfter timeoutMs first

/-- The readings of the clock, which is not read again after a late one. -/
def timing (timeoutMs : UInt32) : Monitor Answer (List Nat) where
  allows readings c := c = .now → Early timeoutMs readings
  next
    | readings, ⟨.now, now⟩ =>
      let reading : Nat := now
      readings ++ [reading]
    | readings, _ => readings

theorem increasing_length {low high : Nat} {l : List Nat} (increasing : l.Pairwise (· < ·))
    (within : ∀ x ∈ l, low ≤ x ∧ x < high) : l.length ≤ high - low := by
  induction l generalizing low with
  | nil => exact Nat.zero_le _
  | cons x l ih =>
    obtain ⟨above, later⟩ := List.pairwise_cons.mp increasing
    have here := within x List.mem_cons_self
    have rest := ih later fun y member => ⟨above y member, (within y (.tail _ member)).2⟩
    rw [List.length_cons]
    omega

theorem early_length {timeoutMs : UInt32} {readings : List Nat} (accepted : timeoutMs ≠ 0)
    (early : Early timeoutMs readings) (increasing : readings.Pairwise (· < ·)) :
    readings.length ≤ timeoutMs.toNat * 1000000 := by
  have positive : 0 < timeoutMs.toNat :=
    Nat.pos_of_ne_zero fun zero => accepted (UInt32.toNat_inj.mp zero)
  cases readings with
  | nil => exact Nat.zero_le _
  | cons first rest =>
    have within : ∀ now ∈ first :: rest, first ≤ now ∧ now < deadlineAfter timeoutMs first := by
      intro now member
      cases member with
      | head => exact ⟨Nat.le_refl _, Nat.lt_add_of_pos_right (by omega)⟩
      | tail _ later =>
        exact ⟨Nat.le_of_lt (List.rel_of_pairwise_cons increasing later), early now later⟩
    have length := increasing_length increasing within
    rwa [deadlineAfter, Nat.add_sub_cancel_left] at length

section Timing
variable {α β : Type} {platform : Platform} {timeoutMs : UInt32} {turns first : Nat}
  {readings : List Nat}

theorem early_nil : Early timeoutMs [] := trivial

theorem early_first : Early timeoutMs [first] := nofun

theorem next_other {c : Call} (other : c ≠ .now) (answer : Answer c) :
    (timing timeoutMs).next readings ⟨c, answer⟩ = readings := by
  cases c <;> first | rfl | exact absurd rfl other

theorem early_reading {middle : List Nat} {now : Nat} (early : Early timeoutMs (first :: middle))
    (before : ¬ deadlineAfter timeoutMs first ≤ now) :
    Early timeoutMs (first :: (middle ++ [now])) := by
  intro t member
  rcases List.mem_append.mp member with earlier | last
  · exact early t earlier
  · exact List.mem_singleton.mp last ▸ Nat.lt_of_not_le before

/-- All readings but the last one are early. -/
theorem allowed_early {past : List (Event Answer)} (allowed : (timing timeoutMs).Allowed [] past) :
    Early timeoutMs ((timing timeoutMs).after [] past).dropLast := by
  induction past using List.reverseRecOn with
  | nil => exact trivial
  | append_singleton past e ih =>
    have before : (timing timeoutMs).Allowed [] past := by
      intro front d back split
      exact allowed front d (back ++ [e]) (by rw [split]; simp)
    rw [after_snoc]
    by_cases reads : e.call = .now
    · obtain ⟨c, now⟩ := e
      subst reads
      have early := allowed past _ [] rfl rfl
      exact (congrArg (Early timeoutMs) (List.dropLast_concat (b := now))).mpr early
    · rw [next_other reads e.answer]
      exact ih before

/-- A program that never reads the clock and never fails. -/
def Quiet (p : Run α) : Prop :=
  ∀ timeoutMs readings failed,
    (timing timeoutMs).Obeys (fun next _ => next = readings) failed readings p

theorem read_clock {next : Answer .now → Run β} {post : List Nat → β → Prop}
    {failed : List Nat → Failure → Prop} (early : Early timeoutMs readings)
    (after : ∀ now : Nat, (timing timeoutMs).Obeys post failed (readings ++ [now]) (next now)) :
    (timing timeoutMs).Obeys post failed readings (system .now >>= next) :=
  ⟨fun _ => early, after⟩

theorem other_call {c : Call} {next : Answer c → Run β} {post : List Nat → β → Prop}
    {failed : List Nat → Failure → Prop} (other : c ≠ .now)
    (after : ∀ answer, (timing timeoutMs).Obeys post failed readings (next answer)) :
    (timing timeoutMs).Obeys post failed readings (system c >>= next) := by
  refine ⟨fun reads => absurd reads other, ?_⟩
  intro answer
  rw [next_other other]
  exact after answer

theorem quiet_call {c : Call} (other : c ≠ .now) : Quiet (system c) :=
  fun _ _ _ => ⟨fun reads => absurd reads other, next_other other⟩

theorem quiet_then {p : Run α} {next : α → Run β} {post : List Nat → β → Prop}
    {failed : List Nat → Failure → Prop} (quiet : Quiet p)
    (after : ∀ a, (timing timeoutMs).Obeys post failed readings (next a)) :
    (timing timeoutMs).Obeys post failed readings (p >>= next) := by
  apply obeys_bind (quiet timeoutMs readings failed)
  intro _ a same
  subst same
  exact after a

theorem quiet_and_then {p : Run (Except Int α)} {next : α → Run (Except Int β)}
    (first : Quiet p) (second : ∀ a, Quiet (next a)) : Quiet (andThen p next) := by
  intro timeoutMs readings failed
  apply quiet_then first
  intro result
  cases result with
  | error code => exact rfl
  | ok a => exact second a timeoutMs readings failed

theorem set_timeouts_quiet (socket : Descriptor) (ms : UInt32) :
    Quiet (setTimeouts platform socket ms) := by
  unfold setTimeouts
  apply quiet_and_then (quiet_call (by simp))
  intro _
  apply quiet_and_then (quiet_call (by simp))
  intro _
  cases platform with
  | apple => exact quiet_call (by simp)
  | windows => exact fun _ _ _ => rfl
  | posix => exact fun _ _ _ => rfl

theorem set_nonblocking_quiet (socket : Descriptor) (enabled : Bool) :
    Quiet (setNonblocking platform socket enabled) := by
  cases platform with
  | windows => exact quiet_call (by simp)
  | apple | posix =>
    apply quiet_and_then (quiet_call (by simp))
    exact fun _ => quiet_call (by simp)

theorem settle_quiet (socket : Descriptor) :
    Quiet (andThen (setNonblocking platform socket false) fun _ =>
      setTimeouts platform socket timeoutMs) :=
  quiet_and_then (set_nonblocking_quiet socket false) fun _ => set_timeouts_quiet socket timeoutMs

theorem runtime_quiet : Quiet (ensureSocketRuntime platform) := by
  cases platform with
  | windows => exact quiet_call (by simp)
  | apple => exact fun _ _ _ => rfl
  | posix => exact fun _ _ _ => rfl

/-- What is still running has read the clock more often than it has turns, and always early. -/
def Late (timeoutMs : UInt32) (turns : Nat) (readings : List Nat) (failure : Failure) : Prop :=
  failure = .running → Early timeoutMs readings ∧ turns < readings.length

/-- The readings so far, early ones unless time has run out. -/
def Timed (timeoutMs : UInt32) (first : Nat) (inTime : Prop) (readings : List Nat) : Prop :=
  ∃ more, readings = first :: more ∧ (inTime → Early timeoutMs readings)

theorem wait_loop_late {middle : List Nat} (early : Early timeoutMs (first :: middle))
    (socket : Descriptor) (writable : Bool) :
    (timing timeoutMs).Obeys
      (fun next result => Timed timeoutMs first (result ≠ .timeout) next)
      (Late timeoutMs (middle.length + turns)) (first :: middle)
      (waitLoop platform socket writable (deadlineAfter timeoutMs first) turns) := by
  induction turns generalizing middle with
  | zero => exact fun _ => ⟨early, Nat.lt_succ_self _⟩
  | succ turns ih =>
    unfold waitLoop
    apply read_clock early
    intro now
    split
    · exact ⟨middle ++ [now], rfl, fun inTime => absurd rfl inTime⟩
    rename_i before
    have still := early_reading early before
    apply other_call (by simp)
    intro (answer : Except Int Bool)
    cases answer with
    | ok ready => cases ready <;> exact ⟨_, rfl, fun _ => still⟩
    | error code =>
      dsimp only
      split
      · have goesOn := ih still
        rw [List.length_append, List.length_singleton, Nat.add_assoc, Nat.add_comm 1] at goesOn
        exact goesOn
      · exact ⟨_, rfl, fun _ => still⟩

theorem wait_late {middle : List Nat} (early : Early timeoutMs (first :: middle))
    (socket : Descriptor) (writable : Bool) :
    (timing timeoutMs).Obeys
      (fun next result => Timed timeoutMs first (result ≠ .timeout) next)
      (Late timeoutMs turns) (first :: middle)
      (waitForSocket platform socket writable (deadlineAfter timeoutMs first) turns) := by
  unfold waitForSocket
  split
  · exact ⟨middle, rfl, fun _ => early⟩
  · apply obeys_mono (wait_loop_late early socket writable) fun _ _ timed => timed
    intro next failure late running
    obtain ⟨still, more⟩ := late running
    exact ⟨still, Nat.lt_of_le_of_lt (Nat.le_add_left _ _) more⟩

theorem make_handle_late (early : Early timeoutMs readings) (socket : Descriptor) :
    (timing timeoutMs).Obeys (fun _ _ => True) (Late timeoutMs turns) readings
      (makeHandle socket timeoutMs) := by
  apply other_call (by simp)
  intro (allocated : Bool)
  cases allocated with
  | false => exact other_call (by simp) fun _ => nofun
  | true => exact read_clock early fun _ => trivial

theorem abandon_quiet (socket : Descriptor) (attempt : Attempt) : Quiet (abandon socket attempt) :=
  quiet_call (by simp)

theorem establish_quiet (socket : Descriptor) : Quiet (establish platform timeoutMs socket) := by
  intro ms readings failed
  apply quiet_then (settle_quiet socket)
  intro result
  cases result with
  | error code => exact abandon_quiet socket _ _ _ _
  | ok _ => exact rfl

theorem accept_late (listener : TcpSocket) :
    (timing timeoutMs).Obeys (fun _ _ => True) (Late timeoutMs turns) []
      (gmRuntimeTcpAccept platform timeoutMs turns listener) := by
  unfold gmRuntimeTcpAccept
  split
  · exact nofun
  apply read_clock early_nil
  intro start
  apply obeys_bind (wait_late early_first _ _)
  rintro readings result ⟨more, rfl, inTime⟩
  cases result with
  | timeout => exact nofun
  | error code => exact nofun
  | ready =>
    have early := inTime (by simp)
    apply other_call (by simp)
    intro (answer : Except Int Descriptor)
    cases answer with
    | error code => exact nofun
    | ok accepted =>
      apply quiet_then (settle_quiet accepted)
      intro result
      cases result with
      | error code => exact other_call (by simp) fun _ => nofun
      | ok _ => exact make_handle_late early accepted

theorem try_address_late {middle : List Nat} (early : Early timeoutMs (first :: middle))
    (address : AddrInfo) :
    (timing timeoutMs).Obeys
      (fun next attempt => Timed timeoutMs first (attempt ≠ .timedOut) next)
      (Late timeoutMs turns) (first :: middle)
      (tryAddress platform timeoutMs turns (deadlineAfter timeoutMs first) address) := by
  have quiet {r : List Nat} {p : Run Attempt} (still : Early timeoutMs (first :: r))
      (quiet : Quiet p) : (timing timeoutMs).Obeys
        (fun next attempt => Timed timeoutMs first (attempt ≠ .timedOut) next)
        (Late timeoutMs turns) (first :: r) p := by
    apply obeys_mono (quiet _ _ _) _ fun _ _ late => late
    exact fun next _ same => ⟨r, same, fun _ => same ▸ still⟩
  unfold tryAddress
  apply other_call (by simp)
  intro (answer : Except Int Descriptor)
  cases answer with
  | error code => exact ⟨middle, rfl, fun _ => early⟩
  | ok candidate =>
    apply quiet_then (set_nonblocking_quiet candidate true)
    intro result
    cases result with
    | error code => exact quiet early (abandon_quiet candidate _)
    | ok _ =>
      apply other_call (by simp)
      intro (answer : Except Int Unit)
      cases answer with
      | ok _ => exact quiet early (establish_quiet candidate)
      | error code =>
        dsimp only
        split
        · exact quiet early (abandon_quiet candidate _)
        apply obeys_bind (wait_late early _ _)
        rintro readings result ⟨more, rfl, inTime⟩
        cases result with
        | timeout =>
          apply other_call (by simp)
          exact fun _ => ⟨more, rfl, fun inTime => absurd rfl inTime⟩
        | error code => exact quiet (inTime (by simp)) (abandon_quiet candidate _)
        | ready =>
          have still := inTime (by simp)
          apply other_call (by simp)
          intro (answer : Except Int Int)
          cases answer with
          | error code => exact quiet still (abandon_quiet candidate _)
          | ok pending =>
            dsimp only
            split
            · exact quiet still (abandon_quiet candidate _)
            · exact quiet still (establish_quiet candidate)

theorem connect_loop_late {middle : List Nat} (early : Early timeoutMs (first :: middle))
    (addresses : List AddrInfo) (lastCode : Int) :
    (timing timeoutMs).Obeys
      (fun next attempt => ∀ socket, attempt = .connected socket → Early timeoutMs next)
      (Late timeoutMs turns) (first :: middle)
      (connectLoop platform timeoutMs turns (deadlineAfter timeoutMs first) addresses
        lastCode) := by
  induction addresses generalizing middle lastCode with
  | nil =>
    intro _ same
    cases same
  | cons address rest ih =>
    unfold connectLoop
    apply read_clock early
    intro now
    split
    · intro _ same
      cases same
    rename_i before
    have still := early_reading early before
    apply obeys_bind (try_address_late still address)
    rintro readings attempt ⟨more, rfl, inTime⟩
    cases attempt with
    | failed code => exact ih (inTime (by simp)) code
    | timedOut =>
      intro _ same
      cases same
    | connected socket => exact fun _ _ => inTime (by simp)

theorem connect_late (host : List UInt8) (port : UInt16) :
    (timing timeoutMs).Obeys (fun _ _ => True) (Late timeoutMs turns) []
      (gmRuntimeTcpConnect platform timeoutMs turns host port) := by
  unfold gmRuntimeTcpConnect
  split
  · exact nofun
  apply quiet_then runtime_quiet
  intro ready
  split
  · apply other_call (by simp)
    intro (answer : Except Int AddrList)
    cases answer with
    | error code => exact nofun
    | ok addresses =>
      apply read_clock early_nil
      intro start
      apply obeys_bind (connect_loop_late early_first _ 0)
      intro readings attempt inTime
      apply other_call (by simp)
      intro _
      cases attempt with
      | failed code => exact nofun
      | timedOut => exact nofun
      | connected socket => exact make_handle_late (inTime socket rfl) socket
  · exact nofun

end Timing

/-- The two ways to a connection, with what is held before. -/
inductive Opening (platform : Platform) (timeoutMs : UInt32) (turns : Nat) (h : List Resource) :
    Run TcpSocket → Prop
  | accept {listener : TcpSocket} (live : .socket listener.value ∈ h) :
    Opening platform timeoutMs turns h (gmRuntimeTcpAccept platform timeoutMs turns listener)
  | connect (host : List UInt8) (port : UInt16) :
    Opening platform timeoutMs turns h (gmRuntimeTcpConnect platform timeoutMs turns host port)

theorem opening_late {platform : Platform} {timeoutMs : UInt32} {turns : Nat} {h : List Resource}
    {p : Run TcpSocket} (opening : Opening platform timeoutMs turns h p) :
    (timing timeoutMs).Obeys (fun _ _ => True) (Late timeoutMs turns) [] p := by
  cases opening with
  | accept live => exact accept_late _
  | connect host port => exact connect_late host port

/-- No time at all is refused before anything is called. -/
theorem refused_run {platform : Platform} {turns : Nat} {h : List Resource} {p q : Run TcpSocket}
    {past : List (Event Answer)} (opening : Opening platform 0 turns h p)
    (run : Reaches p past q) : past = [] ∧ q = badArgument := by
  have refused : p = badArgument := by
    cases opening with
    | accept live => exact if_pos rfl
    | connect host port => exact if_pos (.inr (.inr rfl))
  subst refused
  exact reaches_fail run

/-- Whatever the system answers: nothing is used that is not held, waits end by the deadline
    and addresses are tried in their order, once; a connection is handed over connected and
    blocking, with nothing else left open, and a failure leaves nothing open. A clock that
    advances between its readings is read at most once for each nanosecond and once more, so
    that as many turns are enough. -/
theorem connection_conduct {platform : Platform} {timeoutMs : UInt32} {turns : Nat}
    {h : List Resource} {p : Run TcpSocket} (opening : Opening platform timeoutMs turns h p)
    {past : List (Event Answer)} {q : Run TcpSocket} (run : Reaches p past q) :
    (watching platform timeoutMs).Allowed { held := h } past ∧
      (∀ handle, q = .done handle →
        Connected h timeoutMs ((watching platform timeoutMs).after { held := h } past) handle) ∧
      (∀ failure, q = .fail failure → failure ≠ .running →
        ((watching platform timeoutMs).after { held := h } past).held = h) ∧
      (((timing timeoutMs).after [] past).Pairwise (· < ·) →
        ((timing timeoutMs).after [] past).length ≤ timeoutMs.toNat * 1000000 + 1 ∧
          (timeoutMs.toNat * 1000000 ≤ turns → q ≠ .fail .running)) := by
  have obeys : (watching platform timeoutMs).Obeys (Connected h timeoutMs) (Returns h)
      { held := h } p := by
    cases opening with
    | accept live => exact accept_obeys turns _ live
    | connect host port => exact connect_obeys turns host port
  obtain ⟨allowed, ends⟩ := obeys_reaches obeys run
  obtain ⟨early, late⟩ := obeys_reaches (opening_late opening) run
  refine ⟨allowed, ?_, ?_, ?_⟩
  · intro handle done
    subst done
    exact ends
  · intro failure failed ended
    subst failed
    exact ends ended
  intro increasing
  by_cases accepted : timeoutMs = 0
  · obtain ⟨rfl, rfl⟩ := refused_run (accepted ▸ opening) run
    exact ⟨Nat.zero_le _, fun _ => by simp [badArgument]⟩
  constructor
  · have all := early_length accepted (allowed_early early)
      (increasing.sublist (List.dropLast_sublist _))
    rw [List.length_dropLast] at all
    omega
  · intro enough running
    subst running
    obtain ⟨still, more⟩ := late rfl
    have all := early_length accepted still increasing
    omega

/-- The first address refuses, the second one takes its time. -/
theorem sample_connection : ∃ past,
    Reaches (gmRuntimeTcpConnect .posix 1000 2 [104] 443) past (.done ⟨4, 9, 1000⟩) ∧
      ((watching .posix 1000).after { held := [] } past).held = [.socket 4] := by
  have run : Reaches (gmRuntimeTcpConnect .posix 1000 2 [104] 443)
      [⟨.getAddresses 0 1 6 [104] 443, .ok ⟨⟨10, 1, 6, [1]⟩, [⟨2, 1, 6, [2]⟩]⟩⟩, ⟨.now, (1 : Nat)⟩,
        ⟨.now, (2 : Nat)⟩, ⟨.socket 10 1 6, .ok 3⟩, ⟨.getFlags 3, .ok 2⟩,
        ⟨.setFlags 3 2050, .ok ()⟩, ⟨.connect 3 ⟨10, 1, 6, [1]⟩, .error 111⟩, ⟨.close 3, ()⟩,
        ⟨.now, (3 : Nat)⟩, ⟨.socket 2 1 6, .ok 4⟩, ⟨.getFlags 4, .ok 2⟩,
        ⟨.setFlags 4 2050, .ok ()⟩, ⟨.connect 4 ⟨2, 1, 6, [2]⟩, .error 115⟩, ⟨.now, (4 : Nat)⟩,
        ⟨.select 4 true 999999, .ok true⟩, ⟨.pendingError 4, .ok 0⟩, ⟨.getFlags 4, .ok 2050⟩,
        ⟨.setFlags 4 2, .ok ()⟩, ⟨.setOption 4 (.receiveTimeout (.timeval 1 0)), .ok ()⟩,
        ⟨.setOption 4 (.sendTimeout (.timeval 1 0)), .ok ()⟩, ⟨.freeAddresses, ()⟩,
        ⟨.allocate, true⟩, ⟨.now, (9 : Nat)⟩] (.done ⟨4, 9, 1000⟩) := by
    repeat apply reaches_cons
    exact .start
  exact ⟨_, run, (connection_conduct (.connect [104] 443) run).2.1 _ rfl |>.held⟩

end GhostMedia.Runtime.SocketProvider
