import GhostMedia.Foundation.Monitors
import GhostMedia.Runtime.SocketProvider

/- What the socket provider never does, whatever the system answers: leak a socket or an address
   list, use or close one that it does not hold, wait beyond a deadline, try an address twice. -/
namespace GhostMedia.Runtime.SocketProvider
open Dialogue Monitor

inductive Resource where
  | socket (descriptor : Descriptor)
  | addresses
  deriving DecidableEq

/-- What a call uses, and must not use once it has been given back. -/
@[simp] def Call.uses : Call → List Resource
  | .setOption s _ | .getFlags s | .setFlags s _ | .setMode s _ | .bind s _ | .listen s _
  | .select s _ _ | .accept s | .pendingError s | .receiveFrom s _ | .close s => [.socket s]
  | .connect s _ | .sendTo s _ _ => [.socket s, .addresses]
  | .freeAddresses => [.addresses]
  | _ => []

/-- What has been seen of a function: what is held, the clock if it has just been read, the
    deadline from its first reading, the addresses found and tried, and the sockets last known
    to be connected and to block. -/
structure Watch where
  held : List Resource
  reading : Option Nat := none
  deadline : Option Nat := none
  addresses : List AddrInfo := []
  tried : List AddrInfo := []
  established : Option Descriptor := none
  blocking : Option Descriptor := none

/-- Nothing is used that is not held; a wait ends by the deadline; the addresses are tried in
    their order, each at most once; datagrams have their size. -/
def Watch.allows (w : Watch) (c : Call) : Prop :=
  (∀ r ∈ c.uses, r ∈ w.held) ∧
    match c with
    | .select _ _ microseconds => ∃ now deadline, w.reading = some now ∧
        w.deadline = some deadline ∧ now + 1000 * microseconds ≤ deadline
    | .connect _ address => (w.tried ++ [address]).Sublist w.addresses
    | .sendTo _ datagram address => address ∈ w.addresses ∧
        gmMediaMinDatagramBytes ≤ datagram.length ∧ datagram.length ≤ gmMediaMaxDatagramBytes
    | _ => True

section Watching
variable (platform : Platform) (timeoutMs : UInt32)

def Watch.next (w : Watch) : Event Answer → Watch
  | ⟨.now, now⟩ =>
    { w with
      reading := some now
      deadline := some (w.deadline.getD (deadlineAfter timeoutMs now)) }
  | ⟨.socket .., .ok s⟩ =>
    { w with reading := none, held := .socket s :: w.held, established := none }
  | ⟨.accept _, .ok s⟩ =>
    { w with reading := none, held := .socket s :: w.held, established := some s }
  | ⟨.connect s address, .ok ()⟩ =>
    { w with reading := none, tried := w.tried ++ [address], established := some s }
  | ⟨.connect _ address, .error _⟩ => { w with reading := none, tried := w.tried ++ [address] }
  | ⟨.pendingError s, .ok code⟩ =>
    { w with reading := none, established := if code = 0 then some s else w.established }
  | ⟨.setFlags s flags, .ok ()⟩ =>
    { w with
      reading := none
      blocking := if flags &&& oNonblock platform = 0 then some s else none }
  | ⟨.setMode s nonblocking, .ok ()⟩ =>
    { w with reading := none, blocking := if nonblocking = 0 then some s else none }
  | ⟨.getAddresses .., .ok found⟩ =>
    { w with
      reading := none
      held := .addresses :: w.held
      addresses := found.first :: found.next
      tried := [] }
  | ⟨.freeAddresses, _⟩ => { w with reading := none, held := w.held.erase .addresses }
  | ⟨.close s, _⟩ => { w with reading := none, held := w.held.erase (.socket s) }
  | _ => { w with reading := none }

def watching : Monitor Answer Watch where
  allows := Watch.allows
  next := Watch.next platform timeoutMs

end Watching

/-- Nothing has been seen but time. -/
def Kept (w next : Watch) : Prop := ∃ reading, next = { w with reading := reading }

/-- Nothing has been seen but time, and how a socket waits. -/
def Moded (w next : Watch) : Prop :=
  ∃ reading blocking, next = { w with reading := reading, blocking := blocking }

section Helpers
variable {platform : Platform} {timeoutMs : UInt32} {failed : Watch → Failure → Prop} {w : Watch}
  {socket : Descriptor}

theorem and_then_obeys {α β : Type} {first : Run (Except Int α)} {next : α → Run (Except Int β)}
    {mid : Watch → Except Int α → Prop} {post : Watch → Except Int β → Prop}
    (obeys : (watching platform timeoutMs).Obeys mid failed w first)
    (error : ∀ w code, mid w (.error code) → post w (.error code))
    (ok : ∀ w a, mid w (.ok a) → (watching platform timeoutMs).Obeys post failed w (next a)) :
    (watching platform timeoutMs).Obeys post failed w (andThen first next) := by
  apply obeys_bind obeys
  intro w result reached
  cases result with
  | error code => exact error w code reached
  | ok a => exact ok w a reached

theorem system_obeys {β : Type} {c : Call} {next : Answer c → Run β} {post : Watch → β → Prop}
    (allowed : w.allows c) (after : ∀ answer, (watching platform timeoutMs).Obeys post failed
      (w.next platform timeoutMs ⟨c, answer⟩) (next answer)) :
    (watching platform timeoutMs).Obeys post failed w (system c >>= next) :=
  ⟨allowed, after⟩

theorem kept_refl (w : Watch) : Kept w w := ⟨w.reading, rfl⟩

theorem kept_trans {v u : Watch} (first : Kept w v) (second : Kept v u) : Kept w u := by
  obtain ⟨_, rfl⟩ := first
  obtain ⟨_, rfl⟩ := second
  exact ⟨_, rfl⟩

theorem kept_held {next : Watch} (kept : Kept w next) : next.held = w.held := by
  obtain ⟨_, rfl⟩ := kept
  rfl

/-- An option of a socket that is held, since when nothing has been seen but time. -/
theorem set_option_obeys (held : .socket socket ∈ w.held) {v : Watch} (kept : Kept w v)
    (option : SocketOption) :
    (watching platform timeoutMs).Obeys (fun next _ => Kept w next) failed v
      (system (.setOption socket option)) := by
  constructor
  · exact ⟨by simpa [Call.uses, kept_held kept] using held, trivial⟩
  · intro answer
    exact kept_trans kept ⟨none, rfl⟩

theorem set_timeouts_obeys (held : .socket socket ∈ w.held) (ms : UInt32) :
    (watching platform timeoutMs).Obeys (fun next _ => Kept w next) failed w
      (setTimeouts platform socket ms) := by
  unfold setTimeouts
  apply and_then_obeys (set_option_obeys held (kept_refl w) _) fun _ _ kept => kept
  intro v _ first
  apply and_then_obeys (set_option_obeys held first _) fun _ _ kept => kept
  intro u _ second
  cases platform with
  | apple => exact set_option_obeys held second _
  | windows => exact second
  | posix => exact second

theorem cleared_flags (platform : Platform) (flags : UInt32) :
    (flags &&& ~~~oNonblock platform) &&& oNonblock platform = 0 := by
  rw [UInt32.and_assoc, UInt32.not_and_self, UInt32.and_zero]

theorem set_nonblocking_obeys (held : .socket socket ∈ w.held) (enabled : Bool) :
    (watching platform timeoutMs).Obeys
      (fun next result => Moded w next ∧
        (enabled = false → result = .ok () → next.blocking = some socket)) failed w
      (setNonblocking platform socket enabled) := by
  have flagged (v : Watch) (kept : Kept w v) (flags : UInt32)
      (clears : enabled = false → flags &&& oNonblock platform = 0) :
      (watching platform timeoutMs).Obeys
        (fun next result => Moded w next ∧
          (enabled = false → result = .ok () → next.blocking = some socket)) failed v
        (system (.setFlags socket flags)) := by
    refine ⟨⟨by simpa [Call.uses, kept_held kept] using held, trivial⟩, ?_⟩
    intro (answer : Except Int Unit)
    obtain ⟨_, rfl⟩ := kept
    cases answer with
    | error code => exact ⟨⟨none, w.blocking, rfl⟩, fun _ same => by cases same⟩
    | ok _ => exact ⟨⟨none, _, rfl⟩, fun off _ => if_pos (clears off)⟩
  have gets : (watching platform timeoutMs).Obeys (fun next _ => Kept w next) failed w
      (system (.getFlags socket)) := by
    refine ⟨⟨by simpa [Call.uses] using held, trivial⟩, ?_⟩
    intro (answer : Except Int UInt32)
    exact ⟨none, rfl⟩
  unfold setNonblocking
  cases platform
  case windows =>
    refine ⟨⟨by simpa [Call.uses] using held, trivial⟩, ?_⟩
    intro (answer : Except Int Unit)
    cases answer with
    | error code => exact ⟨⟨none, w.blocking, rfl⟩, fun _ same => by cases same⟩
    | ok _ =>
      refine ⟨⟨none, _, rfl⟩, ?_⟩
      intro off _
      subst off
      rfl
  all_goals
    apply and_then_obeys gets
    · intro v code kept
      obtain ⟨reading, rfl⟩ := kept
      exact ⟨⟨reading, w.blocking, rfl⟩, fun _ same => by cases same⟩
    · intro v flags kept
      apply flagged v kept
      intro off
      rw [off, if_neg Bool.false_ne_true]
      exact cleared_flags _ flags

theorem reading_after {deadline : Nat} (limit : w.deadline = some deadline) (now : Nat) :
    w.next platform timeoutMs ⟨.now, now⟩ = { w with reading := some now } := by
  cases w
  cases limit
  rfl

/-- The first reading sets the deadline. -/
theorem reading_first (unset : w.deadline = none) (now : Nat) :
    w.next platform timeoutMs ⟨.now, now⟩ =
      { w with reading := some now, deadline := some (deadlineAfter timeoutMs now) } := by
  unfold Watch.next
  dsimp only
  rw [unset, Option.getD_none]

/-- A wait for a socket that is held, until the deadline. -/
theorem wait_loop_obeys (held : .socket socket ∈ w.held) {deadline : Nat}
    (limit : w.deadline = some deadline) (running : ∀ v, failed v .running) (writable : Bool)
    (turns : Nat) :
    (watching platform timeoutMs).Obeys (fun next _ => Kept w next) failed w
      (waitLoop platform socket writable deadline turns) := by
  induction turns generalizing w with
  | zero => exact running w
  | succ turns ih =>
    unfold waitLoop
    apply system_obeys ⟨by simp [Call.uses], trivial⟩
    intro (now : Nat)
    rw [reading_after limit]
    split
    · exact ⟨some now, rfl⟩
    rename_i early
    have inTime : now + 1000 * ((deadline - now) / 1000) ≤ deadline := by omega
    have allowed : ({ w with reading := some now } : Watch).allows
        (.select socket writable ((deadline - now) / 1000)) :=
      ⟨by simpa [Call.uses] using held, now, deadline, rfl, limit, inTime⟩
    apply system_obeys allowed
    intro (answer : Except Int Bool)
    have selected : ({ w with reading := some now } : Watch).next platform timeoutMs
        ⟨.select socket writable ((deadline - now) / 1000), answer⟩ =
          { w with reading := none } := rfl
    rw [selected]
    have kept : Kept w { w with reading := none } := ⟨none, rfl⟩
    cases answer with
    | ok ready => cases ready <;> exact kept
    | error code =>
      dsimp only
      split
      · apply obeys_mono (ih (w := { w with reading := none }) held limit)
        · exact fun _ _ later => kept_trans kept later
        · exact fun _ _ fails => fails
      · exact kept

theorem wait_obeys (held : .socket socket ∈ w.held) {deadline : Nat}
    (limit : w.deadline = some deadline) (running : ∀ v, failed v .running) (writable : Bool)
    (turns : Nat) :
    (watching platform timeoutMs).Obeys (fun next _ => Kept w next) failed w
      (waitForSocket platform socket writable deadline turns) := by
  unfold waitForSocket
  split
  · exact kept_refl w
  · exact wait_loop_obeys held limit running writable turns

/-- A call that fails has given back what it opened, unless it is still in a loop. -/
def Returns (h : List Resource) (w : Watch) (failure : Failure) : Prop :=
  failure ≠ .running → w.held = h

theorem closing_obeys {α : Type} {post : Watch → α → Prop} {h : List Resource}
    (held : w.held = .socket socket :: h) (lastError : String) :
    (watching platform timeoutMs).Obeys post (Returns h) w (closing socket lastError) := by
  apply system_obeys ⟨by simp [Call.uses, held], trivial⟩
  intro _ _
  simp [Watch.next, held]

theorem make_handle_obeys {h : List Resource} (held : w.held = .socket socket :: h)
    (ms : UInt32) :
    (watching platform timeoutMs).Obeys
      (fun next handle => next.held = .socket socket :: h ∧ handle.value = socket ∧
        handle.defaultTimeoutMs = ms ∧ next.established = w.established ∧
        next.blocking = w.blocking)
      (Returns h) w (makeHandle socket ms) := by
  apply system_obeys ⟨by simp [Call.uses], trivial⟩
  intro (allocated : Bool)
  cases allocated with
  | false => exact closing_obeys held _
  | true =>
    apply system_obeys ⟨by simp [Call.uses], trivial⟩
    intro (openedAt : Nat)
    exact ⟨held, rfl, rfl, rfl, rfl⟩

theorem make_udp_handle_obeys {h : List Resource} (held : w.held = .socket socket :: h)
    (ms : UInt32) :
    (watching platform timeoutMs).Obeys
      (fun next handle => next.held = .socket socket :: h ∧ handle.value = socket)
      (Returns h) w (makeUdpHandle socket ms) := by
  apply system_obeys ⟨by simp [Call.uses], trivial⟩
  intro (allocated : Bool)
  cases allocated with
  | false => exact closing_obeys held _
  | true => exact ⟨held, rfl⟩

end Helpers

section Opening
variable {platform : Platform} {timeoutMs : UInt32} {w : Watch} {h : List Resource}

theorem runtime_obeys {failed : Watch → Failure → Prop} :
    (watching platform timeoutMs).Obeys (fun next _ => Kept w next) failed w
      (ensureSocketRuntime platform) := by
  cases platform with
  | windows => exact ⟨⟨by simp [Call.uses], trivial⟩, fun _ => ⟨none, rfl⟩⟩
  | apple => exact kept_refl w
  | posix => exact kept_refl w

theorem options_obey {socket : Descriptor} {failed : Watch → Failure → Prop}
    (owned : w.held = .socket socket :: h) :
    (watching platform timeoutMs).Obeys (fun next _ => next.held = .socket socket :: h) failed w
      (andThen (system (.setOption socket .reuseAddress)) fun _ =>
        setTimeouts platform socket timeoutMs) := by
  have held : .socket socket ∈ w.held := owned ▸ List.mem_cons_self
  apply and_then_obeys (set_option_obeys held (kept_refl w) _)
  · exact fun _ _ kept => (kept_held kept).trans owned
  · intro v _ kept
    apply obeys_mono (set_timeouts_obeys (kept_held kept ▸ held) timeoutMs)
    · exact fun _ _ later => ((kept_held later).trans (kept_held kept)).trans owned
    · exact fun _ _ fails => fails

theorem prepared_obeys (held : w.held = h) (socktype protocol : Nat)
    (socketName optionName : String) :
    (watching platform timeoutMs).Obeys (fun next socket => next.held = .socket socket :: h)
      (Returns h) w
      (preparedSocket platform timeoutMs socktype protocol socketName optionName) := by
  unfold preparedSocket
  apply obeys_bind runtime_obeys
  intro v ready kept
  have held := (kept_held kept).trans held
  split
  · apply system_obeys ⟨by simp [Call.uses], trivial⟩
    intro (answer : Except Int Descriptor)
    cases answer with
    | error code => exact fun _ => held
    | ok socket =>
      have owned : (v.next platform timeoutMs ⟨.socket afInet socktype protocol, .ok socket⟩).held =
          .socket socket :: h := congrArg (_ :: ·) held
      apply obeys_bind (options_obey owned)
      intro u result owned
      cases result with
      | error code => exact closing_obeys owned _
      | ok _ => exact owned
  · exact fun _ => held

theorem moded_held {next : Watch} (moded : Moded w next) : next.held = w.held := by
  obtain ⟨_, _, rfl⟩ := moded
  rfl

theorem listening_obeys {socket : Descriptor} {failed : Watch → Failure → Prop}
    (owned : w.held = .socket socket :: h) (port : UInt16) :
    (watching platform timeoutMs).Obeys (fun next _ => next.held = .socket socket :: h) failed w
      (andThen (system (.bind socket port)) fun _ =>
        andThen (system (.listen socket 1)) fun _ => setNonblocking platform socket true) := by
  apply system_obeys ⟨by simp [Call.uses, owned], trivial⟩
  intro (answer : Except Int Unit)
  cases answer with
  | error code => exact owned
  | ok _ =>
    apply system_obeys ⟨by simp [Call.uses, Watch.next, owned], trivial⟩
    intro (answer : Except Int Unit)
    cases answer with
    | error code => exact owned
    | ok _ =>
      apply obeys_mono (set_nonblocking_obeys (by simp [Watch.next, owned]) true)
      · exact fun _ _ set => (moded_held set.1).trans owned
      · exact fun _ _ fails => fails

theorem listen_obeys (held : w.held = h) (port : UInt16) :
    (watching platform timeoutMs).Obeys
      (fun next handle => next.held = .socket handle.value :: h) (Returns h) w
      (gmRuntimeTcpListenIpv4 platform timeoutMs port) := by
  unfold gmRuntimeTcpListenIpv4
  split
  · exact fun _ => held
  apply obeys_bind (prepared_obeys held _ _ _ _)
  intro v socket owned
  apply obeys_bind (listening_obeys owned port)
  intro u result owned
  cases result with
  | error code => exact closing_obeys owned _
  | ok _ =>
    apply obeys_mono (make_handle_obeys owned timeoutMs)
    · intro _ handle made
      rw [made.2.1]
      exact made.1
    · exact fun _ _ fails => fails

theorem udp_bind_obeys (held : w.held = h) (port : UInt16) :
    (watching platform timeoutMs).Obeys
      (fun next handle => next.held = .socket handle.value :: h) (Returns h) w
      (gmRuntimeUdpBindIpv4 platform timeoutMs port) := by
  unfold gmRuntimeUdpBindIpv4
  split
  · exact fun _ => held
  apply obeys_bind (prepared_obeys held _ _ _ _)
  intro v socket owned
  apply system_obeys ⟨by simp [Call.uses, owned], trivial⟩
  intro (answer : Except Int Unit)
  cases answer with
  | error code => exact closing_obeys owned _
  | ok _ =>
    have kept : (v.next platform timeoutMs ⟨.bind socket port, .ok ()⟩).held =
        .socket socket :: h := owned
    apply obeys_mono (make_udp_handle_obeys kept timeoutMs)
    · intro _ handle made
      rw [made.2]
      exact made.1
    · exact fun _ _ fails => fails

/-- A connection that has been handed over: connected, blocking, and the only thing left. -/
structure Connected (h : List Resource) (timeoutMs : UInt32) (w : Watch) (handle : TcpSocket) :
    Prop where
  held : w.held = .socket handle.value :: h
  established : w.established = some handle.value
  blocking : w.blocking = some handle.value
  timeout : handle.defaultTimeoutMs = timeoutMs

/-- A socket on its way to a connection, once it is known to be connected. -/
structure Fresh (h : List Resource) (socket : Descriptor) (w : Watch) : Prop where
  held : w.held = .socket socket :: h
  established : w.established = some socket

/-- Blocking mode and timeouts, as a connection gets them at the end. -/
theorem settle_obeys {socket : Descriptor} {failed : Watch → Failure → Prop}
    (fresh : Fresh h socket w) :
    (watching platform timeoutMs).Obeys
      (fun next result => Moded w next ∧ (result = .ok () → next.blocking = some socket))
      failed w
      (andThen (setNonblocking platform socket false) fun _ =>
        setTimeouts platform socket timeoutMs) := by
  have held : .socket socket ∈ w.held := fresh.held ▸ List.mem_cons_self
  apply and_then_obeys (set_nonblocking_obeys held false)
  · intro v code set
    exact ⟨set.1, fun same => by cases same⟩
  · intro v _ set
    obtain ⟨moded, blocks⟩ := set
    have blocks := blocks rfl rfl
    have held : .socket socket ∈ v.held := moded_held moded ▸ held
    apply obeys_mono (set_timeouts_obeys held timeoutMs)
    · intro u result kept
      obtain ⟨reading, blocking, rfl⟩ := moded
      obtain ⟨later, rfl⟩ := kept
      exact ⟨⟨later, blocking, rfl⟩, fun _ => blocks⟩
    · exact fun _ _ fails => fails

theorem handed_over {socket : Descriptor} (fresh : Fresh h socket w)
    (blocking : w.blocking = some socket) :
    (watching platform timeoutMs).Obeys (Connected h timeoutMs) (Returns h) w
      (makeHandle socket timeoutMs) := by
  apply obeys_mono (make_handle_obeys fresh.held timeoutMs)
  · intro next handle made
    obtain ⟨held, rfl, timeout, established, mode⟩ := made
    exact ⟨held, established.trans fresh.established, mode.trans blocking, timeout⟩
  · exact fun _ _ fails => fails

theorem accept_obeys (turns : Nat) (listener : TcpSocket) (live : .socket listener.value ∈ h) :
    (watching platform timeoutMs).Obeys (Connected h timeoutMs) (Returns h) { held := h }
      (gmRuntimeTcpAccept platform timeoutMs turns listener) := by
  unfold gmRuntimeTcpAccept
  split
  · exact fun _ => rfl
  apply system_obeys ⟨by simp [Call.uses], trivial⟩
  intro (start : Nat)
  rw [reading_first rfl]
  apply obeys_bind (wait_obeys live rfl (fun _ same => absurd rfl same) _ _)
  intro v result kept
  have held : v.held = h := kept_held kept
  cases result with
  | timeout => exact fun _ => held
  | error code => exact fun _ => held
  | ready =>
    apply system_obeys ⟨by simpa [Call.uses, held] using live, trivial⟩
    intro (answer : Except Int Descriptor)
    cases answer with
    | error code => exact fun _ => held
    | ok accepted =>
      have fresh : Fresh h accepted
          (v.next platform timeoutMs ⟨.accept listener.value, .ok accepted⟩) :=
        ⟨congrArg (_ :: ·) held, rfl⟩
      apply obeys_bind (settle_obeys fresh)
      intro u result settled
      obtain ⟨moded, blocks⟩ := settled
      have fresh : Fresh h accepted u := by
        obtain ⟨_, _, rfl⟩ := moded
        exact ⟨fresh.held, fresh.established⟩
      cases result with
      | error code => exact closing_obeys fresh.held _
      | ok _ => exact handed_over fresh (blocks rfl)

end Opening

section Connecting
variable {platform : Platform} {timeoutMs : UInt32} {w : Watch} {h : List Resource}
  {deadline : Nat} {rest : List AddrInfo} {socket : Descriptor}

/-- A search between two addresses, of which some are still to be tried. -/
structure Searching (h : List Resource) (deadline : Nat) (rest : List AddrInfo) (w : Watch) :
    Prop where
  held : w.held = .addresses :: h
  limit : w.deadline = some deadline
  untried : (w.tried ++ rest).Sublist w.addresses

/-- A search that holds a candidate for an address. -/
structure Trying (h : List Resource) (deadline : Nat) (rest : List AddrInfo)
    (socket : Descriptor) (w : Watch) : Prop where
  held : w.held = .socket socket :: .addresses :: h
  limit : w.deadline = some deadline
  untried : (w.tried ++ rest).Sublist w.addresses

def Attempted (h : List Resource) (deadline : Nat) (rest : List AddrInfo) (w : Watch) :
    Attempt → Prop
  | .connected socket => Fresh (.addresses :: h) socket w ∧ w.blocking = some socket
  | _ => Searching h deadline rest w

/-- A search ends only in a loop that is still running. -/
def Unfinished (_ : Watch) (failure : Failure) : Prop := failure = .running

theorem unfinished_running (w : Watch) : Unfinished w .running := rfl

theorem trying_moded {next : Watch} (trying : Trying h deadline rest socket w)
    (moded : Moded w next) : Trying h deadline rest socket next := by
  obtain ⟨_, _, rfl⟩ := moded
  exact ⟨trying.held, trying.limit, trying.untried⟩

theorem trying_kept {next : Watch} (trying : Trying h deadline rest socket w)
    (kept : Kept w next) : Trying h deadline rest socket next := by
  obtain ⟨_, rfl⟩ := kept
  exact ⟨trying.held, trying.limit, trying.untried⟩

theorem abandon_obeys (trying : Trying h deadline rest socket w) {attempt : Attempt}
    (failed : ∀ socket, attempt ≠ .connected socket) :
    (watching platform timeoutMs).Obeys (Attempted h deadline rest) Unfinished w
      (abandon socket attempt) := by
  apply system_obeys ⟨by simp [Call.uses, trying.held], trivial⟩
  intro _
  have searching : Searching h deadline rest (w.next platform timeoutMs ⟨.close socket, ()⟩) :=
    ⟨by simp [Watch.next, trying.held], trying.limit, trying.untried⟩
  cases attempt with
  | failed code => exact searching
  | timedOut => exact searching
  | connected socket => exact absurd rfl (failed socket)

theorem establish_obeys (trying : Trying h deadline rest socket w)
    (established : w.established = some socket) :
    (watching platform timeoutMs).Obeys (Attempted h deadline rest) Unfinished w
      (establish platform timeoutMs socket) := by
  apply obeys_bind (settle_obeys ⟨trying.held, established⟩)
  intro v result settled
  obtain ⟨moded, blocks⟩ := settled
  have later := trying_moded trying moded
  cases result with
  | error code => exact abandon_obeys later nofun
  | ok _ =>
    obtain ⟨_, _, rfl⟩ := moded
    exact ⟨⟨trying.held, established⟩, blocks rfl⟩

theorem skipped {address : AddrInfo}
    (untried : (w.tried ++ address :: rest).Sublist w.addresses) :
    (w.tried ++ rest).Sublist w.addresses :=
  ((List.Sublist.refl _).append (List.sublist_cons_self address rest)).trans untried

theorem connect_allowed {address : AddrInfo}
    (trying : Trying h deadline (address :: rest) socket w) :
    w.allows (.connect socket address) := by
  constructor
  · intro r used
    rw [trying.held]
    simpa [Call.uses, or_assoc] using Or.inl used
  · have front : (w.tried ++ [address]).Sublist (w.tried ++ address :: rest) :=
      (List.Sublist.refl _).append (List.singleton_sublist.mpr List.mem_cons_self)
    exact front.trans trying.untried

/-- Whatever the answer, the address has been tried. -/
theorem trying_connects (platform : Platform) (timeoutMs : UInt32) {address : AddrInfo}
    (trying : Trying h deadline (address :: rest) socket w) (answer : Except Int Unit) :
    Trying h deadline rest socket
      (w.next platform timeoutMs ⟨.connect socket address, answer⟩) := by
  have untried : (w.tried ++ [address] ++ rest).Sublist w.addresses := by
    rw [List.append_assoc]
    exact trying.untried
  cases answer <;> exact ⟨trying.held, trying.limit, untried⟩

theorem try_address_obeys {address : AddrInfo} (turns : Nat)
    (searching : Searching h deadline (address :: rest) w) :
    (watching platform timeoutMs).Obeys (Attempted h deadline rest) Unfinished w
      (tryAddress platform timeoutMs turns deadline address) := by
  unfold tryAddress
  apply system_obeys ⟨by simp [Call.uses], trivial⟩
  intro (answer : Except Int Descriptor)
  cases answer with
  | error code => exact ⟨searching.held, searching.limit, skipped searching.untried⟩
  | ok candidate =>
    have opened : Trying h deadline (address :: rest) candidate (w.next platform timeoutMs
        ⟨.socket address.family address.socktype address.protocol, .ok candidate⟩) :=
      ⟨congrArg (_ :: ·) searching.held, searching.limit, searching.untried⟩
    apply obeys_bind (set_nonblocking_obeys (opened.held ▸ List.mem_cons_self) true)
    intro v result set
    have trying := trying_moded opened set.1
    have passing : Trying h deadline rest candidate v :=
      ⟨trying.held, trying.limit, skipped trying.untried⟩
    cases result with
    | error code => exact abandon_obeys passing nofun
    | ok _ =>
      apply system_obeys (connect_allowed trying)
      intro (answer : Except Int Unit)
      have tried := trying_connects platform timeoutMs trying answer
      cases answer with
      | ok _ => exact establish_obeys tried rfl
      | error code =>
        dsimp only
        split
        · exact abandon_obeys tried nofun
        apply obeys_bind (wait_obeys (tried.held ▸ List.mem_cons_self) tried.limit
          unfinished_running _ _)
        intro u result kept
        have waited := trying_kept tried kept
        cases result with
        | timeout => exact abandon_obeys waited nofun
        | error code => exact abandon_obeys waited nofun
        | ready =>
          apply system_obeys ⟨by simp [Call.uses, waited.held], trivial⟩
          intro (answer : Except Int Int)
          cases answer with
          | error code => exact abandon_obeys ⟨waited.held, waited.limit, waited.untried⟩ nofun
          | ok pending =>
            have asked : Trying h deadline rest candidate
                (u.next platform timeoutMs ⟨.pendingError candidate, .ok pending⟩) :=
              ⟨waited.held, waited.limit, waited.untried⟩
            dsimp only
            split
            · exact abandon_obeys asked nofun
            · rename_i none
              exact establish_obeys asked (if_pos (not_not.mp none))

theorem connect_loop_obeys (turns : Nat) (addresses : List AddrInfo) (lastCode : Int)
    (searching : Searching h deadline addresses w) :
    (watching platform timeoutMs).Obeys (Attempted h deadline []) Unfinished w
      (connectLoop platform timeoutMs turns deadline addresses lastCode) := by
  have stops {rest : List AddrInfo} {v : Watch} (searching : Searching h deadline rest v) :
      Searching h deadline [] v :=
    ⟨searching.held, searching.limit,
      ((List.Sublist.refl _).append (List.nil_sublist rest)).trans searching.untried⟩
  induction addresses generalizing w lastCode with
  | nil => exact searching
  | cons address rest ih =>
    unfold connectLoop
    apply system_obeys ⟨by simp [Call.uses], trivial⟩
    intro (now : Nat)
    rw [reading_after searching.limit]
    have reading : Searching h deadline (address :: rest) { w with reading := some now } :=
      ⟨searching.held, searching.limit, searching.untried⟩
    split
    · exact stops reading
    apply obeys_bind (try_address_obeys turns reading)
    intro v attempt attempted
    cases attempt with
    | failed code => exact ih code attempted
    | timedOut => exact stops attempted
    | connected socket => exact attempted

theorem connect_obeys (turns : Nat) (host : List UInt8) (port : UInt16) :
    (watching platform timeoutMs).Obeys (Connected h timeoutMs) (Returns h) { held := h }
      (gmRuntimeTcpConnect platform timeoutMs turns host port) := by
  unfold gmRuntimeTcpConnect
  split
  · exact fun _ => rfl
  apply obeys_bind runtime_obeys
  intro v ready kept
  obtain ⟨_, rfl⟩ := kept
  split
  · apply system_obeys ⟨by simp [Call.uses], trivial⟩
    intro (answer : Except Int AddrList)
    cases answer with
    | error code => exact fun _ => rfl
    | ok addresses =>
      apply system_obeys ⟨by simp [Call.uses], trivial⟩
      intro (start : Nat)
      rw [reading_first rfl]
      have searching : Searching h (deadlineAfter timeoutMs start)
          (addresses.first :: addresses.next)
          { held := .addresses :: h
            reading := some start
            deadline := some (deadlineAfter timeoutMs start)
            addresses := addresses.first :: addresses.next } :=
        ⟨rfl, rfl, List.Sublist.refl _⟩
      apply obeys_bind
      · apply obeys_mono (connect_loop_obeys turns _ 0 searching) fun _ _ found => found
        exact fun _ _ unfinished ended => absurd unfinished ended
      intro v attempt attempted
      cases attempt with
      | failed code =>
        apply system_obeys ⟨by simp [Call.uses, attempted.held], trivial⟩
        intro _
        exact fun _ => by simp [Watch.next, attempted.held]
      | timedOut =>
        apply system_obeys ⟨by simp [Call.uses, attempted.held], trivial⟩
        intro _
        exact fun _ => by simp [Watch.next, attempted.held]
      | connected socket =>
        obtain ⟨fresh, blocking⟩ := attempted
        apply system_obeys ⟨by simp [Call.uses, fresh.held], trivial⟩
        intro _
        have alone : Fresh h socket (v.next platform timeoutMs ⟨.freeAddresses, ()⟩) :=
          ⟨by simp [Watch.next, fresh.held], fresh.established⟩
        exact handed_over alone blocking
  · exact fun _ => rfl

end Connecting

section Datagrams
variable {platform : Platform} {timeoutMs : UInt32} {w : Watch} {h : List Resource}

theorem last_code_obeys {α : Type} {post : Watch → α → Prop} (held : w.held = h)
    (operation : String) :
    (watching platform timeoutMs).Obeys post (Returns h) w (internalWithLastCode operation) :=
  ⟨⟨by simp [Call.uses], trivial⟩, fun _ _ => held⟩

theorem send_to_obeys (socket : UdpSocket) (live : .socket socket.value ∈ h) (host : List UInt8)
    (port : UInt16) (datagram : List UInt8) :
    (watching platform timeoutMs).Obeys (fun next _ => next.held = h) (Returns h) { held := h }
      (gmRuntimeUdpSendTo socket host port datagram) := by
  unfold gmRuntimeUdpSendTo
  split
  · exact fun _ => rfl
  rename_i checked
  simp only [not_or, Nat.not_lt] at checked
  apply system_obeys ⟨by simp [Call.uses], trivial⟩
  intro (answer : Except Int AddrList)
  cases answer with
  | error code => exact last_code_obeys rfl _
  | ok addresses =>
    apply system_obeys
    · exact ⟨by simp [Call.uses, Watch.next, live], List.mem_cons_self, checked.2.2⟩
    intro (sent : Except Int Nat)
    apply system_obeys ⟨by simp [Call.uses, Watch.next], trivial⟩
    intro _
    cases sent with
    | error code => exact fun _ => by simp [Watch.next]
    | ok count =>
      dsimp only
      split
      · simp [Obeys, Watch.next]
      · exact last_code_obeys (by simp [Watch.next]) _

theorem receive_from_obeys (socket : UdpSocket) (live : .socket socket.value ∈ h)
    (capacity sourceHostCapacity : Nat) :
    (watching platform timeoutMs).Obeys (fun next _ => next.held = h) (Returns h) { held := h }
      (gmRuntimeUdpReceiveFrom socket platform capacity sourceHostCapacity) := by
  unfold gmRuntimeUdpReceiveFrom
  split
  · exact fun _ => rfl
  apply system_obeys ⟨by simpa [Call.uses] using live, trivial⟩
  intro (answer : Except Int (List UInt8 × Source))
  cases answer with
  | error code => exact fun _ => rfl
  | ok received =>
    obtain ⟨datagram, source⟩ := received
    cases source with
    | none => exact last_code_obeys rfl _
    | some origin => exact rfl

end Datagrams

end GhostMedia.Runtime.SocketProvider
