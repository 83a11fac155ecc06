import GhostMedia.Runtime.SocketSafety
import Mathlib.Data.List.Induction
import Mathlib.Data.List.Nodup

/- Whole runs of a program that uses the socket provider: in whatever order it opens, uses and
   destroys its handles and whatever the system answers, what is open is what its handles hold. -/
namespace GhostMedia.Runtime.SocketProvider
open Dialogue Monitor

inductive Handle where
  | tcp (socket : TcpSocket)
  | udp (socket : UdpSocket)
  deriving DecidableEq

def Handle.value : Handle → Descriptor
  | .tcp socket => socket.value
  | .udp socket => socket.value

def Handle.resource (handle : Handle) : Resource := .socket handle.value

inductive Request where
  | listen (timeoutMs : UInt32) (port : UInt16)
  | accept (timeoutMs : UInt32) (turns : Nat) (listener : TcpSocket)
  | connect (timeoutMs : UInt32) (turns : Nat) (host : List UInt8) (port : UInt16)
  | bind (timeoutMs : UInt32) (port : UInt16)
  | sendTo (socket : UdpSocket) (host : List UInt8) (port : UInt16) (datagram : List UInt8)
  | receiveFrom (socket : UdpSocket) (capacity sourceHostCapacity : Nat)
  | destroyTcp (socket : TcpSocket)
  | destroyUdp (socket : UdpSocket)

/-- A handle is used and destroyed only while it lives. -/
def Request.handles : Request → List Handle
  | .accept _ _ listener => [.tcp listener]
  | .sendTo socket .. | .receiveFrom socket .. | .destroyUdp socket => [.udp socket]
  | .destroyTcp socket => [.tcp socket]
  | _ => []

/-- A request, with the handles that live after it. -/
def Request.run (platform : Platform) (live : List Handle) : Request → Run (List Handle)
  | .listen timeoutMs port => do
    return .tcp (← gmRuntimeTcpListenIpv4 platform timeoutMs port) :: live
  | .accept timeoutMs turns listener => do
    return .tcp (← gmRuntimeTcpAccept platform timeoutMs turns listener) :: live
  | .connect timeoutMs turns host port => do
    return .tcp (← gmRuntimeTcpConnect platform timeoutMs turns host port) :: live
  | .bind timeoutMs port => do
    return .udp (← gmRuntimeUdpBindIpv4 platform timeoutMs port) :: live
  | .sendTo socket host port datagram => do
    gmRuntimeUdpSendTo socket host port datagram
    return live
  | .receiveFrom socket capacity sourceHostCapacity => do
    let _ ← gmRuntimeUdpReceiveFrom socket platform capacity sourceHostCapacity
    return live
  | .destroyTcp socket => do
    gmRuntimeTcpSocketDestroy socket
    return live.erase (.tcp socket)
  | .destroyUdp socket => do
    gmRuntimeUdpSocketDestroy socket
    return live.erase (.udp socket)

/-- One request after another, each to its end; one that fails leaves the handles as they are. -/
inductive Session (platform : Platform) : List Handle → List (Event Answer) → Prop
  | start : Session platform [] []
  | returned {live past events after} {request : Request} (before : Session platform live past)
    (lives : ∀ handle ∈ request.handles, handle ∈ live)
    (run : Reaches (request.run platform live) events (.done after)) :
    Session platform after (past ++ events)
  | failed {live past events failure} {request : Request} (before : Session platform live past)
    (lives : ∀ handle ∈ request.handles, handle ∈ live)
    (run : Reaches (request.run platform live) events (.fail failure))
    (ended : failure ≠ .running) : Session platform live (past ++ events)

def opened : Event Answer → Option Resource
  | ⟨.socket .., .ok s⟩ | ⟨.accept _, .ok s⟩ => some (.socket s)
  | ⟨.getAddresses .., .ok _⟩ => some .addresses
  | _ => none

def Call.givesBack : Call → Option Resource
  | .freeAddresses => some .addresses
  | .close s => some (.socket s)
  | _ => none

/-- What has been opened and not been given back. -/
def ownership : Monitor Answer (List Resource) where
  allows held c := ∀ r ∈ c.uses, r ∈ held
  next held e :=
    match e.call.givesBack with
    | some r => held.erase r
    | none => (opened e).toList ++ held

/-- The system never hands out a descriptor that is still open. -/
def NewDescriptors (past : List (Event Answer)) : Prop :=
  ∀ front e back, past = front ++ e :: back → ∀ s, opened e = some (.socket s) →
    .socket s ∉ ownership.after [] front

theorem held_next (platform : Platform) (timeoutMs : UInt32) (w : Watch) (e : Event Answer) :
    (w.next platform timeoutMs e).held = ownership.next w.held e := by
  obtain ⟨c, answer⟩ := e
  cases c with
  | socket | accept | getAddresses | connect | setFlags | setMode | pendingError =>
    cases answer <;> rfl
  | _ => rfl

theorem watching_owns (platform : Platform) (timeoutMs : UInt32) :
    Follows (watching platform timeoutMs) ownership Watch.held where
  allows _ _ allowed := allowed.1
  next := held_next platform timeoutMs

theorem once_step {held : List Resource} {e : Event Answer} {r : Resource}
    (once : held.count r ≤ 1) (new : opened e = some r → r ∉ held) :
    (ownership.next held e).count r ≤ 1 := by
  unfold ownership
  dsimp only
  split
  · exact (List.erase_sublist.count_le r).trans once
  · cases opens : opened e with
    | none => exact once
    | some other =>
      by_cases same : other = r
      · subst same
        have none : held.count other = 0 := List.count_eq_zero.mpr (new opens)
        rw [Option.toList_some, List.singleton_append, List.count_cons_self, none]
      · rw [Option.toList_some, List.singleton_append, List.count_cons_of_ne same]
        exact once

/-- Sockets that are handed out new are held once. -/
theorem held_once {past : List (Event Answer)} (new : NewDescriptors past) (s : Descriptor) :
    (ownership.after [] past).count (.socket s) ≤ 1 := by
  induction past using List.reverseRecOn with
  | nil => exact Nat.zero_le 1
  | append_singleton past e ih =>
    have before : NewDescriptors past := by
      intro front d back split
      exact new front d (back ++ [e]) (by rw [split, List.append_assoc, List.cons_append])
    rw [after_snoc]
    exact once_step (ih before) (new past e [] rfl s)

section Requests
variable {platform : Platform} {live : List Handle} {h : List Resource}

/-- What is held is what the handles hold. -/
def Owned (live : List Handle) (held : List Resource) : Prop :=
  held.Perm (live.map Handle.resource)

theorem owned_member (owned : Owned live h) {handle : Handle} (lives : handle ∈ live) :
    .socket handle.value ∈ h :=
  owned.mem_iff.mpr (List.mem_map_of_mem lives)

theorem owned_opened (owned : Owned live h) {held : List Resource} {handle : Handle}
    (opened : held = .socket handle.value :: h) : Owned (handle :: live) held :=
  opened ▸ owned.cons _

theorem owned_destroyed (owned : Owned live h) {handle : Handle} (lives : handle ∈ live) :
    Owned (live.erase handle) (h.erase (.socket handle.value)) := by
  have first : h.Perm (handle.resource :: (live.erase handle).map Handle.resource) :=
    owned.trans ((List.perm_cons_erase lives).map _)
  have rest := first.erase handle.resource
  rwa [List.erase_cons_head] at rest

theorem request_obeys {request : Request} (owned : Owned live h)
    (lives : ∀ handle ∈ request.handles, handle ∈ live) :
    ∃ timeoutMs, (watching platform timeoutMs).Obeys (fun next after => Owned after next.held)
      (Returns h) { held := h } (request.run platform live) := by
  cases request with
  | listen timeoutMs port =>
    exists timeoutMs
    apply obeys_bind (@listen_obeys platform timeoutMs { held := h } h rfl port)
    exact fun next handle held => owned_opened owned held
  | accept timeoutMs turns listener =>
    exists timeoutMs
    have live := owned_member owned (lives _ List.mem_cons_self)
    apply obeys_bind (accept_obeys turns listener live)
    exact fun next handle connected => owned_opened owned connected.held
  | connect timeoutMs turns host port =>
    exists timeoutMs
    apply obeys_bind (connect_obeys turns host port)
    exact fun next handle connected => owned_opened owned connected.held
  | bind timeoutMs port =>
    exists timeoutMs
    apply obeys_bind (@udp_bind_obeys platform timeoutMs { held := h } h rfl port)
    exact fun next handle held => owned_opened owned held
  | sendTo socket host port datagram =>
    exists 0
    have live := owned_member owned (lives _ List.mem_cons_self)
    apply obeys_bind (send_to_obeys socket live host port datagram)
    exact fun next _ held => held.symm ▸ owned
  | receiveFrom socket capacity sourceHostCapacity =>
    exists 0
    have live := owned_member owned (lives _ List.mem_cons_self)
    apply obeys_bind (receive_from_obeys socket live capacity sourceHostCapacity)
    exact fun next _ held => held.symm ▸ owned
  | destroyTcp socket =>
    have lives := lives _ List.mem_cons_self
    have held : .socket socket.value ∈ h := owned_member owned lives
    exists 0
    apply system_obeys ⟨by simpa [Call.uses] using held, trivial⟩
    exact fun _ => owned_destroyed owned lives
  | destroyUdp socket =>
    have lives := lives _ List.mem_cons_self
    have held : .socket socket.value ∈ h := owned_member owned lives
    exists 0
    apply system_obeys ⟨by simpa [Call.uses] using held, trivial⟩
    exact fun _ => owned_destroyed owned lives

/-- Every call of a request uses what is held, and at its end that is what the handles hold. -/
theorem request_owned {request : Request} (owned : Owned live h)
    (lives : ∀ handle ∈ request.handles, handle ∈ live) {events : List (Event Answer)}
    {q : Run (List Handle)} (run : Reaches (request.run platform live) events q) :
    ownership.Allowed h events ∧
      (∀ after, q = .done after → Owned after (ownership.after h events)) ∧
      (∀ failure, q = .fail failure → failure ≠ .running →
        Owned live (ownership.after h events)) := by
  have obeyed : ∃ timeoutMs, (watching platform timeoutMs).Obeys
      (fun next after => Owned after next.held) (Returns h) { held := h }
      (request.run platform live) := request_obeys owned lives
  obtain ⟨timeoutMs, obeys⟩ := obeyed
  obtain ⟨allowed, ends⟩ := obeys_reaches obeys run
  have follows := watching_owns platform timeoutMs
  have held := after_follows follows { held := h } events
  refine ⟨allowed_follows follows allowed, ?_, ?_⟩
  · intro after same
    subst same
    exact held ▸ ends
  · intro failure same ended
    subst same
    rw [← held, ends ended]
    exact owned

theorem session_owned {past : List (Event Answer)} (session : Session platform live past) :
    ownership.Allowed [] past ∧ Owned live (ownership.after [] past) := by
  induction session with
  | start => exact ⟨allowed_nil [], List.Perm.refl []⟩
  | returned before lives run ih =>
    obtain ⟨allowed, returned, -⟩ := request_owned ih.2 lives run
    exact ⟨allowed_append ih.1 allowed, after_append _ _ _ ▸ returned _ rfl⟩
  | failed before lives run ended ih =>
    obtain ⟨allowed, -, failed⟩ := request_owned ih.2 lives run
    exact ⟨allowed_append ih.1 allowed, after_append _ _ _ ▸ failed _ rfl ended⟩

end Requests

/-- At every moment of every session: each call uses only what is held, and between requests
    that is exactly what the handles that live hold, each its own socket. -/
theorem sockets_owned {platform : Platform} {live : List Handle} {past : List (Event Answer)}
    (session : Session platform live past) {request : Request}
    (lives : ∀ handle ∈ request.handles, handle ∈ live) {events : List (Event Answer)}
    {q : Run (List Handle)} (run : Reaches (request.run platform live) events q) :
    ownership.Allowed [] (past ++ events) ∧
      (ownership.after [] past).Perm (live.map Handle.resource) ∧
      (NewDescriptors past → (live.map Handle.value).Nodup) := by
  obtain ⟨allowed, owned⟩ := session_owned session
  have goesOn := (request_owned owned lives run).1
  refine ⟨allowed_append allowed goesOn, owned, ?_⟩
  intro new
  rw [List.nodup_iff_count_le_one]
  intro s
  have once := held_once new s
  have resources : live.map Handle.resource = (live.map Handle.value).map Resource.socket := by
    rw [List.map_map]
    rfl
  rw [owned.count_eq, resources] at once
  exact List.count_le_count_map.trans once

/-- A UDP socket is bound, a lookup fails, and a datagram is waited for. -/
theorem sample_owned : ∃ past, Session .posix [.udp ⟨3, 1000⟩] past ∧
    ownership.Allowed [] (past ++ [⟨.receiveFrom 3 1500, .error 11⟩]) := by
  have binds : Reaches (Request.run .posix [] (.bind 1000 5000))
      [⟨.socket 2 2 17, .ok 3⟩, ⟨.setOption 3 .reuseAddress, .ok ()⟩,
        ⟨.setOption 3 (.receiveTimeout (.timeval 1 0)), .ok ()⟩,
        ⟨.setOption 3 (.sendTimeout (.timeval 1 0)), .ok ()⟩, ⟨.bind 3 5000, .ok ()⟩,
        ⟨.allocate, true⟩] (.done [.udp ⟨3, 1000⟩]) :=
    reaches_cons (reaches_cons (reaches_cons (reaches_cons (reaches_cons (reaches_cons .start)))))
  have looks : Reaches (Request.run .posix [.udp ⟨3, 1000⟩] (.connect 1000 1 [104] 443))
      [⟨.getAddresses 0 1 6 [104] 443, .error (-2)⟩]
      (.fail (.returned .internal (some (errorText "getaddrinfo" (-2))))) :=
    reaches_cons .start
  have waits : Reaches (Request.run .posix [.udp ⟨3, 1000⟩] (.receiveFrom ⟨3, 1000⟩ 1500 64))
      [⟨.receiveFrom 3 1500, .error 11⟩]
      (.fail (.returned .internal (some (errorText "UDP recvfrom" 11)))) :=
    reaches_cons .start
  have session := (Session.start.returned (by decide) binds).failed (by decide) looks (by decide)
  exact ⟨_, session, (sockets_owned session (by decide) waits).1⟩

end GhostMedia.Runtime.SocketProvider
