import GhostMedia.Foundation.StateLogic
import GhostMedia.Runtime.TlsSession

/- Moving encrypted bytes between the socket and the two BIOs: whatever a property says of
   the TLS connection alone is kept. -/
namespace GhostMedia.Runtime
open StateLogic

variable {Ssl Net : Type} {ssl : OpenSsl Ssl} (api : SocketApi Net) (turns : Nat)

/-- A property that depends on neither the network nor the two BIOs. -/
structure Untouched (ssl : OpenSsl Ssl) (P : World Ssl Net → Prop) : Prop where
  net : ∀ w net, P w → P { w with net := net }
  readWriteBio : ∀ w size, P w → P { w with ssl := (ssl.readWriteBio w.ssl size).2 }
  writeReadBio : ∀ w bytes, P w → P { w with ssl := (ssl.writeReadBio w.ssl bytes).2 }

variable {P : World Ssl Net → Prop} (kept : Untouched ssl P)
include kept

theorem on_net_keeps {α : Type} (use : Net → α × Net) : Keeps P (onNet use) :=
  fun w held => kept.net w _ held

omit kept in
theorem of_ssl_keeps {α : Type} (read : Ssl → α) : Keeps P (ofSsl read) := fun _ held => held

omit kept in
theorem ensure_open_keeps : Keeps P (ensureOpen api) := by
  intro w held
  rw [ensureOpen]
  split
  · exact held
  · exact held

theorem set_io_timeout_keeps (timeoutMs : UInt32) :
    Keeps P (tcpSocketSetIoTimeout api timeoutMs) := by
  refine keeps_bind (ensure_open_keeps api) fun _ => keeps_ite (keeps_throw _) ?_
  refine keeps_bind ?_ fun _ => keeps_ite (keeps_pure _) (keeps_throw _)
  exact keeps_bind (on_net_keeps kept _) fun _ =>
    keeps_ite (on_net_keeps kept _) (keeps_pure _)

theorem tcp_send_loop_keeps (bytes : List UInt8) : Keeps P (tcpSendLoop api turns bytes) := by
  induction turns generalizing bytes with
  | zero => exact keeps_throw _
  | succ turns ih =>
    refine keeps_ite (keeps_pure _) (keeps_bind (on_net_keeps kept _) fun sent => ?_)
    exact keeps_ite (keeps_throw _) (ih _)

theorem tcp_send_all_keeps (bytes : List UInt8) :
    Keeps P (gmRuntimeTcpSendAll api turns bytes) :=
  keeps_bind (ensure_open_keeps api) fun _ => tcp_send_loop_keeps api turns kept bytes

theorem tcp_receive_keeps (capacity : Nat) : Keeps P (gmRuntimeTcpReceive api capacity) := by
  refine keeps_bind (ensure_open_keeps api) fun _ => keeps_ite (keeps_throw _) ?_
  refine keeps_bind (on_net_keeps kept _) fun received => ?_
  cases received with
  | none => exact keeps_throw _
  | some bytes =>
    cases bytes with
    | nil => exact keeps_throw _
    | cons byte bytes => exact keeps_pure _

theorem apply_deadline_keeps (deadline : Option Nat) : Keeps P (applyDeadline api deadline) := by
  cases deadline with
  | none => exact keeps_pure _
  | some deadline =>
    exact keeps_bind (on_net_keeps kept _) fun now =>
      keeps_ite (keeps_throw _) (set_io_timeout_keeps api kept _)

theorem drain_loop_keeps (deadline : Option Nat) (more : Nat) :
    Keeps P (drainLoop ssl api turns deadline more) := by
  induction more with
  | zero => exact keeps_throw _
  | succ more ih =>
    refine keeps_bind (of_ssl_keeps _) fun pending => keeps_ite (keeps_pure _) ?_
    refine keeps_bind (fun w held => kept.readWriteBio w _ held) fun read => ?_
    cases read with
    | none => exact keeps_throw _
    | some bytes =>
      refine keeps_bind (apply_deadline_keeps api kept _) fun _ => ?_
      exact keeps_bind (tcp_send_all_keeps api turns kept _) fun _ => ih

theorem receive_encrypted_keeps (deadline total : Option Nat) :
    Keeps P (receiveEncryptedInput ssl api deadline total) := by
  refine keeps_bind (apply_deadline_keeps api kept _) fun _ => ?_
  refine keeps_bind (tcp_receive_keeps api kept _) fun bytes => keeps_ite (keeps_throw _) ?_
  exact keeps_bind (fun w held => kept.writeReadBio w _ held) fun written =>
    keeps_ite (keeps_pure _) (keeps_throw _)

end GhostMedia.Runtime
