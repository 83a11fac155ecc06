import GhostMedia.Core.Abi

/- The TCP calls of socket_provider.cpp that TLS sessions use, on a POSIX socket. The clock
   and the system calls are parameters, and so is the TLS engine that shares the state. -/
namespace GhostMedia.Runtime

/-- Why a call has not returned `GM_OK`: another status, or a loop that is still running. -/
inductive Exit where
  | returned (status : GmStatus)
  | running
  deriving DecidableEq

structure World (Ssl Net : Type) where
  ssl : Ssl
  net : Net

/-- A call; `turns` bounds how often each of its unbounded loops is followed around. -/
abbrev Calling (Ssl Net : Type) := EStateM Exit (World Ssl Net)

variable {Ssl Net : Type}

def onNet {α : Type} (use : Net → α × Net) : Calling Ssl Net α :=
  fun w => .ok (use w.net).1 { w with net := (use w.net).2 }

def onSsl {α : Type} (use : Ssl → α × Ssl) : Calling Ssl Net α :=
  fun w => .ok (use w.ssl).1 { w with ssl := (use w.ssl).2 }

/-- What a function of OpenSSL says of the connection without changing it. -/
def ofSsl {α : Type} (read : Ssl → α) : Calling Ssl Net α := fun w => .ok (read w.ssl) w

def fail {α : Type} (status : GmStatus) : Calling Ssl Net α := throw (.returned status)

/-- What the system does with the socket of a handle, and the steady clock in nanoseconds. -/
structure SocketApi (Net : Type) where
  isOpen : Net → Bool
  now : Net → Nat × Net
  send : Net → List UInt8 → Int × Net
  recv : Net → Nat → Option (List UInt8) × Net
  setReceiveTimeout : Net → UInt32 → Bool × Net
  setSendTimeout : Net → UInt32 → Bool × Net

variable (api : SocketApi Net) (turns : Nat)

def ensureOpen : Calling Ssl Net Unit :=
  fun w => if api.isOpen w.net = true then .ok () w else fail .badArgument w

def setTimeouts (timeoutMs : UInt32) : Calling Ssl Net Bool := do
  if ← onNet (api.setReceiveTimeout · timeoutMs) then onNet (api.setSendTimeout · timeoutMs)
  else return false

def tcpSocketSetIoTimeout (timeoutMs : UInt32) : Calling Ssl Net Unit := do
  ensureOpen api
  if timeoutMs = 0 then fail .badArgument
  else if ← setTimeouts api timeoutMs then return ()
  else fail .internal

def tcpSendLoop : Nat → List UInt8 → Calling Ssl Net Unit
  | 0, _ => throw .running
  | turns + 1, bytes =>
    if bytes = [] then pure ()
    else do
      let sent ← onNet (api.send · bytes)
      if sent ≤ 0 then fail .internal else tcpSendLoop turns (bytes.drop sent.toNat)

def gmRuntimeTcpSendAll (bytes : List UInt8) : Calling Ssl Net Unit := do
  ensureOpen api
  tcpSendLoop api turns bytes

/-- The bytes of one `recv`; none at all means that the peer has closed the connection. -/
def gmRuntimeTcpReceive (capacity : Nat) : Calling Ssl Net (List UInt8) := do
  ensureOpen api
  if capacity = 0 then fail .badArgument
  else
    match ← onNet (api.recv · capacity) with
    | none => fail .internal
    | some [] => fail .internal
    | some bytes => return bytes

/-- The loop of an exact read: `receive` is called for what is left of the output. -/
def exactLoop (receive : List UInt8 → Calling Ssl Net (List UInt8)) :
    Nat → List UInt8 → Calling Ssl Net (List UInt8)
  | 0, _ => throw .running
  | turns + 1, output =>
    if output = [] then return []
    else do
      let received ← receive output
      let rest ← exactLoop receive turns (output.drop received.length)
      return received ++ rest

def gmRuntimeTcpReceiveExact (output : GmBytes) : Calling Ssl Net (List UInt8) := do
  ensureOpen api
  if hasReadableData output then
    exactLoop (fun output => gmRuntimeTcpReceive api output.length) turns output.data
  else fail .badArgument

end GhostMedia.Runtime
