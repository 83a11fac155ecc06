import GhostMedia.Core.Abi
import GhostMedia.Foundation.Dialogue

/- How socket_provider.cpp opens sockets, waits for them, uses UDP and closes, as programs that
   call the system. A descriptor is a valid one; `kInvalidSocket` is an error of the call. The
   pointers that results are written to are not null. -/
namespace GhostMedia.Runtime.SocketProvider
open Dialogue

inductive Platform where
  | windows
  | apple
  | posix
  deriving DecidableEq

abbrev Descriptor := Nat

/-- The value of a timeout option. -/
inductive Timeout where
  | milliseconds (value : UInt32)
  | timeval (seconds microseconds : Nat)
  deriving DecidableEq

inductive SocketOption where
  | reuseAddress
  | receiveTimeout (timeout : Timeout)
  | sendTimeout (timeout : Timeout)
  | noSigpipe
  deriving DecidableEq

structure AddrInfo where
  family : Nat
  socktype : Nat
  protocol : Nat
  address : List UInt8
  deriving DecidableEq

/-- What a successful lookup finds, which is at least one address. -/
structure AddrList where
  first : AddrInfo
  next : List AddrInfo
  deriving DecidableEq

inductive Call where
  | now
  | startSocketRuntime
  | allocate
  | socket (family socktype protocol : Nat)
  | setOption (socket : Descriptor) (option : SocketOption)
  | getFlags (socket : Descriptor)
  | setFlags (socket : Descriptor) (flags : UInt32)
  | setMode (socket : Descriptor) (nonblocking : UInt32)
  | bind (socket : Descriptor) (port : UInt16)
  | listen (socket : Descriptor) (backlog : Nat)
  | select (socket : Descriptor) (writable : Bool) (microseconds : Nat)
  | accept (socket : Descriptor)
  | connect (socket : Descriptor) (address : AddrInfo)
  | pendingError (socket : Descriptor)
  | getAddresses (family socktype protocol : Nat) (host : List UInt8) (port : UInt16)
  | freeAddresses
  | sendTo (socket : Descriptor) (datagram : List UInt8) (address : AddrInfo)
  | receiveFrom (socket : Descriptor) (capacity : Nat)
  | close (socket : Descriptor)
  | socketError

/-- Where a datagram comes from; nothing where it is no IPv4 address that can be written out. -/
abbrev Source := Option (List UInt8 × UInt16)

/-- Errors are the codes that the call leaves for `socket_error()`, but for `getaddrinfo`, which
    returns its own; the steady clock counts nanoseconds. -/
def Answer : Call → Type
  | .now => Nat
  | .startSocketRuntime => Bool
  | .allocate => Bool
  | .socket .. => Except Int Descriptor
  | .setOption .. => Except Int Unit
  | .getFlags _ => Except Int UInt32
  | .setFlags .. => Except Int Unit
  | .setMode .. => Except Int Unit
  | .bind .. => Except Int Unit
  | .listen .. => Except Int Unit
  | .select .. => Except Int Bool
  | .accept _ => Except Int Descriptor
  | .connect .. => Except Int Unit
  | .pendingError _ => Except Int Int
  | .getAddresses .. => Except Int AddrList
  | .freeAddresses => Unit
  | .sendTo .. => Except Int Nat
  | .receiveFrom .. => Except Int (List UInt8 × Source)
  | .close _ => Unit
  | .socketError => Int

/-- A status with the text of `last_error`, where it is set, or a loop that is still running. -/
inductive Failure where
  | returned (status : GmStatus) (lastError : Option String)
  | running
  deriving DecidableEq

abbrev Run := Program Answer Failure

def system (c : Call) : Run (Answer c) := .call c .done

def badArgument {α : Type} : Run α := .fail (.returned .badArgument none)

def internal {α : Type} (lastError : String) : Run α :=
  .fail (.returned .internal (some lastError))

/-- The text of `set_error` -/
def errorText (operation : String) (code : Int) : String :=
  operation ++ " failed (" ++ toString code ++ ")"

/-- Two calls of which the second is made only if the first succeeds. -/
def andThen {α β : Type} (first : Run (Except Int α)) (next : α → Run (Except Int β)) :
    Run (Except Int β) := do
  match ← first with
  | .error code => return .error code
  | .ok a => next a

section Platforms
variable (platform : Platform)

def oNonblock : Platform → UInt32
  | .windows => 0
  | .apple => 0x4
  | .posix => 0x800

/-- `EINTR` -/
def interrupted : Platform → Int
  | .windows => 10004
  | _ => 4

/-- `INET_ADDRSTRLEN` -/
def inetAddrstrlen : Platform → Nat
  | .windows => 22
  | _ => 16

def fdSetSize : Nat := 1024
def einval : Int := 22

def operationInProgress : Platform → Int → Bool
  | .windows, code => code = 10035 || code = 10036
  | .apple, code => code = 36 || code = 35
  | .posix, code => code = 115 || code = 11

def ensureSocketRuntime : Run Bool :=
  match platform with
  | .windows => system .startSocketRuntime
  | _ => return true

def timeoutOf (timeoutMs : UInt32) : Timeout :=
  match platform with
  | .windows => .milliseconds timeoutMs
  | _ => .timeval (timeoutMs.toNat / 1000) (timeoutMs.toNat % 1000 * 1000)

def setTimeouts (socket : Descriptor) (timeoutMs : UInt32) : Run (Except Int Unit) :=
  let timeout := timeoutOf platform timeoutMs
  andThen (system (.setOption socket (.receiveTimeout timeout))) fun _ =>
    andThen (system (.setOption socket (.sendTimeout timeout))) fun _ =>
      match platform with
      | .apple => system (.setOption socket .noSigpipe)
      | _ => return .ok ()

def setNonblocking (socket : Descriptor) (enabled : Bool) : Run (Except Int Unit) :=
  match platform with
  | .windows => system (.setMode socket (if enabled then 1 else 0))
  | _ =>
    andThen (system (.getFlags socket)) fun flags =>
      system (.setFlags socket
        (if enabled then flags ||| oNonblock platform else flags &&& ~~~oNonblock platform))

inductive WaitResult where
  | ready
  | timeout
  | error (code : Int)
  deriving DecidableEq

/-- The loop of `wait_for_socket`, for as many turns. -/
def waitLoop (socket : Descriptor) (writable : Bool) (deadline : Nat) : Nat → Run WaitResult
  | 0 => .fail .running
  | turns + 1 => do
    let now : Nat ← system .now
    if now ≥ deadline then return .timeout
    else
      match ← system (.select socket writable ((deadline - now) / 1000)) with
      | .ok true => return .ready
      | .ok false => return .timeout
      | .error code =>
        if code = interrupted platform then waitLoop socket writable deadline turns
        else return .error code

def waitForSocket (socket : Descriptor) (writable : Bool) (deadline turns : Nat) :
    Run WaitResult :=
  if platform ≠ .windows ∧ socket ≥ fdSetSize then return .error einval
  else waitLoop platform socket writable deadline turns

end Platforms

structure TcpSocket where
  value : Descriptor
  openedAt : Nat
  defaultTimeoutMs : UInt32
  deriving DecidableEq

structure UdpSocket where
  value : Descriptor
  defaultTimeoutMs : UInt32
  deriving DecidableEq

def closeSocket (socket : Descriptor) : Run Unit := system (.close socket)

/-- A failure with whatever code the last failing call has left. -/
def internalWithLastCode {α : Type} (operation : String) : Run α := do
  let code : Int ← system .socketError
  internal (errorText operation code)

/-- A failure that closes a socket on its way out. -/
def closing {α : Type} (socket : Descriptor) (lastError : String) : Run α := do
  closeSocket socket
  internal lastError

def makeHandle (socket : Descriptor) (timeoutMs : UInt32) : Run TcpSocket := do
  let allocated : Bool ← system .allocate
  if allocated then
    let openedAt : Nat ← system .now
    return ⟨socket, openedAt, timeoutMs⟩
  else closing socket "socket handle allocation failed"

def gmRuntimeTcpSocketDestroy (socketHandle : TcpSocket) : Run Unit :=
  closeSocket socketHandle.value

def gmRuntimeUdpSocketDestroy (socketHandle : UdpSocket) : Run Unit :=
  closeSocket socketHandle.value

def makeUdpHandle (socket : Descriptor) (timeoutMs : UInt32) : Run UdpSocket := do
  let allocated : Bool ← system .allocate
  if allocated then return ⟨socket, timeoutMs⟩
  else closing socket "UDP socket handle allocation failed"

abbrev afUnspec : Nat := 0
abbrev afInet : Nat := 2
abbrev sockStream : Nat := 1
abbrev sockDgram : Nat := 2
abbrev ipprotoTcp : Nat := 6
abbrev ipprotoUdp : Nat := 17

/-- A deadline so many milliseconds after a reading of the clock. -/
def deadlineAfter (timeoutMs : UInt32) (start : Nat) : Nat := start + timeoutMs.toNat * 1000000

section Opening
variable (platform : Platform) (timeoutMs : UInt32)

/-- A fresh IPv4 socket with its options, as a listener and a UDP socket begin. -/
def preparedSocket (socktype protocol : Nat) (socketName optionName : String) :
    Run Descriptor := do
  if ← ensureSocketRuntime platform then
    match ← system (.socket afInet socktype protocol) with
    | .error code => internal (errorText socketName code)
    | .ok socket =>
      match ← andThen (system (.setOption socket .reuseAddress)) fun _ =>
          setTimeouts platform socket timeoutMs with
      | .error code => closing socket (errorText optionName code)
      | .ok () => return socket
  else internal "socket runtime initialization failed"

def gmRuntimeTcpListenIpv4 (port : UInt16) : Run TcpSocket := do
  if timeoutMs = 0 then badArgument
  else
    let socket ← preparedSocket platform timeoutMs sockStream ipprotoTcp "socket" "setsockopt"
    match ← andThen (system (.bind socket port)) fun _ =>
        andThen (system (.listen socket 1)) fun _ => setNonblocking platform socket true with
    | .error code => closing socket (errorText "listen" code)
    | .ok () => makeHandle socket timeoutMs

def gmRuntimeTcpAccept (turns : Nat) (listener : TcpSocket) : Run TcpSocket := do
  if timeoutMs = 0 then badArgument
  else
    let start : Nat ← system .now
    match ← waitForSocket platform listener.value false (deadlineAfter timeoutMs start)
        turns with
    | .timeout => internal "accept timed out"
    | .error code => internal (errorText "select" code)
    | .ready =>
      match ← system (.accept listener.value) with
      | .error code => internal (errorText "accept" code)
      | .ok accepted =>
        match ← andThen (setNonblocking platform accepted false) fun _ =>
            setTimeouts platform accepted timeoutMs with
        | .error code => closing accepted (errorText "setsockopt" code)
        | .ok () => makeHandle accepted timeoutMs

/-- What becomes of an address: the next one is tried, or it is the last. -/
inductive Attempt where
  | failed (lastCode : Int)
  | timedOut
  | connected (socket : Descriptor)
  deriving DecidableEq

def abandon (candidate : Descriptor) (attempt : Attempt) : Run Attempt := do
  closeSocket candidate
  return attempt

def establish (candidate : Descriptor) : Run Attempt := do
  match ← andThen (setNonblocking platform candidate false) fun _ =>
      setTimeouts platform candidate timeoutMs with
  | .error code => abandon candidate (.failed code)
  | .ok () => return .connected candidate

/-- The body of the loop over the addresses. -/
def tryAddress (turns deadline : Nat) (address : AddrInfo) : Run Attempt := do
  match ← system (.socket address.family address.socktype address.protocol) with
  | .error code => return .failed code
  | .ok candidate =>
    match ← setNonblocking platform candidate true with
    | .error code => abandon candidate (.failed code)
    | .ok () =>
      match ← system (.connect candidate address) with
      | .ok () => establish platform timeoutMs candidate
      | .error code =>
        if ¬ operationInProgress platform code then abandon candidate (.failed code)
        else
          match ← waitForSocket platform candidate true deadline turns with
          | .timeout => abandon candidate .timedOut
          | .error code => abandon candidate (.failed code)
          | .ready =>
            match ← system (.pendingError candidate) with
            | .error code => abandon candidate (.failed code)
            | .ok pending =>
              if pending ≠ 0 then abandon candidate (.failed pending)
              else establish platform timeoutMs candidate

def connectLoop (turns deadline : Nat) : List AddrInfo → Int → Run Attempt
  | [], lastCode => return .failed lastCode
  | address :: rest, lastCode => do
    let now : Nat ← system .now
    if now ≥ deadline then return .failed lastCode
    else
      match ← tryAddress platform timeoutMs turns deadline address with
      | .failed code => connectLoop turns deadline rest code
      | .timedOut => return .timedOut
      | .connected socket => return .connected socket

def gmRuntimeTcpConnect (turns : Nat) (host : List UInt8) (port : UInt16) : Run TcpSocket := do
  if host = [] ∨ port = 0 ∨ timeoutMs = 0 then badArgument
  else if ← ensureSocketRuntime platform then
    match ← system (.getAddresses afUnspec sockStream ipprotoTcp host port) with
    | .error code => internal (errorText "getaddrinfo" code)
    | .ok addresses =>
      let start : Nat ← system .now
      let found ← connectLoop platform timeoutMs turns (deadlineAfter timeoutMs start)
        (addresses.first :: addresses.next) 0
      system .freeAddresses
      match found with
      | .connected socket => makeHandle socket timeoutMs
      | .timedOut => internal "connect timed out"
      | .failed code => internal (errorText "connect" code)
  else internal "socket runtime initialization failed"

def gmRuntimeUdpBindIpv4 (port : UInt16) : Run UdpSocket := do
  if timeoutMs = 0 then badArgument
  else
    let socket ← preparedSocket platform timeoutMs sockDgram ipprotoUdp "UDP socket"
      "UDP setsockopt"
    match ← system (.bind socket port) with
    | .error code => closing socket (errorText "UDP bind" code)
    | .ok () => makeUdpHandle socket timeoutMs

end Opening

section Datagrams
variable (socket : UdpSocket)

def gmRuntimeUdpSendTo (host : List UInt8) (port : UInt16) (datagram : List UInt8) :
    Run Unit := do
  if host = [] ∨ port = 0 ∨ datagram.length < gmMediaMinDatagramBytes ∨
      datagram.length > gmMediaMaxDatagramBytes then badArgument
  else
    match ← system (.getAddresses afInet sockDgram ipprotoUdp host port) with
    | .error _ => internalWithLastCode "UDP getaddrinfo"
    | .ok addresses =>
      let sent ← system (.sendTo socket.value datagram addresses.first)
      system .freeAddresses
      match sent with
      | .error code => internal (errorText "UDP sendto" code)
      | .ok count =>
        if count = datagram.length then return () else internalWithLastCode "UDP sendto"

/-- The datagram with the host and the port that it comes from. -/
def gmRuntimeUdpReceiveFrom (platform : Platform) (capacity sourceHostCapacity : Nat) :
    Run (List UInt8 × List UInt8 × UInt16) := do
  if capacity < gmMediaMinDatagramBytes ∨ capacity > gmMediaMaxDatagramBytes ∨
      sourceHostCapacity < inetAddrstrlen platform then badArgument
  else
    match ← system (.receiveFrom socket.value capacity) with
    | .error code => internal (errorText "UDP recvfrom" code)
    | .ok (_, none) => internalWithLastCode "UDP source address"
    | .ok (datagram, some (host, port)) => return (datagram, host, port)

end Datagrams

end GhostMedia.Runtime.SocketProvider
