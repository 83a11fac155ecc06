import GhostMedia.Runtime.TcpSocket

/- The TLS session of tls_provider.cpp over OpenSSL with two memory BIOs. OpenSSL is a
   parameter: the functions the session calls, on a state of its own. -/
namespace GhostMedia.Runtime
open CString

abbrev gmTlsExporterContextBytes : Nat := 32
abbrev gmTlsExporterOutputBytes : Nat := 64
abbrev gmTlsAlpnBytes : Nat := 12
abbrev x509VOk : Int := 0
abbrev kMaximumPreHandshakeBytes : Nat := 32 * 1024

def gmTlsExporterLabel : List UInt8 := ascii "EXPORTER-GhostMedia-v1"

inductive SslError where
  | wantRead
  | wantWrite
  | zeroReturn
  | other
  deriving DecidableEq

/-- The `SSL_` functions and the BIO calls on the two BIOs of a connection. -/
structure OpenSsl (Ssl : Type) where
  doHandshake : Ssl → Int × Ssl
  getError : Ssl → Int → SslError
  isInitFinished : Ssl → Int
  getVerifyResult : Ssl → Int
  getAlpnSelected : Ssl → List UInt8
  writeEx : Ssl → List UInt8 → (Int × Nat) × Ssl
  readEx : Ssl → Nat → (Int × List UInt8) × Ssl
  exportKeyingMaterial : Ssl → List UInt8 → List UInt8 →
    (Int × Buffer gmTlsExporterOutputBytes) × Ssl
  writeBioPending : Ssl → Nat
  readWriteBio : Ssl → Nat → Option (List UInt8) × Ssl
  writeReadBio : Ssl → List UInt8 → Int × Ssl

/-- `TlsSession::Impl`; a session that has been moved from has none. -/
structure Impl where
  handshakeDeadline : Nat
  defaultTimeoutMs : UInt32

variable {Ssl Net : Type} (ssl : OpenSsl Ssl) (api : SocketApi Net) (turns : Nat)

def negotiatedRequiredAlpn (connection : Ssl) : Bool :=
  (ssl.getAlpnSelected connection).length = gmTlsAlpnBytes &&
    ssl.getAlpnSelected connection = ascii "ghostmedia/1"

def applyDeadline : Option Nat → Calling Ssl Net Unit
  | none => pure ()
  | some deadline => do
    let now ← onNet api.now
    if now ≥ deadline then fail .limitExceeded
    else tcpSocketSetIoTimeout api (max 1 ((deadline - now) / 1000000)).toUInt32

def drainLoop (deadline : Option Nat) : Nat → Calling Ssl Net Unit
  | 0 => throw .running
  | more + 1 => do
    let pending ← ofSsl ssl.writeBioPending
    if pending = 0 then return ()
    else
      match ← onSsl (ssl.readWriteBio · (16 * 1024)) with
      | none => fail .internal
      | some bytes => do
        applyDeadline api deadline
        gmRuntimeTcpSendAll api turns bytes
        drainLoop deadline more

def drainEncryptedOutput (deadline : Option Nat) : Calling Ssl Net Unit :=
  drainLoop ssl api turns deadline turns

/-- The new total, where the bytes before the end of the handshake are counted. -/
def receiveEncryptedInput (deadline totalReceived : Option Nat) :
    Calling Ssl Net (Option Nat) := do
  applyDeadline api deadline
  let bytes ← gmRuntimeTcpReceive api (16 * 1024)
  let total := totalReceived.map (· + bytes.length)
  if total.any (· > kMaximumPreHandshakeBytes) then fail .limitExceeded
  else do
    let written ← onSsl (ssl.writeReadBio · bytes)
    if written = bytes.length then return total else fail .internal

section Handshake
variable (impl : Impl)

def restoreDefaultTimeout : Calling Ssl Net Unit :=
  if impl.defaultTimeoutMs ≠ 0 then tcpSocketSetIoTimeout api impl.defaultTimeoutMs else pure ()

def peerAuthorized (connection : Ssl) : Bool :=
  ssl.getVerifyResult connection = x509VOk && negotiatedRequiredAlpn ssl connection

def authorizePeer : Calling Ssl Net Unit := do
  if ← ofSsl (peerAuthorized ssl) then return () else fail .unauthorized

def handshakeLoop : Nat → Option Nat → Calling Ssl Net Unit
  | 0, _ => fail .limitExceeded
  | iterations + 1, encryptedBytesReceived => do
    let now ← onNet api.now
    if now ≥ impl.handshakeDeadline then fail .limitExceeded
    else do
      let result ← onSsl ssl.doHandshake
      drainEncryptedOutput ssl api turns (some impl.handshakeDeadline)
      if result = 1 then do
        restoreDefaultTimeout api impl
        authorizePeer ssl
      else
        match ← ofSsl (ssl.getError · result) with
        | .wantWrite => handshakeLoop iterations encryptedBytesReceived
        | .wantRead => do
          let total ← receiveEncryptedInput ssl api (some impl.handshakeDeadline)
            encryptedBytesReceived
          handshakeLoop iterations total
        | _ => fail .unauthorized

end Handshake

namespace TlsSession
variable (session : Option Impl)

def handshake : Calling Ssl Net Unit :=
  match session with
  | none => fail .badArgument
  | some impl => handshakeLoop ssl api turns impl 256 (some 0)

/-- The guard of the calls that use the connection once its handshake is finished. -/
def ensureFinished (arguments : Bool) : Calling Ssl Net Unit := do
  let finished ← ofSsl ssl.isInitFinished
  if session.isNone || !arguments || finished ≠ 1 then fail .badArgument else return ()

def sendLoop : Nat → List UInt8 → Calling Ssl Net Unit
  | 0, _ => throw .running
  | more + 1, plaintext =>
    if plaintext = [] then pure ()
    else do
      let (result, written) ← onSsl (ssl.writeEx · plaintext)
      drainEncryptedOutput ssl api turns none
      if result = 1 then sendLoop more (plaintext.drop written)
      else
        match ← ofSsl (ssl.getError · result) with
        | .wantWrite => sendLoop more plaintext
        | .wantRead => do
          let _ ← receiveEncryptedInput ssl api none none
          sendLoop more plaintext
        | _ => fail .internal

def sendAll (plaintext : GmBytes) : Calling Ssl Net Unit := do
  ensureFinished ssl session (hasReadableData plaintext)
  sendLoop ssl api turns turns plaintext.data

def receiveLoop (size : Nat) : Nat → Calling Ssl Net (List UInt8)
  | 0 => fail .limitExceeded
  | iterations + 1 => do
    let (result, plaintext) ← onSsl (ssl.readEx · size)
    drainEncryptedOutput ssl api turns none
    if result = 1 then return plaintext
    else
      match ← ofSsl (ssl.getError · result) with
      | .wantWrite => receiveLoop size iterations
      | .wantRead => do
        let _ ← receiveEncryptedInput ssl api none none
        receiveLoop size iterations
      | .zeroReturn => fail .stateConflict
      | .other => fail .badMessage

/-- The plaintext that is written to the front of the output. -/
def receive (output : GmBytes) : Calling Ssl Net (List UInt8) := do
  ensureFinished ssl session (output.data ≠ [])
  receiveLoop ssl api turns output.size 256

def receiveExactLoop : Nat → List UInt8 → Calling Ssl Net (List UInt8)
  | 0, _ => throw .running
  | more + 1, output =>
    if output = [] then return []
    else do
      let received ← receive ssl api turns session (.view output)
      let rest ← receiveExactLoop more (output.drop received.length)
      return received ++ rest

def receiveExact (output : GmBytes) : Calling Ssl Net (List UInt8) :=
  if hasReadableData output then receiveExactLoop ssl api turns session turns output.data
  else fail .badArgument

def exporter (context : GmBytes) : Calling Ssl Net (Buffer gmTlsExporterOutputBytes) := do
  ensureFinished ssl session
    (context.data ≠ [] && context.size = gmTlsExporterContextBytes)
  let (result, output) ←
    onSsl (ssl.exportKeyingMaterial · gmTlsExporterLabel context.data)
  if result = 1 then return output else fail .internal

end TlsSession

end GhostMedia.Runtime
