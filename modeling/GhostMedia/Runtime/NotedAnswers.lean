import GhostMedia.Runtime.BioTraffic

/- What a session hears: an environment that notes every answer of OpenSSL, of the socket and
   of the clock, and otherwise answers as before. A session in it runs as it did without. -/
namespace GhostMedia.Runtime
open CString StateLogic

variable {Ssl Net : Type}

inductive NetAnswer where
  | reading (now : Nat)
  | sent (count : Int)
  | received (bytes : Option (List UInt8))
  | timeoutSet (done : Bool)
  deriving DecidableEq

/-- The result of an `SSL_` function, or what has become of reading or writing a BIO. -/
inductive SslAnswer where
  | result (value : Int)
  | bioRead (bytes : Option (List UInt8))
  | bioWritten (written : Int) (size : Nat)
  deriving DecidableEq

def noting {State Noted α : Type} (answer : α → Noted) (use : State → α × State)
    (s : State × List Noted) : α × (State × List Noted) :=
  ((use s.1).1, (use s.1).2, s.2 ++ [answer (use s.1).1])

def OpenSsl.noted (ssl : OpenSsl Ssl) : OpenSsl (Ssl × List SslAnswer) where
  doHandshake := noting .result ssl.doHandshake
  getError c := ssl.getError c.1
  isInitFinished c := ssl.isInitFinished c.1
  getVerifyResult c := ssl.getVerifyResult c.1
  getAlpnSelected c := ssl.getAlpnSelected c.1
  writeEx c plaintext := noting (fun written => .result written.1) (ssl.writeEx · plaintext) c
  readEx c size := noting (fun read => .result read.1) (ssl.readEx · size) c
  exportKeyingMaterial c label context :=
    noting (fun exported => .result exported.1) (ssl.exportKeyingMaterial · label context) c
  writeBioPending c := ssl.writeBioPending c.1
  readWriteBio c size := noting .bioRead (ssl.readWriteBio · size) c
  writeReadBio c bytes := noting (.bioWritten · bytes.length) (ssl.writeReadBio · bytes) c

def SocketApi.noted (api : SocketApi Net) : SocketApi (Net × List NetAnswer) where
  isOpen net := api.isOpen net.1
  now := noting .reading api.now
  send net bytes := noting .sent (api.send · bytes) net
  recv net size := noting .received (api.recv · size) net
  setReceiveTimeout net timeoutMs := noting .timeoutSet (api.setReceiveTimeout · timeoutMs) net
  setSendTimeout net timeoutMs := noting .timeoutSet (api.setSendTimeout · timeoutMs) net

abbrev NotedWorld (Ssl Net : Type) := World (Ssl × List SslAnswer) (Net × List NetAnswer)

def World.noted (w : World Ssl Net) : NotedWorld Ssl Net := ⟨(w.ssl, []), (w.net, [])⟩

def World.plain (w : NotedWorld Ssl Net) : World Ssl Net := ⟨w.ssl.1, w.net.1⟩

section Mirrors
variable {α β : Type}

/-- One call in both environments: the same result, and the same state but for the notes. -/
def Mirrors (p : Calling (Ssl × List SslAnswer) (Net × List NetAnswer) α)
    (q : Calling Ssl Net α) : Prop :=
  ∀ w : NotedWorld Ssl Net,
    Twin (fun (after : NotedWorld Ssl Net) after' => after.plain = after') (p w) (q w.plain)

variable {p p' : Calling (Ssl × List SslAnswer) (Net × List NetAnswer) α} {q q' : Calling Ssl Net α}
  {f : α → Calling (Ssl × List SslAnswer) (Net × List NetAnswer) β} {g : α → Calling Ssl Net β}

theorem mirrors_pure (a : α) : Mirrors (pure a : Calling (Ssl × _) (Net × _) α) (pure a) :=
  fun _ => ⟨rfl, rfl⟩

theorem mirrors_throw (exit : Exit) :
    Mirrors (throw exit : Calling (Ssl × _) (Net × _) α) (throw exit) := fun _ => ⟨rfl, rfl⟩

theorem mirrors_bind (first : Mirrors p q) (next : ∀ a, Mirrors (f a) (g a)) :
    Mirrors (p >>= f) (q >>= g) := by
  intro w
  apply twin_bind (first w)
  rintro a after _ rfl
  exact next a after

theorem mirrors_ite {c : Prop} [Decidable c] (yes : Mirrors p q) (no : Mirrors p' q') :
    Mirrors (if c then p else p') (if c then q else q') :=
  fun w => twin_ite (fun _ => yes w) fun _ => no w

theorem mirrors_net (answer : α → NetAnswer) (use : Net → α × Net) :
    Mirrors (onNet (noting answer use)) (onNet use : Calling Ssl Net α) := fun _ => ⟨rfl, rfl⟩

theorem mirrors_ssl (answer : α → SslAnswer) (use : Ssl → α × Ssl) :
    Mirrors (onSsl (noting answer use)) (onSsl use : Calling Ssl Net α) := fun _ => ⟨rfl, rfl⟩

theorem mirrors_read (read : Ssl → α) :
    Mirrors (ofSsl fun c => read c.1) (ofSsl read : Calling Ssl Net α) := fun _ => ⟨rfl, rfl⟩

variable (ssl : OpenSsl Ssl) (api : SocketApi Net) (turns : Nat)

theorem ensure_open_mirrors :
    Mirrors (ensureOpen api.noted) (ensureOpen api : Calling Ssl Net Unit) := by
  intro w
  by_cases isOpen : api.isOpen w.net.1 = true
  · have noted : api.noted.isOpen w.net = true := isOpen
    have plain : api.isOpen w.plain.net = true := isOpen
    simp only [ensureOpen, if_pos noted, if_pos plain]
    exact ⟨rfl, rfl⟩
  · have noted : ¬ api.noted.isOpen w.net = true := isOpen
    have plain : ¬ api.isOpen w.plain.net = true := isOpen
    simp only [ensureOpen, if_neg noted, if_neg plain]
    exact ⟨rfl, rfl⟩

theorem set_io_timeout_mirrors (timeoutMs : UInt32) :
    Mirrors (tcpSocketSetIoTimeout api.noted timeoutMs)
      (tcpSocketSetIoTimeout api timeoutMs : Calling Ssl Net Unit) := by
  refine mirrors_bind (ensure_open_mirrors api) fun _ => mirrors_ite (mirrors_throw _) ?_
  refine mirrors_bind ?_ fun done => mirrors_ite (mirrors_pure _) (mirrors_throw _)
  refine mirrors_bind (mirrors_net .timeoutSet (api.setReceiveTimeout · timeoutMs)) fun _ => ?_
  exact mirrors_ite (mirrors_net .timeoutSet (api.setSendTimeout · timeoutMs)) (mirrors_pure _)

theorem tcp_send_loop_mirrors (bytes : List UInt8) :
    Mirrors (tcpSendLoop api.noted turns bytes)
      (tcpSendLoop api turns bytes : Calling Ssl Net Unit) := by
  induction turns generalizing bytes with
  | zero => exact mirrors_throw _
  | succ turns ih =>
    refine mirrors_ite (mirrors_pure _) ?_
    refine mirrors_bind (mirrors_net .sent (api.send · bytes)) fun sent => ?_
    exact mirrors_ite (mirrors_throw _) (ih _)

theorem tcp_receive_mirrors (capacity : Nat) :
    Mirrors (gmRuntimeTcpReceive api.noted capacity)
      (gmRuntimeTcpReceive api capacity : Calling Ssl Net _) := by
  refine mirrors_bind (ensure_open_mirrors api) fun _ => mirrors_ite (mirrors_throw _) ?_
  refine mirrors_bind (mirrors_net .received (api.recv · capacity)) fun received => ?_
  cases received with
  | none => exact mirrors_throw _
  | some bytes =>
    cases bytes with
    | nil => exact mirrors_throw _
    | cons byte bytes => exact mirrors_pure _

theorem apply_deadline_mirrors (deadline : Option Nat) :
    Mirrors (applyDeadline api.noted deadline)
      (applyDeadline api deadline : Calling Ssl Net _) := by
  cases deadline with
  | none => exact mirrors_pure _
  | some deadline =>
    refine mirrors_bind (mirrors_net .reading api.now) fun now => ?_
    exact mirrors_ite (mirrors_throw _) (set_io_timeout_mirrors api _)

theorem drain_mirrors (deadline : Option Nat) :
    Mirrors (drainEncryptedOutput ssl.noted api.noted turns deadline)
      (drainEncryptedOutput ssl api turns deadline) := by
  have loop (more : Nat) : Mirrors (drainLoop ssl.noted api.noted turns deadline more)
      (drainLoop ssl api turns deadline more) := by
    induction more with
    | zero => exact mirrors_throw _
    | succ more ih =>
      refine mirrors_bind (mirrors_read ssl.writeBioPending) fun pending => ?_
      refine mirrors_ite (mirrors_pure _) ?_
      refine mirrors_bind (mirrors_ssl .bioRead (ssl.readWriteBio · (16 * 1024))) fun read => ?_
      cases read with
      | none => exact mirrors_throw _
      | some bytes =>
        refine mirrors_bind (apply_deadline_mirrors api deadline) fun _ => ?_
        refine mirrors_bind ?_ fun _ => ih
        exact mirrors_bind (ensure_open_mirrors api) fun _ => tcp_send_loop_mirrors api turns bytes
  exact loop turns

theorem receive_encrypted_mirrors (deadline total : Option Nat) :
    Mirrors (receiveEncryptedInput ssl.noted api.noted deadline total)
      (receiveEncryptedInput ssl api deadline total) := by
  refine mirrors_bind (apply_deadline_mirrors api deadline) fun _ => ?_
  refine mirrors_bind (tcp_receive_mirrors api _) fun bytes => mirrors_ite (mirrors_throw _) ?_
  refine mirrors_bind
    (mirrors_ssl (.bioWritten · bytes.length) (ssl.writeReadBio · bytes)) fun written => ?_
  exact mirrors_ite (mirrors_pure _) (mirrors_throw _)

theorem handshake_loop_mirrors (impl : Impl) (iterations : Nat) (total : Option Nat) :
    Mirrors (handshakeLoop ssl.noted api.noted turns impl iterations total)
      (handshakeLoop ssl api turns impl iterations total) := by
  induction iterations generalizing total with
  | zero => exact mirrors_throw _
  | succ iterations ih =>
    refine mirrors_bind (mirrors_net .reading api.now) fun now => mirrors_ite (mirrors_throw _) ?_
    refine mirrors_bind (mirrors_ssl .result ssl.doHandshake) fun result => ?_
    refine mirrors_bind (drain_mirrors ssl api turns _) fun _ => mirrors_ite ?_ ?_
    · refine mirrors_bind (mirrors_ite (set_io_timeout_mirrors api _) (mirrors_pure _)) fun _ => ?_
      refine mirrors_bind (mirrors_read (peerAuthorized ssl)) fun authorized => ?_
      exact mirrors_ite (mirrors_pure _) (mirrors_throw _)
    · refine mirrors_bind (mirrors_read (ssl.getError · result)) fun error => ?_
      cases error with
      | wantWrite => exact ih total
      | wantRead => exact mirrors_bind (receive_encrypted_mirrors ssl api _ _) fun total => ih total
      | zeroReturn => exact mirrors_throw _
      | other => exact mirrors_throw _

variable (session : Option Impl)

theorem ensure_finished_mirrors (arguments : Bool) :
    Mirrors (TlsSession.ensureFinished ssl.noted session arguments)
      (TlsSession.ensureFinished ssl session arguments : Calling Ssl Net Unit) := by
  refine mirrors_bind (mirrors_read ssl.isInitFinished) fun finished => ?_
  exact mirrors_ite (mirrors_throw _) (mirrors_pure _)

theorem send_loop_mirrors (more : Nat) (plaintext : List UInt8) :
    Mirrors (TlsSession.sendLoop ssl.noted api.noted turns more plaintext)
      (TlsSession.sendLoop ssl api turns more plaintext) := by
  induction more generalizing plaintext with
  | zero => exact mirrors_throw _
  | succ more ih =>
    refine mirrors_ite (mirrors_pure _) ?_
    refine mirrors_bind (mirrors_ssl (fun written => .result written.1)
      (ssl.writeEx · plaintext)) fun written => ?_
    refine mirrors_bind (drain_mirrors ssl api turns _) fun _ => mirrors_ite (ih _) ?_
    refine mirrors_bind (mirrors_read (ssl.getError · written.1)) fun error => ?_
    cases error with
    | wantWrite => exact ih plaintext
    | wantRead => exact mirrors_bind (receive_encrypted_mirrors ssl api _ _) fun _ => ih plaintext
    | zeroReturn => exact mirrors_throw _
    | other => exact mirrors_throw _

theorem receive_mirrors (output : GmBytes) :
    Mirrors (TlsSession.receive ssl.noted api.noted turns session output)
      (TlsSession.receive ssl api turns session output) := by
  refine mirrors_bind (ensure_finished_mirrors ssl session _) fun _ => ?_
  generalize (256 : Nat) = iterations
  induction iterations with
  | zero => exact mirrors_throw _
  | succ iterations ih =>
    refine mirrors_bind (mirrors_ssl (fun read => .result read.1)
      (ssl.readEx · output.size)) fun read => ?_
    refine mirrors_bind (drain_mirrors ssl api turns _) fun _ => mirrors_ite (mirrors_pure _) ?_
    refine mirrors_bind (mirrors_read (ssl.getError · read.1)) fun error => ?_
    cases error with
    | wantWrite => exact ih
    | wantRead => exact mirrors_bind (receive_encrypted_mirrors ssl api _ _) fun _ => ih
    | zeroReturn => exact mirrors_throw _
    | other => exact mirrors_throw _

theorem receive_exact_loop_mirrors (more : Nat) (output : List UInt8) :
    Mirrors (TlsSession.receiveExactLoop ssl.noted api.noted turns session more output)
      (TlsSession.receiveExactLoop ssl api turns session more output) := by
  induction more generalizing output with
  | zero => exact mirrors_throw _
  | succ more ih =>
    refine mirrors_ite (mirrors_pure _) ?_
    refine mirrors_bind (receive_mirrors ssl api turns session _) fun received => ?_
    exact mirrors_bind (ih _) fun rest => mirrors_pure _

end Mirrors

end GhostMedia.Runtime
