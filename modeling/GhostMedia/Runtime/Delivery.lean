import GhostMedia.Runtime.BioTraffic

/- What a connection hands over: the bytes of a stream in pieces of any size, over TCP from
   `recv`, over TLS from `SSL_read_ex`. A history of the handed-over bytes is taken along
   with the state of the socket and of the TLS connection. -/
namespace GhostMedia.Runtime
open StateLogic

variable {Ssl Net : Type}

/-- What is relied on of `recv`: at most the capacity, and the next bytes of the stream. -/
structure RecvDelivers (api : SocketApi Net) (history : Net → List UInt8) : Prop where
  some : ∀ net capacity bytes, (api.recv net capacity).1 = some bytes →
    bytes.length ≤ capacity ∧ history (api.recv net capacity).2 = history net ++ bytes
  none : ∀ net capacity, (api.recv net capacity).1 = none →
    history (api.recv net capacity).2 = history net

/-- What is relied on of `SSL_read_ex`: when it succeeds, at least one byte and at most the
    capacity, the next ones of the stream. Reading or writing a BIO hands nothing over. -/
structure ReadDelivers (ssl : OpenSsl Ssl) (history : Ssl → List UInt8) : Prop where
  success : ∀ c size, (ssl.readEx c size).1.1 = 1 →
    (ssl.readEx c size).1.2 ≠ [] ∧ (ssl.readEx c size).1.2.length ≤ size ∧
      history (ssl.readEx c size).2 = history c ++ (ssl.readEx c size).1.2
  failure : ∀ c size, (ssl.readEx c size).1.1 ≠ 1 →
    history (ssl.readEx c size).2 = history c
  readWriteBio : ∀ c size, history (ssl.readWriteBio c size).2 = history c
  writeReadBio : ∀ c bytes, history (ssl.writeReadBio c bytes).2 = history c

/-- A memory BIO holds fewer bytes than there are turns, and a read takes bytes from it. -/
structure BioDrains (ssl : OpenSsl Ssl) (turns : Nat) : Prop where
  pending : ∀ c, ssl.writeBioPending c < turns
  read : ∀ c size bytes, (ssl.readWriteBio c size).1 = some bytes → bytes.length ≤ size ∧
    ssl.writeBioPending (ssl.readWriteBio c size).2 < ssl.writeBioPending c

/-- A successful read leaves no encrypted output to be sent. -/
def ReadsQuietly (ssl : OpenSsl Ssl) : Prop :=
  ∀ c size, (ssl.readEx c size).1.1 = 1 → ssl.writeBioPending (ssl.readEx c size).2 = 0

/-- A received piece continues the history. A failure loses at most one last piece, and
    nothing where the connection is `lossless`; where it is `bounded` no loop runs on. -/
def Delivered (history : World Ssl Net → List UInt8) (bounded lossless : Prop) (capacity : Nat)
    (before : List UInt8) : EStateM.Result Exit (World Ssl Net) (List UInt8) → Prop :=
  Ends (fun bytes w => bytes ≠ [] ∧ bytes.length ≤ capacity ∧ history w = before ++ bytes)
    fun exit w => (bounded → exit ≠ .running) ∧
      ∃ lost, history w = before ++ lost ∧ (lossless → lost = [])

/-- An exact read takes all it was asked for, or fails with less. -/
def DeliveredExactly (history : World Ssl Net → List UInt8) (bounded lossless : Prop) (size : Nat)
    (before : List UInt8) : EStateM.Result Exit (World Ssl Net) (List UInt8) → Prop :=
  Ends (fun bytes w => bytes.length = size ∧ history w = before ++ bytes)
    fun exit w => (bounded → exit ≠ .running) ∧ ∃ part lost, part.length < size ∧
      history w = before ++ part ++ lost ∧ (lossless → lost = [])

section Exact
variable {history : World Ssl Net → List UInt8} {bounded lossless : Prop}

theorem exact_loop_delivered {receive : List UInt8 → Calling Ssl Net (List UInt8)}
    (piece : ∀ output w, output ≠ [] →
      Delivered history bounded lossless output.length (history w) (receive output w))
    (turns : Nat) (output : List UInt8) (needed : output ≠ []) (enough : output.length < turns)
    (w : World Ssl Net) :
    DeliveredExactly history bounded lossless output.length (history w)
      (exactLoop receive turns output w) := by
  induction turns generalizing output w with
  | zero => exact absurd enough (Nat.not_lt_zero _)
  | succ turns ih =>
    rw [exactLoop, if_neg needed]
    have first := piece output w needed
    cases run : receive output w with
    | error exit w' =>
      rw [run] at first
      rw [bind_error run]
      obtain ⟨settled, lost, same, kept⟩ := first
      refine ⟨settled, [], lost, List.length_pos_iff.mpr needed, ?_, kept⟩
      rw [List.append_nil, same]
    | ok bytes w' =>
      rw [run] at first
      obtain ⟨some, room, next⟩ := first
      rw [bind_ok run]
      have positive := List.length_pos_iff.mpr some
      have left : (output.drop bytes.length).length = output.length - bytes.length :=
        List.length_drop
      by_cases whole : output.drop bytes.length = []
      · -- the last piece filled the output
        have filled : bytes.length = output.length := by
          have := List.drop_eq_nil_iff.mp whole
          omega
        obtain ⟨more, rfl⟩ : ∃ more, turns = more + 1 := ⟨turns - 1, by omega⟩
        rw [exactLoop, if_pos whole]
        refine ⟨?_, ?_⟩
        · rw [List.append_nil, filled]
        · rw [List.append_nil, next]
      · refine ends_bind (ends_mono (ih _ whole (by omega) w') (fun _ _ filled => filled) ?_) ?_
        · intro exit u failed
          obtain ⟨settled, part, lost, short, same, kept⟩ := failed
          refine ⟨settled, bytes ++ part, lost, ?_, ?_, kept⟩
          · rw [List.length_append]
            omega
          · rw [same, next, List.append_assoc (history w) bytes part]
        · intro rest u filled
          obtain ⟨size, same⟩ := filled
          refine ⟨?_, ?_⟩
          · rw [List.length_append]
            omega
          · rw [same, next, List.append_assoc]

end Exact

section Settling
variable {api : SocketApi Net} {turns : Nat}

/-- No loop of the call runs on. -/
def Settles {α : Type} (p : Calling Ssl Net α) : Prop :=
  ∀ w, Ends (fun _ w' => w'.ssl = w.ssl) (fun exit _ => exit ≠ .running) (p w)

theorem settles_fail {α : Type} (status : GmStatus) :
    Settles (fail status : Calling Ssl Net α) := fun _ => by
  intro running
  cases running

theorem settles_pure {α : Type} (a : α) : Settles (pure a : Calling Ssl Net α) := fun _ => rfl

theorem settles_bind {α β : Type} {p : Calling Ssl Net α} {f : α → Calling Ssl Net β}
    (first : Settles p) (next : ∀ a, Settles (f a)) : Settles (p >>= f) := by
  intro w
  refine ends_bind (first w) fun a w' same => ?_
  exact ends_mono (next a w') (fun _ _ later => later.trans same) fun _ _ other => other

theorem settles_ite {α : Type} {c : Prop} [Decidable c] {p q : Calling Ssl Net α}
    (yes : Settles p) (no : Settles q) : Settles (if c then p else q) := by
  split
  · exact yes
  · exact no

theorem settles_net {α : Type} (use : Net → α × Net) :
    Settles (onNet use : Calling Ssl Net α) := fun _ => rfl

theorem open_or_fails (w : World Ssl Net) :
    Ends (fun _ w' => w' = w) (fun exit w' => exit ≠ .running ∧ w' = w) (ensureOpen api w) := by
  rw [ensureOpen]
  split
  · rfl
  · exact ⟨by simp, rfl⟩

theorem ensure_open_settles : Settles (ensureOpen api : Calling Ssl Net Unit) := by
  intro w
  refine ends_mono (open_or_fails w) (fun _ w' same => ?_) fun _ _ failed => failed.1
  rw [same]

theorem tcp_receive_settles (capacity : Nat) :
    Settles (gmRuntimeTcpReceive api capacity : Calling Ssl Net (List UInt8)) := by
  refine settles_bind ensure_open_settles fun _ => settles_ite (settles_fail _) ?_
  refine settles_bind (settles_net _) fun received => ?_
  cases received with
  | none => exact settles_fail _
  | some bytes =>
    cases bytes with
    | nil => exact settles_fail _
    | cons byte bytes => exact settles_pure _

/-- Every turn sends at least one byte. -/
theorem tcp_send_loop_settles (turns : Nat) (bytes : List UInt8) (enough : bytes.length < turns) :
    Settles (tcpSendLoop api turns bytes : Calling Ssl Net Unit) := by
  induction turns generalizing bytes with
  | zero => exact absurd enough (Nat.not_lt_zero _)
  | succ turns ih =>
    rw [tcpSendLoop]
    by_cases done : bytes = []
    · rw [if_pos done]
      exact settles_pure _
    rw [if_neg done]
    refine settles_bind (settles_net _) fun sent => ?_
    by_cases failed : sent ≤ 0
    · rw [if_pos failed]
      exact settles_fail _
    · rw [if_neg failed]
      have some := List.length_pos_iff.mpr done
      exact ih _ (by rw [List.length_drop]; omega)

theorem on_net_ends {α : Type} (use : Net → α × Net) (failed : Exit → World Ssl Net → Prop)
    (w : World Ssl Net) :
    Ends (fun a w' => a = (use w.net).1 ∧ w' = { w with net := (use w.net).2 }) failed
      (onNet use w) := ⟨rfl, rfl⟩

theorem of_ssl_ends {α : Type} (read : Ssl → α) (failed : Exit → World Ssl Net → Prop)
    (w : World Ssl Net) :
    Ends (fun a w' => a = read w.ssl ∧ w' = w) failed (ofSsl read w) := ⟨rfl, rfl⟩

theorem on_ssl_ends {α : Type} (use : Ssl → α × Ssl) (failed : Exit → World Ssl Net → Prop)
    (w : World Ssl Net) :
    Ends (fun a w' => a = (use w.ssl).1 ∧ w' = { w with ssl := (use w.ssl).2 }) failed
      (onSsl use w) := ⟨rfl, rfl⟩

theorem receive_encrypted_settles {ssl : OpenSsl Ssl} (w : World Ssl Net) :
    Ends (fun _ _ => True) (fun exit _ => exit ≠ .running)
      (receiveEncryptedInput ssl api none none w) := by
  unfold receiveEncryptedInput
  refine ends_bind (settles_pure () w) fun _ w _ => ?_
  refine ends_bind (tcp_receive_settles _ w) fun bytes w _ => ?_
  refine ends_bind (on_ssl_ends (ssl.writeReadBio · bytes) _ w) fun written w _ => ?_
  refine ends_ite (fun _ => trivial) fun _ => ?_
  intro running
  cases running

theorem drain_loop_settles {ssl : OpenSsl Ssl} (drains : BioDrains ssl turns)
    (large : 16 * 1024 < turns) (more : Nat) (w : World Ssl Net)
    (enough : ssl.writeBioPending w.ssl < more) :
    Ends (fun _ _ => True) (fun exit _ => exit ≠ .running)
      (drainLoop ssl api turns none more w) := by
  induction more generalizing w with
  | zero => exact absurd enough (Nat.not_lt_zero _)
  | succ more ih =>
    refine ends_bind (of_ssl_ends ssl.writeBioPending _ w) fun pending w' same => ?_
    obtain ⟨rfl, rfl⟩ := same
    refine ends_ite (fun _ => trivial) fun _ => ?_
    have read := drains.read w'.ssl (16 * 1024)
    refine ends_bind (on_ssl_ends (ssl.readWriteBio · (16 * 1024)) _ w') fun bytes w same => ?_
    obtain ⟨found, same⟩ := same
    cases bytes with
    | none =>
      intro running
      cases running
    | some bytes =>
      obtain ⟨fits, shrinks⟩ := read bytes found.symm
      have sends : Settles (gmRuntimeTcpSendAll api turns bytes : Calling Ssl Net Unit) :=
        settles_bind ensure_open_settles fun _ =>
          tcp_send_loop_settles turns bytes (by omega)
      refine ends_bind (settles_pure () w) fun _ w₀ kept₀ => ?_
      refine ends_bind (sends w₀) fun _ w₁ kept₁ => ih w₁ ?_
      rw [kept₁, kept₀, same]
      dsimp only
      omega

end Settling

theorem nothing_lost {bytes before : List UInt8} {lossless : Prop} (same : bytes = before) :
    ∃ lost, bytes = before ++ lost ∧ (lossless → lost = []) :=
  ⟨[], same.trans (List.append_nil _).symm, fun _ => rfl⟩

section Tcp
variable {api : SocketApi Net} {log : Net → List UInt8} (delivers : RecvDelivers api log)
include delivers

theorem tcp_receive_delivered (capacity : Nat) (w : World Ssl Net) :
    Delivered (fun w => log w.net) True True capacity (log w.net)
      (gmRuntimeTcpReceive api capacity w) := by
  refine ends_bind (ends_mono (open_or_fails w) (fun _ _ same => same) ?_) fun _ w' same => ?_
  · intro exit w' failed
    obtain ⟨other, rfl⟩ := failed
    exact ⟨fun _ => other, nothing_lost rfl⟩
  subst same
  refine ends_ite (fun _ => ⟨by simp, nothing_lost rfl⟩) fun _ => ?_
  have received := delivers.some w'.net capacity
  have nothing := delivers.none w'.net capacity
  refine ends_bind (on_net_ends (api.recv · capacity) _ w') fun bytes w shape => ?_
  obtain ⟨found, rfl⟩ := shape
  cases bytes with
  | none => exact ⟨by simp, nothing_lost (nothing found.symm)⟩
  | some bytes =>
    obtain ⟨room, next⟩ := received bytes found.symm
    cases bytes with
    | nil => exact ⟨by simp, [], next, fun _ => rfl⟩
    | cons byte bytes => exact ⟨List.cons_ne_nil _ _, room, next⟩

theorem tcp_receive_exact_delivered {turns : Nat} {output : List UInt8} (needed : output ≠ [])
    (enough : output.length < turns) (w : World Ssl Net) :
    DeliveredExactly (fun w => log w.net) True True output.length (log w.net)
      (gmRuntimeTcpReceiveExact api turns (.view output) w) := by
  refine ends_bind (ends_mono (open_or_fails w) (fun _ _ same => same) ?_) fun _ w' same => ?_
  · intro exit w' failed
    obtain ⟨other, rfl⟩ := failed
    refine ⟨fun _ => other, [], [], List.length_pos_iff.mpr needed, ?_, fun _ => rfl⟩
    rw [List.append_nil, List.append_nil]
  subst same
  rw [if_pos (view_readable output)]
  exact exact_loop_delivered (fun output w _ => tcp_receive_delivered delivers output.length w)
    turns output needed enough w'

end Tcp

section Tls
variable {ssl : OpenSsl Ssl} (api : SocketApi Net) {turns : Nat} {log : Ssl → List UInt8}
  (delivers : ReadDelivers ssl log) (large : 16 * 1024 < turns)
include delivers

theorem log_untouched (bytes : List UInt8) :
    Untouched ssl fun w : World Ssl Net => log w.ssl = bytes where
  net _ _ held := held
  readWriteBio w size held := (delivers.readWriteBio w.ssl size).trans held
  writeReadBio w written held := (delivers.writeReadBio w.ssl written).trans held

/-- A step between two reads leaves the history alone. -/
def Silent (log : Ssl → List UInt8) (bounded : Prop) (w : World Ssl Net) {α : Type} :
    EStateM.Result Exit (World Ssl Net) α → Prop :=
  Ends (fun _ w' => log w'.ssl = log w.ssl)
    fun exit w' => (bounded → exit ≠ .running) ∧ log w'.ssl = log w.ssl

include large in
theorem drain_silent (w : World Ssl Net) :
    Silent log (BioDrains ssl turns) w (drainEncryptedOutput ssl api turns none w) := by
  have kept := drain_loop_keeps api turns (log_untouched delivers (log w.ssl)) none turns w rfl
  have settled (drains : BioDrains ssl turns) :
      Ends (fun _ _ => True) (fun exit _ => exit ≠ .running)
        (drainLoop ssl api turns none turns w) :=
    drain_loop_settles drains large turns w (drains.pending w.ssl)
  unfold drainEncryptedOutput
  cases run : drainLoop ssl api turns none turns w with
  | ok _ w' =>
    rw [run] at kept
    exact kept
  | error exit w' =>
    rw [run] at kept settled
    exact ⟨settled, kept⟩

theorem receive_encrypted_silent (bounded : Prop) (w : World Ssl Net) :
    Silent log bounded w (receiveEncryptedInput ssl api none none w) := by
  have kept := receive_encrypted_keeps api (log_untouched delivers (log w.ssl)) none none w rfl
  have both := ends_and kept (receive_encrypted_settles w)
  exact ends_mono both (fun _ _ held => held.1) fun _ _ held => ⟨fun _ => held.2, held.1⟩

omit delivers in
include large in
theorem drain_quiet {w : World Ssl Net} (quiet : ssl.writeBioPending w.ssl = 0) :
    drainEncryptedOutput ssl api turns none w = .ok () w := by
  obtain ⟨more, rfl⟩ : ∃ more, turns = more + 1 := ⟨turns - 1, by omega⟩
  have run : ofSsl ssl.writeBioPending w = .ok 0 w := by rw [ofSsl, quiet]
  unfold drainEncryptedOutput
  rw [drainLoop, bind_ok run]
  rfl

include large in
theorem tls_receive_loop_delivered (size iterations : Nat) (w : World Ssl Net) :
    Delivered (fun w => log w.ssl) (BioDrains ssl turns) (ReadsQuietly ssl) size (log w.ssl)
      (TlsSession.receiveLoop ssl api turns size iterations w) := by
  induction iterations generalizing w with
  | zero => exact ⟨by simp, nothing_lost rfl⟩
  | succ iterations ih =>
    refine ends_bind (on_ssl_ends (ssl.readEx · size) _ w) fun reply w₁ shape => ?_
    obtain ⟨rfl, rfl⟩ := shape
    have drained := drain_silent api delivers large { w with ssl := (ssl.readEx w.ssl size).2 }
    by_cases success : (ssl.readEx w.ssl size).1.1 = 1
    · obtain ⟨some, room, next⟩ := delivers.success w.ssl size success
      by_cases quiet : ReadsQuietly ssl
      · dsimp only
        rw [bind_ok (drain_quiet api large (quiet w.ssl size success)), if_pos success]
        exact ⟨some, room, next⟩
      -- a failure to send now loses the bytes that were read
      refine ends_bind (ends_mono drained (fun _ _ same => same) ?_) fun _ w₂ same => ?_
      · intro exit w₂ failed
        obtain ⟨settled, same⟩ := failed
        exact ⟨settled, _, same.trans next, fun quiet' => absurd quiet' quiet⟩
      · rw [if_pos success]
        exact ⟨some, room, same.trans next⟩
    · have same₁ : log (ssl.readEx w.ssl size).2 = log w.ssl := delivers.failure w.ssl size success
      have later (w' : World Ssl Net) (same : log w'.ssl = log w.ssl) := same ▸ ih w'
      refine ends_bind (ends_mono drained (fun _ _ same => same) ?_) fun _ w₂ same₂ => ?_
      · intro exit w₂ failed
        exact ⟨failed.1, nothing_lost (failed.2.trans same₁)⟩
      rw [if_neg success]
      refine ends_bind (of_ssl_ends (ssl.getError · _) _ w₂) fun error w₃ shape => ?_
      obtain ⟨_, rfl⟩ := shape
      have same := same₂.trans same₁
      cases error with
      | wantWrite => exact later w₃ same
      | wantRead =>
        have received := receive_encrypted_silent api delivers (BioDrains ssl turns) w₃
        refine ends_bind (ends_mono received (fun _ _ same => same) ?_) fun _ w₄ same₄ => ?_
        · intro exit w₄ failed
          exact ⟨failed.1, nothing_lost (failed.2.trans same)⟩
        · exact later w₄ (same₄.trans same)
      | zeroReturn => exact ⟨by simp, nothing_lost same⟩
      | other => exact ⟨by simp, nothing_lost same⟩

include large in
theorem tls_receive_delivered (session : Option Impl) (output : GmBytes) (w : World Ssl Net) :
    Delivered (fun w => log w.ssl) (BioDrains ssl turns) (ReadsQuietly ssl) output.size (log w.ssl)
      (TlsSession.receive ssl api turns session output w) := by
  have guarded : Ends (fun _ w' => w' = w) (fun exit w' => exit ≠ .running ∧ w' = w)
      (TlsSession.ensureFinished ssl session (output.data ≠ []) w) := by
    refine ends_bind (of_ssl_ends ssl.isInitFinished _ w) fun finished w' shape => ?_
    obtain ⟨_, rfl⟩ := shape
    exact ends_ite (fun _ => ⟨by simp, rfl⟩) fun _ => rfl
  refine ends_bind (ends_mono guarded (fun _ _ same => same) ?_) fun _ w' same => ?_
  · intro exit w' failed
    obtain ⟨other, rfl⟩ := failed
    exact ⟨fun _ => other, nothing_lost rfl⟩
  · subst same
    exact tls_receive_loop_delivered api delivers large output.size 256 w'

omit delivers in
theorem receive_exact_loop (session : Option Impl) (more : Nat) (output : List UInt8) :
    (TlsSession.receiveExactLoop ssl api turns session more output : Calling Ssl Net _) =
      exactLoop (fun output => TlsSession.receive ssl api turns session (.view output))
        more output := by
  induction more generalizing output with
  | zero => rfl
  | succ more ih => simp only [TlsSession.receiveExactLoop, exactLoop, ih]

include large in
theorem tls_receive_exact_delivered (session : Option Impl) {output : List UInt8}
    (needed : output ≠ []) (enough : output.length < turns) (w : World Ssl Net) :
    DeliveredExactly (fun w => log w.ssl) (BioDrains ssl turns) (ReadsQuietly ssl) output.length
      (log w.ssl) (TlsSession.receiveExact ssl api turns session (.view output) w) := by
  rw [TlsSession.receiveExact, if_pos (view_readable output), receive_exact_loop]
  exact exact_loop_delivered
    (fun output w _ => tls_receive_delivered api delivers large session (.view output) w)
    turns output needed enough w

end Tls

end GhostMedia.Runtime
