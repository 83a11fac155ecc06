import GhostMedia.Runtime.NotedAnswers

/- Which answers let a call of a TLS session through: what OpenSSL, the socket and the clock
   have to say so that its loops come to their ends, and that nothing else stops them. -/
namespace GhostMedia.Runtime
open CString StateLogic

variable {Ssl Net : Type}

abbrev kHandshakeTimeout : Nat := 5000000000

/-- What `create` gives a session: an open handle, and a deadline that lies no further ahead
    of the steady clock than the time for a handshake. -/
structure Created (api : SocketApi Net) (impl : Impl) : Prop where
  isOpen : ∀ net, api.isOpen net = true
  steady : ∀ net, impl.handshakeDeadline ≤ (api.now net).1 + kHandshakeTimeout

/-- What is relied on: the connection is finished by `SSL_do_handshake` when that completes,
    and reading or writing a BIO makes no difference. -/
structure FinishedByHandshake (ssl : OpenSsl Ssl) : Prop where
  completes : ∀ c, (ssl.doHandshake c).1 = 1 → ssl.isInitFinished (ssl.doHandshake c).2 = 1
  readWriteBio : ∀ c size,
    ssl.isInitFinished (ssl.readWriteBio c size).2 = ssl.isInitFinished c
  writeReadBio : ∀ c bytes,
    ssl.isInitFinished (ssl.writeReadBio c bytes).2 = ssl.isInitFinished c

theorem noted_finished_by_handshake {ssl : OpenSsl Ssl} (facts : FinishedByHandshake ssl) :
    FinishedByHandshake ssl.noted where
  completes c := facts.completes c.1
  readWriteBio c := facts.readWriteBio c.1
  writeReadBio c := facts.writeReadBio c.1

def Finished (ssl : OpenSsl Ssl) (w : World Ssl Net) : Prop := ssl.isInitFinished w.ssl = 1

instance (ssl : OpenSsl Ssl) (w : World Ssl Net) : Decidable (Finished ssl w) :=
  inferInstanceAs (Decidable (_ = _))

theorem finished_untouched {ssl : OpenSsl Ssl} (facts : FinishedByHandshake ssl) :
    Untouched ssl (Finished ssl : World Ssl Net → Prop) where
  net _ _ finished := finished
  readWriteBio w size finished := (facts.readWriteBio w.ssl size).trans finished
  writeReadBio w bytes finished := (facts.writeReadBio w.ssl bytes).trans finished

section Answers

/-- An answer that lets a call go on: a time before the deadline, bytes that have been sent or
    received, a timeout that has been set. -/
def NetAnswer.Obliges (deadline : Nat) : NetAnswer → Prop
  | .reading now => now < deadline
  | .sent count => 0 < count
  | .received bytes => bytes ≠ none ∧ bytes ≠ some []
  | .timeoutSet done => done = true

instance (deadline : Nat) : (answer : NetAnswer) → Decidable (answer.Obliges deadline)
  | .reading now => inferInstanceAs (Decidable (now < deadline))
  | .sent count => inferInstanceAs (Decidable (0 < count))
  | .received bytes => inferInstanceAs (Decidable (bytes ≠ none ∧ bytes ≠ some []))
  | .timeoutSet done => inferInstanceAs (Decidable (done = true))

/-- A BIO that has been read, or has taken all bytes. -/
def SslAnswer.Accepts : SslAnswer → Prop
  | .result _ => True
  | .bioRead bytes => bytes ≠ none
  | .bioWritten written size => written = size

instance : (answer : SslAnswer) → Decidable answer.Accepts
  | .result _ => inferInstanceAs (Decidable True)
  | .bioRead bytes => inferInstanceAs (Decidable (bytes ≠ none))
  | .bioWritten written size => inferInstanceAs (Decidable (written = size))

def SslAnswer.value : SslAnswer → Option Int
  | .result value => some value
  | .bioRead _ => none
  | .bioWritten .. => none

def lastResult (answers : List SslAnswer) : Option Int :=
  (answers.filterMap SslAnswer.value).getLast?

theorem last_result_snoc (answers : List SslAnswer) (value : Int) :
    lastResult (answers ++ [.result value]) = some value := by
  rw [lastResult, List.filterMap_append]
  exact List.getLast?_concat

theorem last_result_other {answers : List SslAnswer} {answer : SslAnswer}
    (other : answer.value = none) : lastResult (answers ++ [answer]) = lastResult answers := by
  simp [lastResult, other]

/-- None of the answers stands in the way, and this is the last result among them. -/
structure Serves (deadline : Nat) (last : Option Int) (net : List NetAnswer)
    (ssl : List SslAnswer) : Prop where
  obliges : ∀ answer ∈ net, answer.Obliges deadline
  accepts : ∀ answer ∈ ssl, answer.Accepts
  answered : lastResult ssl = last

instance (deadline : Nat) (last : Option Int) (net : List NetAnswer) (ssl : List SslAnswer) :
    Decidable (Serves deadline last net ssl) :=
  decidable_of_iff ((∀ answer ∈ net, answer.Obliges deadline) ∧
    (∀ answer ∈ ssl, answer.Accepts) ∧ lastResult ssl = last)
    ⟨fun serves => ⟨serves.1, serves.2.1, serves.2.2⟩,
      fun serves => ⟨serves.obliges, serves.accepts, serves.answered⟩⟩

theorem serves_nothing (deadline : Nat) : Serves deadline none [] [] := ⟨by simp, by simp, rfl⟩

section Serves
variable {deadline : Nat} {last : Option Int} {net : List NetAnswer} {ssl : List SslAnswer}

theorem serves_net_iff {answer : NetAnswer} : Serves deadline last (net ++ [answer]) ssl ↔
    Serves deadline last net ssl ∧ answer.Obliges deadline := by
  constructor
  · rintro ⟨obliges, accepts, answered⟩
    rw [List.forall_mem_append, List.forall_mem_singleton] at obliges
    exact ⟨⟨obliges.1, accepts, answered⟩, obliges.2⟩
  · rintro ⟨⟨obliges, accepts, answered⟩, last⟩
    refine ⟨?_, accepts, answered⟩
    rw [List.forall_mem_append, List.forall_mem_singleton]
    exact ⟨obliges, last⟩

theorem serves_bio_iff {answer : SslAnswer} (other : answer.value = none) :
    Serves deadline last net (ssl ++ [answer]) ↔
      Serves deadline last net ssl ∧ answer.Accepts := by
  constructor
  · rintro ⟨obliges, accepts, answered⟩
    rw [List.forall_mem_append, List.forall_mem_singleton] at accepts
    exact ⟨⟨obliges, accepts.1, (last_result_other other).symm.trans answered⟩, accepts.2⟩
  · rintro ⟨⟨obliges, accepts, answered⟩, last⟩
    refine ⟨obliges, ?_, (last_result_other other).trans answered⟩
    rw [List.forall_mem_append, List.forall_mem_singleton]
    exact ⟨accepts, last⟩

theorem serves_result (serves : Serves deadline last net ssl) (value : Int) :
    Serves deadline (some value) net (ssl ++ [.result value]) := by
  refine ⟨serves.obliges, ?_, last_result_snoc ssl value⟩
  rw [List.forall_mem_append, List.forall_mem_singleton]
  exact ⟨serves.accepts, trivial⟩

end Serves

structure Hears (start w : NotedWorld Ssl Net) (net : List NetAnswer) (ssl : List SslAnswer) :
    Prop where
  net : w.net.2 = start.net.2 ++ net
  ssl : w.ssl.2 = start.ssl.2 ++ ssl

variable (impl : Impl) (start : NotedWorld Ssl Net)

def GoesOn (last : Option Int) (w : NotedWorld Ssl Net) : Prop :=
  ∃ net ssl, Hears start w net ssl ∧ Serves impl.handshakeDeadline last net ssl

/-- Where a call has not come to its end, some answer stood in its way or the last one was not
    the one that it waits for. -/
def Stops (exit : Exit) (w : NotedWorld Ssl Net) : Prop :=
  exit = .running ∨
    ∃ net ssl, Hears start w net ssl ∧ ¬ Serves impl.handshakeDeadline (some 1) net ssl

end Answers

section Noted
variable {α : Type} {impl : Impl} {start w : NotedWorld Ssl Net} {last : Option Int}
  {failed : Exit → NotedWorld Ssl Net → Prop}

theorem of_ssl_reads (read : Ssl × List SslAnswer → α) (w : NotedWorld Ssl Net) :
    Ends (fun a after => a = read w.ssl ∧ after = w) failed (ofSsl read w) := ⟨rfl, rfl⟩

theorem goes_on_starts (impl : Impl) (start : NotedWorld Ssl Net) : GoesOn impl start none start :=
  ⟨[], [], ⟨by simp, by simp⟩, serves_nothing _⟩

theorem goes_on_stops (goesOn : GoesOn impl start last w) (unanswered : last ≠ some 1)
    (exit : Exit) : Stops impl start exit w := by
  obtain ⟨net, ssl, hears, serves⟩ := goesOn
  exact .inr ⟨net, ssl, hears, fun other => unanswered (serves.answered.symm.trans other.answered)⟩

theorem net_noted (goesOn : GoesOn impl start last w) (answer : α → NetAnswer)
    (use : Net → α × Net) :
    Ends (fun a after => (∃ net, a = (use net).1) ∧
        ((answer a).Obliges impl.handshakeDeadline → GoesOn impl start last after) ∧
        (¬ (answer a).Obliges impl.handshakeDeadline → ∀ exit, Stops impl start exit after))
      failed (onNet (noting answer use) w) := by
  obtain ⟨net, ssl, hears, serves⟩ := goesOn
  have heard : Hears start { w with net := (noting answer use w.net).2 }
      (net ++ [answer (use w.net.1).1]) ssl :=
    ⟨by rw [noting, hears.net, List.append_assoc], hears.ssl⟩
  exact ⟨⟨w.net.1, rfl⟩,
    fun obliges => ⟨_, _, heard, serves_net_iff.mpr ⟨serves, obliges⟩⟩,
    fun refuses exit => .inr ⟨_, _, heard, fun other => refuses (serves_net_iff.mp other).2⟩⟩

theorem result_noted (goesOn : GoesOn impl start last w) (value : α → Int)
    (use : Ssl → α × Ssl) :
    Ends (fun a after => (∃ c, a = (use c).1 ∧ after.ssl.1 = (use c).2) ∧
        GoesOn impl start (some (value a)) after)
      failed (onSsl (noting (fun a => .result (value a)) use) w) := by
  obtain ⟨net, ssl, hears, serves⟩ := goesOn
  exact ⟨⟨w.ssl.1, rfl, rfl⟩, net, ssl ++ [.result (value (use w.ssl.1).1)],
    ⟨hears.net, by rw [noting, hears.ssl, List.append_assoc]⟩, serves_result serves _⟩

theorem bio_noted (goesOn : GoesOn impl start last w) (answer : α → SslAnswer)
    (other : ∀ a, (answer a).value = none) (use : Ssl → α × Ssl) :
    Ends (fun a after => ((answer a).Accepts → GoesOn impl start last after) ∧
        (¬ (answer a).Accepts → ∀ exit, Stops impl start exit after))
      failed (onSsl (noting answer use) w) := by
  obtain ⟨net, ssl, hears, serves⟩ := goesOn
  have heard : Hears start { w with ssl := (noting answer use w.ssl).2 } net
      (ssl ++ [answer (use w.ssl.1).1]) :=
    ⟨hears.net, by rw [noting, hears.ssl, List.append_assoc]⟩
  exact ⟨fun accepts => ⟨_, _, heard, (serves_bio_iff (other _)).mpr ⟨serves, accepts⟩⟩,
    fun refuses exit =>
      .inr ⟨_, _, heard, fun served => refuses ((serves_bio_iff (other _)).mp served).2⟩⟩

end Noted

section Traffic
variable {ssl : OpenSsl Ssl} {api : SocketApi Net} (turns : Nat) {impl : Impl}
  (created : Created api impl) {start w : NotedWorld Ssl Net} {last : Option Int}
include created

theorem ensure_open_goes_on (goesOn : GoesOn impl start last w) :
    Ends (fun _ => GoesOn impl start last) (Stops impl start) (ensureOpen api.noted w) := by
  have isOpen : api.noted.isOpen w.net = true := created.isOpen w.net.1
  rw [ensureOpen, if_pos isOpen]
  exact goesOn

theorem set_io_timeout_goes_on {timeoutMs : UInt32} (some' : timeoutMs ≠ 0)
    (goesOn : GoesOn impl start last w) :
    Ends (fun _ => GoesOn impl start last) (Stops impl start)
      (tcpSocketSetIoTimeout api.noted timeoutMs w) := by
  refine ends_bind (ensure_open_goes_on created goesOn) fun _ w goesOn => ?_
  refine ends_ite (fun none => absurd none some') fun _ => ?_
  have set : Ends (fun done after => if done = true then GoesOn impl start last after
      else ∀ exit, Stops impl start exit after) (Stops impl start)
      (setTimeouts api.noted timeoutMs w) := by
    refine ends_bind (net_noted goesOn .timeoutSet (api.setReceiveTimeout · timeoutMs))
      fun done w answered => ?_
    refine ends_ite (fun received => ?_) fun refused => ?_
    · refine ends_mono (net_noted (answered.2.1 received) .timeoutSet
        (api.setSendTimeout · timeoutMs)) ?_ fun _ _ => id
      intro sent w answered
      split
      · next set => exact answered.2.1 set
      · next unset => exact answered.2.2 unset
    · exact answered.2.2 refused
  refine ends_bind set fun done w answered => ?_
  refine ends_ite (fun set => ?_) fun unset => ?_
  · rw [if_pos set] at answered
    exact answered
  · rw [if_neg unset] at answered
    exact answered _

theorem apply_deadline_goes_on {deadline : Option Nat}
    (own : ∀ d, deadline = some d → d = impl.handshakeDeadline)
    (goesOn : GoesOn impl start last w) :
    Ends (fun _ => GoesOn impl start last) (Stops impl start)
      (applyDeadline api.noted deadline w) := by
  cases deadline with
  | none => exact goesOn
  | some deadline =>
    obtain rfl := own deadline rfl
    refine ends_bind (net_noted goesOn .reading api.now) fun now w answered => ?_
    obtain ⟨⟨net, reading⟩, inTime, late⟩ := answered
    refine ends_ite (fun passed => late (Nat.not_lt.mpr passed) _) fun before => ?_
    refine set_io_timeout_goes_on created ?_ (inTime (Nat.lt_of_not_le before))
    -- the time that is left, at most five seconds, fits in the timeout
    intro zero
    have steady := created.steady net
    have number := congrArg UInt32.toNat zero
    rw [← reading, kHandshakeTimeout] at steady
    simp only [Nat.toUInt32, UInt32.toNat_ofNat', UInt32.toNat_zero] at number
    omega

theorem tcp_send_goes_on (bytes : List UInt8) (goesOn : GoesOn impl start last w) :
    Ends (fun _ => GoesOn impl start last) (Stops impl start)
      (gmRuntimeTcpSendAll api.noted turns bytes w) := by
  refine ends_bind (ensure_open_goes_on created goesOn) fun _ w goesOn => ?_
  induction turns generalizing bytes w with
  | zero => exact .inl rfl
  | succ turns ih =>
    refine ends_ite (fun _ => goesOn) fun _ => ?_
    refine ends_bind (net_noted goesOn .sent (api.send · bytes)) fun sent w answered => ?_
    refine ends_ite (fun none => answered.2.2 (Int.not_lt.mpr none) _) fun some' => ?_
    exact ih _ _ (answered.2.1 (Int.lt_of_not_ge some'))

theorem tcp_receive_goes_on {capacity : Nat} (room : capacity ≠ 0)
    (goesOn : GoesOn impl start last w) :
    Ends (fun _ => GoesOn impl start last) (Stops impl start)
      (gmRuntimeTcpReceive api.noted capacity w) := by
  refine ends_bind (ensure_open_goes_on created goesOn) fun _ w goesOn => ?_
  refine ends_ite (fun none => absurd none room) fun _ => ?_
  refine ends_bind (net_noted goesOn .received (api.recv · capacity)) fun received w answered => ?_
  cases received with
  | none => exact answered.2.2 (fun some' => some'.1 rfl) _
  | some bytes =>
    cases bytes with
    | nil => exact answered.2.2 (fun some' => some'.2 rfl) _
    | cons byte bytes => exact answered.2.1 ⟨by simp, by simp⟩

theorem drain_goes_on {deadline : Option Nat}
    (own : ∀ d, deadline = some d → d = impl.handshakeDeadline)
    (goesOn : GoesOn impl start last w) :
    Ends (fun _ => GoesOn impl start last) (Stops impl start)
      (drainEncryptedOutput ssl.noted api.noted turns deadline w) := by
  have loop (more : Nat) {w : NotedWorld Ssl Net} (goesOn : GoesOn impl start last w) :
      Ends (fun _ => GoesOn impl start last) (Stops impl start)
        (drainLoop ssl.noted api.noted turns deadline more w) := by
    induction more generalizing w with
    | zero => exact .inl rfl
    | succ more ih =>
      refine ends_bind (of_ssl_reads _ w) fun pending w read => ?_
      obtain ⟨_, rfl⟩ := read
      refine ends_ite (fun _ => goesOn) fun _ => ?_
      refine ends_bind (bio_noted goesOn .bioRead (fun _ => rfl) (ssl.readWriteBio · (16 * 1024)))
        fun read w answered => ?_
      cases read with
      | none => exact answered.2 (fun some' => some' rfl) _
      | some bytes =>
        have goesOn := answered.1 (by simp [SslAnswer.Accepts])
        refine ends_bind (apply_deadline_goes_on created own goesOn) fun _ w goesOn => ?_
        exact ends_bind (tcp_send_goes_on turns created bytes goesOn) fun _ w goesOn => ih goesOn
  exact loop turns goesOn

theorem receive_encrypted_goes_on {deadline : Option Nat}
    (own : ∀ d, deadline = some d → d = impl.handshakeDeadline) (total : Option Nat)
    (unanswered : last ≠ some 1) (goesOn : GoesOn impl start last w) :
    Ends (fun _ => GoesOn impl start last) (Stops impl start)
      (receiveEncryptedInput ssl.noted api.noted deadline total w) := by
  refine ends_bind (apply_deadline_goes_on created own goesOn) fun _ w goesOn => ?_
  refine ends_bind (tcp_receive_goes_on created (by decide) goesOn) fun bytes w goesOn => ?_
  refine ends_ite (fun _ => goes_on_stops goesOn unanswered _) fun _ => ?_
  refine ends_bind (bio_noted goesOn (.bioWritten · bytes.length) (fun _ => rfl)
    (ssl.writeReadBio · bytes)) fun written w answered => ?_
  exact ends_ite (fun all => answered.1 all) fun less => answered.2 less _

end Traffic

section Calls
variable {ssl : OpenSsl Ssl} {api : SocketApi Net} (turns : Nat) {impl : Impl}
  {start w : NotedWorld Ssl Net} {last : Option Int}

theorem authorize_peer_run (w : NotedWorld Ssl Net) : authorizePeer ssl.noted w =
    if peerAuthorized ssl.noted w.ssl = true then .ok () w
    else .error (.returned .unauthorized) w := by
  have read : ofSsl (peerAuthorized ssl.noted) w = .ok (peerAuthorized ssl.noted w.ssl) w := rfl
  rw [authorizePeer, bind_ok read]
  cases peerAuthorized ssl.noted w.ssl with
  | true => rfl
  | false => rfl

theorem ensure_finished_run (ssl : OpenSsl Ssl) (session : Option Impl) (arguments : Bool)
    (w : World Ssl Net) : TlsSession.ensureFinished ssl session arguments w =
      if session.isSome = true ∧ arguments = true ∧ Finished ssl w then .ok () w
      else .error (.returned .badArgument) w := by
  have read : ofSsl ssl.isInitFinished w = .ok (ssl.isInitFinished w.ssl) w := rfl
  rw [TlsSession.ensureFinished, bind_ok read]
  by_cases finished : ssl.isInitFinished w.ssl = 1
  · cases session <;> cases arguments <;> simp [Finished, finished] <;> rfl
  · simp [Finished, finished]
    rfl

variable (created : Created api impl)
include created

/-- A handshake ends well once `SSL_do_handshake` completes, unless an answer stops it or the
    peer is not authorized. -/
theorem handshake_loop_ends (facts : FinishedByHandshake ssl) (iterations : Nat)
    (total : Option Nat) (unanswered : last ≠ some 1) (goesOn : GoesOn impl start last w) :
    Ends (fun _ after => GoesOn impl start (some 1) after ∧ Finished ssl.noted after ∧
        peerAuthorized ssl.noted after.ssl = true)
      (fun exit after => Stops impl start exit after ∨ peerAuthorized ssl.noted after.ssl ≠ true)
      (handshakeLoop ssl.noted api.noted turns impl iterations total w) := by
  have own : ∀ d, some impl.handshakeDeadline = some d → d = impl.handshakeDeadline :=
    fun _ same => (Option.some.inj same).symm
  have kept : Untouched ssl.noted (Finished ssl.noted : NotedWorld Ssl Net → Prop) :=
    finished_untouched (noted_finished_by_handshake facts)
  induction iterations generalizing total last w with
  | zero => exact .inl (goes_on_stops goesOn unanswered _)
  | succ iterations ih =>
    refine ends_bind (net_noted goesOn .reading api.now) fun now w answered => ?_
    refine ends_ite (fun passed => .inl (answered.2.2 (Nat.not_lt.mpr passed) _)) fun before => ?_
    have goesOn := answered.2.1 (Nat.lt_of_not_le before)
    refine ends_bind (result_noted goesOn id ssl.doHandshake) fun result w answered => ?_
    obtain ⟨⟨c, value, after⟩, goesOn⟩ := answered
    by_cases done : result = 1
    · have finished : Finished ssl.noted w :=
        (congrArg ssl.isInitFinished after).trans (facts.completes c (value.symm.trans done))
      have drained := ends_and (drain_goes_on turns created own goesOn)
        (drain_loop_keeps api.noted turns kept _ turns w finished)
      refine ends_bind (ends_mono drained (fun _ _ => id) fun _ _ stops => .inl stops.1)
        fun _ w drained => ?_
      have restored : Ends (fun _ after => GoesOn impl start (some result) after ∧
          Finished ssl.noted after) (fun exit after => Stops impl start exit after ∧
            Finished ssl.noted after) (restoreDefaultTimeout api.noted impl w) :=
        ends_ite (fun some' => ends_and (set_io_timeout_goes_on created some' drained.1)
          (set_io_timeout_keeps api.noted kept _ w drained.2)) fun _ => drained
      rw [if_pos done]
      refine ends_bind (ends_mono restored (fun _ _ => id) fun _ _ stops => .inl stops.1)
        fun _ w restored => ?_
      rw [authorize_peer_run]
      split
      · next authorized => exact ⟨done ▸ restored.1, restored.2, authorized⟩
      · next refused => exact .inr refused
    · have unanswered : some result ≠ some 1 := fun same => done (Option.some.inj same)
      refine ends_bind (ends_mono (drain_goes_on turns created own goesOn) (fun _ _ => id)
        fun _ _ => .inl) fun _ w goesOn => ?_
      rw [if_neg done]
      refine ends_bind (of_ssl_reads _ w) fun error after read => ?_
      obtain ⟨_, rfl⟩ := read
      cases error with
      | wantWrite => exact ih total unanswered goesOn
      | wantRead =>
        refine ends_bind (ends_mono (receive_encrypted_goes_on created own total unanswered goesOn)
          (fun _ _ => id) fun _ _ => .inl) fun total w goesOn => ?_
        exact ih total unanswered goesOn
      | zeroReturn => exact .inl (goes_on_stops goesOn unanswered _)
      | other => exact .inl (goes_on_stops goesOn unanswered _)

omit created in
theorem no_deadline (d : Nat) (own : none = some d) : d = impl.handshakeDeadline := by cases own

theorem send_loop_ends (more : Nat) (plaintext : List UInt8) (written : plaintext = [] →
    last = some 1) (goesOn : GoesOn impl start last w) :
    Ends (fun _ => GoesOn impl start (some 1)) (Stops impl start)
      (TlsSession.sendLoop ssl.noted api.noted turns more plaintext w) := by
  induction more generalizing plaintext last w with
  | zero => exact .inl rfl
  | succ more ih =>
    refine ends_ite (fun all => written all ▸ goesOn) fun left => ?_
    refine ends_bind (result_noted goesOn Prod.fst (ssl.writeEx · plaintext))
      fun result w answered => ?_
    refine ends_bind (drain_goes_on turns created no_deadline answered.2) fun _ w goesOn => ?_
    refine ends_ite (fun done => ih _ (fun _ => congrArg some done) goesOn) fun open' => ?_
    have unanswered : some result.1 ≠ some 1 := fun same => open' (Option.some.inj same)
    refine ends_bind (of_ssl_reads _ w) fun error after read => ?_
    obtain ⟨_, rfl⟩ := read
    cases error with
    | wantWrite => exact ih plaintext (fun all => absurd all left) goesOn
    | wantRead =>
      refine ends_bind (receive_encrypted_goes_on created no_deadline none unanswered goesOn)
        fun _ w goesOn => ?_
      exact ih plaintext (fun all => absurd all left) goesOn
    | zeroReturn => exact goes_on_stops goesOn unanswered _
    | other => exact goes_on_stops goesOn unanswered _

theorem receive_loop_ends (size iterations : Nat) (unanswered : iterations = 0 → last ≠ some 1)
    (goesOn : GoesOn impl start last w) :
    Ends (fun _ => GoesOn impl start (some 1)) (Stops impl start)
      (TlsSession.receiveLoop ssl.noted api.noted turns size iterations w) := by
  induction iterations generalizing last w with
  | zero => exact goes_on_stops goesOn (unanswered rfl) _
  | succ iterations ih =>
    refine ends_bind (result_noted goesOn Prod.fst (ssl.readEx · size)) fun result w answered => ?_
    refine ends_bind (drain_goes_on turns created no_deadline answered.2) fun _ w goesOn => ?_
    refine ends_ite (fun done => done ▸ goesOn) fun open' => ?_
    have unanswered : some result.1 ≠ some 1 := fun same => open' (Option.some.inj same)
    refine ends_bind (of_ssl_reads _ w) fun error after read => ?_
    obtain ⟨_, rfl⟩ := read
    cases error with
    | wantWrite => exact ih (fun _ => unanswered) goesOn
    | wantRead =>
      refine ends_bind (receive_encrypted_goes_on created no_deadline none unanswered goesOn)
        fun _ w goesOn => ?_
      exact ih (fun _ => unanswered) goesOn
    | zeroReturn => exact goes_on_stops goesOn unanswered _
    | other => exact goes_on_stops goesOn unanswered _

theorem receive_ends (output : GmBytes) (room : output.data ≠ [])
    (goesOn : GoesOn impl start last w) :
    Ends (fun _ => GoesOn impl start (some 1))
      (fun exit after => Stops impl start exit after ∨ ¬ Finished ssl.noted after)
      (TlsSession.receive ssl.noted api.noted turns (some impl) output w) := by
  by_cases finished : Finished ssl.noted w
  · have passes := ensure_finished_run ssl.noted (some impl) (output.data ≠ []) w
    rw [if_pos ⟨rfl, decide_eq_true room, finished⟩] at passes
    rw [TlsSession.receive, bind_ok passes]
    exact ends_mono (receive_loop_ends turns created _ 256 (fun none => by cases none) goesOn)
      (fun _ _ => id) fun _ _ => .inl
  · have refuses := ensure_finished_run ssl.noted (some impl) (output.data ≠ []) w
    rw [if_neg fun passes => finished passes.2.2] at refuses
    rw [TlsSession.receive, bind_error refuses]
    exact .inr finished

theorem receive_exact_loop_ends (more : Nat) (output : List UInt8)
    (received : output = [] → last = some 1) (goesOn : GoesOn impl start last w) :
    Ends (fun _ => GoesOn impl start (some 1))
      (fun exit after => Stops impl start exit after ∨ ¬ Finished ssl.noted after)
      (TlsSession.receiveExactLoop ssl.noted api.noted turns (some impl) more output w) := by
  induction more generalizing output last w with
  | zero => exact .inl (.inl rfl)
  | succ more ih =>
    refine ends_ite (fun all => received all ▸ goesOn) fun left => ?_
    refine ends_bind (receive_ends turns created _ left goesOn) fun bytes w goesOn => ?_
    exact ends_bind (ih _ (fun _ => rfl) goesOn) fun rest w goesOn => goesOn

end Calls

end GhostMedia.Runtime
