import GhostMedia.Foundation.Runs
import GhostMedia.Runtime.ServedCalls

/- Which calls of a TLS session use its connection: once `SSL_do_handshake` completes they
   all do, whatever `handshake` returns. When that does no harm depends on what the handshakes
   before them have heard. -/
namespace GhostMedia.Runtime
open CString Runs StateLogic

variable {Ssl Net : Type} (ssl : OpenSsl Ssl) (api : SocketApi Net) (turns : Nat)

section Calls

inductive TlsCall where
  | handshake
  | sendAll (plaintext : GmBytes)
  | receive (output : GmBytes)
  | receiveExact (output : GmBytes)
  | exporter (context : GmBytes)
  deriving DecidableEq

inductive Reply where
  | done
  | plaintext (bytes : List UInt8)
  | keyingMaterial (output : Buffer gmTlsExporterOutputBytes)
  deriving DecidableEq

variable (session : Option Impl)

def tlsStep (w : World Ssl Net) : TlsCall → Except Exit Reply × World Ssl Net
  | .handshake => outcome (fun _ => .done) (TlsSession.handshake ssl api turns session w)
  | .sendAll plaintext =>
    outcome (fun _ => .done) (TlsSession.sendAll ssl api turns session plaintext w)
  | .receive output => outcome .plaintext (TlsSession.receive ssl api turns session output w)
  | .receiveExact output =>
    outcome .plaintext (TlsSession.receiveExact ssl api turns session output w)
  | .exporter context =>
    outcome .keyingMaterial (TlsSession.exporter ssl session context w)

abbrev TlsEvent (Ssl Net : Type) := Event (World Ssl Net) TlsCall (Except Exit Reply)

abbrev NotedEvent (Ssl Net : Type) := TlsEvent (Ssl × List SslAnswer) (Net × List NetAnswer)

/-- The calls that hand data or keying material through the connection. -/
def UsesConnection : TlsCall → Prop
  | .handshake => False
  | .sendAll plaintext => plaintext.size ≠ 0
  | .receive _ => True
  | .receiveExact output => output.size ≠ 0
  | .exporter _ => True

/-- A handshake that has returned `GM_OK`, of a peer that is authorized. -/
def Authorizes (e : TlsEvent Ssl Net) : Prop :=
  e.input = .handshake ∧ e.output = .ok .done ∧ ssl.isInitFinished e.after.ssl = 1 ∧
    peerAuthorized ssl e.after.ssl = true

/-- Every call that gets through the connection comes after such a handshake. -/
def FailsClosed (run : List (TlsEvent Ssl Net)) : Prop :=
  ∀ past e later, run = past ++ e :: later → UsesConnection e.input →
    ∀ reply, e.output = .ok reply → ∃ earlier ∈ past, Authorizes ssl earlier

/-- Such a call, with arguments that it takes. -/
def admits : TlsCall → Bool
  | .handshake => false
  | .sendAll plaintext => session.isSome && plaintext.data ≠ []
  | .receive output => session.isSome && output.data ≠ []
  | .receiveExact output => session.isSome && output.data ≠ []
  | .exporter context =>
    session.isSome && context.data ≠ [] && context.size = gmTlsExporterContextBytes

def heardNet (e : NotedEvent Ssl Net) : List NetAnswer :=
  e.after.net.2.drop e.before.net.2.length

def heardSsl (e : NotedEvent Ssl Net) : List SslAnswer :=
  e.after.ssl.2.drop e.before.ssl.2.length

/-- A call at its end: nothing that it heard was in its way, and OpenSSL succeeded at last. -/
structure Answered (e : NotedEvent Ssl Net) : Prop where
  returned : e.output ≠ .error .running
  serves : ∃ impl, session = some impl ∧
    Serves impl.handshakeDeadline (some 1) (heardNet e) (heardSsl e)

/-- A handshake that was answered, with a verified peer and the protocol selected. -/
structure LetThrough (e : NotedEvent Ssl Net) : Prop where
  handshake : e.input = .handshake
  answered : Answered session e
  authorized : peerAuthorized ssl e.after.ssl.1 = true

/-- The host uses a finished connection, where it is answered, only after such a handshake. -/
def Guarded (run : List (NotedEvent Ssl Net)) : Prop :=
  ∀ past e later, run = past ++ e :: later → admits session e.input = true →
    ssl.isInitFinished e.before.ssl.1 = 1 → Answered session e →
      ∃ earlier ∈ past, LetThrough ssl session earlier

end Calls

section Steps
variable {ssl api turns} {session : Option Impl}

theorem tls_step_mirrors (w : NotedWorld Ssl Net) (call : TlsCall) :
    (tlsStep ssl.noted api.noted turns session w call).1 =
        (tlsStep ssl api turns session w.plain call).1 ∧
      (tlsStep ssl.noted api.noted turns session w call).2.plain =
        (tlsStep ssl api turns session w.plain call).2 := by
  cases call with
  | handshake =>
    cases session with
    | none => exact outcome_twin (fun _ => .done) (mirrors_throw (α := Unit) _ w)
    | some impl => exact outcome_twin _ (handshake_loop_mirrors ssl api turns impl _ _ w)
  | sendAll plaintext =>
    exact outcome_twin _ (mirrors_bind (ensure_finished_mirrors ssl session _)
      (fun _ => send_loop_mirrors ssl api turns turns _) w)
  | receive output => exact outcome_twin _ (receive_mirrors ssl api turns session output w)
  | receiveExact output =>
    exact outcome_twin _ (mirrors_ite (receive_exact_loop_mirrors ssl api turns session turns _)
      (mirrors_throw _) w)
  | exporter context =>
    refine outcome_twin _ (mirrors_bind (ensure_finished_mirrors ssl session _) (fun _ => ?_) w)
    refine mirrors_bind (mirrors_ssl (fun exported => .result exported.1)
      (ssl.exportKeyingMaterial · gmTlsExporterLabel context.data)) fun exported => ?_
    exact mirrors_ite (mirrors_pure _) (mirrors_throw _)

theorem noted_run (start : World Ssl Net) (calls : List TlsCall) :
    (events (tlsStep ssl.noted api.noted turns session) start.noted calls).map
        (Event.seen World.plain) =
      events (tlsStep ssl api turns session) start calls :=
  events_seen _ tls_step_mirrors start.noted calls

theorem ends_known {α : Type} {known : Prop} (holds : known)
    (r : EStateM.Result Exit (World Ssl Net) α) :
    Ends (fun _ _ => known) (fun _ _ => True) r := by
  cases r with
  | ok a after => exact holds
  | error exit after => trivial

theorem ensure_finished_then {α : Type} {arguments : Bool} {w : World Ssl Net}
    (next : Unit → Calling Ssl Net α) :
    Ends (fun _ _ => session.isSome = true ∧ arguments = true ∧ Finished ssl w)
      (fun _ _ => True) ((TlsSession.ensureFinished ssl session arguments >>= next) w) := by
  have guards := ensure_finished_run ssl session arguments w
  split at guards
  · next passes =>
    rw [bind_ok guards]
    exact ends_known passes _
  · rw [bind_error guards]
    trivial

theorem used_step {w : World Ssl Net} {call : TlsCall} (uses : UsesConnection call)
    {reply : Reply} (returned : (tlsStep ssl api turns session w call).1 = .ok reply) :
    admits session call = true ∧ Finished ssl w := by
  have checked {α : Type} {output : α → Reply} {post : Prop}
      {r : EStateM.Result Exit (World Ssl Net) α}
      (ends : Ends (fun _ _ => post) (fun _ _ => True) r)
      (returned : (outcome output r).1 = .ok reply) : post := by
    rcases outcome_ends output ends with ⟨_, _, holds⟩ | ⟨exit, threw, _⟩
    · exact holds
    · cases threw.symm.trans returned
  cases call with
  | handshake => exact uses.elim
  | sendAll plaintext =>
    obtain ⟨some', readable, finished⟩ := checked (ensure_finished_then _) returned
    have data := data_iff.mpr ⟨readable, uses⟩
    exact ⟨Bool.and_eq_true_iff.mpr ⟨some', decide_eq_true data⟩, finished⟩
  | receive output =>
    obtain ⟨some', room, finished⟩ := checked (ensure_finished_then _) returned
    exact ⟨Bool.and_eq_true_iff.mpr ⟨some', room⟩, finished⟩
  | receiveExact output =>
    have ends : Ends (fun _ _ => admits session (.receiveExact output) = true ∧ Finished ssl w)
        (fun _ _ => True) (TlsSession.receiveExact ssl api turns session output w) := by
      refine ends_ite (fun readable => ?_) fun _ => trivial
      cases turns with
      | zero => trivial
      | succ more =>
        refine ends_ite (fun empty => absurd empty (data_iff.mpr ⟨readable, uses⟩)) fun _ => ?_
        refine ends_bind (ensure_finished_then _) fun _ _ passes => ends_known ?_ _
        exact ⟨Bool.and_eq_true_iff.mpr ⟨passes.1, passes.2.1⟩, passes.2.2⟩
    exact checked ends returned
  | exporter context =>
    obtain ⟨some', arguments, finished⟩ := checked (ensure_finished_then _) returned
    exact ⟨by simpa [admits, some'] using arguments, finished⟩

end Steps

section Served
variable {ssl api turns} {impl : Impl}

def StaysFinished (ssl : OpenSsl Ssl) : Prop :=
  ∀ c size, ssl.isInitFinished c = 1 → ssl.isInitFinished (ssl.readEx c size).2 = 1

theorem noted_stays_finished (stays : StaysFinished ssl) : StaysFinished ssl.noted :=
  fun c size => stays c.1 size

theorem receive_keeps_finished (facts : FinishedByHandshake ssl) (stays : StaysFinished ssl)
    (session : Option Impl) (output : GmBytes) :
    Keeps (Finished ssl) (TlsSession.receive ssl api turns session output) := by
  have kept : Untouched ssl (Finished ssl : World Ssl Net → Prop) := finished_untouched facts
  have loop (iterations : Nat) : Keeps (Finished ssl)
      (TlsSession.receiveLoop ssl api turns output.size iterations) := by
    induction iterations with
    | zero => exact keeps_throw _
    | succ iterations ih =>
      refine keeps_bind (fun w finished => stays w.ssl _ finished) fun result => ?_
      refine keeps_bind (drain_loop_keeps api turns kept none turns) fun _ => ?_
      refine keeps_ite (keeps_pure _) (keeps_bind (of_ssl_keeps _) fun error => ?_)
      cases error with
      | wantWrite => exact ih
      | wantRead => exact keeps_bind (receive_encrypted_keeps api kept none none) fun _ => ih
      | zeroReturn => exact keeps_throw _
      | other => exact keeps_throw _
  refine keeps_bind ?_ fun _ => loop 256
  exact keeps_bind (of_ssl_keeps _) fun _ => keeps_ite (keeps_throw _) (keeps_pure _)

theorem receive_exact_keeps_finished (facts : FinishedByHandshake ssl) (stays : StaysFinished ssl)
    (session : Option Impl) (more : Nat) (output : List UInt8) :
    Keeps (Finished ssl) (TlsSession.receiveExactLoop ssl api turns session more output) := by
  induction more generalizing output with
  | zero => exact keeps_throw _
  | succ more ih =>
    refine keeps_ite (keeps_pure _) ?_
    refine keeps_bind (receive_keeps_finished facts stays session _) fun received => ?_
    exact keeps_bind (ih _) fun rest => keeps_pure _

variable {w : NotedWorld Ssl Net} {call : TlsCall}

/-- A call of a finished connection that is admitted either hears all that it needs or is
    stopped by what it hears. -/
theorem admitted_step (facts : FinishedByHandshake ssl) (created : Created api impl)
    (admitted : admits (some impl) call = true) (finished : Finished ssl.noted w) :
    (∃ reply, (tlsStep ssl.noted api.noted turns (some impl) w call).1 = .ok reply ∧
        GoesOn impl w (some 1) (tlsStep ssl.noted api.noted turns (some impl) w call).2) ∨
      ∃ exit, (tlsStep ssl.noted api.noted turns (some impl) w call).1 = .error exit ∧
        (StaysFinished ssl →
          Stops impl w exit (tlsStep ssl.noted api.noted turns (some impl) w call).2) := by
  have starts := goes_on_starts impl w
  have ends {α : Type} (output : α → Reply) {r : EStateM.Result Exit (NotedWorld Ssl Net) α}
      (ends : Ends (fun _ => GoesOn impl w (some 1))
        (fun exit after => StaysFinished ssl → Stops impl w exit after) r) :
      (∃ reply, (outcome output r).1 = .ok reply ∧ GoesOn impl w (some 1) (outcome output r).2) ∨
        ∃ exit, (outcome output r).1 = .error exit ∧
          (StaysFinished ssl → Stops impl w exit (outcome output r).2) := by
    rcases outcome_ends output ends with ⟨a, ok, goesOn⟩ | ⟨exit, threw, stops⟩
    · exact .inl ⟨output a, ok, goesOn⟩
    · exact .inr ⟨exit, threw, stops⟩
  have passes {arguments : Bool} (right : arguments = true) :=
    (ensure_finished_run ssl.noted (some impl) arguments w).trans (if_pos ⟨rfl, right, finished⟩)
  cases call with
  | handshake => cases admitted
  | sendAll plaintext =>
    have some' : plaintext.data ≠ [] := of_decide_eq_true admitted
    have readable := (data_iff.mp some').1
    refine ends (fun _ => .done) ?_
    rw [TlsSession.sendAll, bind_ok (passes readable)]
    exact ends_mono (send_loop_ends turns created turns plaintext.data
      (fun none => absurd none some') starts) (fun _ _ => id) fun _ _ stops _ => stops
  | receive output =>
    have room : decide (output.data ≠ []) = true := admitted
    refine ends .plaintext ?_
    rw [TlsSession.receive, bind_ok (passes room)]
    exact ends_mono (receive_loop_ends turns created _ 256 (fun none => by cases none) starts)
      (fun _ _ => id) fun _ _ stops _ => stops
  | receiveExact output =>
    have some' : output.data ≠ [] := of_decide_eq_true admitted
    have readable := (data_iff.mp some').1
    refine ends .plaintext ?_
    rw [TlsSession.receiveExact, if_pos readable]
    have received : Ends _ _ (TlsSession.receiveExactLoop ssl.noted api.noted turns (some impl)
        turns output.data w) :=
      receive_exact_loop_ends turns created turns output.data (fun none => absurd none some') starts
    cases run : TlsSession.receiveExactLoop ssl.noted api.noted turns (some impl) turns
        output.data w with
    | ok bytes after =>
      rw [run] at received
      exact received
    | error exit after =>
      rw [run] at received
      intro stays
      have keeps : Keeps (Finished ssl.noted) (TlsSession.receiveExactLoop ssl.noted api.noted turns
          (some impl) turns output.data) :=
        receive_exact_keeps_finished (noted_finished_by_handshake facts)
          (noted_stays_finished stays) (some impl) turns output.data
      have still := keeps w finished
      rw [run] at still
      exact received.resolve_right (not_not_intro still)
  | exporter context =>
    refine ends .keyingMaterial ?_
    rw [TlsSession.exporter, bind_ok (passes (by simpa [admits] using admitted))]
    refine ends_bind (result_noted starts Prod.fst
      (ssl.exportKeyingMaterial · gmTlsExporterLabel context.data)) fun result after answered => ?_
    refine ends_ite (fun done => ?_) fun failed _ => ?_
    · exact done ▸ answered.2
    · exact goes_on_stops answered.2 (fun same => failed (Option.some.inj same)) _

theorem goes_on_answered {e : NotedEvent Ssl Net} {reply : Reply} (ok : e.output = .ok reply)
    (goesOn : GoesOn impl e.before (some 1) e.after) : Answered (some impl) e := by
  obtain ⟨net, ssl, hears, serves⟩ := goesOn
  refine ⟨fun running => ?_, impl, rfl, ?_⟩
  · cases ok.symm.trans running
  · rwa [heardNet, heardSsl, hears.net, hears.ssl, List.drop_left, List.drop_left]

theorem stops_unanswered {e : NotedEvent Ssl Net} {exit : Exit} (threw : e.output = .error exit)
    (stops : Stops impl e.before exit e.after) : ¬ Answered (some impl) e := by
  rintro ⟨returned, _, same, serves⟩
  cases same
  rcases stops with rfl | ⟨net, ssl, hears, refuses⟩
  · exact returned threw
  · rw [heardNet, heardSsl, hears.net, hears.ssl, List.drop_left, List.drop_left] at serves
    exact refuses serves

variable {session : Option Impl} (facts : FinishedByHandshake ssl)
  (created : ∀ impl, session = some impl → Created api impl)
include facts created

/-- A handshake authorizes its peer exactly when it is let through. -/
theorem handshake_let_through (w : NotedWorld Ssl Net) :
    Authorizes ssl.noted (event (tlsStep ssl.noted api.noted turns session) w .handshake) ↔
      LetThrough ssl session
        (event (tlsStep ssl.noted api.noted turns session) w .handshake) := by
  cases session with
  | none =>
    constructor
    · intro authorizes
      cases authorizes.2.1
    · intro through
      obtain ⟨_, none, _⟩ := through.answered.serves
      cases none
  | some impl =>
    have ends := handshake_loop_ends turns (created impl rfl) facts 256 (some 0) (by simp)
      (goes_on_starts impl w)
    rcases outcome_ends (fun _ => Reply.done) ends with
      ⟨_, ok, goesOn, finished, authorized⟩ | ⟨exit, threw, stops⟩
    · exact ⟨fun _ => ⟨rfl, goes_on_answered ok goesOn, authorized⟩,
        fun _ => ⟨rfl, ok, finished, authorized⟩⟩
    · constructor
      · intro authorizes
        cases threw.symm.trans authorizes.2.1
      · intro through
        rcases stops with stops | refused
        · exact absurd through.answered (stops_unanswered threw stops)
        · exact absurd through.authorized refused

theorem guarded_fails_closed {start : NotedWorld Ssl Net} {calls : List TlsCall}
    (guarded : Guarded ssl session
      (events (tlsStep ssl.noted api.noted turns session) start calls)) :
    FailsClosed ssl.noted (events (tlsStep ssl.noted api.noted turns session) start calls) := by
  intro past e later split uses reply returned
  have found := guarded past e later split
  obtain ⟨xs, call, ys, _, rfl, rfl⟩ := events_split _ split
  obtain ⟨admitted, finished⟩ := used_step uses returned
  cases session with
  | none => cases call <;> cases admitted
  | some impl =>
    have answered : Answered (some impl) (event (tlsStep ssl.noted api.noted turns (some impl))
        (final (tlsStep ssl.noted api.noted turns (some impl)) start xs) call) := by
      rcases admitted_step facts (created impl rfl) admitted finished with
        ⟨reply, ok, goesOn⟩ | ⟨exit, threw, _⟩
      · exact goes_on_answered ok goesOn
      · cases threw.symm.trans returned
    obtain ⟨earlier, member, through⟩ := found admitted finished answered
    obtain ⟨ws, before, zs, _, rfl⟩ := event_of_mem _ member
    obtain rfl : before = .handshake := through.handshake
    exact ⟨_, member, (handshake_let_through facts created _).mpr through⟩

theorem fails_closed_guarded (stays : StaysFinished ssl) {start : NotedWorld Ssl Net}
    {calls : List TlsCall} (closed : FailsClosed ssl.noted
      (events (tlsStep ssl.noted api.noted turns session) start calls)) :
    Guarded ssl session (events (tlsStep ssl.noted api.noted turns session) start calls) := by
  intro past e later split admitted finished answered
  have found := closed past e later split
  obtain ⟨xs, call, ys, _, rfl, rfl⟩ := events_split _ split
  obtain ⟨impl, rfl, _⟩ := answered.serves
  have uses : UsesConnection call := by
    cases call with
    | handshake => cases admitted
    | sendAll plaintext => exact (data_iff.mp (of_decide_eq_true admitted)).2
    | receive output => trivial
    | receiveExact output => exact (data_iff.mp (of_decide_eq_true admitted)).2
    | exporter context => trivial
  rcases admitted_step facts (created impl rfl) admitted finished with
    ⟨reply, ok, _⟩ | ⟨exit, threw, stops⟩
  · obtain ⟨earlier, member, authorizes⟩ := found uses reply ok
    obtain ⟨ws, before, zs, _, rfl⟩ := event_of_mem _ member
    obtain rfl : before = .handshake := authorizes.1
    exact ⟨_, member, (handshake_let_through facts created _).mp authorizes⟩
  · exact absurd answered (stops_unanswered threw (stops stays))

end Served

theorem fails_closed_plain (run : List (NotedEvent Ssl Net)) :
    FailsClosed ssl.noted run ↔ FailsClosed ssl (run.map (Event.seen World.plain)) := by
  constructor
  · intro closed past e later split uses reply returned
    obtain ⟨past, rest, rfl, rfl, same⟩ := List.map_eq_append_iff.mp split
    obtain ⟨e, later, rfl, rfl, rfl⟩ := List.map_eq_cons_iff.mp same
    obtain ⟨earlier, member, authorizes⟩ := closed past e later rfl uses reply returned
    exact ⟨_, List.mem_map_of_mem member, authorizes⟩
  · rintro closed past e later rfl uses reply returned
    rw [List.map_append, List.map_cons] at closed
    obtain ⟨_, seen, authorizes⟩ := closed _ _ _ rfl uses reply returned
    obtain ⟨earlier, member, rfl⟩ := List.mem_map.mp seen
    exact ⟨earlier, member, authorizes⟩

theorem guarded_by_first {session : Option Impl} {first : NotedEvent Ssl Net}
    {rest : List (NotedEvent Ssl Net)} (through : LetThrough ssl session first) :
    Guarded ssl session (first :: rest) := by
  intro past e later split admitted _ _
  cases past with
  | nil =>
    obtain ⟨rfl, _⟩ := List.cons.inj split
    rw [through.handshake] at admitted
    cases admitted
  | cons earlier past =>
    obtain ⟨rfl, _⟩ := List.cons.inj split
    exact ⟨_, List.mem_cons_self, through⟩

section Sample

/-- A server's connection: it answers the client's first flight and is finished by its second. -/
structure SampleConnection where
  flights : Nat
  answered : Bool
  finished : Bool
  output : List UInt8

def sampleSsl (alpn : List UInt8) : OpenSsl SampleConnection where
  doHandshake c :=
    if c.flights ≥ 2 then (1, { c with finished := true })
    else if c.flights = 0 ∨ c.answered then (-1, c)
    else (-1, { c with answered := true, output := c.output ++ [22, 3, 3, 0, 0] })
  getError _ _ := .wantRead
  isInitFinished c := if c.finished then 1 else 0
  getVerifyResult _ := x509VOk
  getAlpnSelected _ := alpn
  writeEx c plaintext :=
    ((1, plaintext.length), { c with output := c.output ++ [23, 3, 3, 0, 4] ++ plaintext })
  readEx c _ := ((-1, []), c)
  exportKeyingMaterial c label context := ((1, fillExact _ (label ++ context)), c)
  writeBioPending c := c.output.length
  readWriteBio c size := (some (c.output.take size), { c with output := c.output.drop size })
  writeReadBio c bytes := (bytes.length, { c with flights := c.flights + 1 })

def sampleSocket : SocketApi (List (List UInt8)) where
  isOpen _ := true
  now flights := (0, flights)
  send flights bytes := (bytes.length, flights)
  recv flights size := (flights.head?.map (·.take size), flights.tail)
  setReceiveTimeout flights _ := (true, flights)
  setSendTimeout flights _ := (true, flights)

def sampleStart : World SampleConnection (List (List UInt8)) :=
  ⟨⟨0, false, false, []⟩, [[22, 3, 1, 0, 0], [22, 3, 3, 0, 0]]⟩

def sampleImpl : Impl := ⟨5000000000, 5000⟩

def sampleCalls : List TlsCall :=
  [.handshake, .sendAll (.view (ascii "pong")), .exporter (.view (List.replicate 32 160))]

theorem sample_finished_by_handshake (alpn : List UInt8) :
    FinishedByHandshake (sampleSsl alpn) where
  completes c done := by
    by_cases late : c.flights ≥ 2
    · simp [sampleSsl, late]
    · simp only [sampleSsl, if_neg late] at done
      split at done
      · cases done
      · cases done
  readWriteBio c size := rfl
  writeReadBio c bytes := rfl

theorem sample_created (impl : Impl) (same : some sampleImpl = some impl) :
    Created sampleSocket impl := by
  cases same
  exact ⟨fun _ => rfl, fun _ => Nat.le_add_left kHandshakeTimeout _⟩

theorem served_after_refusal {ssl : OpenSsl Ssl} {refused served : TlsEvent Ssl Net}
    {rest : List (TlsEvent Ssl Net)} {reply : Reply} (failed : refused.output.toOption = none)
    (uses : UsesConnection served.input) (returned : served.output.toOption = some reply) :
    ¬ FailsClosed ssl (refused :: served :: rest) := by
  intro closed
  have ok : served.output = .ok reply := by
    cases out : served.output with
    | ok other =>
      rw [out] at returned
      cases returned
      rfl
    | error exit =>
      rw [out] at returned
      cases returned
  obtain ⟨earlier, member, authorizes⟩ := closed [refused] served rest rfl uses reply ok
  cases List.mem_singleton.mp member
  rw [authorizes.2.1] at failed
  cases failed

end Sample

end GhostMedia.Runtime
