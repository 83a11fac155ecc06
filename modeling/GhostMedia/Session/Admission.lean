import GhostMedia.Session.Representation

/- What `stream.open` checks of the configuration: nothing. The limits hold of every
   owned stream exactly when no request outside them reaches the bound state. -/
namespace GhostMedia.Session
open CString Control Runs

/-- What the configuration advertises about a stream. -/
def WithinLimits (config : GmControlSessionConfig) (playoutTargetMs : UInt32) : Prop :=
  config.outputAvailable = 1 ∧ config.playoutTargetMsMin ≤ playoutTargetMs ∧
    playoutTargetMs ≤ config.playoutTargetMsMax

/-- A `stream.open` that reaches the bound state is within the limits. -/
def Admissible (config : GmControlSessionConfig) (s : GmControlSession) (call : Call) : Prop :=
  ∀ m, Brings s call m → m.kind = .requestStreamOpen → s.state = .bound →
    WithinLimits config m.playoutTargetMs

def OwnsWithinLimits (config : GmControlSessionConfig) (s : GmControlSession) : Prop :=
  OwnsStream s → WithinLimits config s.playoutTargetMs

/-- A `stream.open` outside the limits is not granted and changes nothing of the session
    but its request bookkeeping and metrics. -/
def RejectsOutside (config : GmControlSessionConfig)
    (e : Event GmControlSession Call Reply) : Prop :=
  ∀ m, Brings e.before e.input m → m.kind = .requestStreamOpen →
    ¬ WithinLimits config m.playoutTargetMs →
    e.output.status ≠ .ok ∧ core e.after = core e.before

section Steps
variable {config : GmControlSessionConfig} {s : GmControlSession}

theorem open_grants {m : GmControlMessageInfo} {nowNs : UInt64} {action next edit}
    (kind : m.kind = .requestStreamOpen) (grants : Grants s m nowNs action next edit) :
    s.state = .bound ∨ OwnsStream s ∧ s.playoutTargetMs = m.playoutTargetMs := by
  cases grants with
  | «open» _ state => exact .inl state
  | openAgain _ state _ playout => exact .inr ⟨state, playout⟩
  | hello other | bind other | start other | stop other | close other | closeAgain other
  | rekey other | rekeyAgain other | status other | ping other | sessionCloseActive other
  | sessionCloseIdle other => cases kind.symm.trans other

theorem grants_within {m : GmControlMessageInfo} {nowNs : UInt64} {kind next edit}
    (held : OwnsWithinLimits config s)
    (admissible : s.state = .bound → m.kind = .requestStreamOpen →
      WithinLimits config m.playoutTargetMs)
    (grants : Grants s m nowNs kind next edit) : OwnsWithinLimits config next := by
  intro owns
  cases grants with
  | hello | close | sessionCloseActive | sessionCloseIdle =>
    rcases owns with state | state <;> cases state
  | bind kind state =>
    by_cases hello : s.state = .hello
    · rcases owns with other | other <;> simp [hello] at other
    · apply held
      simpa [OwnsStream, hello] using owns
  | «open» kind state => exact admissible state kind
  | start kind active | stop kind active =>
    obtain ⟨_, _, owned⟩ := (active_iff s m.streamId).mp active
    exact held owned
  | openAgain | closeAgain | rekey | rekeyAgain | status | ping => exact held owns

theorem step_within {call : Call} (held : OwnsWithinLimits config s)
    (admissible : Admissible config s call) : OwnsWithinLimits config (step s call).2 := by
  have out := step_steps s call
  generalize step s call = result at out
  obtain ⟨reply, next⟩ := result
  dsimp only at out ⊢
  cases out with
  | invalidIngest | invalidMark => exact held
  | closed | unmatched => exact held
  | refused => exact fun owns => by rcases owns with state | state <;> cases state
  | conflict => exact held
  | granted m valid live arrives grants =>
    have admitted (nowNs : UInt64) : OwnsWithinLimits config (received s m nowNs) := held
    have within := grants_within (admitted _)
      (fun state kind => admissible m ⟨valid, arrives⟩ kind state) grants
    exact within
  | validated => exact held

theorem step_rejects_outside {call : Call} (held : OwnsWithinLimits config s)
    (admissible : Admissible config s call) : RejectsOutside config (Runs.event step s call) := by
  intro m brings kind outside
  have out := step_steps s call
  dsimp only [Runs.event] at brings ⊢
  generalize step s call = result at out
  obtain ⟨reply, next⟩ := result
  dsimp only at out ⊢
  cases out with
  | invalidIngest | closed | conflict =>
    refine ⟨fun same => ?_, rfl⟩
    cases same
  | refused status id valid live bad => exact absurd ⟨m, brings.2⟩ bad
  | granted n valid live other grants =>
    obtain rfl := arrives_unique brings.2 other
    rcases open_grants kind grants with state | ⟨owns, playout⟩
    · exact absurd (admissible m brings kind state) outside
    · have within : WithinLimits config m.playoutTargetMs := playout ▸ held owns
      exact absurd within outside
  | invalidMark | unmatched | validated => exact brings.elim

end Steps

/-- Admission honours the configuration through a whole run exactly when no `stream.open`
    outside its limits reached the bound state. -/
theorem admission_honours_limits_iff {config : GmControlSessionConfig}
    {blank start : GmControlSession} (init : gmControlSessionInit config blank = (.ok, start))
    (calls : List Call) :
    ((∀ before after, calls = before ++ after →
        OwnsWithinLimits config (final step start before)) ∧
      ∀ e ∈ events step start calls, RejectsOutside config e) ↔
      ∀ e ∈ events step start calls, Admissible config e.before e.input := by
  constructor
  · rintro ⟨_, rejects⟩ e member
    have rejected := rejects e member
    obtain ⟨xs, call, ys, rfl, rfl⟩ := event_of_mem step member
    intro m brings kind state
    by_contra outside
    exact (rejected m brings kind outside).1 (open_granted state brings kind).1
  · intro admissible
    have free : OwnsWithinLimits config start := by
      obtain ⟨_, _, rfl⟩ := init_ok init
      intro owns
      rcases owns with state | state <;> cases state
    have within : ∀ before after, calls = before ++ after →
        OwnsWithinLimits config (final step start before) := by
      rintro before after rfl
      rw [events_append] at admissible
      exact history_of_good step (fun e => Admissible config e.before e.input)
        (fun _ s => OwnsWithinLimits config s) free
        (fun _ s call good held => step_within held good)
        fun e member => admissible e (List.mem_append_left _ member)
    refine ⟨within, fun e member => ?_⟩
    have good := admissible e member
    obtain ⟨xs, call, ys, rfl, rfl⟩ := event_of_mem step member
    exact step_rejects_outside (within xs (call :: ys) rfl) good

theorem admission_honours_limits_sample :
    ((∀ before after, sampleOpening = before ++ after →
        OwnsWithinLimits sampleConfig (final step sampleSession before)) ∧
      ∀ e ∈ events step sampleSession sampleOpening, RejectsOutside sampleConfig e) ↔
      ∀ e ∈ events step sampleSession sampleOpening, Admissible sampleConfig e.before e.input :=
  admission_honours_limits_iff sample_init _

/-- The sample session has no output device and opens a stream all the same. -/
theorem open_without_output :
    let s := final step sampleSession sampleOpening
    gmControlSessionInit sampleConfig sampleSession = (.ok, sampleSession) ∧
      OwnsStream s ∧ sampleConfig.outputAvailable = 0 ∧ ¬ OwnsWithinLimits sampleConfig s := by
  rw [sample_opened]
  refine ⟨sample_init, .inl rfl, rfl, fun within => ?_⟩
  exact absurd (within (.inl rfl)).1 (by decide)

end GhostMedia.Session
