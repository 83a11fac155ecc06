import GhostMedia.Session.Representation

/- A closed session owns no stream, except when an error closed it while a stream was
   open: that path sets the state and leaves the stream's fields. -/
namespace GhostMedia.Session
open CString Control Runs

/-- While a stream is owned, every payload is a request with a larger id. -/
def Orderly (s : GmControlSession) : Call → Prop
  | .ingest jsonText _ outAction =>
    OwnsStream s → validSessionForIngest s outAction = true → ∃ m, Arrives s jsonText m
  | .markPathValidated .. => True

def Released (s : GmControlSession) : Prop := s.state = .closed → NoStream s

section Steps
variable {config : GmControlSessionConfig} {s : GmControlSession}

theorem live_without_stream (inv : Invariant config s) (live : s.state ≠ .closed)
    (free : ¬ OwnsStream s) : NoStream s := by
  apply inv.idle
  cases state : s.state <;> simp_all [OwnsStream]

theorem owned_active (inv : Invariant config s) (owns : OwnsStream s) :
    activeStreamMatches s s.streamId = true :=
  (active_iff s s.streamId).mpr ⟨(inv.owned owns).nonzero, rfl, owns⟩

theorem grants_released {m : GmControlMessageInfo} {nowNs : UInt64} {kind next edit}
    (inv : Invariant config s) (live : s.state ≠ .closed)
    (grants : Grants s m nowNs kind next edit) : Released next := by
  intro closed
  cases grants with
  | hello | «open» | start | stop | close => cases closed
  | bind kind state =>
    dsimp only at closed
    split at closed
    · cases closed
    · exact absurd closed live
  | openAgain | closeAgain | rekey | rekeyAgain | status | ping => exact absurd closed live
  | sessionCloseActive => exact ⟨rfl, rfl, rfl, rfl, rfl, rfl, rfl⟩
  | sessionCloseIdle kind idle =>
    have free : ¬ OwnsStream s := fun owns => by
      rw [owned_active inv owns] at idle
      cases idle
    exact { live_without_stream inv live free with }

theorem step_released {call : Call} (inv : Invariant config s) (held : Released s)
    (orderly : Orderly s call) : Released (step s call).2 := by
  have out := step_steps s call
  generalize step s call = result at out
  obtain ⟨reply, next⟩ := result
  dsimp only at out ⊢
  cases out with
  | invalidIngest | invalidMark => exact held
  | closed | unmatched => exact fun closed => { held closed with }
  | refused status id valid live bad =>
    have free : ¬ OwnsStream s := fun owns => bad (orderly owns valid)
    exact fun _ => { live_without_stream inv live free with }
  | conflict m valid live => exact fun closed => absurd closed live
  | granted m valid live arrives grants =>
    have admitted (nowNs : UInt64) := invariant_congr inv (core_received s m nowNs).symm
    exact fun closed => { grants_released (admitted _) live grants closed with }
  | validated valid active =>
    obtain ⟨_, _, owns⟩ := (active_iff s _).mp active
    exact fun closed => absurd closed (owns_live owns)

/-- A payload that is no request closes an open stream's session and leaves the stream. -/
theorem disorder_leaves_stream {call : Call} (inv : Invariant config s)
    (disorder : ¬ Orderly s call) : ¬ Released (step s call).2 := by
  cases call with
  | markPathValidated => exact absurd trivial disorder
  | ingest jsonText nowNs outAction =>
    simp only [Orderly, not_forall] at disorder
    obtain ⟨owns, valid, bad⟩ := disorder
    have out := step_steps s (.ingest jsonText nowNs outAction)
    generalize step s (.ingest jsonText nowNs outAction) = result at out
    obtain ⟨reply, next⟩ := result
    dsimp only at out ⊢
    cases out with
    | invalidIngest invalid => cases valid.symm.trans invalid
    | closed _ state => exact absurd state (owns_live owns)
    | refused => exact fun released => (inv.owned owns).nonzero (released rfl).streamId
    | conflict m _ _ arrives => exact absurd ⟨m, arrives⟩ bad
    | granted m _ _ arrives => exact absurd ⟨m, arrives⟩ bad

end Steps

/-- Every closed state a run reaches has released its stream exactly when, while a stream
    was owned, every payload was a request with a larger id. -/
theorem closed_sessions_released_iff {config : GmControlSessionConfig}
    {blank start : GmControlSession} (init : gmControlSessionInit config blank = (.ok, start))
    (calls : List Call) :
    (∀ before after, calls = before ++ after →
      (final step start before).state = .closed → NoStream (final step start before)) ↔
      ∀ e ∈ events step start calls, Orderly e.before e.input := by
  constructor
  · intro released e member
    obtain ⟨xs, call, ys, rfl, rfl⟩ := event_of_mem step member
    by_contra disorder
    have leaves := disorder_leaves_stream (run_invariant init xs) disorder
    have reached := released (xs ++ [call]) ys (by simp)
    rw [final_append] at reached
    exact leaves reached
  · rintro orderly before after rfl
    rw [events_append] at orderly
    have history := history_of_good step (fun e => Orderly e.before e.input)
      (fun past s => Invariant config s ∧ Released s)
      ⟨run_invariant init [], fun closed => ?_⟩
      (fun past s call good held =>
        ⟨step_invariant call held.1, step_released held.1 held.2 good⟩)
      fun e member => orderly e (List.mem_append_left _ member)
    · exact history.2
    · obtain ⟨_, _, rfl⟩ := init_ok init
      cases closed

theorem closed_sessions_released_sample :
    (∀ before after, sampleOpening = before ++ after →
      (final step sampleSession before).state = .closed →
        NoStream (final step sampleSession before)) ↔
      ∀ e ∈ events step sampleSession sampleOpening, Orderly e.before e.input :=
  closed_sessions_released_iff sample_init _

def malformedPayload : Call := .ingest (.view (ascii "\x7b")) 2000 blankAction

/-- After a lone brace the sample session is closed with its stream still in its fields. -/
theorem malformed_payload_keeps_stream :
    let s := final step sampleSession (sampleOpening ++ [malformedPayload])
    gmControlSessionInit sampleConfig sampleSession = (.ok, sampleSession) ∧
      s.state = .closed ∧ s.streamId = 4294967295 ∧ s.keyEpoch = 1 ∧ ¬ NoStream s := by
  have closed : (step openedSession malformedPayload).2 = aborted openedSession .badMessage := by
    decide +kernel
  rw [final_snoc, sample_opened, closed]
  refine ⟨sample_init, rfl, rfl, rfl, fun none => ?_⟩
  exact absurd none.streamId (by decide)

end GhostMedia.Session
