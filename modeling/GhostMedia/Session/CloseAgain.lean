import GhostMedia.Session.Acceptance
import GhostMedia.Session.KeyFreshness

/- A repeated `stream.close`. The session remembers the last closed stream only, so a
   repetition is recognised until a stream is opened under another id. -/
namespace GhostMedia.Session
open CString Control Runs

/-- What the session stores for a stream. -/
structure StreamState where
  state : GmControlSessionState
  keyEpoch : UInt32
  lastRekeyEpoch : UInt32
  playoutTargetMs : UInt32
  pathValidated : UInt8
  profile : GmAudioProfile
  firstMediaTimestamp : Buffer 21

def streamOf (s : GmControlSession) (streamId : UInt32) : Option StreamState :=
  if activeStreamMatches s streamId then
    some ⟨s.state, s.keyEpoch, s.lastRekeyEpoch, s.playoutTargetMs, s.pathValidated, s.profile,
      s.firstMediaTimestamp⟩
  else none

/-- The call brings a `stream.close` for a stream under a new id. -/
def BringsClose (s : GmControlSession) (call : Call) (streamId : UInt32) : Prop :=
  ∃ m, Brings s call m ∧ m.kind = .requestStreamClose ∧ m.streamId = streamId

/-- The event accepts a `stream.close` for a stream and leaves the other streams alone. -/
structure ClosesAlone (e : Event GmControlSession Call Reply) (streamId : UInt32) : Prop where
  status : e.output.status = .ok
  kind : e.output.action.kind = .sendStreamCloseResult
  stream : e.output.action.streamId = streamId
  others : ∀ other, other ≠ streamId → streamOf e.after other = streamOf e.before other

/-- A `stream.open` that reaches the bound state finds the stream id to be the next one. -/
def OpensOnly (streamId : UInt32) (s : GmControlSession) (call : Call) : Prop :=
  ∀ m, Brings s call m → m.kind = .requestStreamOpen → s.state = .bound →
    s.nextStreamId = streamId

/-- The stream is open, or it is the last one closed. -/
def Remembers (s : GmControlSession) (streamId : UInt32) : Prop :=
  s.state = .closed ∨ OwnsStream s ∧ s.nextStreamId = streamId ∨
    ¬ OwnsStream s ∧ s.lastClosedStreamId = streamId

/-- A stream with a larger id is open, or is the last one closed. -/
def Forgets (s : GmControlSession) (streamId : UInt32) : Prop :=
  s.state = .closed ∨ OwnsStream s ∧ streamId < s.nextStreamId ∨
    ¬ OwnsStream s ∧ streamId < s.lastClosedStreamId

/-- The transport is bound, or has been before the session was closed. -/
def PastBind (s : GmControlSession) : Prop :=
  s.state = .closed ∨ s.state = .bound ∨ OwnsStream s

section Steps
variable {config : GmControlSessionConfig} {s : GmControlSession} {call : Call}
  {streamId : UInt32}

theorem bound_owns_none (state : s.state = .bound) : ¬ OwnsStream s := by
  rintro (other | other) <;> cases state.symm.trans other

theorem grants_past_bind {m : GmControlMessageInfo} {nowNs : UInt64} {kind next edit}
    (held : PastBind s) (grants : Grants s m nowNs kind next edit) : PastBind next := by
  cases grants with
  | hello _ ready =>
    rcases held with state | state | owns
    · cases state.symm.trans ready
    · cases state.symm.trans ready
    · exact absurd ready (owns_past_ready owns)
  | bind =>
    by_cases hello : s.state = .hello
    · exact .inr (.inl (if_pos hello))
    · simpa only [PastBind, OwnsStream, if_neg hello] using held
  | «open» | stop => exact .inr (.inr (.inl rfl))
  | start => exact .inr (.inr (.inr rfl))
  | close => exact .inr (.inl rfl)
  | sessionCloseActive | sessionCloseIdle => exact .inl rfl
  | openAgain | closeAgain | rekey | rekeyAgain | status | ping => exact held

theorem step_past_bind (held : PastBind s) (call : Call) : PastBind (step s call).2 := by
  have out := step_steps s call
  generalize step s call = result at out
  obtain ⟨reply, next⟩ := result
  dsimp only at out ⊢
  cases out with
  | invalidIngest | invalidMark | closed | conflict | unmatched | validated => exact held
  | refused => exact .inl rfl
  | @granted _ nowNs _ _ _ _ m _ _ _ grants =>
    have arrived : PastBind (received s m nowNs) := held
    have granted := grants_past_bind arrived grants
    exact granted

/-- A stream is remembered until another one is opened. -/
theorem step_remembers (inv : Invariant config s) (held : Remembers s streamId)
    (only : OpensOnly streamId s call) : Remembers (step s call).2 streamId := by
  have move := step_key_move inv call
  generalize becomesCurrent (Runs.event step s call) = pair at move
  cases move with
  | keep _ next last owns closed => simpa only [Remembers, next, last, owns, closed] using held
  | opened m brings kind state owns _ next =>
    exact .inr (.inl ⟨owns, next.trans (only m brings kind state)⟩)
  | rekeyed owned owns _ _ next =>
    rcases held with state | ⟨_, same⟩ | ⟨other, _⟩
    · exact absurd state (owns_live owned)
    · exact .inr (.inl ⟨owns, next.trans same⟩)
    · exact absurd owned other
  | released owned state last =>
    rcases held with closed | ⟨_, same⟩ | ⟨other, _⟩
    · exact absurd closed (owns_live owned)
    · exact .inr (.inr ⟨bound_owns_none state, last.trans same⟩)
    · exact absurd owned other
  | shut state => exact .inl state

/-- A stream that is remembered is forgotten when another one is opened. -/
theorem step_forgets (inv : Invariant config s) (held : Remembers s streamId)
    {m : GmControlMessageInfo} (brings : Brings s call m) (kind : m.kind = .requestStreamOpen)
    (state : s.state = .bound) (other : s.nextStreamId ≠ streamId) :
    Forgets (step s call).2 streamId := by
  have last : s.lastClosedStreamId = streamId := by
    rcases held with closed | ⟨owns, _⟩ | ⟨_, last⟩
    · cases state.symm.trans closed
    · exact absurd owns (bound_owns_none state)
    · exact last
  have below : streamId < s.nextStreamId :=
    UInt32.lt_of_le_of_ne (last ▸ inv.closed) (Ne.symm other)
  have move := step_key_move inv call
  rw [open_becomes_current state brings kind] at move
  generalize current : some (s.nextStreamId, s.initialKeyEpoch) = pair at move
  cases move with
  | opened _ _ _ _ owns _ same => exact .inr (.inl ⟨owns, same ▸ below⟩)
  | rekeyed owned => exact absurd owned (bound_owns_none state)
  | keep | released | shut => cases current

theorem step_keeps_forgetting (inv : Invariant config s) (held : Forgets s streamId)
    (call : Call) : Forgets (step s call).2 streamId := by
  have move := step_key_move inv call
  generalize becomesCurrent (Runs.event step s call) = pair at move
  cases move with
  | keep _ next last owns closed => simpa only [Forgets, next, last, owns, closed] using held
  | opened m brings kind state owns _ next =>
    rcases held with closed | ⟨owned, _⟩ | ⟨_, below⟩
    · cases state.symm.trans closed
    · exact absurd owned (bound_owns_none state)
    · exact .inr (.inl ⟨owns, next ▸ UInt32.lt_of_lt_of_le below inv.closed⟩)
  | rekeyed owned owns _ _ next =>
    rcases held with state | ⟨_, below⟩ | ⟨other, _⟩
    · exact absurd state (owns_live owned)
    · exact .inr (.inl ⟨owns, next ▸ below⟩)
    · exact absurd owned other
  | released owned state last =>
    rcases held with closed | ⟨_, below⟩ | ⟨other, _⟩
    · exact absurd closed (owns_live owned)
    · exact .inr (.inr ⟨bound_owns_none state, last ▸ below⟩)
    · exact absurd owned other
  | shut state => exact .inl state

/-- An accepted `stream.close` is remembered, with the transport bound. -/
theorem accepted_close_remembered (accepted : (step s call).1.status = .ok)
    (closes : BringsClose s call streamId) :
    PastBind (step s call).2 ∧ Remembers (step s call).2 streamId := by
  obtain ⟨m, brings, kind, rfl⟩ := closes
  cases call with
  | markPathValidated => exact brings.elim
  | ingest jsonText nowNs outAction =>
    obtain ⟨other, _, next, _, ⟨_, arrives⟩, _, grants, run⟩ := accepted_step accepted
    obtain rfl : m = other := Except.ok.inj (brings.2.1.symm.trans arrives.1)
    rw [run]
    cases grants with
    | close => exact ⟨.inr (.inl rfl), .inr (.inr ⟨bound_owns_none rfl, rfl⟩)⟩
    | closeAgain _ state last =>
      have state : s.state = .bound := state
      exact ⟨.inr (.inl state), .inr (.inr ⟨bound_owns_none state, last.symm⟩)⟩
    | hello other | bind other | «open» other | openAgain other | start other | stop other
    | rekey other | rekeyAgain other | status other | ping other | sessionCloseActive other
    | sessionCloseIdle other => cases kind.symm.trans other

theorem remembered_closes_alone (inv : Invariant config s) (live : s.state ≠ .closed)
    (bound : PastBind s) (held : Remembers s streamId) (closes : BringsClose s call streamId) :
    ClosesAlone (Runs.event step s call) streamId := by
  obtain ⟨m, brings, kind, rfl⟩ := closes
  cases call with
  | markPathValidated => exact brings.elim
  | ingest jsonText nowNs outAction =>
    obtain ⟨valid, arrives⟩ := brings
    rcases held with closed | ⟨owns, same⟩ | ⟨none, last⟩
    · exact absurd closed live
    · have owned := inv.owned owns
      have active : activeStreamMatches s m.streamId = true :=
        (active_iff s _).mpr ⟨owned.nonzero, owned.streamId.trans same, owns⟩
      have run : step s (.ingest jsonText nowNs outAction) = _ :=
        granted_step valid live arrives (.inr (owns_past_ready owns))
          (.close (s := received s m nowNs) kind active)
      rw [Runs.event, run]
      refine ⟨rfl, rfl, rfl, fun other distinct => ?_⟩
      have before : streamOf s other = none := by
        refine if_neg fun active => distinct ?_
        obtain ⟨_, current, _⟩ := (active_iff s other).mp active
        exact current.symm.trans (owned.streamId.trans same)
      rw [before]
      exact if_neg fun active => ((active_iff _ _).mp active).1 rfl
    · have state : s.state = .bound := by
        rcases bound with closed | state | owns
        · exact absurd closed live
        · exact state
        · exact absurd owns none
      have run : step s (.ingest jsonText nowNs outAction) = _ :=
        granted_step valid live arrives (.inr (by simp [state]))
          (.closeAgain kind state last.symm)
      rw [Runs.event, run]
      exact ⟨rfl, rfl, rfl, fun _ _ => rfl⟩

theorem forgotten_refused (inv : Invariant config s) (live : s.state ≠ .closed)
    (held : Forgets s streamId) (closes : BringsClose s call streamId) :
    ¬ ClosesAlone (Runs.event step s call) streamId := by
  intro alone
  obtain ⟨m, brings, kind, rfl⟩ := closes
  cases call with
  | markPathValidated => exact brings.elim
  | ingest jsonText nowNs outAction =>
    obtain ⟨valid, arrives⟩ := brings
    obtain ⟨_, other, found, grantable⟩ := (ingest_ok_iff valid).mp alone.status
    obtain rfl : m = other := Except.ok.inj (arrives.1.symm.trans found.1)
    simp only [Grantable, kind] at grantable
    rcases held with closed | ⟨owns, below⟩ | ⟨none, below⟩
    · exact live closed
    · rcases grantable with active | ⟨state, _⟩
      · obtain ⟨_, same, _⟩ := (active_iff s _).mp active
        rw [← same, (inv.owned owns).streamId] at below
        exact UInt32.lt_irrefl _ below
      · exact bound_owns_none state owns
    · rcases grantable with active | ⟨_, last⟩
      · exact none ((active_iff s _).mp active).2.2
      · rw [last] at below
        exact UInt32.lt_irrefl _ below

theorem run_past_bind (bound : PastBind s) (calls : List Call) : PastBind (final step s calls) :=
  invariant_of_run step PastBind bound (fun _ call held => step_past_bind held call) calls

theorem run_remembers (inv : Invariant config s) (held : Remembers s streamId) {calls : List Call}
    (only : ∀ e ∈ events step s calls, OpensOnly streamId e.before e.input) :
    Remembers (final step s calls) streamId :=
  (history_of_good step (fun e => OpensOnly streamId e.before e.input)
    (fun _ t => Invariant config t ∧ Remembers t streamId) ⟨inv, held⟩
    (fun _ _ call only held =>
      ⟨step_invariant call held.1, step_remembers held.1 held.2 only⟩) only).2

theorem run_keeps_forgetting (inv : Invariant config s) (held : Forgets s streamId)
    (calls : List Call) : Forgets (final step s calls) streamId :=
  (invariant_of_run step (fun t => Invariant config t ∧ Forgets t streamId) ⟨inv, held⟩
    (fun _ call held =>
      ⟨step_invariant call held.1, step_keeps_forgetting held.1 held.2 call⟩) calls).2

theorem run_forgets (inv : Invariant config s) (held : Remembers s streamId) {calls : List Call}
    (opens : ¬ ∀ e ∈ events step s calls, OpensOnly streamId e.before e.input) :
    Forgets (final step s calls) streamId := by
  induction calls generalizing s with
  | nil => exact absurd (by simp) opens
  | cons call rest ih =>
    have next := step_invariant call inv
    by_cases only : OpensOnly streamId s call
    · refine ih next (step_remembers inv held only) fun all => opens ?_
      rw [events, List.forall_mem_cons]
      exact ⟨only, all⟩
    · unfold OpensOnly at only
      push Not at only
      obtain ⟨m, brings, kind, state, other⟩ := only
      exact run_keeps_forgetting next (step_forgets inv held brings kind state other) rest

end Steps

/-- In a session that is not closed, a `stream.close` for a stream whose close was accepted
    before is accepted again exactly when no stream has been opened under another id since. -/
theorem stream_close_repeats_iff {config : GmControlSessionConfig}
    {blank start : GmControlSession} (init : gmControlSessionInit config blank = (.ok, start))
    {calls since : List Call} {first again : Call} {streamId : UInt32}
    (closes : BringsClose (final step start calls) first streamId)
    (accepted : (step (final step start calls) first).1.status = .ok)
    (live : (final step start (calls ++ first :: since)).state ≠ .closed)
    (repeats : BringsClose (final step start (calls ++ first :: since)) again streamId) :
    ClosesAlone (Runs.event step (final step start (calls ++ first :: since)) again) streamId ↔
      ∀ e ∈ events step (final step start (calls ++ [first])) since,
        OpensOnly streamId e.before e.input := by
  have inv := run_invariant init calls
  have after := step_invariant first inv
  have run : final step start (calls ++ first :: since) =
      final step (step (final step start calls) first).2 since := by
    rw [final_append, final]
  have whole := run ▸ run_invariant init (calls ++ first :: since)
  rw [run] at live repeats ⊢
  rw [final_snoc]
  obtain ⟨bound, held⟩ := accepted_close_remembered accepted closes
  constructor
  · intro alone
    by_contra opens
    exact forgotten_refused whole live (run_forgets after held opens) repeats alone
  · intro only
    exact remembered_closes_alone whole live (run_past_bind bound since)
      (run_remembers after held only) repeats

theorem stream_close_repeats_sample :
    ClosesAlone (Runs.event step (final step sampleSession (sampleOpening ++ [sampleClose "4"]))
      (sampleClose "5")) 4294967295 := by
  have run : final step sampleSession (sampleOpening ++ [sampleClose "4"]) = vacatedSession := by
    rw [final_snoc, sample_opened, sample_closed.2]
  obtain ⟨first, again⟩ := sample_close_carries
  refine (stream_close_repeats_iff sample_init
    (by rw [sample_opened]; exact ⟨_, ⟨by decide, first, by decide⟩, rfl, rfl⟩)
    (by rw [sample_opened]; exact sample_closed.1) (by rw [run]; decide)
    (by rw [run]; exact ⟨_, ⟨by decide, again, by decide⟩, rfl, rfl⟩)).mpr ?_
  simp

def firstConfig : GmControlSessionConfig := { sampleConfig with streamId := 1 }

/-- The sample session when its first stream id is 1. -/
def firstSession : GmControlSession := initialSession firstConfig sizeofGmControlSession

def closeFirst (id : String) : Call := sampleRequest id "stream.close" ",\"stream_id\":1"

def firstOpened : GmControlSession := { openedSession with streamId := 1, nextStreamId := 1 }

def firstClosed : GmControlSession :=
  { vacatedSession with nextStreamId := 2, lastClosedStreamId := 1 }

/-- The session with its second stream open. -/
def secondOpened : GmControlSession :=
  { firstOpened with
    lastRequestId := 5
    validRequests := 5
    actionsEmitted := 5
    streamsClosed := 1
    streamId := 2
    nextStreamId := 2
    lastClosedStreamId := 1 }

theorem close_first_carries :
    Carries (closeFirst "4") ((Message.streamClose 4 1).info 928) ∧
      Carries (sampleOpen "5") ((Message.streamOpen 5 .pcmS16le 40).info 928) ∧
      Carries (closeFirst "6") ((Message.streamClose 6 1).info 928) := by
  decide +kernel

theorem first_opened : final step firstSession sampleOpening = firstOpened := by
  obtain ⟨hello, bind, opens, _⟩ := sample_requests_carry
  have greeted : (step firstSession sampleHello).2 = { greetedSession with nextStreamId := 1 } :=
    congrArg Prod.snd (granted_step (by decide) (by decide) ⟨hello, by decide⟩ (.inl rfl)
      (.hello rfl rfl))
  have bound : (step { greetedSession with nextStreamId := 1 } sampleBind).2 =
      { boundSession with nextStreamId := 1 } :=
    congrArg Prod.snd (granted_step (by decide) (by decide) ⟨bind, by decide⟩ (.inr (by decide))
      (.bind rfl (by decide) (by decide) rfl))
  have opened : (step { boundSession with nextStreamId := 1 } (sampleOpen "3")).2 = firstOpened :=
    congrArg Prod.snd (granted_step (by decide) (by decide) ⟨opens, by decide⟩
      (.inr (by decide)) (.open rfl rfl))
  rw [sampleOpening, final, final, final, final_nil, greeted, bound, opened]

/-- Closing the first stream again while the second one is open is a conflict. -/
theorem older_close_conflicts :
    gmControlSessionInit firstConfig firstSession = (.ok, firstSession) ∧
      BringsClose (final step firstSession sampleOpening) (closeFirst "4") 1 ∧
      (step (final step firstSession sampleOpening) (closeFirst "4")).1.status = .ok ∧
      let s := final step firstSession (sampleOpening ++ [closeFirst "4", sampleOpen "5"])
      s.state ≠ .closed ∧ BringsClose s (closeFirst "6") 1 ∧
        (step s (closeFirst "6")).1.status = .stateConflict ∧
        ¬ ClosesAlone (Runs.event step s (closeFirst "6")) 1 := by
  obtain ⟨first, opens, again⟩ := close_first_carries
  have closed : step firstOpened (closeFirst "4") = _ :=
    granted_step (by decide) (by decide) ⟨first, by decide⟩ (.inr (by decide))
      (.close rfl (by decide))
  have opened : (step firstClosed (sampleOpen "5")).2 = secondOpened :=
    congrArg Prod.snd (granted_step (by decide) (by decide) ⟨opens, by decide⟩
      (.inr (by decide)) (.open rfl rfl))
  have conflict : (step secondOpened (closeFirst "6")).1.status = .stateConflict := by
    decide +kernel
  have run : final step firstSession (sampleOpening ++ [closeFirst "4", sampleOpen "5"]) =
      secondOpened := by
    rw [final_append, first_opened, final, final, final_nil, closed]
    exact opened
  rw [run, first_opened]
  refine ⟨by decide +kernel, ⟨_, ⟨by decide, first, by decide⟩, rfl, rfl⟩, by rw [closed]; rfl,
    by decide, ⟨_, ⟨by decide, again, by decide⟩, rfl, rfl⟩, conflict, fun alone => ?_⟩
  cases conflict.symm.trans alone.status

end GhostMedia.Session
