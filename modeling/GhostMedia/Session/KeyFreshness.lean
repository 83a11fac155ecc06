import GhostMedia.Session.Representation

/- The stream and epoch pairs under which a session derives traffic keys. They never
   repeat as long as no stream is opened after the last stream id has been closed. -/
namespace GhostMedia.Session
open CString Control Runs

/-- The pair that becomes current in an event, at a first `stream.open` or a new rekey. -/
def becomesCurrent (e : Event GmControlSession Call Reply) : Option (UInt32 × UInt32) :=
  if e.output.status = .ok ∧
      (e.output.action.kind = .sendStreamOpenResult ∧ e.before.state = .bound ∨
        e.output.action.kind = .sendStreamRekeyResult ∧ e.after.keyEpoch ≠ e.before.keyEpoch) then
    some (e.after.streamId, e.after.keyEpoch)
  else none

def currentKeys (past : List (Event GmControlSession Call Reply)) : List (UInt32 × UInt32) :=
  past.filterMap becomesCurrent

/-- No `stream.open` reaches the bound state once the last stream id has been closed. -/
def FreshId (s : GmControlSession) (call : Call) : Prop :=
  ∀ m, Brings s call m → m.kind = .requestStreamOpen → s.state = .bound →
    s.lastClosedStreamId ≠ maxU32

/-- What a step does to the stream id and the key epoch, with the pair it makes current. -/
inductive KeyMove (s : GmControlSession) (call : Call) (t : GmControlSession) :
    Option (UInt32 × UInt32) → Prop
  | keep (keyEpoch : t.keyEpoch = s.keyEpoch) (next : t.nextStreamId = s.nextStreamId)
      (last : t.lastClosedStreamId = s.lastClosedStreamId)
      (owns : OwnsStream t ↔ OwnsStream s) (closed : t.state = .closed ↔ s.state = .closed) :
    KeyMove s call t none
  | opened (m : GmControlMessageInfo) (brings : Brings s call m)
      (kind : m.kind = .requestStreamOpen) (state : s.state = .bound) (owns : OwnsStream t)
      (keyEpoch : t.keyEpoch = s.initialKeyEpoch) (next : t.nextStreamId = s.nextStreamId)
      (last : t.lastClosedStreamId = s.lastClosedStreamId) :
    KeyMove s call t (some (s.nextStreamId, s.initialKeyEpoch))
  | rekeyed (owned : OwnsStream s) (owns : OwnsStream t) (streamId : s.streamId = s.nextStreamId)
      (keyEpoch : t.keyEpoch.toNat = s.keyEpoch.toNat + 1) (next : t.nextStreamId = s.nextStreamId)
      (last : t.lastClosedStreamId = s.lastClosedStreamId) :
    KeyMove s call t (some (s.streamId, t.keyEpoch))
  | released (owned : OwnsStream s) (state : t.state = .bound)
      (last : t.lastClosedStreamId = s.nextStreamId)
      (next : t.nextStreamId = nextAfterClose s.nextStreamId s.nextStreamId) :
    KeyMove s call t none
  | shut (state : t.state = .closed) (next : t.nextStreamId = s.nextStreamId)
      (last : t.lastClosedStreamId = s.lastClosedStreamId ∨
        OwnsStream s ∧ t.lastClosedStreamId = s.nextStreamId) :
    KeyMove s call t none

section Steps
variable {config : GmControlSessionConfig} {s : GmControlSession}

theorem other_not_current {e : Event GmControlSession Call Reply}
    (notOpen : e.output.action.kind ≠ .sendStreamOpenResult)
    (notRekey : e.output.action.kind ≠ .sendStreamRekeyResult) : becomesCurrent e = none := by
  rw [becomesCurrent, if_neg]
  rintro ⟨_, ⟨open', _⟩ | ⟨rekey, _⟩⟩
  · exact notOpen open'
  · exact notRekey rekey

theorem refused_not_current {e : Event GmControlSession Call Reply}
    (refused : e.output.status ≠ .ok) : becomesCurrent e = none := by
  rw [becomesCurrent, if_neg]
  exact fun current => refused current.1

theorem grants_key_move {jsonText : GmBytes} {m : GmControlMessageInfo} {nowNs : UInt64}
    {outAction : GmControlAction} {kind next edit} (inv : Invariant config s)
    (live : s.state ≠ .closed) (brings : Brings s (.ingest jsonText nowNs outAction) m)
    (grants : Grants (received s m nowNs) m nowNs kind next edit) :
    KeyMove s (.ingest jsonText nowNs outAction) (counted next)
      (becomesCurrent ⟨s, .ingest jsonText nowNs outAction, answer next m outAction kind edit,
        counted next⟩) := by
  cases grants with
  | hello _ state =>
    have state : s.state = .tlsReady := state
    rw [other_not_current (by intro same; cases same) (by intro same; cases same)]
    exact .keep rfl rfl rfl (by simp [OwnsStream, counted, state]) (by simp [counted, state])
  | bind =>
    rw [other_not_current (by intro same; cases same) (by intro same; cases same)]
    by_cases hello : s.state = .hello
    · exact .keep rfl rfl rfl (by simp [OwnsStream, counted, received, hello])
        (by simp [counted, received, hello])
    · exact .keep rfl rfl rfl (by simp [OwnsStream, counted, received, hello])
        (by simp [counted, received, hello])
  | «open» kind state =>
    have state : s.state = .bound := state
    rw [becomesCurrent, if_pos ⟨rfl, .inl ⟨rfl, state⟩⟩]
    exact .opened m brings kind state (.inl rfl) rfl rfl rfl
  | openAgain _ owns =>
    have other : s.state ≠ .bound := fun state => by
      rcases owns with other | other <;> cases state.symm.trans other
    rw [becomesCurrent, if_neg (by simp [answer, fillAction, other])]
    exact .keep rfl rfl rfl Iff.rfl Iff.rfl
  | start _ active =>
    obtain ⟨_, _, owns⟩ := (active_iff _ _).mp active
    rw [other_not_current (by intro same; cases same) (by intro same; cases same)]
    exact .keep rfl rfl rfl (iff_of_true (.inr rfl) owns)
      (iff_of_false (by intro same; cases same) live)
  | stop _ active =>
    obtain ⟨_, _, owns⟩ := (active_iff _ _).mp active
    rw [other_not_current (by intro same; cases same) (by intro same; cases same)]
    exact .keep rfl rfl rfl (iff_of_true (.inl rfl) owns)
      (iff_of_false (by intro same; cases same) live)
  | close _ active =>
    obtain ⟨_, same, owns⟩ := (active_iff _ _).mp active
    rw [other_not_current (by intro same; cases same) (by intro same; cases same)]
    have current : s.streamId = s.nextStreamId := (inv.owned owns).streamId
    have last : m.streamId = s.nextStreamId := same.symm.trans current
    exact .released owns rfl last (congrArg (nextAfterClose s.nextStreamId) last)
  | closeAgain | status | ping =>
    rw [other_not_current (by intro same; cases same) (by intro same; cases same)]
    exact .keep rfl rfl rfl Iff.rfl Iff.rfl
  | rekey kind active next =>
    obtain ⟨_, _, owns⟩ := (active_iff _ _).mp active
    have sum : m.keyEpoch.toNat = s.keyEpoch.toNat + 1 :=
      rekey_successor next (rekey_arrives brings.2 kind)
    have new : m.keyEpoch ≠ s.keyEpoch := by
      intro same
      rw [same] at sum
      omega
    rw [becomesCurrent, if_pos ⟨rfl, .inr ⟨rfl, new⟩⟩]
    exact .rekeyed owns owns (inv.owned owns).streamId sum rfl rfl
  | rekeyAgain =>
    rw [becomesCurrent, if_neg (by simp [answer, fillAction, counted, received])]
    exact .keep rfl rfl rfl Iff.rfl Iff.rfl
  | sessionCloseActive _ active =>
    obtain ⟨_, _, owns⟩ := (active_iff _ _).mp active
    rw [other_not_current (by intro same; cases same) (by intro same; cases same)]
    exact .shut rfl rfl (.inr ⟨owns, (inv.owned owns).streamId⟩)
  | sessionCloseIdle =>
    rw [other_not_current (by intro same; cases same) (by intro same; cases same)]
    exact .shut rfl rfl (.inl rfl)

theorem step_key_move (inv : Invariant config s) (call : Call) :
    KeyMove s call (step s call).2 (becomesCurrent (Runs.event step s call)) := by
  have out := step_steps s call
  rw [Runs.event]
  generalize step s call = result at out
  obtain ⟨reply, next⟩ := result
  dsimp only at out ⊢
  cases out with
  | invalidIngest | invalidMark | closed | unmatched =>
    rw [refused_not_current (by intro same; cases same)]
    exact .keep rfl rfl rfl Iff.rfl Iff.rfl
  | refused status _ _ _ _ error =>
    rw [refused_not_current error.1]
    exact .shut rfl rfl (.inl rfl)
  | conflict =>
    rw [refused_not_current (by intro same; cases same)]
    exact .keep rfl rfl rfl Iff.rfl Iff.rfl
  | granted m valid live arrives grants => exact grants_key_move inv live ⟨valid, arrives⟩ grants
  | validated =>
    rw [other_not_current (by intro same; cases same) (by intro same; cases same)]
    exact .keep rfl rfl rfl Iff.rfl Iff.rfl

end Steps

theorem current_keys_snoc (past : List (Event GmControlSession Call Reply))
    (e : Event GmControlSession Call Reply) :
    currentKeys (past ++ [e]) = currentKeys past ++ (becomesCurrent e).toList := by
  rw [currentKeys, List.filterMap_append, currentKeys]
  cases current : becomesCurrent e <;> simp [current]

/-- The pairs so far do not repeat. Those of an owned stream reach up to its epoch, and
    a session that can still open one has used no pair of the next stream. -/
structure Spent (past : List (Event GmControlSession Call Reply)) (s : GmControlSession) :
    Prop where
  unique : (currentKeys past).Nodup
  owned : OwnsStream s → ∀ pair ∈ currentKeys past,
    pair.1 < s.nextStreamId ∨ pair.1 = s.nextStreamId ∧ pair.2 ≤ s.keyEpoch
  free : ¬ OwnsStream s → s.state ≠ .closed → s.lastClosedStreamId ≠ maxU32 →
    ∀ pair ∈ currentKeys past, pair.1 < s.nextStreamId

/-- The pair of an owned stream's opening is among the current ones, and so is that of
    the last stream id once it has been closed. -/
structure Reserved (past : List (Event GmControlSession Call Reply)) (s : GmControlSession) :
    Prop where
  owned : OwnsStream s → (s.nextStreamId, s.initialKeyEpoch) ∈ currentKeys past
  last : s.lastClosedStreamId = maxU32 →
    s.nextStreamId = maxU32 ∧ (maxU32, s.initialKeyEpoch) ∈ currentKeys past

section Histories
variable {past : List (Event GmControlSession Call Reply)} {s t : GmControlSession} {call : Call}

theorem nodup_snoc {pairs : List (UInt32 × UInt32)} {pair : UInt32 × UInt32}
    (unique : pairs.Nodup) (fresh : pair ∉ pairs) : (pairs ++ [pair]).Nodup := by
  rw [← List.concat_eq_append]
  exact unique.concat fresh

theorem below_next {pair : UInt32 × UInt32} (fresh : s.nextStreamId ≠ maxU32)
    (bounded : pair.1 < s.nextStreamId ∨ pair.1 = s.nextStreamId ∧ pair.2 ≤ s.keyEpoch) :
    pair.1 < nextAfterClose s.nextStreamId s.nextStreamId := by
  have sum := add_one_toNat fresh
  rw [next_after_close_below fresh]
  simp only [UInt32.lt_iff_toNat_lt, ← UInt32.toNat_inj] at bounded ⊢
  omega

theorem spent_snoc (held : Spent past s) {e : Event GmControlSession Call Reply}
    (fresh : FreshId s call) (move : KeyMove s call t (becomesCurrent e)) :
    Spent (past ++ [e]) t := by
  have keys := current_keys_snoc past e
  generalize becomesCurrent e = pair at move keys
  cases move with
  | keep keyEpoch next last owns closed =>
    simp only [Option.toList_none, List.append_nil] at keys
    refine ⟨keys ▸ held.unique, ?_, ?_⟩
    · rw [keys, owns, next, keyEpoch]
      exact held.owned
    · rw [keys, owns, next, last, ne_eq, closed]
      exact held.free
  | opened m brings kind state owns keyEpoch next last =>
    have free : ¬ OwnsStream s := by simp [OwnsStream, state]
    have below := held.free free (by simp [state]) (fresh m brings kind state)
    have new : (s.nextStreamId, s.initialKeyEpoch) ∉ currentKeys past := fun member =>
      UInt32.lt_irrefl _ (below _ member)
    refine ⟨keys ▸ nodup_snoc held.unique new, fun _ pair member => ?_,
      fun other => absurd owns other⟩
    rw [keys, List.mem_append] at member
    rcases member with earlier | now
    · exact .inl (next ▸ below pair earlier)
    · obtain rfl : pair = (s.nextStreamId, s.initialKeyEpoch) := by simpa using now
      exact .inr ⟨next.symm, keyEpoch ▸ UInt32.le_refl _⟩
  | rekeyed owned owns streamId keyEpoch next last =>
    have bounded := held.owned owned
    have new : (s.streamId, t.keyEpoch) ∉ currentKeys past := by
      intro member
      rcases bounded _ member with below | ⟨_, epoch⟩
      · exact UInt32.lt_irrefl _ (streamId ▸ below)
      · have later : t.keyEpoch.toNat ≤ s.keyEpoch.toNat := epoch
        omega
    refine ⟨keys ▸ nodup_snoc held.unique new, fun _ pair member => ?_,
      fun other => absurd owns other⟩
    rw [keys, List.mem_append] at member
    rcases member with earlier | now
    · rcases bounded pair earlier with below | ⟨same, epoch⟩
      · exact .inl (next ▸ below)
      · refine .inr ⟨same.trans next.symm, ?_⟩
        rw [UInt32.le_iff_toNat_le] at epoch ⊢
        omega
    · obtain rfl : pair = (s.streamId, t.keyEpoch) := by simpa using now
      exact .inr ⟨streamId.trans next.symm, UInt32.le_refl _⟩
  | released owned state last next =>
    simp only [Option.toList_none, List.append_nil] at keys
    refine ⟨keys ▸ held.unique, fun owns => ?_, fun _ _ below pair member => ?_⟩
    · rcases owns with other | other <;> cases state.symm.trans other
    · rw [keys] at member
      rw [next]
      exact below_next (last ▸ below) (held.owned owned pair member)
  | shut state =>
    simp only [Option.toList_none, List.append_nil] at keys
    refine ⟨keys ▸ held.unique, fun owns => ?_, fun _ live => absurd state live⟩
    rcases owns with other | other <;> cases state.symm.trans other

theorem reserved_snoc (held : Reserved past s) {e : Event GmControlSession Call Reply}
    (initial : t.initialKeyEpoch = s.initialKeyEpoch)
    (move : KeyMove s call t (becomesCurrent e)) : Reserved (past ++ [e]) t := by
  have keys := current_keys_snoc past e
  have kept (pair) (member : pair ∈ currentKeys past) : pair ∈ currentKeys (past ++ [e]) :=
    keys ▸ List.mem_append_left _ member
  have same (next : t.nextStreamId = s.nextStreamId)
      (last : t.lastClosedStreamId = s.lastClosedStreamId) (top : t.lastClosedStreamId = maxU32) :
      t.nextStreamId = maxU32 ∧ (maxU32, t.initialKeyEpoch) ∈ currentKeys (past ++ [e]) := by
    obtain ⟨nextTop, member⟩ := held.last (last ▸ top)
    exact ⟨next.trans nextTop, initial ▸ kept _ member⟩
  generalize becomesCurrent e = pair at move keys
  cases move with
  | keep keyEpoch next last owns closed =>
    refine ⟨fun owned => ?_, same next last⟩
    rw [next, initial]
    exact kept _ (held.owned (owns.mp owned))
  | opened m brings kind state owns keyEpoch next last =>
    refine ⟨fun _ => ?_, same next last⟩
    rw [next, initial, keys]
    exact List.mem_append_right _ (by simp)
  | rekeyed owned owns streamId keyEpoch next last =>
    refine ⟨fun _ => ?_, same next last⟩
    rw [next, initial]
    exact kept _ (held.owned owned)
  | released owned state last next =>
    refine ⟨fun owns => ?_, fun top => ?_⟩
    · rcases owns with other | other <;> cases state.symm.trans other
    · have nextTop : s.nextStreamId = maxU32 := last.symm.trans top
      rw [next, initial, nextTop, next_after_close_top]
      exact ⟨rfl, kept _ (nextTop ▸ held.owned owned)⟩
  | shut state next last =>
    refine ⟨fun owns => ?_, fun top => ?_⟩
    · rcases owns with other | other <;> cases state.symm.trans other
    · rcases last with last | ⟨owned, last⟩
      · exact same next last top
      · have nextTop : s.nextStreamId = maxU32 := last.symm.trans top
        rw [next, initial, nextTop]
        exact ⟨rfl, kept _ (nextTop ▸ held.owned owned)⟩

theorem open_becomes_current {m : GmControlMessageInfo} (state : s.state = .bound)
    (brings : Brings s call m) (kind : m.kind = .requestStreamOpen) :
    becomesCurrent (Runs.event step s call) = some (s.nextStreamId, s.initialKeyEpoch) := by
  obtain ⟨status, action, streamId, keyEpoch⟩ := open_granted state brings kind
  rw [becomesCurrent, if_pos ⟨status, .inl ⟨action, state⟩⟩]
  exact congrArg some (congrArg₂ Prod.mk streamId keyEpoch)

end Histories

section Runs
variable {config : GmControlSessionConfig} {blank start : GmControlSession}

theorem run_reserved (init : gmControlSessionInit config blank = (.ok, start))
    (calls : List Call) : Reserved (events step start calls) (final step start calls) := by
  have history := history_of_run step
    (fun past s => Invariant config s ∧ Reserved past s) ⟨run_invariant init [], ?_⟩
    (fun past s call held => ?_) calls
  · exact history.2
  · obtain ⟨_, _, rfl⟩ := init_ok init
    refine ⟨fun owns => ?_, fun last => absurd last (by simp [initialSession, maxU32])⟩
    rcases owns with state | state <;> cases state
  · have inv := step_invariant call held.1
    have initial := inv.configured.initialKeyEpoch.trans
      held.1.configured.initialKeyEpoch.symm
    exact ⟨inv, reserved_snoc held.2 initial (step_key_move held.1 call)⟩

theorem run_spent (init : gmControlSessionInit config blank = (.ok, start)) {calls : List Call}
    (fresh : ∀ e ∈ events step start calls, FreshId e.before e.input) :
    Spent (events step start calls) (final step start calls) := by
  have history := history_of_good step (fun e => FreshId e.before e.input)
    (fun past s => Invariant config s ∧ Spent past s)
    ⟨run_invariant init [], ⟨List.nodup_nil, by simp [currentKeys], by simp [currentKeys]⟩⟩
    (fun past s call good held =>
      ⟨step_invariant call held.1, spent_snoc held.2 good (step_key_move held.1 call)⟩) fresh
  exact history.2

/-- The pairs of a run are pairwise distinct exactly when none of its `stream.open`
    requests reached the bound state after the last stream id had been closed. -/
theorem key_pairs_distinct_iff (init : gmControlSessionInit config blank = (.ok, start))
    (calls : List Call) :
    (currentKeys (events step start calls)).Nodup ↔
      ∀ e ∈ events step start calls, FreshId e.before e.input := by
  constructor
  · intro unique e member m brings kind state last
    obtain ⟨xs, call, ys, rfl, rfl⟩ := event_of_mem step member
    obtain ⟨next, used⟩ := (run_reserved init xs).last last
    have again : becomesCurrent (Runs.event step (final step start xs) call) =
        some (maxU32, (final step start xs).initialKeyEpoch) :=
      next ▸ open_becomes_current state brings kind
    rw [events_append, events, currentKeys, List.filterMap_append, List.filterMap_cons, again]
      at unique
    exact (List.nodup_append.mp unique).2.2 _ used _ List.mem_cons_self rfl
  · intro fresh
    exact (run_spent init fresh).unique

end Runs

theorem key_pairs_distinct_sample :
    (currentKeys (events step sampleSession sampleOpening)).Nodup ↔
      ∀ e ∈ events step sampleSession sampleOpening, FreshId e.before e.input :=
  key_pairs_distinct_iff sample_init _

def sampleClose (id : String) : Call :=
  sampleRequest id "stream.close" ",\"stream_id\":4294967295"

/-- The sample session after its stream has been closed: the last id is the next id. -/
def vacatedSession : GmControlSession :=
  { clearStream openedSession with
    state := .bound
    lastRequestId := 4
    validRequests := 4
    actionsEmitted := 4
    streamsClosed := 1
    lastClosedStreamId := 4294967295 }

theorem sample_close_carries :
    Carries (sampleClose "4") ((Message.streamClose 4 4294967295).info 928) ∧
      Carries (sampleClose "5") ((Message.streamClose 5 4294967295).info 928) := by
  decide +kernel

theorem sample_closed :
    (step openedSession (sampleClose "4")).1.status = .ok ∧
      (step openedSession (sampleClose "4")).2 = vacatedSession := by
  obtain ⟨carries, _⟩ := sample_close_carries
  have granted : step openedSession (sampleClose "4") = _ :=
    granted_step (by decide) (by decide) ⟨carries, by decide⟩ (.inr (by decide))
      (.close rfl (by decide))
  rw [granted]
  exact ⟨rfl, rfl⟩

/-- Reopening after the last stream id makes the pair of the first opening current again. -/
theorem reopened_stream_repeats_keys :
    gmControlSessionInit sampleConfig sampleSession = (.ok, sampleSession) ∧
      (4294967295, 1) ∈ currentKeys (events step sampleSession sampleOpening) ∧
      ¬ (currentKeys (events step sampleSession
        (sampleOpening ++ [sampleClose "4", sampleOpen "5"]))).Nodup := by
  have first : (4294967295, 1) ∈ currentKeys (events step sampleSession sampleOpening) := by
    have reserved := run_reserved sample_init sampleOpening
    rw [sample_opened] at reserved
    exact reserved.owned (.inl rfl)
  have second : becomesCurrent (Runs.event step vacatedSession (sampleOpen "5")) =
      some (4294967295, 1) := by
    decide +kernel
  have again : (4294967295, 1) ∈ currentKeys
      (events step openedSession [sampleClose "4", sampleOpen "5"]) := by
    rw [events, events, events_nil, sample_closed.2]
    exact List.mem_filterMap.mpr ⟨_, List.mem_cons_of_mem _ List.mem_cons_self, second⟩
  refine ⟨sample_init, first, fun unique => ?_⟩
  rw [events_append, sample_opened, currentKeys, List.filterMap_append] at unique
  exact (List.nodup_append.mp unique).2.2 _ first _ again rfl

end GhostMedia.Session
