import GhostMedia.Foundation.Runs
import GhostMedia.Security.Continuity
import GhostMedia.Security.KeySpace

/- The trust store as a map from digests to records, over every sequence of its operations
   and of calls of `loadOrCreate` on the same store. -/
namespace GhostMedia.Security
open CString Runs StateLogic

section Operations

inductive Operation (Uuid Key Certificate : Type) where
  | approve (refusals : Refusals) (peerSpkiDigest : List UInt8) (permissions : UInt32)
  | revoke (refusals : Refusals) (peerSpkiDigest : List UInt8)
  | save (refusals : Refusals) (record : StoredTrustRecord)
  | loadOrCreate (around : Surroundings Uuid Key Certificate)

variable {Uuid Key Certificate : Type} (platform : Platform Uuid Key Certificate)
  (codec : TrustCodec)

def operate (store : SecureStore) : Operation Uuid Key Certificate →
    Except SecurityError (Option (AppleOutputIdentity Uuid Key Certificate)) × SecureStore
  | .approve refusals digest permissions =>
    outcome (fun _ => none) (AppleTrustStore.approve codec refusals digest permissions store)
  | .revoke refusals digest =>
    outcome (fun _ => none) (AppleTrustStore.revoke codec refusals digest store)
  | .save refusals record =>
    outcome (fun _ => none) (AppleTrustStore.save codec refusals record store)
  | .loadOrCreate around => outcome some (loadOrCreate platform around store)

abbrev TrustEvent (Uuid Key Certificate : Type) :=
  Event SecureStore (Operation Uuid Key Certificate)
    (Except SecurityError (Option (AppleOutputIdentity Uuid Key Certificate)))

def Operation.entered : Operation Uuid Key Certificate → Option StoredTrustRecord
  | .approve _ digest permissions => some ⟨digest, permissions, false⟩
  | .save _ record => some record
  | _ => none

def Operation.revoked : Operation Uuid Key Certificate → Option (List UInt8)
  | .revoke _ digest => some digest
  | _ => none

def Operation.identityCall : Operation Uuid Key Certificate →
    Option (Surroundings Uuid Key Certificate)
  | .loadOrCreate around => some around
  | _ => none

def Succeeded (e : TrustEvent Uuid Key Certificate) : Prop := ∃ out, e.output = .ok out

def Enters (digest : List UInt8) (e : TrustEvent Uuid Key Certificate) : Prop :=
  Succeeded e ∧ ∃ record, e.input.entered = some record ∧ record.peerSpkiDigest = digest

def Revokes (digest : List UInt8) (e : TrustEvent Uuid Key Certificate) : Prop :=
  Succeeded e ∧ e.input.revoked = some digest

def Affects (digest : List UInt8) (e : TrustEvent Uuid Key Certificate) : Prop :=
  Enters digest e ∨ Revokes digest e

def Permits (permission : UInt32) (record : StoredTrustRecord) : Prop :=
  record.isRevoked = false ∧ record.permissions &&& permission = permission

/-- An approval, or a save of a record that is not revoked, with the permission. -/
def Grants (digest : List UInt8) (permission : UInt32) (e : TrustEvent Uuid Key Certificate) :
    Prop :=
  Succeeded e ∧ ∃ record, e.input.entered = some record ∧ record.peerSpkiDigest = digest ∧
    Permits permission record

def answer (refusals : Refusals) (digest : List UInt8) (permission : UInt32)
    (store : SecureStore) : Except SecurityError Bool :=
  (outcome id (AppleTrustStore.authorizes codec refusals digest permission store)).1

def recorded (refusals : Refusals) (digest : List UInt8) (store : SecureStore) :
    Except SecurityError (Option StoredTrustRecord) :=
  (outcome id (AppleTrustStore.record codec refusals digest store)).1

end Operations

section Contents
variable (codec : TrustCodec)

def trustMap (store : SecureStore) (digest : List UInt8) : Option StoredTrustRecord :=
  (store (trustKey digest)).bind codec.decode

/-- The record that a revocation leaves: the permissions stay. -/
def revocation (digest : List UInt8) (found : Option StoredTrustRecord) : StoredTrustRecord :=
  ⟨digest, (found.map (·.permissions)).getD 0, true⟩

/-- A record that can be read and is about the digest it is stored for, or none. -/
def Filed (digest : List UInt8) (store : SecureStore) : Prop :=
  ∀ bytes, store (trustKey digest) = some bytes →
    ∃ record, codec.decode bytes = some record ∧ record.peerSpkiDigest = digest

def Permitted (digest : List UInt8) (permission : UInt32) (store : SecureStore) : Prop :=
  ∃ record, trustMap codec store digest = some record ∧ Permits permission record

def Stored (record : StoredTrustRecord) (before after : SecureStore) : Prop :=
  ∃ bytes, codec.encode record = some bytes ∧
    after = Function.update before (trustKey record.peerSpkiDigest) (some bytes)

/-- The record has an encoding, and writing it is not refused. -/
def Writable (refusals : Refusals) (record : StoredTrustRecord) : Prop :=
  (codec.encode record).isSome ∧ refusals.set (trustKey record.peerSpkiDigest) = none

/-- Reading for the digest is not refused, and what is stored for it decodes. -/
def Readable (refusals : Refusals) (digest : List UInt8) (store : SecureStore) : Prop :=
  refusals.data (trustKey digest) = none ∧
    ∀ bytes, store (trustKey digest) = some bytes → (codec.decode bytes).isSome

/-- Nothing stands in the way of a trust operation. -/
def Unhindered {Uuid Key Certificate : Type} (store : SecureStore) :
    Operation Uuid Key Certificate → Prop
  | .approve refusals digest permissions =>
    digest.length = gmSpkiDigestBytes ∧ Writable codec refusals ⟨digest, permissions, false⟩
  | .revoke refusals digest =>
    digest.length = gmSpkiDigestBytes ∧ Readable codec refusals digest store ∧
      Writable codec refusals (revocation digest (trustMap codec store digest))
  | .save refusals record => Writable codec refusals record
  | .loadOrCreate _ => False

end Contents

section Specs
variable {codec : TrustCodec} {refusals : Refusals} {store : SecureStore} {digest : List UInt8}

theorem record_ends :
    Ends (fun found after => after = store ∧ found = trustMap codec store digest)
      (fun _ after => after = store) (AppleTrustStore.record codec refusals digest store) := by
  rw [AppleTrustStore.record]
  refine ends_bind data_ends ?_
  rintro found after ⟨rfl, rfl⟩
  rw [trustMap]
  cases after (trustKey digest) with
  | none => exact ⟨rfl, rfl⟩
  | some bytes =>
    simp only [Option.bind_some]
    cases codec.decode bytes with
    | none => rfl
    | some record => exact ⟨rfl, rfl⟩

theorem save_ends (record : StoredTrustRecord) :
    Ends (fun _ after => Stored codec record store after) (fun _ after => after = store)
      (AppleTrustStore.save codec refusals record store) := by
  rw [AppleTrustStore.save]
  cases encoded : codec.encode record with
  | none => rfl
  | some bytes => exact ends_mono set_ends (fun _ _ same => ⟨bytes, encoded, same⟩) fun _ _ => id

theorem approve_ends (permissions : UInt32) :
    Ends (fun _ after => Stored codec ⟨digest, permissions, false⟩ store after)
      (fun _ after => after = store)
      (AppleTrustStore.approve codec refusals digest permissions store) := by
  rw [AppleTrustStore.approve]
  exact ends_ite (fun _ => rfl) fun _ => save_ends _

theorem revoke_ends :
    Ends (fun _ after => digest.length = 32 ∧
        Stored codec (revocation digest (trustMap codec store digest)) store after)
      (fun _ after => after = store) (AppleTrustStore.revoke codec refusals digest store) := by
  rw [AppleTrustStore.revoke]
  refine ends_ite (fun _ => rfl) fun size => ends_bind record_ends ?_
  rintro found after ⟨rfl, rfl⟩
  have saved : ∀ record : StoredTrustRecord,
      Ends (fun _ after' => digest.length = 32 ∧ Stored codec record after after')
        (fun _ after' => after' = after) (AppleTrustStore.save codec refusals record after) :=
    fun record => ends_mono (save_ends record) (fun _ _ stored => ⟨not_not.mp size, stored⟩)
      fun _ _ => id
  cases trustMap codec after digest with
  | none => exact saved (revocation digest none)
  | some record => exact saved (revocation digest (some record))

theorem save_ok_iff {record : StoredTrustRecord} {after : SecureStore} :
    AppleTrustStore.save codec refusals record store = .ok () after ↔
      Writable codec refusals record ∧ Stored codec record store after := by
  rw [AppleTrustStore.save, Writable, Stored]
  cases codec.encode record with
  | none => simp
  | some bytes =>
    dsimp only [SecureStore.set]
    cases refusals.set (trustKey record.peerSpkiDigest) with
    | none => simp [eq_comm]
    | some status => simp

theorem record_ok_iff {found : Option StoredTrustRecord} {after : SecureStore} :
    AppleTrustStore.record codec refusals digest store = .ok found after ↔
      Readable codec refusals digest store ∧ found = trustMap codec store digest ∧
        after = store := by
  rw [AppleTrustStore.record, Readable, trustMap]
  cases refused : refusals.data (trustKey digest) with
  | some status =>
    have run : SecureStore.data refusals (trustKey digest) store =
        .error (.keychainStatus status) store := by rw [SecureStore.data, refused]
    rw [bind_error run]
    simp
  | none =>
    have run : SecureStore.data refusals (trustKey digest) store =
        .ok (store (trustKey digest)) store := by rw [SecureStore.data, refused]
    rw [bind_ok run]
    cases store (trustKey digest) with
    | none =>
      constructor
      · intro same
        cases same
        exact ⟨⟨rfl, by simp⟩, rfl, rfl⟩
      · rintro ⟨_, rfl, rfl⟩
        rfl
    | some bytes =>
      dsimp only [Option.bind_some]
      cases decoded : codec.decode bytes with
      | none => simp [decoded]
      | some record =>
        constructor
        · intro same
          cases same
          exact ⟨⟨rfl, by simp [decoded]⟩, rfl, rfl⟩
        · rintro ⟨_, rfl, rfl⟩
          rfl

theorem stored_reads {record : StoredTrustRecord} {before after : SecureStore}
    (coding : ∀ record bytes, codec.encode record = some bytes →
      codec.decode bytes = some record)
    (stored : Stored codec record before after) :
    Filed codec record.peerSpkiDigest after ∧
      trustMap codec after record.peerSpkiDigest = some record := by
  obtain ⟨bytes, encoded, rfl⟩ := stored
  rw [trustMap, Function.update_self, Option.bind_some]
  refine ⟨fun other held => ⟨record, ?_, rfl⟩, coding record bytes encoded⟩
  rw [Function.update_self] at held
  cases held
  exact coding record bytes encoded

theorem stored_elsewhere {record : StoredTrustRecord} {before after : SecureStore}
    (stored : Stored codec record before after) (other : record.peerSpkiDigest ≠ digest) :
    after (trustKey digest) = before (trustKey digest) := by
  obtain ⟨bytes, _, rfl⟩ := stored
  exact Function.update_of_ne (fun same => other (trust_key_injective same).symm) _ _

end Specs

section Steps
variable {Uuid Key Certificate : Type} (platform : Platform Uuid Key Certificate)
  (codec : TrustCodec) (store : SecureStore) (op : Operation Uuid Key Certificate)
  {digest : List UInt8}

theorem load_or_create_untouched (around : Surroundings Uuid Key Certificate) :
    (operate platform codec store (.loadOrCreate around)).2 (trustKey digest) =
      store (trustKey digest) := by
  have beside : SideBySide store store store store :=
    ⟨fun _ _ => rfl, fun _ _ => rfl, fun _ _ => rfl⟩
  have kept := (outcome_twin some (load_or_create_twin platform around beside)).2.left
  exact kept _ (trust_key_apart digest)

/-- What an operation writes, if it succeeds; otherwise no record changes. -/
theorem operate_cases :
    (∃ record, op.entered = some record ∧ Succeeded (event (operate platform codec) store op) ∧
      Stored codec record store (operate platform codec store op).2) ∨
    (∃ digest, Revokes digest (event (operate platform codec) store op) ∧ digest.length = 32 ∧
      Stored codec (revocation digest (trustMap codec store digest)) store
        (operate platform codec store op).2) ∨
    (∀ digest, ¬ Affects digest (event (operate platform codec) store op) ∧
      (operate platform codec store op).2 (trustKey digest) = store (trustKey digest)) ∧
      (op.identityCall = none → (operate platform codec store op).2 = store) := by
  have failed : ∀ {error : SecurityError} {after : SecureStore},
      operate platform codec store op = (.error error, after) → after = store →
      (∀ digest, ¬ Affects digest (event (operate platform codec) store op) ∧
        (operate platform codec store op).2 (trustKey digest) = store (trustKey digest)) ∧
        (op.identityCall = none → (operate platform codec store op).2 = store) := by
    intro error after run same
    have unchanged : (operate platform codec store op).2 = store := by rw [run, same]
    refine ⟨fun digest => ⟨fun affects => ?_, congrFun unchanged _⟩, fun _ => unchanged⟩
    have succeeded : Succeeded (event (operate platform codec) store op) :=
      affects.elim (·.1) (·.1)
    obtain ⟨out, ok⟩ := succeeded
    rw [event, run] at ok
    cases ok
  cases op with
  | approve refusals digest permissions =>
    rcases outcome_ends (fun _ => none) (approve_ends permissions) with
      ⟨_, ok, stored⟩ | ⟨error, threw, same⟩
    · exact .inl ⟨_, rfl, ⟨_, ok⟩, stored⟩
    · exact .inr (.inr (failed (Prod.ext threw rfl) same))
  | revoke refusals digest =>
    rcases outcome_ends (fun _ => none) revoke_ends with
      ⟨_, ok, size, stored⟩ | ⟨error, threw, same⟩
    · exact .inr (.inl ⟨digest, ⟨⟨_, ok⟩, rfl⟩, size, stored⟩)
    · exact .inr (.inr (failed (Prod.ext threw rfl) same))
  | save refusals record =>
    rcases outcome_ends (fun _ => none) (save_ends record) with
      ⟨_, ok, stored⟩ | ⟨error, threw, same⟩
    · exact .inl ⟨record, rfl, ⟨_, ok⟩, stored⟩
    · exact .inr (.inr (failed (Prod.ext threw rfl) same))
  | loadOrCreate around =>
    refine .inr (.inr ⟨fun digest => ⟨?_, load_or_create_untouched _ _ _ around⟩, fun call => ?_⟩)
    swap
    · cases call
    rintro (⟨_, record, entered, _⟩ | ⟨_, revoked⟩)
    · cases entered
    · cases revoked

variable {op} in
theorem entered_not_revoked {record : StoredTrustRecord} (entered : op.entered = some record) :
    op.revoked = none := by
  cases op with
  | approve => rfl
  | save => rfl
  | revoke => cases entered
  | loadOrCreate => rfl

theorem affected_cases (digest : List UInt8) :
    (∃ record, op.entered = some record ∧ record.peerSpkiDigest = digest ∧
      Succeeded (event (operate platform codec) store op) ∧
      Stored codec record store (operate platform codec store op).2) ∨
    (Revokes digest (event (operate platform codec) store op) ∧ digest.length = 32 ∧
      Stored codec (revocation digest (trustMap codec store digest)) store
        (operate platform codec store op).2) ∨
    ¬ Affects digest (event (operate platform codec) store op) ∧
      (operate platform codec store op).2 (trustKey digest) = store (trustKey digest) := by
  rcases operate_cases platform codec store op with
    ⟨record, entered, succeeded, stored⟩ | ⟨peer, revokes, size, stored⟩ | ⟨untouched, _⟩
  · by_cases about : record.peerSpkiDigest = digest
    · exact .inl ⟨record, entered, about, succeeded, stored⟩
    · refine .inr (.inr ⟨?_, stored_elsewhere stored about⟩)
      rintro (⟨_, other, entered', about'⟩ | ⟨_, revoked⟩)
      · cases entered.symm.trans entered'
        exact about about'
      · cases (entered_not_revoked entered).symm.trans revoked
  · by_cases about : peer = digest
    · subst about
      exact .inr (.inl ⟨revokes, size, stored⟩)
    · refine .inr (.inr ⟨?_, stored_elsewhere stored about⟩)
      rintro (⟨_, record, entered, _⟩ | ⟨_, revoked⟩)
      · cases (entered_not_revoked entered).symm.trans revokes.2
      · exact about (Option.some.inj (revokes.2.symm.trans revoked))
  · exact .inr (.inr (untouched digest))

/-- A trust operation succeeds exactly when nothing stands in its way. -/
theorem operate_succeeds_iff (trust : op.identityCall = none) :
    Succeeded (event (operate platform codec) store op) ↔ Unhindered codec store op := by
  have returned : ∀ {r : EStateM.Result SecurityError SecureStore Unit},
      (∃ out, (outcome (fun _ => (none : Option (AppleOutputIdentity Uuid Key Certificate))) r).1 =
        .ok out) ↔ ∃ after, r = .ok () after := by
    intro r
    cases r with
    | ok _ after => exact iff_of_true ⟨_, rfl⟩ ⟨after, rfl⟩
    | error error after => simp [outcome]
  have written : ∀ {refusals : Refusals} {record : StoredTrustRecord},
      (∃ after, AppleTrustStore.save codec refusals record store = .ok () after) ↔
        Writable codec refusals record := by
    intro refusals record
    simp only [save_ok_iff, exists_and_left, and_iff_left_iff_imp]
    intro writable
    obtain ⟨bytes, encoded⟩ := Option.isSome_iff_exists.mp writable.1
    exact ⟨_, bytes, encoded, rfl⟩
  cases op with
  | approve refusals digest permissions =>
    refine returned.trans ?_
    rw [AppleTrustStore.approve, Unhindered, ← written]
    by_cases size : digest.length = 32
    · simp [size]
    · simp [size]
  | revoke refusals digest =>
    refine returned.trans ?_
    rw [AppleTrustStore.revoke, Unhindered, ← written]
    by_cases size : digest.length = 32
    case neg => simp [size]
    rw [if_neg (not_not.mpr size)]
    cases run : AppleTrustStore.record codec refusals digest store with
    | ok found after =>
      obtain ⟨readable, rfl, rfl⟩ := record_ok_iff.mp run
      rw [bind_ok run]
      simp only [size, readable, true_and]
      cases trustMap codec after digest <;> rfl
    | error error after =>
      rw [bind_error run]
      have unreadable : ¬ Readable codec refusals digest store := by
        intro readable
        cases run.symm.trans (record_ok_iff.mpr ⟨readable, rfl, rfl⟩)
      simp [unreadable]
  | save refusals record => exact returned.trans written
  | loadOrCreate around => cases trust

variable {platform codec store op}

theorem unaffected_kept (unaffected : ¬ Affects digest (event (operate platform codec) store op)) :
    (operate platform codec store op).2 (trustKey digest) = store (trustKey digest) := by
  rcases affected_cases platform codec store op digest with
    ⟨record, entered, about, succeeded, _⟩ | ⟨revokes, _⟩ | ⟨_, same⟩
  · exact absurd (.inl ⟨succeeded, record, entered, about⟩) unaffected
  · exact absurd (.inr revokes) unaffected
  · exact same

theorem filed_of_absent (absent : store (trustKey digest) = none) :
    Filed codec digest store := by
  intro bytes held
  cases absent.symm.trans held

variable (coding : ∀ record bytes, codec.encode record = some bytes →
  codec.decode bytes = some record)
include coding

theorem filed_step (filed : Filed codec digest store) :
    Filed codec digest (operate platform codec store op).2 := by
  rcases affected_cases platform codec store op digest with
    ⟨record, _, rfl, _, stored⟩ | ⟨_, _, stored⟩ | ⟨_, same⟩
  · exact (stored_reads coding stored).1
  · exact (stored_reads coding stored).1
  · rw [Filed, same]
    exact filed

theorem permitted_step {permission : UInt32} :
    Permitted codec digest permission (operate platform codec store op).2 ↔
      Grants digest permission (event (operate platform codec) store op) ∨
        Permitted codec digest permission store ∧
          ¬ Affects digest (event (operate platform codec) store op) := by
  rcases affected_cases platform codec store op digest with
    ⟨record, entered, rfl, succeeded, stored⟩ | ⟨revokes, _, stored⟩ | ⟨untouched, same⟩
  · have affects : Affects record.peerSpkiDigest (event (operate platform codec) store op) :=
      .inl ⟨succeeded, record, entered, rfl⟩
    rw [Permitted, (stored_reads coding stored).2]
    constructor
    · rintro ⟨found, same, permits⟩
      cases same
      exact .inl ⟨succeeded, record, entered, rfl, permits⟩
    · rintro (⟨_, other, entered', _, permits⟩ | ⟨_, unaffected⟩)
      · exact ⟨other, entered.symm.trans entered', permits⟩
      · exact absurd affects unaffected
  · have reads : trustMap codec (operate platform codec store op).2 digest = some _ :=
      (stored_reads coding stored).2
    rw [Permitted, reads]
    constructor
    · rintro ⟨found, same, permits, _⟩
      cases same
      cases permits
    · rintro (⟨_, record, entered, _⟩ | ⟨_, unaffected⟩)
      · cases (entered_not_revoked entered).symm.trans revokes.2
      · exact absurd (.inr revokes) unaffected
  · have grants : ¬ Grants digest permission (event (operate platform codec) store op) :=
      fun ⟨succeeded, record, entered, about, _⟩ =>
        untouched (.inl ⟨succeeded, record, entered, about⟩)
    simp only [Permitted, trustMap, same, grants, untouched, not_false_iff, and_true, false_or]

omit coding in
theorem identity_keys_kept (trust : op.identityCall = none) {key : List UInt8}
    (member : key ∈ identityKeys) : (operate platform codec store op).2 key = store key := by
  have elsewhere : ∀ {record : StoredTrustRecord} {after : SecureStore},
      Stored codec record store after → after key = store key := by
    rintro record after ⟨bytes, _, rfl⟩
    exact Function.update_of_ne (ne_of_mem_of_not_mem member (trust_key_apart _)) _ _
  rcases operate_cases platform codec store op with
    ⟨_, _, _, stored⟩ | ⟨_, _, _, stored⟩ | ⟨_, same⟩
  · exact elsewhere stored
  · exact elsewhere stored
  · rw [same trust]

end Steps

section Decision
variable {codec : TrustCodec} {refusals : Refusals} {digest : List UInt8} {permission : UInt32}
  {store : SecureStore}

/-- `gm_trust_record_authorizes` on the record that `trustRecord` fills in. -/
theorem raw_record_authorizes (record : StoredTrustRecord)
    (size : record.peerSpkiDigest.length = gmSpkiDigestBytes) :
    Crypto.gmTrustRecordAuthorizes {
        structSize := sizeofGmTrustRecord
        abiVersion := gmAbiVersion
        peerSpkiDigest := ⟨record.peerSpkiDigest, size⟩
        permissions := record.permissions
        revoked := if record.isRevoked then 1 else 0
        reserved := zero _ } permission =
      if Crypto.knownPermission permission = true then
        .ok (if record.isRevoked = false ∧ record.permissions &&& permission = permission
          then 1 else 0)
      else .error .badArgument := by
  cases known : Crypto.knownPermission permission with
  | false => simp [Crypto.gmTrustRecordAuthorizes, known]
  | true =>
    cases record.isRevoked with
    | false => simp [Crypto.gmTrustRecordAuthorizes, known, zero]
    | true => simp [Crypto.gmTrustRecordAuthorizes, known, zero]

theorem trust_record_ends (permission : UInt32) (store : SecureStore) (record : StoredTrustRecord) :
    Ends (fun authorized _ => authorized = true ↔ Permits permission record)
      (fun _ _ => record.peerSpkiDigest.length = 32 → Crypto.knownPermission permission = false)
      (trustRecord record permission store) := by
  unfold trustRecord
  split
  · next size =>
    simp only [raw_record_authorizes record size]
    cases Crypto.knownPermission permission with
    | false => exact fun _ => rfl
    | true =>
      by_cases permits : Permits permission record
      · have one : (if record.isRevoked = false ∧ record.permissions &&& permission = permission
          then (1 : UInt8) else 0) = 1 := if_pos permits
        simp only [if_true, one]
        exact iff_of_true rfl permits
      · have none : (if record.isRevoked = false ∧ record.permissions &&& permission = permission
          then (1 : UInt8) else 0) = 0 := if_neg permits
        simp only [if_true, none]
        exact iff_of_false Bool.false_ne_true permits
  · next size => exact fun same => absurd same size

theorem record_filed (filed : Filed codec digest store)
    (readable : refusals.data (trustKey digest) = none) :
    AppleTrustStore.record codec refusals digest store =
      .ok (trustMap codec store digest) store := by
  have read : SecureStore.data refusals (trustKey digest) store =
      .ok (store (trustKey digest)) store := by rw [SecureStore.data, readable]
  rw [AppleTrustStore.record, bind_ok read, trustMap]
  cases held : store (trustKey digest) with
  | none => rfl
  | some bytes =>
    obtain ⟨record, decoded, _⟩ := filed bytes held
    simp only [Option.bind_some, decoded]
    rfl

theorem outcome_ok_iff {ε σ α : Type} {result : EStateM.Result ε σ α} {a : α} :
    (outcome id result).1 = .ok a ↔ ∃ after, result = .ok a after := by
  cases result with
  | ok b after => simp [outcome]
  | error error after => simp [outcome]

theorem wrong_length_answer (wrong : digest.length ≠ 32) :
    answer codec refusals digest permission store = .ok false := by
  rw [answer, AppleTrustStore.authorizes, if_pos wrong]
  rfl

theorem authorizes_answers (size : digest.length = 32) (filed : Filed codec digest store)
    (readable : refusals.data (trustKey digest) = none)
    (known : Crypto.knownPermission permission = true) :
    ∃ authorized, answer codec refusals digest permission store = .ok authorized ∧
      (authorized = true ↔ Permitted codec digest permission store) := by
  have run := record_filed filed readable
  rw [answer, AppleTrustStore.authorizes, if_neg (not_not.mpr size), bind_ok run]
  cases found : trustMap codec store digest with
  | none =>
    refine ⟨false, rfl, iff_of_false Bool.false_ne_true ?_⟩
    rintro ⟨record, held, _⟩
    cases found.symm.trans held
  | some record =>
    obtain ⟨bytes, held, decoded⟩ := Option.bind_eq_some_iff.mp found
    obtain ⟨other, decoded', about⟩ := filed bytes held
    cases decoded.symm.trans decoded'
    have ends := trust_record_ends permission store record
    dsimp only
    cases result : trustRecord record permission store with
    | error error after =>
      rw [result] at ends
      cases (ends (about ▸ size)).symm.trans known
    | ok authorized after =>
      rw [result] at ends
      refine ⟨authorized, rfl, ends.trans ⟨fun permits => ⟨record, found, permits⟩, ?_⟩⟩
      rintro ⟨same, held, permits⟩
      cases found.symm.trans held
      exact permits

theorem answer_true (authorized : answer codec refusals digest permission store = .ok true) :
    Permitted codec digest permission store := by
  have ends : Ends (fun authorized _ => authorized = true →
        Permitted codec digest permission store) (fun _ _ => True)
      (AppleTrustStore.authorizes codec refusals digest permission store) := by
    rw [AppleTrustStore.authorizes]
    refine ends_ite (fun _ => fun impossible => by cases impossible) fun _ => ?_
    refine ends_bind (ends_mono record_ends (fun _ _ => id) fun _ _ _ => trivial) ?_
    rintro found after ⟨rfl, held⟩
    cases found with
    | none => exact fun impossible => by cases impossible
    | some record =>
      exact ends_mono (trust_record_ends permission after record)
        (fun _ _ permits yes => ⟨record, held.symm, permits.mp yes⟩) fun _ _ _ => trivial
  obtain ⟨after, run⟩ := outcome_ok_iff.mp authorized
  rw [run] at ends
  exact ends rfl

/-- The answer depends on the record of the digest only. -/
theorem answer_congr {other : SecureStore}
    (same : store (trustKey digest) = other (trustKey digest)) :
    answer codec refusals digest permission store =
      answer codec refusals digest permission other := by
  have read : Twin (fun _ _ => True) (AppleTrustStore.record codec refusals digest store)
      (AppleTrustStore.record codec refusals digest other) := by
    rw [AppleTrustStore.record]
    refine twin_bind ?_ fun found _ _ _ => ?_
    · rw [SecureStore.data, SecureStore.data]
      cases refusals.data (trustKey digest) with
      | none => exact ⟨same, trivial⟩
      | some status => exact ⟨rfl, trivial⟩
    · cases found with
      | none => exact ⟨rfl, trivial⟩
      | some bytes =>
        dsimp only
        cases codec.decode bytes with
        | none => exact ⟨rfl, trivial⟩
        | some record => exact ⟨rfl, trivial⟩
  have decided : ∀ record s t, Twin (fun _ _ => True) (trustRecord record permission s)
      (trustRecord record permission t) := by
    intro record s t
    unfold trustRecord
    split
    · next size =>
      simp only [raw_record_authorizes record size]
      cases Crypto.knownPermission permission with
      | false => exact ⟨rfl, trivial⟩
      | true => exact ⟨rfl, trivial⟩
    · exact ⟨rfl, trivial⟩
  have twin : Twin (fun _ _ => True)
      (AppleTrustStore.authorizes codec refusals digest permission store)
      (AppleTrustStore.authorizes codec refusals digest permission other) := by
    rw [AppleTrustStore.authorizes]
    refine twin_ite (fun _ => ⟨rfl, trivial⟩) fun _ => twin_bind read fun found s t _ => ?_
    cases found with
    | none => exact ⟨rfl, trivial⟩
    | some record => exact decided record s t
  exact (outcome_twin id twin).1

end Decision

section Runs
variable {Uuid Key Certificate : Type} (platform : Platform Uuid Key Certificate)
  {codec : TrustCodec} {store : SecureStore}
  (coding : ∀ record bytes, codec.encode record = some bytes →
    codec.decode bytes = some record)

/-- A record of the digest that is revoked. -/
def Withdrawn (codec : TrustCodec) (digest : List UInt8) (store : SecureStore) : Prop :=
  digest.length = 32 ∧ Filed codec digest store ∧
    ∃ record, trustMap codec store digest = some record ∧ record.isRevoked = true

def presented (e : TrustEvent Uuid Key Certificate) :
    Option (Except SecurityError (Option (AppleOutputIdentity Uuid Key Certificate))) :=
  match e.input with
  | .loadOrCreate _ => some e.output
  | _ => none

section
include coding

theorem revoke_withdraws {op : Operation Uuid Key Certificate} {digest : List UInt8}
    (revokes : Revokes digest (event (operate platform codec) store op)) :
    Withdrawn codec digest (operate platform codec store op).2 ∧
      trustMap codec (operate platform codec store op).2 digest =
        some (revocation digest (trustMap codec store digest)) := by
  rcases affected_cases platform codec store op digest with
    ⟨record, entered, _⟩ | ⟨_, size, stored⟩ | ⟨untouched, _⟩
  · cases (entered_not_revoked entered).symm.trans revokes.2
  · obtain ⟨filed, reads⟩ := stored_reads coding stored
    exact ⟨⟨size, filed, _, reads, rfl⟩, reads⟩
  · exact absurd (.inr revokes) untouched

theorem withdrawn_step {op : Operation Uuid Key Certificate} {digest : List UInt8}
    (withdrawn : Withdrawn codec digest store)
    (kept : ¬ Enters digest (event (operate platform codec) store op)) :
    Withdrawn codec digest (operate platform codec store op).2 := by
  by_cases revokes : Revokes digest (event (operate platform codec) store op)
  · exact (revoke_withdraws platform coding revokes).1
  · obtain ⟨size, filed, held⟩ := withdrawn
    have same := unaffected_kept fun affects => affects.elim kept revokes
    rw [Withdrawn, Filed, trustMap, same]
    exact ⟨size, filed, held⟩

theorem withdrawn_run (operations : List (Operation Uuid Key Certificate)) {digest : List UInt8}
    (since : Since (fun _ e => Revokes digest e) (fun e => ¬ Enters digest e)
      (events (operate platform codec) store operations)) :
    Withdrawn codec digest (final (operate platform codec) store operations) := by
  refine history_of_run (operate platform codec)
    (fun past now => Since (fun _ e => Revokes digest e) (fun e => ¬ Enters digest e) past →
      Withdrawn codec digest now) (fun since => absurd since since_nil) ?_ operations since
  intro past now op held since
  rcases since_snoc_iff.mp since with revokes | ⟨earlier, kept⟩
  · exact (revoke_withdraws platform coding revokes).1
  · exact withdrawn_step platform coding (held earlier) kept

theorem filed_run (operations : List (Operation Uuid Key Certificate)) {digest : List UInt8}
    (unknown : store (trustKey digest) = none) :
    Filed codec digest (final (operate platform codec) store operations) :=
  invariant_of_run (operate platform codec) (Filed codec digest) (filed_of_absent unknown)
    (fun _ _ filed => filed_step coding filed) operations

/-- From a store without a record of the digest, its last approval, save or revocation
    decides. -/
theorem permitted_run (operations : List (Operation Uuid Key Certificate)) {digest : List UInt8}
    {permission : UInt32} (unknown : store (trustKey digest) = none) :
    Permitted codec digest permission (final (operate platform codec) store operations) ↔
      Since (fun _ e => Grants digest permission e) (fun e => ¬ Affects digest e)
        (events (operate platform codec) store operations) := by
  refine history_of_run (operate platform codec)
    (fun past now => Permitted codec digest permission now ↔
      Since (fun _ e => Grants digest permission e) (fun e => ¬ Affects digest e) past)
    (iff_of_false ?_ since_nil) ?_ operations
  · rintro ⟨record, held, _⟩
    rw [trustMap, unknown] at held
    cases held
  · intro past now op held
    rw [permitted_step coding, since_snoc_iff, held]
end

theorem load_or_create_alike (codec : TrustCodec) {twin : SecureStore}
    (around : Surroundings Uuid Key Certificate)
    (same : ∀ key ∈ identityKeys, store key = twin key) :
    (operate platform codec store (.loadOrCreate around)).1 =
        (step platform twin around).1.map some ∧
      ∀ key ∈ identityKeys, (operate platform codec store (.loadOrCreate around)).2 key =
        (step platform twin around).2 key := by
  have beside : SideBySide store twin store twin := ⟨same, fun _ _ => rfl, fun _ _ => rfl⟩
  obtain ⟨output, after⟩ := outcome_twin some (load_or_create_twin platform around beside)
  have stepped : outcome some (loadOrCreate platform around twin) =
      ((step platform twin around).1.map some, (step platform twin around).2) := by
    rw [step]
    cases loadOrCreate platform around twin with
    | ok out last => rfl
    | error error last => rfl
  rw [stepped] at output after
  exact ⟨output, after.same⟩

/-- What `loadOrCreate` returns is what it returns without the trust operations. -/
theorem identity_alone {twin : SecureStore} (operations : List (Operation Uuid Key Certificate))
    (same : ∀ key ∈ identityKeys, store key = twin key) :
    (events (operate platform codec) store operations).filterMap presented =
      (events (step platform) twin (operations.filterMap Operation.identityCall)).map
        fun e => e.output.map some := by
  induction operations generalizing store twin with
  | nil => rfl
  | cons op operations ih =>
    cases call : op.identityCall with
    | some around =>
      cases op with
      | loadOrCreate around' =>
        cases call
        obtain ⟨output, next⟩ := load_or_create_alike platform codec around same
        have shown : presented (event (operate platform codec) store (.loadOrCreate around)) =
            some (operate platform codec store (.loadOrCreate around)).1 := rfl
        have called : Operation.identityCall (Operation.loadOrCreate around) = some around := rfl
        rw [events, List.filterMap_cons_some shown, List.filterMap_cons_some called, events,
          List.map_cons, ih next, output]
        rfl
      | approve => cases call
      | revoke => cases call
      | save => cases call
    | none =>
      have hidden : presented (event (operate platform codec) store op) = none := by
        cases op with
        | loadOrCreate around => cases call
        | approve => rfl
        | revoke => rfl
        | save => rfl
      rw [events, List.filterMap_cons_none hidden, List.filterMap_cons_none call]
      exact ih fun key member => (identity_keys_kept call member).trans (same key member)

theorem unaffected_run (operations : List (Operation Uuid Key Certificate)) {digest : List UInt8}
    (unaffected : ∀ e ∈ events (operate platform codec) store operations, ¬ Affects digest e) :
    final (operate platform codec) store operations (trustKey digest) = store (trustKey digest) :=
  history_of_good (operate platform codec) (fun e => ¬ Affects digest e)
    (fun _ now => now (trustKey digest) = store (trustKey digest)) rfl
    (fun _ _ _ kept same => (unaffected_kept kept).trans same) unaffected

/-- The trust store as a map from digests to records, at the end of a sequence of operations
    and in every step of it. A refused read leaves the question open. -/
structure ActsAsMap (platform : Platform Uuid Key Certificate) (codec : TrustCodec)
    (store : SecureStore) (operations : List (Operation Uuid Key Certificate)) : Prop where
  authorizes : ∀ refusals digest permission, store (trustKey digest) = none →
    refusals.data (trustKey digest) = none → digest.length = gmSpkiDigestBytes →
    Crypto.knownPermission permission = true →
    ∃ authorized, answer codec refusals digest permission
        (final (operate platform codec) store operations) = .ok authorized ∧
      (authorized = true ↔
        Since (fun _ e => Grants digest permission e) (fun e => ¬ Affects digest e)
          (events (operate platform codec) store operations))
  unknown : ∀ refusals digest permission, store (trustKey digest) = none →
    refusals.data (trustKey digest) = none →
    (∀ e ∈ events (operate platform codec) store operations, ¬ Affects digest e) →
    answer codec refusals digest permission (final (operate platform codec) store operations) =
      .ok false
  wrongLength : ∀ refusals digest permission, digest.length ≠ gmSpkiDigestBytes →
    answer codec refusals digest permission (final (operate platform codec) store operations) =
      .ok false
  revoked : ∀ digest,
    Since (fun _ e => Revokes digest e) (fun e => ¬ Enters digest e)
      (events (operate platform codec) store operations) →
    ∀ refusals permission,
      answer codec refusals digest permission (final (operate platform codec) store operations) ≠
        .ok true ∧
      (refusals.data (trustKey digest) = none → Crypto.knownPermission permission = true →
        answer codec refusals digest permission
          (final (operate platform codec) store operations) = .ok false)
  permissions : ∀ e ∈ events (operate platform codec) store operations, ∀ digest,
    Revokes digest e → ∀ refusals, refusals.data (trustKey digest) = none →
    recorded codec refusals digest e.after =
      .ok (some (revocation digest (trustMap codec e.before digest)))
  others : ∀ e ∈ events (operate platform codec) store operations, ∀ digest,
    ¬ Affects digest e → ∀ refusals permission,
    answer codec refusals digest permission e.after =
      answer codec refusals digest permission e.before
  succeeds : ∀ e ∈ events (operate platform codec) store operations,
    e.input.identityCall = none → (Succeeded e ↔ Unhindered codec e.before e.input)
  readable : ∀ digest, store (trustKey digest) = none →
    ∀ e ∈ events (operate platform codec) store operations, Filed codec digest e.before
  identity : (events (operate platform codec) store operations).filterMap presented =
    (events (step platform) store (operations.filterMap Operation.identityCall)).map
      fun e => e.output.map some

/-- From any store, with any accesses refused. -/
theorem trust_store_acts_as_map (store : SecureStore)
    (coding : ∀ record bytes, codec.encode record = some bytes →
      codec.decode bytes = some record)
    (operations : List (Operation Uuid Key Certificate)) :
    ActsAsMap platform codec store operations where
  authorizes refusals digest permission unknown readable size known := by
    have filed := filed_run platform coding operations unknown
    obtain ⟨authorized, answered, decided⟩ := authorizes_answers size filed readable known
    exact ⟨authorized, answered,
      decided.trans (permitted_run platform coding operations unknown)⟩
  unknown refusals digest permission unknown readable unaffected := by
    have absent := (unaffected_run platform operations unaffected).trans unknown
    by_cases size : digest.length = 32
    · rw [answer, AppleTrustStore.authorizes, if_neg (not_not.mpr size),
        bind_ok (record_filed (filed_of_absent absent) readable), trustMap, absent]
      rfl
    · exact wrong_length_answer size
  wrongLength refusals digest permission wrong := wrong_length_answer wrong
  revoked digest since refusals permission := by
    obtain ⟨size, filed, record, held, revoked⟩ := withdrawn_run platform coding operations since
    have denied : ¬ Permitted codec digest permission
        (final (operate platform codec) store operations) := by
      rintro ⟨other, held', permits, _⟩
      cases held.symm.trans held'
      cases permits.symm.trans revoked
    refine ⟨fun authorized => denied (answer_true authorized), fun readable known => ?_⟩
    obtain ⟨authorized, answered, decided⟩ := authorizes_answers size filed readable known
    rw [answered, Bool.eq_false_iff.mpr fun yes => denied (decided.mp yes)]
  permissions e member digest revokes refusals readable := by
    obtain ⟨xs, op, ys, _, rfl⟩ := event_of_mem (operate platform codec) member
    obtain ⟨⟨_, filed, _⟩, reads⟩ := revoke_withdraws platform coding revokes
    exact outcome_ok_iff.mpr ⟨_, (record_filed filed readable).trans (by rw [reads]; rfl)⟩
  others e member digest unaffected refusals permission := by
    obtain ⟨xs, op, ys, _, rfl⟩ := event_of_mem (operate platform codec) member
    exact answer_congr (unaffected_kept unaffected)
  succeeds e member trust := by
    obtain ⟨xs, op, ys, _, rfl⟩ := event_of_mem (operate platform codec) member
    exact operate_succeeds_iff platform codec _ op trust
  readable digest unknown e member := by
    obtain ⟨xs, op, ys, _, rfl⟩ := event_of_mem (operate platform codec) member
    exact filed_run platform coding xs unknown
  identity := identity_alone platform operations fun _ _ => rfl

end Runs

section Sample

def sampleRecord (isRevoked : Bool) : StoredTrustRecord := ⟨List.replicate 32 1, 3, isRevoked⟩

def sampleJson (isRevoked : Bool) : List UInt8 :=
  ascii "\x7b\"peerSPKIDigest\":\"AQEBAQEBAQEBAQEBAQEBAQEBAQEBAQEBAQEBAQEBAQE=\"," ++
    ascii "\"permissions\":3,\"isRevoked\":" ++
    if isRevoked then ascii "true\x7d" else ascii "false\x7d"

def sampleCodec : TrustCodec where
  encode record :=
    if record = sampleRecord false then some (sampleJson false)
    else if record = sampleRecord true then some (sampleJson true)
    else none
  decode bytes :=
    if bytes = sampleJson false then some (sampleRecord false)
    else if bytes = sampleJson true then some (sampleRecord true)
    else none

theorem sample_coding (record : StoredTrustRecord) (bytes : List UInt8)
    (encoded : sampleCodec.encode record = some bytes) :
    sampleCodec.decode bytes = some record := by
  have lengths : (sampleJson true).length ≠ (sampleJson false).length := by decide
  have distinct : sampleJson true ≠ sampleJson false :=
    fun same => lengths (congrArg List.length same)
  simp only [sampleCodec] at encoded ⊢
  split at encoded
  · next valid =>
    cases encoded
    rw [if_pos rfl, valid]
  · split at encoded
    · next revoked =>
      cases encoded
      rw [if_neg distinct, if_pos rfl, revoked]
    · cases encoded

/-- A peer that is approved is authorized, and no longer once it is revoked. -/
theorem trust_store_sample :
    let refusals : Refusals := ⟨fun _ => none, fun _ => none⟩
    let digest := List.replicate 32 1
    let approved := [.approve refusals digest 3, .loadOrCreate (sampleSurroundings none .valid)]
    let revoked := approved ++ [.revoke refusals digest]
    [approved, revoked].map (fun operations =>
      (answer sampleCodec refusals digest gmTrustPermissionConnect
        (final (operate samplePlatform sampleCodec) (fun _ => none) operations)).toOption) =
          [some true, some false] ∧
      ActsAsMap samplePlatform sampleCodec (fun _ => none) revoked :=
  ⟨by decide +kernel, trust_store_acts_as_map samplePlatform _ sample_coding _⟩

end Sample

end GhostMedia.Security
