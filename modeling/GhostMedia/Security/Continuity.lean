import GhostMedia.Control.Schema
import GhostMedia.Foundation.Runs
import GhostMedia.Security.Identity

/- Identity continuity: whatever fails in between, the store keeps one server id and one
   key, and every identity that is returned has them. -/
namespace GhostMedia.Security
open CString Runs StateLogic

variable {Uuid Key Certificate : Type}

/-- What is relied on: codecs and the key export round-trip. -/
structure RoundTrips (platform : Platform Uuid Key Certificate) : Prop where
  uuid : ∀ id, platform.parseUuid (platform.uuidText id) = some id
  stored : ∀ stored bytes, platform.encodeStored stored = some bytes →
    platform.decodeStored bytes = some stored
  key : ∀ key bytes, platform.keyPkcs8 key = some bytes → platform.pkcs8Key bytes = some key

section Contents
variable (platform : Platform Uuid Key Certificate) (store : SecureStore)

def serverIdIn : Option Uuid := (store serverIdKey).bind platform.parseUuid

/-- The key and the certificate of a stored identity. -/
def readIdentity (bytes : List UInt8) : Option (Key × Certificate) :=
  (platform.decodeStored bytes).bind fun stored =>
    (Ed25519Identity.decodePkcs8 platform stored.privateKeyPkcs8).bind fun key =>
      (platform.derCertificate stored.certificateDer).map fun certificate => (key, certificate)

/-- The key of a stored identity, whatever its certificate. -/
def storedKey (bytes : List UInt8) : Option Key :=
  (platform.decodeStored bytes).bind fun stored =>
    Ed25519Identity.decodePkcs8 platform stored.privateKeyPkcs8

def keyIn : Option Key := (store identityKey).bind (storedKey platform)

/-- A server id that does not parse. -/
def UnreadableServerId : Prop := ∃ bytes, store serverIdKey = some bytes ∧
  platform.parseUuid bytes = none

/-- An identity that does not decode, or whose key or certificate does not. -/
def UnreadableIdentity : Prop := ∃ bytes, store identityKey = some bytes ∧
  readIdentity platform bytes = none

def HalfLegacy : Prop := store identityKey = none ∧
  (store legacySigningKey).isSome ≠ (store legacyCertificate).isSome

end Contents

/-- The stores agree on every key but one. -/
def AgreeExcept (key : List UInt8) (before after : SecureStore) : Prop :=
  ∀ other, other ≠ key → after other = before other

section Specs
variable {platform : Platform Uuid Key Certificate} {around : Surroundings Uuid Key Certificate}
  {store : SecureStore}

theorem update_agrees (key value : List UInt8) :
    AgreeExcept key store (Function.update store key (some value)) :=
  fun _ other => Function.update_of_ne other _ _

theorem require_stored_ends {α : Type} (key : List UInt8) (value : Option α) :
    Ends (fun a after => after = store ∧ value = some a) (fun _ after => after = store)
      (requireStored key value store) := by
  cases value with
  | none => rfl
  | some a => exact ⟨rfl, rfl⟩

theorem require_runtime_ok_ends {α : Type} (operation : String) (result : Except GmStatus α) :
    Ends (fun a after => after = store ∧ result = .ok a) (fun _ after => after = store)
      (requireRuntimeOk operation result store) := by
  cases result with
  | error status => rfl
  | ok a => exact ⟨rfl, rfl⟩

theorem copy_variable_output_ends (operation : String) (output : Option (List UInt8)) :
    Ends (fun bytes after => after = store ∧ output = some bytes) (fun _ after => after = store)
      (copyVariableOutput operation output store) := by
  cases output with
  | none => rfl
  | some bytes => exact ⟨rfl, rfl⟩

theorem load_or_create_server_id_ends (trips : RoundTrips platform) :
    Ends
      (fun id after => serverIdIn platform after = some id ∧ AgreeExcept serverIdKey store after ∧
        (store serverIdKey ≠ none → after = store))
      (fun _ after => after = store) (loadOrCreateServerId platform around store) := by
  rw [loadOrCreateServerId]
  refine ends_bind data_ends ?_
  rintro found after ⟨rfl, rfl⟩
  cases held : after serverIdKey with
  | some bytes =>
    refine ends_mono (require_stored_ends serverIdKey (platform.parseUuid bytes)) ?_ fun _ _ => id
    rintro id same ⟨rfl, parsed⟩
    refine ⟨?_, fun _ _ => rfl, fun _ => rfl⟩
    rw [serverIdIn, held]
    exact parsed
  | none =>
    refine ends_bind set_ends ?_
    rintro _ after' rfl
    refine ⟨?_, update_agrees _ _, fun present => absurd rfl present⟩
    rw [serverIdIn, Function.update_self]
    exact trips.uuid _

theorem encoded_key (trips : RoundTrips platform) {identity : RuntimeIdentity Key Certificate}
    {bytes : List UInt8}
    (exported : Ed25519Identity.privateKeyPkcs8 platform identity = some bytes) :
    Ed25519Identity.decodePkcs8 platform bytes = some identity.key := by
  obtain ⟨encoded, size⟩ := Option.filter_eq_some_iff.mp exported
  simp only [Bool.and_eq_true, decide_eq_true_eq] at size
  have fits : ¬ (bytes = [] ∨ bytes.length > longMax) := by
    rintro (rfl | long)
    · exact absurd size.1 (by simp)
    · simp only [longMax, intMax] at long size
      omega
  rw [Ed25519Identity.decodePkcs8, if_neg fits]
  exact trips.key _ _ encoded

/-- What is persisted reads back as the key of the identity. -/
theorem persist_ends (trips : RoundTrips platform) (identity : RuntimeIdentity Key Certificate) :
    Ends (fun _ after => keyIn platform after = some identity.key ∧
        AgreeExcept identityKey store after)
      (fun _ after => after = store) (persist platform around identity store) := by
  rw [persist]
  refine ends_bind (copy_variable_output_ends _ _) ?_
  rintro pkcs8 after ⟨rfl, exported⟩
  refine ends_bind (copy_variable_output_ends _ _) ?_
  rintro der after' ⟨rfl, _⟩
  cases plist : platform.encodeStored ⟨pkcs8, der⟩ with
  | none => rfl
  | some bytes =>
    refine ends_mono set_ends ?_ fun _ _ => id
    rintro _ after rfl
    refine ⟨?_, update_agrees _ _⟩
    rw [keyIn, Function.update_self, Option.bind_some, storedKey, trips.stored _ _ plist]
    exact encoded_key trips exported

theorem renewed_key {key : Option Key} {identity : RuntimeIdentity Key Certificate}
    (made : Ed25519Identity.renewed around key = .ok identity) : key = some identity.key := by
  cases key with
  | none => cases made
  | some key =>
    rw [Ed25519Identity.renewed] at made
    cases certificate : around.madeCertificate key with
    | none =>
      rw [certificate] at made
      cases made
    | some certificate =>
      rw [certificate] at made
      cases made
      rfl

theorem checked_key {key : Option Key} {certificate : Option Certificate}
    {identity : RuntimeIdentity Key Certificate}
    (passed : Ed25519Identity.checked platform around key certificate = .ok identity) :
    key = some identity.key ∧ certificate = some identity.certificate := by
  cases key with
  | none => cases passed
  | some key =>
    cases certificate with
    | none => cases passed
    | some certificate =>
      simp only [Ed25519Identity.checked] at passed
      split at passed
      · cases passed
      · split at passed <;> cases passed
        exact ⟨rfl, rfl⟩

theorem to_option_some {α : Type} {result : Except GmStatus α} {a : α}
    (some : result.toOption = some a) : result = .ok a := by
  cases result with
  | error => cases some
  | ok a => cases some; rfl

/-- A load that succeeds, or fails only because the certificate has expired, has decoded the
    key and the certificate. -/
theorem load_reads {stored : StoredIdentity} (identity : RuntimeIdentity Key Certificate)
    (used : Ed25519Identity.load platform around stored.privateKeyPkcs8 stored.certificateDer =
        .ok identity ∨
      statusOf (Ed25519Identity.load platform around stored.privateKeyPkcs8
        stored.certificateDer) = .stateConflict) :
    ∃ key certificate, Ed25519Identity.decodePkcs8 platform stored.privateKeyPkcs8 = some key ∧
      platform.derCertificate stored.certificateDer = some certificate := by
  rw [Ed25519Identity.load] at used
  split at used
  · rcases used with ok | expired
    · cases ok
    · cases expired
  · cases key : Ed25519Identity.decodePkcs8 platform stored.privateKeyPkcs8 with
    | none =>
      rw [key] at used
      rcases used with ok | expired
      · cases ok
      · cases expired
    | some key' =>
      cases certificate : platform.derCertificate stored.certificateDer with
      | none =>
        rw [key, certificate] at used
        rcases used with ok | expired
        · cases ok
        · cases expired
      | some certificate' => exact ⟨key', certificate', rfl, rfl⟩

/-- A stored identity is returned with its key, renewed when it has expired. -/
theorem load_or_renew_identity_ends (trips : RoundTrips platform) (stored : StoredIdentity) :
    Ends (fun identity after =>
        (∃ certificate,
          Ed25519Identity.decodePkcs8 platform stored.privateKeyPkcs8 = some identity.key ∧
            platform.derCertificate stored.certificateDer = some certificate) ∧
          (after = store ∨
            keyIn platform after = some identity.key ∧ AgreeExcept identityKey store after))
      (fun _ after => after = store) (loadOrRenewIdentity platform around stored store) := by
  rw [loadOrRenewIdentity]
  refine ends_ite (fun expired => ?_) fun _ => ?_
  · refine ends_bind (require_stored_ends _ _) ?_
    rintro identity after ⟨rfl, renewed⟩
    refine ends_bind (persist_ends trips identity) ?_
    intro _ after' persisted
    obtain ⟨key, certificate, _, der⟩ := load_reads identity (.inr expired)
    exact ⟨⟨certificate, renewed_key (to_option_some renewed), der⟩, .inr persisted⟩
  · refine ends_mono (require_stored_ends _ _) ?_ fun _ _ => id
    rintro identity after ⟨rfl, loaded⟩
    have ok := to_option_some loaded
    obtain ⟨key, certificate, _, der⟩ := load_reads identity (.inl ok)
    rw [Ed25519Identity.load] at ok
    split at ok
    · cases ok
    · exact ⟨⟨certificate, (checked_key ok).1, der⟩, .inl rfl⟩

/-- Without an identity in the current format, one is returned only once it is persisted, and
    half a legacy pair is refused. -/
theorem migrate_or_generate_ends (trips : RoundTrips platform) :
    Ends (fun identity after => keyIn platform after = some identity.key ∧
        AgreeExcept identityKey store after ∧
        (store legacySigningKey).isSome = (store legacyCertificate).isSome)
      (fun _ after => after = store) (migrateOrGenerate platform around store) := by
  rw [migrateOrGenerate]
  refine ends_bind data_ends ?_
  rintro key after ⟨rfl, rfl⟩
  refine ends_bind data_ends ?_
  rintro certificate after' ⟨rfl, rfl⟩
  cases after' legacySigningKey with
  | none =>
    cases after' legacyCertificate with
    | some => rfl
    | none =>
      refine ends_bind (require_runtime_ok_ends _ _) ?_
      rintro identity after ⟨rfl, _⟩
      refine ends_bind (persist_ends trips identity) ?_
      intro _ after persisted
      exact ⟨persisted.1, persisted.2, rfl⟩
  | some key =>
    cases after' legacyCertificate with
    | none => rfl
    | some certificate =>
      have legacy : Ends (fun _ after => after = after') (fun _ after => after = after')
          (loadLegacyIdentity platform around key certificate after') := by
        rw [loadLegacyIdentity]
        refine ends_ite (fun _ => ?_) fun _ => ?_
        · exact ends_mono (require_stored_ends _ _) (fun _ _ same => same.1) fun _ _ => id
        · exact ends_mono (require_stored_ends _ _) (fun _ _ same => same.1) fun _ _ => id
      refine ends_bind legacy ?_
      rintro identity after rfl
      refine ends_bind (persist_ends trips identity) ?_
      intro _ after persisted
      exact ⟨persisted.1, persisted.2, rfl⟩

/-- A stored identity is left alone, unless it could be read and its key is kept. -/
def IdentityKept (platform : Platform Uuid Key Certificate) (before after : SecureStore) : Prop :=
  ∀ bytes, before identityKey = some bytes → after identityKey = some bytes ∨
    ∃ key certificate, readIdentity platform bytes = some (key, certificate) ∧
      keyIn platform after = some key

theorem load_identity_ends (trips : RoundTrips platform) :
    Ends (fun identity after => keyIn platform after = some identity.key ∧
        AgreeExcept identityKey store after ∧ IdentityKept platform store after ∧
        ¬ UnreadableIdentity platform store ∧ ¬ HalfLegacy store)
      (fun _ after => after = store) (loadIdentity platform around store) := by
  rw [loadIdentity]
  refine ends_bind data_ends ?_
  rintro found after ⟨rfl, rfl⟩
  cases held : after identityKey with
  | none =>
    refine ends_mono (migrate_or_generate_ends trips) ?_ fun _ _ => id
    rintro identity after' ⟨key, agrees, pair⟩
    refine ⟨key, agrees, fun bytes present => ?_, ?_, fun half => half.2 pair⟩
    · cases held.symm.trans present
    · rintro ⟨bytes, present, _⟩
      cases held.symm.trans present
  | some bytes =>
    refine ends_bind (require_stored_ends _ _) ?_
    rintro stored after' ⟨rfl, decoded⟩
    refine ends_mono (load_or_renew_identity_ends trips stored) ?_ fun _ _ => id
    rintro identity after ⟨⟨certificate, key, der⟩, kept⟩
    have read : readIdentity platform bytes = some (identity.key, certificate) := by
      simp [readIdentity, decoded, key, der]
    have unhalved : ¬ HalfLegacy after' := fun half => by cases held.symm.trans half.1
    have readable : ¬ UnreadableIdentity platform after' := by
      rintro ⟨bytes', present, unread⟩
      cases held.symm.trans present
      cases read.symm.trans unread
    rcases kept with rfl | ⟨same, agrees⟩
    · refine ⟨?_, fun _ _ => rfl, fun bytes' present => .inl present, readable, unhalved⟩
      simp [keyIn, held, storedKey, decoded, key]
    · refine ⟨same, agrees, fun bytes' present => .inr ?_, readable, unhalved⟩
      cases held.symm.trans present
      exact ⟨identity.key, certificate, read, same⟩

/-- What one call does to the store, whether it returns or throws. -/
structure Continues (platform : Platform Uuid Key Certificate) (before after : SecureStore) :
    Prop where
  serverId : ∀ bytes, before serverIdKey = some bytes → after serverIdKey = some bytes
  identity : IdentityKept platform before after
  half : HalfLegacy before → after identityKey = none
  others : ∀ key, key ≠ serverIdKey → key ≠ identityKey → after key = before key

/-- An identity that is returned is the one in the store. -/
structure Presents (platform : Platform Uuid Key Certificate) (id : Uuid) (key : Key)
    (out : AppleOutputIdentity Uuid Key Certificate) : Prop where
  serverId : out.serverId = id
  holds : out.runtimeIdentity.key = key
  spki : Ed25519Identity.encoded (platform.keySpki key) = some out.spkiDer
  digest : platform.sha256 out.spkiDer = some out.spkiDigest
  peerId : Crypto.gmIdentityEncodePeerId out.spkiDigest.bytes = .ok out.peerId

theorem apple_output_identity_ends (id : Uuid) (identity : RuntimeIdentity Key Certificate) :
    Ends (fun out after => after = store ∧ Presents platform id identity.key out)
      (fun _ after => after = store) (appleOutputIdentity platform id identity store) := by
  rw [appleOutputIdentity]
  refine ends_bind (copy_variable_output_ends _ _) ?_
  rintro spki after ⟨rfl, encoded⟩
  refine ends_bind (require_runtime_ok_ends _ _) ?_
  rintro digest after' ⟨rfl, hashed⟩
  refine ends_bind (copy_variable_output_ends _ _) ?_
  rintro der after ⟨rfl, _⟩
  have hash : platform.sha256 spki = some digest := by
    cases found : platform.sha256 spki with
    | none =>
      rw [found] at hashed
      cases hashed
    | some other =>
      rw [found] at hashed
      cases hashed
      rfl
  cases peer : Crypto.gmIdentityEncodePeerId digest.bytes with
  | error status => rfl
  | ok peerId => exact ⟨rfl, rfl, rfl, encoded, hash, peer⟩

theorem continues_after_server_id {middle after : SecureStore}
    (agrees : AgreeExcept serverIdKey store middle)
    (kept : store serverIdKey ≠ none → middle = store)
    (rest : AgreeExcept identityKey middle after) (identity : IdentityKept platform middle after)
    (half : HalfLegacy middle → after identityKey = none) : Continues platform store after where
  serverId bytes present := by
    have same := kept (by simp [present])
    rw [rest serverIdKey (by decide), same, present]
  identity bytes present := identity bytes ((agrees identityKey (by decide)).trans present)
  half legacy := by
    apply half
    rw [HalfLegacy, agrees identityKey (by decide), agrees legacySigningKey (by decide),
      agrees legacyCertificate (by decide)]
    exact legacy
  others key notServer notIdentity := (rest key notIdentity).trans (agrees key notServer)

/-- One call of the manager. -/
theorem load_or_create_ends (trips : RoundTrips platform)
    (around : Surroundings Uuid Key Certificate) (store : SecureStore) :
    Ends
      (fun out after => Continues platform store after ∧
        (∃ id key, serverIdIn platform after = some id ∧ keyIn platform after = some key ∧
          Presents platform id key out) ∧
        ¬ UnreadableServerId platform store ∧ ¬ UnreadableIdentity platform store ∧
        ¬ HalfLegacy store)
      (fun _ after => Continues platform store after) (loadOrCreate platform around store) := by
  rw [loadOrCreate]
  have unmoved : Continues platform store store :=
    ⟨fun _ => id, fun bytes present => .inl present, fun half => half.1, fun _ _ _ => rfl⟩
  refine ends_bind (ends_mono (load_or_create_server_id_ends trips) (fun _ _ => id)
    fun _ after same => same ▸ unmoved) ?_
  rintro serverId middle ⟨present, agrees, kept⟩
  refine ends_bind (ends_mono (load_identity_ends trips) (fun _ _ => id) ?_) ?_
  · rintro _ after rfl
    exact continues_after_server_id agrees kept (fun _ _ => rfl)
      (fun bytes present => .inl present) fun half => half.1
  rintro identity after ⟨key, rest, identityKept, readable, unhalved⟩
  have continues : Continues platform store after := continues_after_server_id agrees kept rest
    identityKept fun half => absurd half unhalved
  refine ends_mono (apple_output_identity_ends serverId identity) ?_ ?_
  · rintro out last ⟨rfl, presents⟩
    have stays : serverIdIn platform last = some serverId := by
      rw [serverIdIn, rest serverIdKey (by decide)]
      exact present
    refine ⟨continues, ⟨serverId, identity.key, stays, key, presents⟩, ?_, ?_, ?_⟩
    · rintro ⟨bytes, present, unread⟩
      have same := continues.serverId bytes present
      rw [serverIdIn, same, Option.bind_some, unread] at stays
      cases stays
    · rintro ⟨bytes, present, unread⟩
      exact readable ⟨bytes, (agrees identityKey (by decide)).trans present, unread⟩
    · intro half
      apply unhalved
      rw [HalfLegacy, agrees identityKey (by decide), agrees legacySigningKey (by decide),
        agrees legacyCertificate (by decide)]
      exact half
  · rintro _ last rfl
    exact continues

end Specs

section Runs
variable (platform : Platform Uuid Key Certificate)

/-- The store as a machine over calls of `loadOrCreate`. -/
def step (store : SecureStore) (around : Surroundings Uuid Key Certificate) :
    Except SecurityError (AppleOutputIdentity Uuid Key Certificate) × SecureStore :=
  match loadOrCreate platform around store with
  | .ok identity after => (.ok identity, after)
  | .error error after => (.error error, after)

variable {platform}

theorem step_continues (trips : RoundTrips platform) (store : SecureStore)
    (around : Surroundings Uuid Key Certificate) :
    Continues platform store (step platform store around).2 := by
  have ends := load_or_create_ends trips around store
  rw [step]
  cases run : loadOrCreate platform around store with
  | ok out after =>
    rw [run] at ends
    exact ends.1
  | error error after =>
    rw [run] at ends
    exact ends

theorem step_returns (trips : RoundTrips platform) {store : SecureStore}
    {around : Surroundings Uuid Key Certificate} {out : AppleOutputIdentity Uuid Key Certificate}
    (returned : (step platform store around).1 = .ok out) :
    (∃ id key, serverIdIn platform (step platform store around).2 = some id ∧
      keyIn platform (step platform store around).2 = some key ∧ Presents platform id key out) ∧
      ¬ UnreadableServerId platform store ∧ ¬ UnreadableIdentity platform store ∧
      ¬ HalfLegacy store := by
  have ends := load_or_create_ends trips around store
  rw [step] at returned ⊢
  cases run : loadOrCreate platform around store with
  | ok other after =>
    rw [run] at ends returned
    cases returned
    exact ends.2
  | error error after =>
    rw [run] at returned
    cases returned

theorem server_id_continues {before after : SecureStore} {id : Uuid}
    (continues : Continues platform before after) (present : serverIdIn platform before = some id) :
    serverIdIn platform after = some id := by
  obtain ⟨bytes, held, parsed⟩ := Option.bind_eq_some_iff.mp present
  rw [serverIdIn, continues.serverId bytes held]
  exact parsed

theorem key_continues {before after : SecureStore} {key : Key}
    (continues : Continues platform before after) (present : keyIn platform before = some key) :
    keyIn platform after = some key := by
  obtain ⟨bytes, held, stored⟩ := Option.bind_eq_some_iff.mp present
  rcases continues.identity bytes held with same | ⟨other, certificate, read, kept⟩
  · rw [keyIn, same]
    exact stored
  · obtain ⟨decoded, plist, rest⟩ := Option.bind_eq_some_iff.mp read
    obtain ⟨read', pkcs8, pair⟩ := Option.bind_eq_some_iff.mp rest
    obtain ⟨_, _, same⟩ := Option.map_eq_some_iff.mp pair
    rw [storedKey, plist, Option.bind_some, pkcs8] at stored
    cases stored
    cases same
    exact kept

theorem presents_same {id : Uuid} {key : Key}
    {first again : AppleOutputIdentity Uuid Key Certificate}
    (presents : Presents platform id key first) (presents' : Presents platform id key again) :
    again.serverId = first.serverId ∧ again.spkiDer = first.spkiDer ∧
      again.peerId = first.peerId := by
  have spki : again.spkiDer = first.spkiDer :=
    Option.some.inj (presents'.spki.symm.trans presents.spki)
  have digest : again.spkiDigest = first.spkiDigest :=
    Option.some.inj (presents'.digest.symm.trans (spki ▸ presents.digest))
  have peerId : again.peerId = first.peerId :=
    Except.ok.inj (presents'.peerId.symm.trans (digest ▸ presents.peerId))
  exact ⟨presents'.serverId.trans presents.serverId.symm, spki, peerId⟩

/-- Once the store has a server id and a key, every identity returned later has them. -/
theorem established_run (trips : RoundTrips platform) {store : SecureStore} {id : Uuid} {key : Key}
    (serverId : serverIdIn platform store = some id) (present : keyIn platform store = some key)
    {calls : List (Surroundings Uuid Key Certificate)} :
    ∀ e ∈ events (step platform) store calls, ∀ out, e.output = .ok out →
      Presents platform id key out := by
  intro e member out returned
  obtain ⟨xs, around, ys, _, rfl⟩ := event_of_mem (step platform) member
  have held := invariant_of_run (step platform)
    (fun store => serverIdIn platform store = some id ∧ keyIn platform store = some key)
    ⟨serverId, present⟩ (fun store around held =>
      ⟨server_id_continues (step_continues trips store around) held.1,
        key_continues (step_continues trips store around) held.2⟩) xs
  obtain ⟨id', key', serverId', present', presents⟩ := (step_returns trips returned).1
  have continues := step_continues trips (final (step platform) store xs) around
  cases serverId'.symm.trans (server_id_continues continues held.1)
  cases present'.symm.trans (key_continues continues held.2)
  exact presents

/-- Identity continuity over a past: what is returned is in the store, it stays the same, and
    what cannot be read is refused and kept. -/
structure IdentityContinuity (platform : Platform Uuid Key Certificate)
    (past : List (Event SecureStore (Surroundings Uuid Key Certificate)
      (Except SecurityError (AppleOutputIdentity Uuid Key Certificate)))) : Prop where
  stored : ∀ e ∈ past, ∀ out, e.output = .ok out →
    serverIdIn platform e.after = some out.serverId ∧
      keyIn platform e.after = some out.runtimeIdentity.key
  same : past.Pairwise fun e later => ∀ first again, e.output = .ok first →
    later.output = .ok again → again.serverId = first.serverId ∧
      again.spkiDer = first.spkiDer ∧ again.peerId = first.peerId
  serverId : ∀ e ∈ past, UnreadableServerId platform e.before →
    (∃ error, e.output = .error error) ∧ e.after serverIdKey = e.before serverIdKey
  identity : ∀ e ∈ past, UnreadableIdentity platform e.before →
    (∃ error, e.output = .error error) ∧ e.after identityKey = e.before identityKey
  half : ∀ e ∈ past, HalfLegacy e.before →
    (∃ error, e.output = .error error) ∧ e.after identityKey = none ∧
      e.after legacySigningKey = e.before legacySigningKey ∧
      e.after legacyCertificate = e.before legacyCertificate

theorem not_ok_error {α : Type} {result : Except SecurityError α} (never : ∀ a, result ≠ .ok a) :
    ∃ error, result = .error error := by
  cases result with
  | ok a => exact absurd rfl (never a)
  | error error => exact ⟨error, rfl⟩

theorem same_identity_run (trips : RoundTrips platform) (store : SecureStore)
    (calls : List (Surroundings Uuid Key Certificate)) :
    (events (step platform) store calls).Pairwise fun e later => ∀ first again,
      e.output = .ok first → later.output = .ok again → again.serverId = first.serverId ∧
        again.spkiDer = first.spkiDer ∧ again.peerId = first.peerId := by
  induction calls generalizing store with
  | nil => exact .nil
  | cons around calls ih =>
    refine List.pairwise_cons.mpr ⟨?_, ih (step platform store around).2⟩
    intro later member first again returned returned'
    obtain ⟨id, key, serverId, present, presents⟩ := (step_returns trips returned).1
    exact presents_same presents
      (established_run trips serverId present later member again returned')

end Runs

section Sample

/-- An Ed25519 key and its public key, as in the first test of the signature scheme. -/
def sampleKey : Buffer 32 := ⟨[157, 97, 177, 157, 239, 253, 90, 96, 186, 132, 74, 244, 146, 236, 44,
  196, 68, 73, 197, 105, 123, 50, 105, 25, 112, 59, 172, 3, 28, 174, 127, 96], rfl⟩

def samplePublicKey : List UInt8 := [215, 90, 152, 1, 130, 177, 10, 183, 213, 75, 254, 211, 201,
  100, 7, 58, 14, 225, 114, 243, 218, 166, 35, 37, 175, 2, 26, 104, 247, 7, 81, 26]

/-- The SHA-256 digest of its SPKI. -/
def sampleDigest : Buffer 32 := ⟨[6, 227, 253, 143, 218, 41, 187, 96, 171, 89, 85, 125, 230, 30,
  219, 10, 236, 219, 35, 17, 52, 190, 48, 231, 91, 69, 95, 142, 27, 121, 47, 169], rfl⟩

def pkcs8Header : List UInt8 := [48, 46, 2, 1, 0, 48, 5, 6, 3, 43, 101, 112, 4, 34, 4, 32]
def spkiHeader : List UInt8 := [48, 42, 48, 5, 6, 3, 43, 101, 112, 3, 33, 0]

def sampleRawKey (bytes : List UInt8) : Option (Buffer 32) :=
  if size : bytes.length = 32 then some ⟨bytes, size⟩ else none

/-- A property list of the two values: each byte of the first behind a one. -/
def sampleDecode : List UInt8 → Option StoredIdentity
  | 0 :: rest => some ⟨[], rest⟩
  | 1 :: byte :: rest =>
    (sampleDecode rest).map fun stored => ⟨byte :: stored.privateKeyPkcs8, stored.certificateDer⟩
  | _ => none

def sampleEncode (stored : StoredIdentity) : List UInt8 :=
  stored.privateKeyPkcs8.flatMap (fun byte => [1, byte]) ++ 0 :: stored.certificateDer

theorem sample_decode_encode (stored : StoredIdentity) :
    sampleDecode (sampleEncode stored) = some stored := by
  obtain ⟨key, certificate⟩ := stored
  rw [sampleEncode]
  dsimp only
  induction key with
  | nil => rfl
  | cons byte key ih =>
    simp only [List.flatMap_cons, List.cons_append, List.nil_append, sampleDecode, ih,
      Option.map_some]

/-- A certificate of the sample platform is the key it certifies. -/
def samplePlatform : Platform { text // Control.isLowerUuid text = true } (Buffer 32) (Buffer 32)
    where
  uuidText id := id.val
  parseUuid text :=
    if lower : Control.isLowerUuid text = true then some ⟨text, lower⟩ else none
  encodeStored stored := some (sampleEncode stored)
  decodeStored := sampleDecode
  pkcs8Key der :=
    if der.take 16 = pkcs8Header then sampleRawKey (der.drop 16) else none
  keyPkcs8 key := some (pkcs8Header ++ key.bytes)
  rawKey := sampleRawKey
  derCertificate := sampleRawKey
  certificateDer certificate := some certificate.bytes
  certifies certificate key := certificate = key
  keySpki key := some (spkiHeader ++ if key = sampleKey then samplePublicKey else key.bytes)
  sha256 bytes := some (if bytes = spkiHeader ++ samplePublicKey then sampleDigest
    else fillExact 32 (bytes.drop 12))

theorem sample_round_trips : RoundTrips samplePlatform where
  uuid id := dif_pos id.property
  stored stored bytes encoded := by
    obtain rfl := Option.some.inj encoded
    exact sample_decode_encode stored
  key key bytes exported := by
    obtain rfl := Option.some.inj exported
    exact dif_pos key.size

def sampleSurroundings (writes : Option Int) (profile : CertificateProfileResult) :
    Surroundings { text // Control.isLowerUuid text = true } (Buffer 32) (Buffer 32) where
  refusals := ⟨fun _ => none, fun key => if key = identityKey then writes else none⟩
  newUuid := ⟨ascii "7d8d4aa0-5d2c-4a41-9f0e-0f7c1c5b9a11", by decide⟩
  generatedKey := some sampleKey
  madeCertificate key := some key
  certificateProfile _ := profile

end Sample

end GhostMedia.Security
