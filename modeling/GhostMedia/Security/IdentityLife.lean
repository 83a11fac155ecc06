import GhostMedia.Core.PeerId
import GhostMedia.Security.CertificateLife
import GhostMedia.Security.Continuity

/- What one call of the identity manager does with certificates as the runtime makes and checks
   them: what it returns can be used at that moment, and once an identity is established the call
   keeps it. -/
namespace GhostMedia.Security
open CString Runs StateLogic

/-- One call of `loadOrCreate`, with its readings of the clock: two for the certificate that is
    stored and one for a new one. -/
structure Visit (Uuid Key : Type) where
  refusals : Refusals
  newUuid : Uuid
  generatedKey : Option Key
  random : Option (Buffer 16)
  first : Int
  second : Int
  made : Int

variable {Uuid Key PublicKey Certificate Time : Type}

/-- The clock does not go back during a visit. -/
def Visit.Ordered (visit : Visit Uuid Key) : Prop :=
  visit.first ≤ visit.second ∧ visit.second ≤ visit.made

section Visits
variable (x509 : X509 Key PublicKey Certificate Time)

def Visit.around (visit : Visit Uuid Key) : Surroundings Uuid Key Certificate where
  refusals := visit.refusals
  newUuid := visit.newUuid
  generatedKey := visit.generatedKey
  madeCertificate := makeCertificate x509 visit.made visit.random
  certificateProfile certificate :=
    certificateProfile x509 visit.first visit.second (some certificate)

def visited (platform : Platform Uuid Key Certificate) (store : SecureStore)
    (visit : Visit Uuid Key) :
    Except SecurityError (AppleOutputIdentity Uuid Key Certificate) × SecureStore :=
  step platform store (visit.around x509)

end Visits

/-- A clock that never goes back. -/
def Forward : Int → List (Visit Uuid Key) → Prop
  | _, [] => True
  | now, visit :: visits => now ≤ visit.first ∧ visit.Ordered ∧ Forward visit.made visits

/-- What is relied on: codecs round-trip, certificates as OpenSSL documents them, and keys that
    are compared and encoded by their public keys. -/
structure Dependable (platform : Platform Uuid Key Certificate)
    (x509 : X509 Key PublicKey Certificate Time) (publicOf : Key → PublicKey)
    (seconds : Time → Option Int) : Prop where
  trips : RoundTrips platform
  documented : Documented x509 publicOf seconds
  der : ∀ certificate bytes, platform.certificateDer certificate = some bytes →
    platform.derCertificate bytes = some certificate ∧
      x509.encodedSize certificate = bytes.length
  certifies : ∀ certificate key,
    platform.certifies certificate key = true ↔ x509.publicKey certificate = some (publicOf key)
  spki : ∀ key, platform.keySpki key = x509.publicKeySpki (publicOf key)

/-- A certificate of a key that can be used at some moment of a visit. -/
structure Usable (x509 : X509 Key PublicKey Certificate Time) (publicOf : Key → PublicKey)
    (seconds : Time → Option Int) (visit : Visit Uuid Key)
    (identity : RuntimeIdentity Key Certificate) : Prop where
  publicKey : x509.publicKey identity.certificate = some (publicOf identity.key)
  current : ∃ now, visit.first ≤ now ∧ now ≤ visit.made ∧
    Sound x509 seconds now identity.certificate ∧ Lasts x509 seconds now identity.certificate

/-- The store holds an identity. -/
def Stores (platform : Platform Uuid Key Certificate) (store : SecureStore)
    (identity : RuntimeIdentity Key Certificate) : Prop :=
  ∃ bytes stored, store identityKey = some bytes ∧ platform.decodeStored bytes = some stored ∧
    stored.certificateDer ≠ [] ∧ stored.certificateDer.length ≤ gmIdentityLeafDerMaxBytes ∧
    Ed25519Identity.decodePkcs8 platform stored.privateKeyPkcs8 = some identity.key ∧
    platform.derCertificate stored.certificateDer = some identity.certificate

section Calls
variable {platform : Platform Uuid Key Certificate} {x509 : X509 Key PublicKey Certificate Time}
  {publicOf : Key → PublicKey} {seconds : Time → Option Int} {visit : Visit Uuid Key}
  {store : SecureStore} {identity : RuntimeIdentity Key Certificate}

theorem usable_sound (usable : Usable x509 publicOf seconds visit identity) :
    Sound x509 seconds visit.made identity.certificate := by
  obtain ⟨now, -, before, sound, -⟩ := usable.current
  exact sound_later sound before

theorem checked_usable (dependable : Dependable platform x509 publicOf seconds)
    (ordered : visit.Ordered) {key : Option Key}
    {certificate : Option Certificate}
    (passed : Ed25519Identity.checked platform (visit.around x509) key certificate =
      .ok identity) : Usable x509 publicOf seconds visit identity := by
  cases key with
  | none => cases passed
  | some key =>
    cases certificate with
    | none => cases passed
    | some certificate =>
      simp only [Ed25519Identity.checked] at passed
      split at passed
      · cases passed
      rename_i certifies
      split at passed <;> cases passed
      rename_i valid
      obtain ⟨sound, lasts⟩ := valid_sound dependable.documented valid
      have certified : platform.certifies certificate key = true := by simpa using certifies
      exact ⟨(dependable.certifies certificate key).mp certified, visit.second, ordered.1,
        ordered.2, sound_later sound ordered.1, lasts⟩

theorem made_usable (dependable : Dependable platform x509 publicOf seconds)
    (ordered : visit.Ordered) {key : Key}
    {certificate : Certificate}
    (made : (visit.around x509).madeCertificate key = some certificate) :
    Usable x509 publicOf seconds visit ⟨key, certificate⟩ := by
  obtain ⟨sound, lasts, publicKey⟩ := make_certificate_sound dependable.documented made
  exact ⟨publicKey, visit.made, ordered.1.trans ordered.2, Int.le_refl _, sound,
    lasts _ (by omega)⟩

theorem renewed_usable (dependable : Dependable platform x509 publicOf seconds)
    (ordered : visit.Ordered) {key : Option Key}
    (renewed : Ed25519Identity.renewed (visit.around x509) key = .ok identity) :
    Usable x509 publicOf seconds visit identity := by
  cases key with
  | none => cases renewed
  | some key =>
    simp only [Ed25519Identity.renewed] at renewed
    split at renewed <;> cases renewed
    rename_i made
    exact made_usable dependable ordered made

theorem generated_usable (dependable : Dependable platform x509 publicOf seconds)
    (ordered : visit.Ordered)
    (generated : Ed25519Identity.generate (visit.around x509) = .ok identity) :
    Usable x509 publicOf seconds visit identity := by
  simp only [Ed25519Identity.generate] at generated
  split at generated
  · cases generated
  split at generated <;> cases generated
  rename_i made
  exact made_usable dependable ordered made

theorem persist_stores (dependable : Dependable platform x509 publicOf seconds)
    (limits : withinLimits x509 identity.certificate = true) :
    Ends (fun _ after => Stores platform after identity) (fun _ _ => True)
      (persist platform (visit.around x509) identity store) := by
  rw [persist]
  apply ends_bind (ends_mono (copy_variable_output_ends _ _) (fun _ _ => id) fun _ _ _ => trivial)
  rintro pkcs8 after ⟨rfl, exported⟩
  apply ends_bind (ends_mono (copy_variable_output_ends _ _) (fun _ _ => id) fun _ _ _ => trivial)
  rintro der after' ⟨rfl, encoded⟩
  cases plist : platform.encodeStored ⟨pkcs8, der⟩ with
  | none => trivial
  | some bytes =>
    apply ends_mono set_ends _ fun _ _ _ => trivial
    rintro _ after rfl
    obtain ⟨written, size⟩ := Option.filter_eq_some_iff.mp encoded
    simp only [Bool.and_eq_true, decide_eq_true_eq] at size
    obtain ⟨reads, length⟩ := dependable.der _ _ written
    simp only [withinLimits, Bool.and_eq_true, decide_eq_true_eq, length] at limits
    refine ⟨bytes, ⟨pkcs8, der⟩, Function.update_self _ _ _, dependable.trips.stored _ _ plist, ?_,
      Int.ofNat_le.mp limits.1.2, encoded_key dependable.trips exported, reads⟩
    exact List.ne_nil_of_length_pos size.1

/-- What a load returns was stored. -/
theorem loaded_stores {stored : StoredIdentity} {bytes : List UInt8}
    (held : store identityKey = some bytes) (decoded : platform.decodeStored bytes = some stored)
    (loaded : Ed25519Identity.load platform (visit.around x509) stored.privateKeyPkcs8
      stored.certificateDer = .ok identity) : Stores platform store identity := by
  rw [Ed25519Identity.load] at loaded
  split at loaded
  · cases loaded
  rename_i fits
  simp only [not_or, Nat.not_lt] at fits
  obtain ⟨key, certificate⟩ := checked_key loaded
  exact ⟨bytes, stored, held, decoded, fits.2.1, fits.2.2.2, key, certificate⟩

theorem load_or_renew_usable (dependable : Dependable platform x509 publicOf seconds)
    (ordered : visit.Ordered) {stored : StoredIdentity} {bytes : List UInt8}
    (held : store identityKey = some bytes)
    (decoded : platform.decodeStored bytes = some stored) :
    Ends (fun identity after => Usable x509 publicOf seconds visit identity ∧
        Stores platform after identity)
      (fun _ _ => True) (loadOrRenewIdentity platform (visit.around x509) stored store) := by
  rw [loadOrRenewIdentity]
  apply ends_ite
  · intro expired
    apply ends_bind (ends_mono (require_stored_ends _ _) (fun _ _ => id) fun _ _ _ => trivial)
    rintro identity after ⟨rfl, renewed⟩
    have usable := renewed_usable dependable ordered (to_option_some renewed)
    apply ends_bind (persist_stores dependable (usable_sound usable).limits)
    intro _ after' stores
    exact ⟨usable, stores⟩
  · intro current
    apply ends_mono (require_stored_ends _ _) _ fun _ _ _ => trivial
    rintro identity after ⟨rfl, loaded⟩
    have ok := to_option_some loaded
    refine ⟨?_, loaded_stores held decoded ok⟩
    rw [Ed25519Identity.load] at ok
    split at ok
    · cases ok
    · exact checked_usable dependable ordered ok

theorem legacy_usable (dependable : Dependable platform x509 publicOf seconds)
    (ordered : visit.Ordered) (privateKeyRaw certificateDer : List UInt8) :
    Ends (fun identity _ => Usable x509 publicOf seconds visit identity) (fun _ _ => True)
      (loadLegacyIdentity platform (visit.around x509) privateKeyRaw certificateDer store) := by
  rw [loadLegacyIdentity]
  apply ends_ite
  · intro expired
    apply ends_mono (require_stored_ends _ _) _ fun _ _ _ => trivial
    rintro identity after ⟨rfl, renewed⟩
    have ok := to_option_some renewed
    rw [Ed25519Identity.renewRawPrivateKey] at ok
    split at ok
    · cases ok
    · exact renewed_usable dependable ordered ok
  · intro current
    apply ends_mono (require_stored_ends _ _) _ fun _ _ _ => trivial
    rintro identity after ⟨rfl, loaded⟩
    have ok := to_option_some loaded
    rw [Ed25519Identity.loadRawPrivateKey] at ok
    split at ok
    · cases ok
    · exact checked_usable dependable ordered ok

theorem migrate_or_generate_usable (dependable : Dependable platform x509 publicOf seconds)
    (ordered : visit.Ordered) :
    Ends (fun identity after => Usable x509 publicOf seconds visit identity ∧
        Stores platform after identity)
      (fun _ _ => True) (migrateOrGenerate platform (visit.around x509) store) := by
  have persists (identity : RuntimeIdentity Key Certificate) (after : SecureStore)
      (usable : Usable x509 publicOf seconds visit identity) :
      Ends (fun identity after => Usable x509 publicOf seconds visit identity ∧
          Stores platform after identity)
        (fun _ _ => True)
        ((persist platform (visit.around x509) identity >>= fun _ => pure identity) after) := by
    apply ends_bind (persist_stores dependable (usable_sound usable).limits)
    intro _ after' stores
    exact ⟨usable, stores⟩
  rw [migrateOrGenerate]
  apply ends_bind (ends_mono data_ends (fun _ _ => id) fun _ _ _ => trivial)
  rintro key after ⟨rfl, rfl⟩
  apply ends_bind (ends_mono data_ends (fun _ _ => id) fun _ _ _ => trivial)
  rintro certificate after' ⟨rfl, rfl⟩
  cases after' legacySigningKey with
  | none =>
    cases after' legacyCertificate with
    | some => trivial
    | none =>
      apply ends_bind (ends_mono (require_runtime_ok_ends _ _) (fun _ _ => id)
        fun _ _ _ => trivial)
      rintro identity after ⟨rfl, generated⟩
      exact persists identity after (generated_usable dependable ordered generated)
  | some key =>
    cases after' legacyCertificate with
    | none => trivial
    | some certificate =>
      apply ends_bind (legacy_usable dependable ordered key certificate)
      exact persists

theorem load_identity_usable (dependable : Dependable platform x509 publicOf seconds)
    (ordered : visit.Ordered) :
    Ends (fun identity after => Usable x509 publicOf seconds visit identity ∧
        Stores platform after identity)
      (fun _ _ => True) (loadIdentity platform (visit.around x509) store) := by
  rw [loadIdentity]
  apply ends_bind (ends_mono data_ends (fun _ _ => id) fun _ _ _ => trivial)
  rintro found after ⟨rfl, rfl⟩
  cases held : after identityKey with
  | none => exact migrate_or_generate_usable dependable ordered
  | some bytes =>
    apply ends_bind (ends_mono (require_stored_ends _ _) (fun _ _ => id) fun _ _ _ => trivial)
    rintro stored after' ⟨rfl, decoded⟩
    exact load_or_renew_usable dependable ordered held decoded

/-- Why a call fails once an identity of the key is established: an access that is refused, or a
    function that fails for the key or for a certificate of it. -/
inductive Excused (platform : Platform Uuid Key Certificate)
    (x509 : X509 Key PublicKey Certificate Time) (publicOf : Key → PublicKey)
    (visit : Visit Uuid Key) (key : Key) : SecurityError → Prop where
  | read {name status} (used : name = serverIdKey ∨ name = identityKey)
      (refused : visit.refusals.data name = some status) :
      Excused platform x509 publicOf visit key (.keychainStatus status)
  | write {status} (refused : visit.refusals.set identityKey = some status) :
      Excused platform x509 publicOf visit key (.keychainStatus status)
  | certificate (failed : makeCertificate x509 visit.made visit.random key = none) :
      Excused platform x509 publicOf visit key (.invalidStoredValue identityKey)
  | privateKey (failed : Ed25519Identity.encoded (platform.keyPkcs8 key) = none) :
      Excused platform x509 publicOf visit key
        (.runtimeFailure "gm_runtime_identity_private_key_pkcs8" (gmStatusString .internal))
  | certificateDer {certificate}
      (certified : x509.publicKey certificate = some (publicOf key))
      (failed : Ed25519Identity.encoded (platform.certificateDer certificate) = none) :
      Excused platform x509 publicOf visit key
        (.runtimeFailure "gm_runtime_identity_certificate_der" (gmStatusString .internal))
  | spki (failed : Ed25519Identity.encoded (platform.keySpki key) = none) :
      Excused platform x509 publicOf visit key
        (.runtimeFailure "gm_runtime_identity_spki_der" (gmStatusString .internal))
  | digest {spkiDer} (exported : Ed25519Identity.encoded (platform.keySpki key) = some spkiDer)
      (failed : platform.sha256 spkiDer = none) :
      Excused platform x509 publicOf visit key
        (.runtimeFailure "gm_runtime_identity_spki_sha256" (gmStatusString .internal))
  | encoding {pkcs8 der}
      (exported : Ed25519Identity.encoded (platform.keyPkcs8 key) = some pkcs8)
      (failed : platform.encodeStored ⟨pkcs8, der⟩ = none) :
      Excused platform x509 publicOf visit key .encoding

section Errors
variable {key : Key}

theorem data_excused {name : List UInt8} (used : name = serverIdKey ∨ name = identityKey) :
    Ends (fun _ _ => True) (fun error _ => Excused platform x509 publicOf visit key error)
      (SecureStore.data visit.refusals name store) := by
  rw [SecureStore.data]
  cases refused : visit.refusals.data name with
  | none => trivial
  | some status => exact .read used refused

theorem require_runtime_ok_excused {α : Type} {operation : String} {step : Except GmStatus α}
    (excused : ∀ status, step = .error status → Excused platform x509 publicOf visit key
      (.runtimeFailure operation (gmStatusString status))) :
    Ends (fun _ _ => True) (fun error _ => Excused platform x509 publicOf visit key error)
      (requireRuntimeOk operation step store) := by
  cases step with
  | ok value => trivial
  | error status => exact excused status rfl

theorem copy_variable_output_excused {operation : String} {output : Option (List UInt8)}
    (excused : output = none → Excused platform x509 publicOf visit key
      (.runtimeFailure operation (gmStatusString .internal))) :
    Ends (fun bytes _ => output = some bytes)
      (fun error _ => Excused platform x509 publicOf visit key error)
      (copyVariableOutput operation output store) := by
  cases output with
  | none => exact excused rfl
  | some bytes => rfl

theorem persist_excused (same : identity.key = key)
    (certified : x509.publicKey identity.certificate = some (publicOf key)) :
    Ends (fun _ _ => True) (fun error _ => Excused platform x509 publicOf visit key error)
      (persist platform (visit.around x509) identity store) := by
  subst same
  rw [persist]
  apply ends_bind (copy_variable_output_excused .privateKey)
  intro pkcs8 after exported
  apply ends_bind (copy_variable_output_excused (.certificateDer certified))
  intro der after _
  cases encoded : platform.encodeStored ⟨pkcs8, der⟩ with
  | none => exact .encoding exported encoded
  | some bytes =>
    dsimp only [SecureStore.set]
    cases refused : (visit.around x509).refusals.set identityKey with
    | none => trivial
    | some status => exact .write refused

theorem apple_output_identity_returns (same : identity.key = key)
    (certified : x509.publicKey identity.certificate = some (publicOf key)) (id : Uuid) :
    Ends (fun out _ => out.runtimeIdentity = identity)
      (fun error _ => Excused platform x509 publicOf visit key error)
      (appleOutputIdentity platform id identity store) := by
  subst same
  rw [appleOutputIdentity]
  apply ends_bind (copy_variable_output_excused .spki)
  intro spki after exported
  apply ends_bind (require_runtime_ok_excused ?hashed)
  case hashed =>
    intro status failed
    cases hashed : platform.sha256 spki with
    | none =>
      rw [hashed] at failed
      cases failed
      exact .digest exported hashed
    | some digest =>
      rw [hashed] at failed
      cases failed
  intro digest after _
  apply ends_bind (copy_variable_output_excused (.certificateDer certified))
  intro der after _
  rw [Crypto.peer_id_text digest.size]
  rfl

end Errors

/-- A store with a server id and an identity of a key, whose certificate was right by then. -/
structure Established (platform : Platform Uuid Key Certificate)
    (x509 : X509 Key PublicKey Certificate Time) (publicOf : Key → PublicKey)
    (seconds : Time → Option Int) (key : Key) (now : Int) (store : SecureStore) : Prop where
  serverId : ∃ id, serverIdIn platform store = some id
  identity : ∃ identity, Stores platform store identity ∧ identity.key = key ∧
    x509.publicKey identity.certificate = some (publicOf key) ∧
    Sound x509 seconds now identity.certificate

section Standing
variable {key : Key} {now : Int}

/-- An identity that is stored loads, or has expired. -/
theorem stored_loads (dependable : Dependable platform x509 publicOf seconds)
    {stored : StoredIdentity} (nonempty : stored.certificateDer ≠ [])
    (fits : stored.certificateDer.length ≤ gmIdentityLeafDerMaxBytes)
    (reads : Ed25519Identity.decodePkcs8 platform stored.privateKeyPkcs8 = some identity.key)
    (der : platform.derCertificate stored.certificateDer = some identity.certificate)
    (publicKey : x509.publicKey identity.certificate = some (publicOf identity.key))
    (sound : Sound x509 seconds visit.first identity.certificate) :
    Ed25519Identity.load platform (visit.around x509) stored.privateKeyPkcs8
        stored.certificateDer = .ok identity ∨
      Ed25519Identity.load platform (visit.around x509) stored.privateKeyPkcs8
        stored.certificateDer = .error .stateConflict := by
  have given : ¬ (stored.privateKeyPkcs8 = [] ∨ stored.privateKeyPkcs8.length > longMax) := by
    intro missing
    rw [Ed25519Identity.decodePkcs8, if_pos missing] at reads
    cases reads
  have checks : ¬ (stored.privateKeyPkcs8 = [] ∨ stored.certificateDer = [] ∨
      stored.privateKeyPkcs8.length > longMax ∨
      stored.certificateDer.length > gmIdentityLeafDerMaxBytes) := by
    rintro (missing | missing | long | long)
    · exact given (.inl missing)
    · exact nonempty missing
    · exact given (.inr long)
    · exact absurd long (Nat.not_lt.mpr fits)
  have certified := (dependable.certifies _ _).mpr publicKey
  rw [Ed25519Identity.load, if_neg checks, reads, der]
  simp only [Ed25519Identity.checked, certified, Bool.not_true, Bool.false_eq_true, if_false]
  have profile : (visit.around x509).certificateProfile identity.certificate =
      certificateProfile x509 visit.first visit.second (some identity.certificate) := rfl
  rw [profile]
  rcases sound_or_expired dependable.documented visit.second sound with valid | expired
  · rw [valid]
    exact .inl rfl
  · rw [expired]
    exact .inr rfl

theorem load_identity_established (dependable : Dependable platform x509 publicOf seconds)
    (established : Established platform x509 publicOf seconds key now store)
    (later : now ≤ visit.first) :
    Ends (fun identity _ => identity.key = key)
      (fun error _ => Excused platform x509 publicOf visit key error)
      (loadIdentity platform (visit.around x509) store) := by
  obtain ⟨identity, stores, rfl, publicKey, sound⟩ := established.identity
  obtain ⟨bytes, stored, held, decoded, nonempty, fits, reads, der⟩ := stores
  rw [loadIdentity]
  apply ends_bind (ends_mono (ends_and data_ends (data_excused (.inr rfl))) (fun _ _ => id)
    fun _ _ failed => failed.2)
  rintro found after ⟨⟨rfl, rfl⟩, -⟩
  rw [held]
  dsimp only
  rw [decoded]
  change Ends _ _ (loadOrRenewIdentity platform (visit.around x509) stored after)
  rw [loadOrRenewIdentity]
  rcases stored_loads dependable nonempty fits reads der publicKey (sound_later sound later) with
    loads | expired
  · rw [loads]
    exact rfl
  · rw [expired]
    change Ends _ _ ((renewIdentity platform (visit.around x509) stored.privateKeyPkcs8 >>= _)
      after)
    rw [renewIdentity, Ed25519Identity.renewCertificate, reads]
    simp only [Ed25519Identity.renewed]
    cases made : makeCertificate x509 visit.made visit.random identity.key with
    | none =>
      have refused : (visit.around x509).madeCertificate identity.key = none := made
      rw [refused]
      exact .certificate made
    | some certificate =>
      have renewed : (visit.around x509).madeCertificate identity.key = some certificate := made
      rw [renewed]
      change Ends _ _ ((persist platform (visit.around x509) ⟨identity.key, certificate⟩ >>= _)
        after)
      obtain ⟨-, -, certified⟩ := make_certificate_sound dependable.documented made
      apply ends_bind (persist_excused rfl certified)
      exact fun _ _ _ => rfl

/-- What a call returns: an identity of the key, usable and with its digest. -/
structure Shown (platform : Platform Uuid Key Certificate)
    (x509 : X509 Key PublicKey Certificate Time) (publicOf : Key → PublicKey)
    (seconds : Time → Option Int) (visit : Visit Uuid Key) (key : Key)
    (out : AppleOutputIdentity Uuid Key Certificate) : Prop where
  same : out.runtimeIdentity.key = key
  usable : Usable x509 publicOf seconds visit out.runtimeIdentity
  digest : (Ed25519Identity.encoded (platform.keySpki key)).bind platform.sha256 =
    some out.spkiDigest

theorem identity_presented {id : Uuid} (serverId : serverIdIn platform store = some id)
    (usable : Usable x509 publicOf seconds visit identity)
    (stores : Stores platform store identity) :
    Ends
      (fun out after => Established platform x509 publicOf seconds identity.key visit.made after ∧
        Shown platform x509 publicOf seconds visit identity.key out)
      (fun error after =>
        Established platform x509 publicOf seconds identity.key visit.made after ∧
          Excused platform x509 publicOf visit identity.key error)
      (appleOutputIdentity platform id identity store) := by
  have established : Established platform x509 publicOf seconds identity.key visit.made store :=
    ⟨⟨id, serverId⟩, identity, stores, rfl, usable.publicKey, usable_sound usable⟩
  have returns : Ends (fun out _ => out.runtimeIdentity = identity)
      (fun error _ => Excused platform x509 publicOf visit identity.key error)
      (appleOutputIdentity platform id identity store) := 
        apple_output_identity_returns rfl usable.publicKey id
  apply ends_mono (ends_and (apple_output_identity_ends id identity) returns)
  · rintro out after ⟨⟨rfl, presents⟩, rfl⟩
    refine ⟨established, rfl, usable, ?_⟩
    rw [presents.spki, Option.bind_some, presents.digest]
  · rintro error after ⟨rfl, excused⟩
    exact ⟨established, excused⟩

theorem server_id_established (dependable : Dependable platform x509 publicOf seconds)
    (established : Established platform x509 publicOf seconds key now store) :
    Ends (fun id after => after = store ∧ serverIdIn platform after = some id)
      (fun error after => after = store ∧ Excused platform x509 publicOf visit key error)
      (loadOrCreateServerId platform (visit.around x509) store) := by
  obtain ⟨id, present⟩ := established.serverId
  obtain ⟨bytes, held, parsed⟩ := Option.bind_eq_some_iff.mp present
  have excused : Ends (fun _ _ => True)
      (fun error _ => Excused platform x509 publicOf visit key error)
      (loadOrCreateServerId platform (visit.around x509) store) := by
    rw [loadOrCreateServerId]
    apply ends_bind (ends_mono (ends_and data_ends (data_excused (.inl rfl)))
      (fun _ _ found => found) fun _ _ failed => failed.2)
    rintro found after ⟨⟨rfl, rfl⟩, -⟩
    rw [held]
    dsimp only
    rw [parsed]
    exact trivial
  apply ends_mono (ends_and (load_or_create_server_id_ends dependable.trips) excused)
  · rintro id after ⟨⟨reads, -, kept⟩, -⟩
    exact ⟨kept (by simp [held]), reads⟩
  · exact fun _ _ failed => failed

theorem load_or_create_established (dependable : Dependable platform x509 publicOf seconds)
    (ordered : visit.Ordered)
    (established : Established platform x509 publicOf seconds key now store)
    (later : now ≤ visit.first) :
    Ends
      (fun out after => Established platform x509 publicOf seconds key visit.made after ∧
        Shown platform x509 publicOf seconds visit key out)
      (fun error after => Established platform x509 publicOf seconds key visit.made after ∧
        Excused platform x509 publicOf visit key error)
      (loadOrCreate platform (visit.around x509) store) := by
  have stays : Established platform x509 publicOf seconds key visit.made store := by
    obtain ⟨identity, stores, same, publicKey, sound⟩ := established.identity
    have ends := later.trans (ordered.1.trans ordered.2)
    exact ⟨established.serverId, identity, stores, same, publicKey, sound_later sound ends⟩
  have fails {error : SecurityError} {after : SecureStore} (same : after = store)
      (excused : Excused platform x509 publicOf visit key error) :
      Established platform x509 publicOf seconds key visit.made after ∧
        Excused platform x509 publicOf visit key error := ⟨same ▸ stays, excused⟩
  rw [loadOrCreate]
  apply ends_bind (ends_mono (server_id_established dependable established)
    (fun _ _ found => found) fun _ _ failed => fails failed.1 failed.2)
  rintro serverId after ⟨rfl, present⟩
  have kept := ends_and (load_identity_usable dependable ordered)
    (ends_and (load_identity_established dependable established later)
      (load_identity_ends dependable.trips))
  apply ends_bind (ends_mono kept (fun _ _ found => found) fun _ _ failed =>
    fails failed.2.2 failed.2.1)
  rintro identity last ⟨⟨usable, stores⟩, rfl, -, agrees, -⟩
  have still : serverIdIn platform last = some serverId := by
    rw [serverIdIn, agrees serverIdKey (by decide)]
    exact present
  exact identity_presented still usable stores

/-- From any store at all, the first identity that is returned establishes one. -/
theorem load_or_create_establishes (dependable : Dependable platform x509 publicOf seconds)
    (ordered : visit.Ordered) (store : SecureStore) :
    Ends
      (fun out after =>
        Established platform x509 publicOf seconds out.runtimeIdentity.key visit.made after ∧
          Shown platform x509 publicOf seconds visit out.runtimeIdentity.key out)
      (fun _ _ => True) (loadOrCreate platform (visit.around x509) store) := by
  rw [loadOrCreate]
  apply ends_bind (ends_mono (load_or_create_server_id_ends dependable.trips)
    (fun _ _ found => found) fun _ _ _ => trivial)
  rintro serverId middle ⟨present, -⟩
  apply ends_bind (ends_mono (ends_and (load_identity_ends dependable.trips)
    (load_identity_usable dependable ordered)) (fun _ _ found => found) fun _ _ _ => trivial)
  rintro identity last ⟨⟨-, agrees, -⟩, usable, stores⟩
  have still : serverIdIn platform last = some serverId := by
    rw [serverIdIn, agrees serverIdKey (by decide)]
    exact present
  apply ends_mono (identity_presented still usable stores) _ fun _ _ _ => trivial
  rintro out after ⟨established, shown⟩
  rw [shown.same]
  exact ⟨established, shown⟩

end Standing

end Calls

end GhostMedia.Security
