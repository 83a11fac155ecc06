import GhostMedia.Security.IdentityLife

/- The identity of the output server over years: every identity that is returned is one that a
   peer accepts who pinned an earlier one, and one that has been returned is never lost. -/
namespace GhostMedia.Security
open CString Runs StateLogic

variable {Uuid Key PublicKey Certificate Time : Type}

/-- From a moment until it expires, a peer that pinned the digest accepts the certificate. -/
def Accepted (x509 : X509 Key PublicKey Certificate Time)
    (sha256 : List UInt8 → Option (Buffer gmSpkiDigestBytes)) (seconds : Time → Option Int)
    (now : Int) (digest : Buffer gmSpkiDigestBytes) (certificate : Certificate) : Prop :=
  ∃ finish, seconds (x509.notAfter certificate) = some finish ∧ now < finish ∧
    ∀ first second, now ≤ first → second < finish →
      verifyPeerCertificate x509 sha256 first second (some digest) 0 (some [certificate])
        (some certificate) = true

section Runs
variable {platform : Platform Uuid Key Certificate} {x509 : X509 Key PublicKey Certificate Time}
  {publicOf : Key → PublicKey} {seconds : Time → Option Int} {visit : Visit Uuid Key}
  {store : SecureStore} {key : Key} {now : Int}
  {out : AppleOutputIdentity Uuid Key Certificate}

theorem shown_accepted (dependable : Dependable platform x509 publicOf seconds)
    (shown : Shown platform x509 publicOf seconds visit key out) :
    ∃ now, visit.first ≤ now ∧ now ≤ visit.made ∧
      Accepted x509 platform.sha256 seconds now out.spkiDigest out.runtimeIdentity.certificate := by
  obtain ⟨now, after, before, sound, finish, ends, early⟩ := shown.usable.current
  refine ⟨now, after, before, finish, ends, early, ?_⟩
  intro first second later inTime
  have valid := sound_valid dependable.documented (sound_later sound later)
    ⟨finish, ends, inTime⟩
  have digest : certificateSpkiDigest x509 platform.sha256 out.runtimeIdentity.certificate =
      some out.spkiDigest := by
    rw [certificateSpkiDigest, shown.usable.publicKey, Option.bind_some, ← dependable.spki,
      shown.same]
    exact shown.digest
  unfold verifyPeerCertificate
  rw [valid, Option.bind_some, digest]
  simp

theorem visited_ends {post : AppleOutputIdentity Uuid Key Certificate → SecureStore → Prop}
    {failed : SecurityError → SecureStore → Prop}
    (ends : Ends post failed (loadOrCreate platform (visit.around x509) store)) :
    (∀ out, (visited x509 platform store visit).1 = .ok out →
        post out (visited x509 platform store visit).2) ∧
      ∀ error, (visited x509 platform store visit).1 = .error error →
        failed error (visited x509 platform store visit).2 := by
  unfold visited step
  cases run : loadOrCreate platform (visit.around x509) store with
  | ok out after =>
    rw [run] at ends
    exact ⟨fun _ same => Except.ok.inj same ▸ ends, nofun⟩
  | error error after =>
    rw [run] at ends
    exact ⟨nofun, fun _ same => Except.error.inj same ▸ ends⟩

/-- Once an identity is established, every later call shows its key or is excused. -/
theorem established_visits (dependable : Dependable platform x509 publicOf seconds)
    {visits : List (Visit Uuid Key)} (forward : Forward now visits)
    (established : Established platform x509 publicOf seconds key now store) :
    ∀ e ∈ events (visited x509 platform) store visits,
      (∀ out, e.output = .ok out → Shown platform x509 publicOf seconds e.input key out) ∧
        ∀ error, e.output = .error error → Excused platform x509 publicOf e.input key error := by
  induction visits generalizing now store with
  | nil => exact nofun
  | cons visit visits ih =>
    obtain ⟨later, ordered, forward⟩ := forward
    obtain ⟨returned, failed⟩ :=
      visited_ends (load_or_create_established dependable ordered established later)
    have next : Established platform x509 publicOf seconds key visit.made
        (visited x509 platform store visit).2 := by
      cases output : (visited x509 platform store visit).1 with
      | ok out => exact (returned out output).1
      | error error => exact (failed error output).1
    intro e member
    cases member with
    | head => exact ⟨fun out ok => (returned out ok).2, fun error bad => (failed error bad).2⟩
    | tail _ member => exact ih forward next e member

end Runs

/-- What holds of the identity of a server over a past. -/
structure IdentityLife (platform : Platform Uuid Key Certificate)
    (x509 : X509 Key PublicKey Certificate Time) (publicOf : Key → PublicKey)
    (seconds : Time → Option Int) (past : List (Event SecureStore (Visit Uuid Key)
      (Except SecurityError (AppleOutputIdentity Uuid Key Certificate)))) : Prop where
  accepted : ∀ e ∈ past, ∀ out, e.output = .ok out → ∃ now, e.input.first ≤ now ∧
    now ≤ e.input.made ∧
    Accepted x509 platform.sha256 seconds now out.spkiDigest out.runtimeIdentity.certificate
  pinned : past.Pairwise fun e later => ∀ out again, e.output = .ok out →
    later.output = .ok again → again.spkiDigest = out.spkiDigest
  recovers : past.Pairwise fun e later => ∀ out error, e.output = .ok out →
    later.output = .error error →
    Excused platform x509 publicOf later.input out.runtimeIdentity.key error

/-- From any store and whatever is refused: what is returned is accepted by every peer that has
    pinned an identity returned before, and once one has been returned a call fails only where an
    access is refused or a function fails for its key or a certificate of it. -/
theorem identity_life {platform : Platform Uuid Key Certificate}
    {x509 : X509 Key PublicKey Certificate Time} {publicOf : Key → PublicKey}
    {seconds : Time → Option Int} (dependable : Dependable platform x509 publicOf seconds)
    {visits : List (Visit Uuid Key)} {now : Int} (forward : Forward now visits)
    (store : SecureStore) :
    IdentityLife platform x509 publicOf seconds (events (visited x509 platform) store visits) := by
  induction visits generalizing now store with
  | nil => exact ⟨nofun, .nil, .nil⟩
  | cons visit visits ih =>
    obtain ⟨later, ordered, forward⟩ := forward
    have rest := ih forward (visited x509 platform store visit).2
    obtain ⟨returned, -⟩ := visited_ends (load_or_create_establishes dependable ordered store)
    refine ⟨?_, List.pairwise_cons.mpr ⟨?_, rest.pinned⟩,
      List.pairwise_cons.mpr ⟨?_, rest.recovers⟩⟩
    · intro e member out ok
      cases member with
      | head => exact shown_accepted dependable (returned out ok).2
      | tail _ member => exact rest.accepted e member out ok
    · intro e member out again ok ok'
      obtain ⟨established, shown⟩ := returned out ok
      have same := (established_visits dependable forward established e member).1 again ok'
      exact Option.some.inj (same.digest.symm.trans shown.digest)
    · intro e member out error ok bad
      obtain ⟨established, -⟩ := returned out ok
      exact (established_visits dependable forward established e member).2 error bad

section Sample

/-- A certificate of the sample is its key, its serial number and when it was made. -/
structure SampleCertificate where
  key : Buffer 32
  serial : Buffer 16
  made : Buffer 8
  deriving DecidableEq

def SampleCertificate.notBefore (certificate : SampleCertificate) : Int :=
  BigEndian.value certificate.made.bytes

def sampleCertificateDer (certificate : SampleCertificate) : List UInt8 :=
  certificate.key.bytes ++ certificate.serial.bytes ++ certificate.made.bytes

def sampleDerCertificate (bytes : List UInt8) : Option SampleCertificate :=
  if size : bytes.length = 56 then
    some ⟨⟨bytes.take 32, by simp [size]⟩, ⟨(bytes.drop 32).take 16, by simp [size]⟩,
      ⟨bytes.drop 48, by simp [size]⟩⟩
  else none

/-- The drafts that are signed. -/
def Signable (draft : Draft (Buffer 32) Int) (key : Buffer 32) : Prop :=
  draft.version = 2 ∧ draft.serialNumber.length = 16 ∧ 0 ≤ draft.notBefore ∧
    draft.notBefore < 2 ^ 64 ∧ draft.notAfter = draft.notBefore + 825 * 86400 ∧
    draft.publicKey = key ∧ draft.subjectName = draft.issuerName ∧
    draft.extensions = addedExtensions

instance (draft : Draft (Buffer 32) Int) (key : Buffer 32) : Decidable (Signable draft key) := by
  unfold Signable
  infer_instance

def sampleSign (draft : Draft (Buffer 32) Int) (key : Buffer 32) : Option SampleCertificate :=
  if signable : Signable draft key then
    some ⟨key, ⟨draft.serialNumber, signable.2.1⟩,
      ⟨BigEndian.bytes 8 draft.notBefore.toNat, by simp⟩⟩
  else none

def sampleX509 : X509 (Buffer 32) (Buffer 32) SampleCertificate Int where
  timeAdj days offset now := some (now + days * 86400 + offset)
  knowsExtension _ _ := true
  sign := sampleSign
  encodedSize _ := 56
  version _ := 2
  notBefore := SampleCertificate.notBefore
  notAfter certificate := certificate.notBefore + 825 * 86400
  cmpTime time now := if time ≤ now then -1 else 1
  timeDiff start finish := some ((finish - start).tdiv 86400, (finish - start).tmod 86400)
  serialLength certificate := (certificate.serial.bytes.dropWhile (· = 0)).length
  hasExtension _ nid := addedExtensions.any fun extension => extension.1 = nid
  sameNames _ := true
  publicKey certificate := some certificate.key
  keyId _ := .ed25519
  verify certificate key := certificate.key = key
  signatureNid _ := .ed25519
  basicConstraints _ := (some 0, 1)
  keyUsage _ := (some (true :: List.replicate 7 false), 1)
  extKeyUsage _ := some [.clientAuth, .serverAuth]
  extensions _ := addedExtensions.map fun extension => (extension.1, isCritical extension.2)
  publicKeySpki := samplePlatform.keySpki

def lifePlatform : Platform { text // Control.isLowerUuid text = true } (Buffer 32)
    SampleCertificate where
  uuidText := samplePlatform.uuidText
  parseUuid := samplePlatform.parseUuid
  encodeStored := samplePlatform.encodeStored
  decodeStored := samplePlatform.decodeStored
  pkcs8Key := samplePlatform.pkcs8Key
  keyPkcs8 := samplePlatform.keyPkcs8
  rawKey := samplePlatform.rawKey
  derCertificate := sampleDerCertificate
  certificateDer certificate := some (sampleCertificateDer certificate)
  certifies certificate key := certificate.key = key
  keySpki := samplePlatform.keySpki
  sha256 := samplePlatform.sha256

theorem sample_der (certificate : SampleCertificate) :
    sampleDerCertificate (sampleCertificateDer certificate) = some certificate ∧
      (sampleCertificateDer certificate).length = 56 := by
  obtain ⟨⟨key, keySize⟩, ⟨serial, serialSize⟩, ⟨made, madeSize⟩⟩ := certificate
  have length : (key ++ serial ++ made).length = 56 := by simp [keySize, serialSize, madeSize]
  refine ⟨?_, length⟩
  unfold sampleDerCertificate sampleCertificateDer
  refine (dif_pos length).trans ?_
  congr 3
  · rw [List.append_assoc]
    exact List.take_left' keySize
  · rw [List.append_assoc, List.drop_left' keySize]
    exact List.take_left' serialSize
  · exact List.drop_left' (by simp [keySize, serialSize])

theorem sample_issued {draft : Draft (Buffer 32) Int} {key : Buffer 32}
    {certificate : SampleCertificate} (signed : sampleSign draft key = some certificate) :
    Issued sampleX509 id draft certificate ∧ certificate.key = key := by
  unfold sampleSign at signed
  split at signed
  swap
  · cases signed
  rename_i signable
  cases signed
  obtain ⟨version, serial, positive, small, after, publicKey, names, extensions⟩ := signable
  have notBefore : (BigEndian.value (BigEndian.bytes 8 draft.notBefore.toNat) : Int) =
      draft.notBefore := by
    rw [BigEndian.value_bytes_of_lt (by omega), Int.toNat_of_nonneg positive]
  refine ⟨⟨?_, version.symm, notBefore, ?_, rfl, ?_, ?_, ?_, ?_, ?_, ?_, ?_⟩, rfl⟩
  · intro _ _ _ _
    change (0 : Int) < 56 ∧ (56 : Int) ≤ gmIdentityLeafDerMaxBytes
    decide
  · exact (congrArg (· + 825 * 86400) notBefore).trans after.symm
  · exact (decide_eq_true names).symm
  · exact congrArg some publicKey.symm
  · intro nid
    exact congrArg (List.any · fun extension => extension.1 = nid) extensions.symm
  · exact congrArg (List.map fun extension => (extension.1, isCritical extension.2))
      extensions.symm
  · exact fun _ => rfl
  · exact fun _ => rfl
  · exact fun _ => rfl

theorem life_dependable : Dependable lifePlatform sampleX509 id some where
  trips := ⟨sample_round_trips.uuid, sample_round_trips.stored, sample_round_trips.key⟩
  documented := {
    timeAdj := by
      intro days offset now time adjusted
      exact adjusted.symm
    cmpTime := fun _ _ => rfl
    timeDiff := fun _ _ => rfl
    ed25519 := fun _ => rfl
    issued := fun _ _ _ signed => (sample_issued signed).1
    selfSigned := fun _ _ _ signed => ⟨decide_eq_true (sample_issued signed).2, rfl⟩ }
  der certificate bytes written := by
    obtain rfl := Option.some.inj written
    exact ⟨(sample_der certificate).1, congrArg Int.ofNat (sample_der certificate).2.symm⟩
  certifies certificate key := by
    change decide (certificate.key = key) = true ↔ some certificate.key = some key
    rw [decide_eq_true_iff, Option.some_inj]
  spki _ := rfl

def sampleVisit (now : Int) : Visit { text // Control.isLowerUuid text = true } (Buffer 32) where
  refusals := ⟨fun _ => none, fun _ => none⟩
  newUuid := ⟨ascii "2b1f6c3e-8f4d-4f0a-b0de-5a4f7e6d9c30", by decide⟩
  generatedKey := some sampleKey
  random := some ⟨List.replicate 16 7, by simp⟩
  first := now
  second := now
  made := now

/-- An identity is generated, loaded two years later, and renewed when it has expired. -/
theorem identity_life_sample :
    let visits := [sampleVisit 1753000000, sampleVisit 1816000000, sampleVisit 1824280000]
    (events (visited sampleX509 lifePlatform) (fun _ => none) visits).map
        (·.output.toOption.map fun out => out.runtimeIdentity.certificate.notBefore) =
          [some 1753000000, some 1753000000, some 1824280000] ∧
      IdentityLife lifePlatform sampleX509 id some
        (events (visited sampleX509 lifePlatform) (fun _ => none) visits) := by
  have forward : Forward 0 [sampleVisit 1753000000, sampleVisit 1816000000,
      sampleVisit 1824280000] := by
    simp [Forward, sampleVisit, Visit.Ordered]
  exact ⟨by decide +kernel, identity_life life_dependable forward _⟩

end Sample

end GhostMedia.Security
