import GhostMedia.Security.Certificate

/- The life of a certificate: one that is made passes the profile from then on until it expires,
   and one that passed it once is refused later for nothing but its time. -/
namespace GhostMedia.Security
open CString

variable {Key PublicKey Certificate Time : Type} {x509 : X509 Key PublicKey Certificate Time}
  {publicOf : Key → PublicKey} {seconds : Time → Option Int}

def isCritical (value : String) : Bool := (ascii "critical,").isPrefixOf (ascii value)

/-- What a signed certificate is read as: what was set in it. -/
structure Issued (x509 : X509 Key PublicKey Certificate Time) (publicOf : Key → PublicKey)
    (draft : Draft Key Time) (certificate : Certificate) : Prop where
  size : draft.serialNumber.length ≤ 20 → draft.subjectName.length ≤ 1 →
    draft.issuerName.length ≤ 1 → draft.extensions.length ≤ 3 →
    0 < x509.encodedSize certificate ∧ x509.encodedSize certificate ≤ gmIdentityLeafDerMaxBytes
  version : x509.version certificate = draft.version
  notBefore : x509.notBefore certificate = draft.notBefore
  notAfter : x509.notAfter certificate = draft.notAfter
  serialLength :
    x509.serialLength certificate = (draft.serialNumber.dropWhile (· = 0)).length
  names : x509.sameNames certificate = decide (draft.subjectName = draft.issuerName)
  publicKey : x509.publicKey certificate = some (publicOf draft.publicKey)
  hasExtension : ∀ nid, x509.hasExtension certificate nid =
    draft.extensions.any fun extension => extension.1 = nid
  extensions : x509.extensions certificate =
    draft.extensions.map fun extension => (extension.1, isCritical extension.2)
  basicConstraints : draft.extensions.filter (·.1 = .basicConstraints) =
    [(.basicConstraints, "critical,CA:FALSE")] → x509.basicConstraints certificate = (some 0, 1)
  keyUsage : draft.extensions.filter (·.1 = .keyUsage) =
    [(.keyUsage, "critical,digitalSignature")] →
    x509.keyUsage certificate = (some (true :: List.replicate 7 false), 1)
  extKeyUsage : draft.extensions.filter (·.1 = .extKeyUsage) =
    [(.extKeyUsage, "clientAuth,serverAuth")] →
    x509.extKeyUsage certificate = some [.clientAuth, .serverAuth]

/-- What OpenSSL's functions are relied on for; `seconds` is what a time stands for. -/
structure Documented (x509 : X509 Key PublicKey Certificate Time) (publicOf : Key → PublicKey)
    (seconds : Time → Option Int) : Prop where
  timeAdj : ∀ days offset now time, x509.timeAdj days offset now = some time →
    seconds time = some (now + days * 86400 + offset)
  cmpTime : ∀ time at', x509.cmpTime time at' =
    (seconds time).elim 0 fun value => if value ≤ at' then -1 else 1
  timeDiff : ∀ first last, x509.timeDiff first last = (seconds first).bind fun start =>
    (seconds last).map fun finish =>
      ((finish - start).tdiv 86400, (finish - start).tmod 86400)
  ed25519 : ∀ key, x509.keyId (publicOf key) = .ed25519
  issued : ∀ draft key certificate, x509.sign draft key = some certificate →
    Issued x509 publicOf draft certificate
  selfSigned : ∀ draft key certificate, x509.sign draft key = some certificate →
    x509.verify certificate (publicOf key) = true ∧
      x509.signatureNid certificate = x509.keyId (publicOf key)

/-- What is set in a certificate that is made. -/
structure Made (x509 : X509 Key PublicKey Certificate Time) (now : Int) (key : Key)
    (certificate : Certificate) (draft : Draft Key Time) : Prop where
  signed : x509.sign draft key = some certificate
  version : draft.version = 2
  serial : ∃ first rest, draft.serialNumber = first :: rest ∧ first ≠ 0 ∧ rest.length = 15
  notBefore : x509.timeAdj 0 0 now = some draft.notBefore
  notAfter : x509.timeAdj kCertificateValidityDays 0 now = some draft.notAfter
  publicKey : draft.publicKey = key
  subjectName : draft.subjectName = [(.commonName, "GhostMedia")]
  issuerName : draft.issuerName = draft.subjectName
  extensions : draft.extensions = addedExtensions

theorem make_certificate_made {now : Int} {random : Option (Buffer 16)} {key : Key}
    {certificate : Certificate} (made : makeCertificate x509 now random key = some certificate) :
    ∃ draft, Made x509 now key certificate draft := by
  obtain ⟨serial, drawn, made⟩ := Option.bind_eq_some_iff.mp made
  split at made
  · cases made
  obtain ⟨notBefore, before, made⟩ := Option.bind_eq_some_iff.mp made
  obtain ⟨notAfter, after, made⟩ := Option.bind_eq_some_iff.mp made
  dsimp only at made
  split at made
  swap
  · cases made
  obtain ⟨bytes, -, rfl⟩ := Option.map_eq_some_iff.mp drawn
  have serial : ∃ first rest, bytes.bytes.modifyHead (fun byte => byte &&& 0x7f ||| 0x40) =
      first :: rest ∧ first ≠ 0 ∧ rest.length = 15 := by
    obtain ⟨bytes, size⟩ := bytes
    cases bytes with
    | nil => cases size
    | cons byte rest =>
      refine ⟨_, rest, rfl, ?_, Nat.succ.inj size⟩
      intro zero
      exact absurd (UInt8.or_eq_zero_iff.mp zero).2 (by decide)
  exact ⟨_, made, rfl, serial, before, after, rfl, rfl, rfl, rfl⟩

section Checks
variable {now : Int} {key : Key} {certificate : Certificate} {draft : Draft Key Time}

theorem made_within_limits (documented : Documented x509 publicOf seconds)
    (made : Made x509 now key certificate draft) : withinLimits x509 certificate = true := by
  have issued := documented.issued _ _ _ made.signed
  obtain ⟨first, rest, serial, -, length⟩ := made.serial
  have size := issued.size (by rw [serial, List.length_cons, length]; decide)
    (by rw [made.subjectName]; decide) (by rw [made.issuerName, made.subjectName]; decide)
    (by rw [made.extensions]; decide)
  have version : x509.version certificate = 2 := issued.version.trans made.version
  simp only [withinLimits, size, version, decide_true, Bool.and_self]

theorem made_lifetime (documented : Documented x509 publicOf seconds)
    (made : Made x509 now key certificate draft) : validLifetime x509 certificate = true := by
  have issued := documented.issued _ _ _ made.signed
  have starts := documented.timeAdj _ _ _ _ made.notBefore
  have ends := documented.timeAdj _ _ _ _ made.notAfter
  have length : now + kCertificateValidityDays * 86400 + 0 - (now + 0 * 86400 + 0) =
      825 * 86400 := by
    rw [kCertificateValidityDays]
    omega
  unfold validLifetime
  rw [issued.notBefore, issued.notAfter, documented.timeDiff, starts, ends, Option.bind_some,
    Option.map_some, length]
  decide

theorem made_names (documented : Documented x509 publicOf seconds)
    (made : Made x509 now key certificate draft) : validNames x509 certificate = true := by
  have issued := documented.issued _ _ _ made.signed
  obtain ⟨first, rest, serial, positive, length⟩ := made.serial
  have serialLength : x509.serialLength certificate = 16 := by
    rw [issued.serialLength, serial, List.dropWhile_cons_of_neg (by simpa using positive),
      List.length_cons, length]
    rfl
  unfold validNames
  rw [serialLength, issued.hasExtension, issued.names, made.extensions, made.issuerName,
    decide_eq_true rfl]
  decide

theorem made_key (documented : Documented x509 publicOf seconds)
    (made : Made x509 now key certificate draft) : validKey x509 certificate = true := by
  have issued := documented.issued _ _ _ made.signed
  obtain ⟨verifies, nid⟩ := documented.selfSigned _ _ _ made.signed
  unfold validKey
  rw [issued.publicKey, made.publicKey]
  simp only [documented.ed25519, verifies, nid, decide_true, Bool.and_self]

theorem made_extensions (documented : Documented x509 publicOf seconds)
    (made : Made x509 now key certificate draft) :
    validBasicConstraints x509 certificate = true ∧ validKeyUsage x509 certificate = true ∧
      validExtendedKeyUsage x509 certificate = true ∧ validExtensions x509 certificate = true := by
  have issued := documented.issued _ _ _ made.signed
  have added := made.extensions
  unfold validBasicConstraints validKeyUsage validExtendedKeyUsage validExtensions
  rw [issued.basicConstraints (by rw [added]; decide), issued.keyUsage (by rw [added]; decide),
    issued.extKeyUsage (by rw [added]; decide), issued.extensions, added]
  decide

theorem made_conforms (documented : Documented x509 publicOf seconds)
    (made : Made x509 now key certificate draft) : conforms x509 certificate = true := by
  obtain ⟨constraints, usage, extended, extensions⟩ := made_extensions documented made
  simp only [conforms, made_lifetime documented made, made_names documented made,
    made_key documented made, constraints, usage, extended, extensions, Bool.and_self]

end Checks

/-- A certificate with which nothing but the time can be wrong, and which has begun by then. -/
structure Sound (x509 : X509 Key PublicKey Certificate Time) (seconds : Time → Option Int)
    (now : Int) (certificate : Certificate) : Prop where
  limits : withinLimits x509 certificate = true
  conforms : conforms x509 certificate = true
  begun : ∃ start, seconds (x509.notBefore certificate) = some start ∧ start ≤ now

/-- A certificate that has not expired at some time. -/
def Lasts (x509 : X509 Key PublicKey Certificate Time) (seconds : Time → Option Int) (now : Int)
    (certificate : Certificate) : Prop :=
  ∃ finish, seconds (x509.notAfter certificate) = some finish ∧ now < finish

section Life
variable {now first second : Int} {certificate : Certificate}

theorem sound_later (sound : Sound x509 seconds now certificate) (later : now ≤ second) :
    Sound x509 seconds second certificate := by
  obtain ⟨start, starts, begun⟩ := sound.begun
  exact ⟨sound.limits, sound.conforms, start, starts, begun.trans later⟩

theorem conforms_times (documented : Documented x509 publicOf seconds)
    (passes : conforms x509 certificate = true) :
    ∃ start finish, seconds (x509.notBefore certificate) = some start ∧
      seconds (x509.notAfter certificate) = some finish := by
  have lifetime : validLifetime x509 certificate = true := by
    simp only [conforms, Bool.and_eq_true] at passes
    exact passes.1.1.1.1.1.1
  unfold validLifetime at lifetime
  rw [documented.timeDiff] at lifetime
  cases starts : seconds (x509.notBefore certificate) with
  | none =>
    rw [starts] at lifetime
    cases lifetime
  | some start =>
    cases ends : seconds (x509.notAfter certificate) with
    | none =>
      rw [starts, ends] at lifetime
      cases lifetime
    | some finish => exact ⟨start, finish, rfl, rfl⟩

theorem sound_profile (documented : Documented x509 publicOf seconds)
    (sound : Sound x509 seconds first certificate) {finish : Int}
    (ends : seconds (x509.notAfter certificate) = some finish) :
    certificateProfile x509 first second (some certificate) =
      if finish ≤ second then .expired else .valid := by
  obtain ⟨start, starts, begun⟩ := sound.begun
  have early : ¬ x509.cmpTime (x509.notBefore certificate) first > 0 := by
    rw [documented.cmpTime, starts, Option.elim_some, if_pos begun]
    decide
  unfold certificateProfile
  dsimp only
  rw [sound.limits, Bool.not_true, if_neg Bool.false_ne_true, if_neg early, documented.cmpTime,
    ends, Option.elim_some, sound.conforms, if_pos rfl]
  split
  · exact if_pos (by decide)
  · exact if_neg (by decide)

theorem sound_valid (documented : Documented x509 publicOf seconds)
    (sound : Sound x509 seconds first certificate) (lasts : Lasts x509 seconds second certificate) :
    certificateProfile x509 first second (some certificate) = .valid := by
  obtain ⟨finish, ends, early⟩ := lasts
  rw [sound_profile documented sound ends, if_neg (Int.not_le.mpr early)]

theorem sound_or_expired (documented : Documented x509 publicOf seconds) (second : Int)
    (sound : Sound x509 seconds first certificate) :
    certificateProfile x509 first second (some certificate) = .valid ∨
      certificateProfile x509 first second (some certificate) = .expired := by
  obtain ⟨start, finish, starts, ends⟩ := conforms_times documented sound.conforms
  rw [sound_profile documented sound ends]
  split
  · exact .inr rfl
  · exact .inl rfl

/-- What a certificate is that has passed the profile once. -/
theorem valid_sound (documented : Documented x509 publicOf seconds)
    (valid : certificateProfile x509 first second (some certificate) = .valid) :
    Sound x509 seconds first certificate ∧ Lasts x509 seconds second certificate := by
  unfold certificateProfile at valid
  dsimp only at valid
  split at valid
  · cases valid
  rename_i limits
  split at valid
  · cases valid
  rename_i begun
  split at valid
  · cases valid
  rename_i early
  split at valid
  swap
  · cases valid
  rename_i passes
  obtain ⟨start, finish, starts, ends⟩ := conforms_times documented passes
  rw [documented.cmpTime, starts, Option.elim_some] at begun
  rw [documented.cmpTime, ends, Option.elim_some] at early
  refine ⟨⟨by simpa using limits, passes, start, starts, ?_⟩, finish, ends, ?_⟩
  · by_contra later
    exact begun (by rw [if_neg later]; decide)
  · by_contra expired
    exact early (by rw [if_pos (Int.not_lt.mp expired)]; decide)

/-- A certificate is made sound, for 825 days. -/
theorem make_certificate_sound (documented : Documented x509 publicOf seconds)
    {random : Option (Buffer 16)} {key : Key}
    (made : makeCertificate x509 now random key = some certificate) :
    Sound x509 seconds now certificate ∧
      (∀ later, later < now + 825 * 86400 → Lasts x509 seconds later certificate) ∧
      x509.publicKey certificate = some (publicOf key) := by
  obtain ⟨draft, made⟩ := make_certificate_made made
  have issued := documented.issued _ _ _ made.signed
  have starts := documented.timeAdj _ _ _ _ made.notBefore
  have ends := documented.timeAdj _ _ _ _ made.notAfter
  rw [← issued.notBefore] at starts
  rw [← issued.notAfter, kCertificateValidityDays] at ends
  refine ⟨⟨made_within_limits documented made, made_conforms documented made, _, starts, ?_⟩, ?_,
    ?_⟩
  · omega
  · intro later early
    exact ⟨_, ends, by omega⟩
  · rw [issued.publicKey, made.publicKey]

end Life

end GhostMedia.Security
