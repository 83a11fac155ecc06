import GhostMedia.Security.Identity

/- The certificates that identity_provider.cpp makes, the profile that certificate_profile.cpp
   holds them to, and what tls_provider.cpp accepts from a peer. OpenSSL is a parameter; clock
   readings are in seconds. -/
namespace GhostMedia.Security
open CString

inductive Nid where
  | commonName
  | basicConstraints
  | keyUsage
  | extKeyUsage
  | subjectAltName
  | clientAuth
  | serverAuth
  | ed25519
  | other (id : Nat)
  deriving DecidableEq

/-- What is set in a certificate before it is signed; the serial number by its bytes. -/
structure Draft (Key Time : Type) where
  version : Int
  serialNumber : List UInt8
  notBefore : Time
  notAfter : Time
  publicKey : Key
  subjectName : List (Nid × String)
  issuerName : List (Nid × String)
  extensions : List (Nid × String)

/-- The functions of OpenSSL that make and read certificates. An extension in a certificate is
    its object and whether it is critical; a bit string is read by its bits. -/
structure X509 (Key PublicKey Certificate Time : Type) where
  timeAdj : Int → Int → Int → Option Time
  knowsExtension : Nid → String → Bool
  sign : Draft Key Time → Key → Option Certificate
  encodedSize : Certificate → Int
  version : Certificate → Int
  notBefore : Certificate → Time
  notAfter : Certificate → Time
  cmpTime : Time → Int → Int
  timeDiff : Time → Time → Option (Int × Int)
  serialLength : Certificate → Int
  hasExtension : Certificate → Nid → Bool
  sameNames : Certificate → Bool
  publicKey : Certificate → Option PublicKey
  keyId : PublicKey → Nid
  verify : Certificate → PublicKey → Bool
  signatureNid : Certificate → Nid
  basicConstraints : Certificate → Option Int × Int
  keyUsage : Certificate → Option (List Bool) × Int
  extKeyUsage : Certificate → Option (List Nid)
  extensions : Certificate → List (Nid × Bool)
  publicKeySpki : PublicKey → Option (List UInt8)

variable {Key PublicKey Certificate Time : Type} (x509 : X509 Key PublicKey Certificate Time)

section Making

/-- A serial number of sixteen random bytes, positive and without leading zeros. -/
def setRandomSerial (random : Option (Buffer 16)) : Option (List UInt8) :=
  random.map fun serialBytes => serialBytes.bytes.modifyHead fun byte => byte &&& 0x7f ||| 0x40

def kCertificateValidityDays : Int := 825

/-- The extensions that are added, in their order. -/
def addedExtensions : List (Nid × String) :=
  [(.basicConstraints, "critical,CA:FALSE"), (.keyUsage, "critical,digitalSignature"),
    (.extKeyUsage, "clientAuth,serverAuth")]

def makeCertificate (now : Int) (random : Option (Buffer 16)) (key : Key) :
    Option Certificate := do
  let serial ← setRandomSerial random
  if now = -1 then none
  else
    let notBefore ← x509.timeAdj 0 0 now
    let notAfter ← x509.timeAdj kCertificateValidityDays 0 now
    let subject := [(.commonName, "GhostMedia")]
    if addedExtensions.all fun extension => x509.knowsExtension extension.1 extension.2 then
      x509.sign ⟨2, serial, notBefore, notAfter, key, subject, subject, addedExtensions⟩ key
    else none

end Making

section Profile
variable (certificate : Certificate)

def withinLimits : Bool :=
  0 < x509.encodedSize certificate &&
    x509.encodedSize certificate ≤ (gmIdentityLeafDerMaxBytes : Int) &&
    x509.version certificate = 2

def validLifetime : Bool :=
  match x509.timeDiff (x509.notBefore certificate) (x509.notAfter certificate) with
  | none => false
  | some (validityDays, validitySeconds) =>
    !(validityDays > 825 || (validityDays = 825 && validitySeconds > 0))

def validNames : Bool :=
  x509.serialLength certificate ≥ 8 && !x509.hasExtension certificate .subjectAltName &&
    x509.sameNames certificate

def validKey : Bool :=
  match x509.publicKey certificate with
  | none => false
  | some publicKey =>
    x509.keyId publicKey = .ed25519 && x509.verify certificate publicKey &&
      x509.signatureNid certificate = .ed25519

def validBasicConstraints : Bool :=
  match x509.basicConstraints certificate with
  | (some ca, critical) => critical = 1 && ca = 0
  | (none, _) => false

/-- The first bit is set and no other. -/
def validKeyUsage : Bool :=
  match x509.keyUsage certificate with
  | (some bits, critical) => critical = 1 && bits.head? = some true && bits.tail.all (! ·)
  | (none, _) => false

def validExtendedKeyUsage : Bool :=
  match x509.extKeyUsage certificate with
  | some usages =>
    usages.count .clientAuth = 1 && usages.count .serverAuth = 1 &&
      usages.all fun nid => nid = .clientAuth || nid = .serverAuth
  | none => false

def validExtensions : Bool :=
  (x509.extensions certificate).all fun (nid, critical) =>
    !critical || nid = .basicConstraints || nid = .keyUsage || nid = .extKeyUsage

/-- What the profile asks apart from the time. -/
def conforms : Bool :=
  validLifetime x509 certificate && validNames x509 certificate && validKey x509 certificate &&
    validBasicConstraints x509 certificate && validKeyUsage x509 certificate &&
    validExtendedKeyUsage x509 certificate && validExtensions x509 certificate

/-- The profile at two readings of the clock, one for each end of the lifetime. -/
def certificateProfile (first second : Int) : Option Certificate → CertificateProfileResult
  | none => .invalid
  | some certificate =>
    if !withinLimits x509 certificate then .invalid
    else if x509.cmpTime (x509.notBefore certificate) first > 0 then .notYetValid
    else if x509.cmpTime (x509.notAfter certificate) second < 0 then .expired
    else if conforms x509 certificate then .valid
    else .invalid

end Profile

section Peers
variable (sha256 : List UInt8 → Option (Buffer gmSpkiDigestBytes))

def certificateSpkiDigest (certificate : Certificate) : Option (Buffer gmSpkiDigestBytes) :=
  (x509.publicKey certificate).bind fun publicKey =>
    (Ed25519Identity.encoded (x509.publicKeySpki publicKey)).bind sha256

/-- The answer of the verification callback to a peer's chain, at two readings of the clock. -/
def verifyPeerCertificate (first second : Int)
    (expectedDigest : Option (Buffer gmSpkiDigestBytes)) (errorDepth : Int)
    (chain : Option (List Certificate)) (certificate : Option Certificate) : Bool :=
  expectedDigest.isSome && errorDepth = 0 && (chain.any fun chain => chain.length = 1) &&
    certificateProfile x509 first second certificate = .valid &&
    match certificate.bind (certificateSpkiDigest x509 sha256) with
    | none => false
    | some actualDigest => some actualDigest = expectedDigest

end Peers

end GhostMedia.Security
