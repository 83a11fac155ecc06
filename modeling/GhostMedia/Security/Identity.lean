import GhostMedia.Core.Crypto
import GhostMedia.Security.SecureStore

/- The identity of the output server: identity_provider.cpp over OpenSSL, and the manager
   of IdentityStore.swift that loads it from the secure store, renews or migrates it, or
   makes a new one. OpenSSL and Foundation's codecs are parameters, and so is what differs
   from call to call: the clock behind the certificate checks, random values and refusals. -/
namespace GhostMedia.Security
open CString

inductive CertificateProfileResult where
  | valid
  | notYetValid
  | expired
  | invalid
  deriving DecidableEq

structure StoredIdentity where
  privateKeyPkcs8 : List UInt8
  certificateDer : List UInt8
  deriving DecidableEq

/-- The functions of OpenSSL and Foundation that the identity code calls. -/
structure Platform (Uuid Key Certificate : Type) where
  uuidText : Uuid → List UInt8
  parseUuid : List UInt8 → Option Uuid
  encodeStored : StoredIdentity → Option (List UInt8)
  decodeStored : List UInt8 → Option StoredIdentity
  pkcs8Key : List UInt8 → Option Key
  keyPkcs8 : Key → Option (List UInt8)
  rawKey : List UInt8 → Option Key
  derCertificate : List UInt8 → Option Certificate
  certificateDer : Certificate → Option (List UInt8)
  certifies : Certificate → Key → Bool
  keySpki : Key → Option (List UInt8)
  sha256 : List UInt8 → Option (Buffer gmSpkiDigestBytes)

/-- What one call of `loadOrCreate` meets. -/
structure Surroundings (Uuid Key Certificate : Type) where
  refusals : Refusals
  newUuid : Uuid
  generatedKey : Option Key
  madeCertificate : Key → Option Certificate
  certificateProfile : Certificate → CertificateProfileResult

/-- `Ed25519Identity` behind a handle of the runtime. -/
structure RuntimeIdentity (Key Certificate : Type) where
  key : Key
  certificate : Certificate

structure AppleOutputIdentity (Uuid Key Certificate : Type) where
  serverId : Uuid
  peerId : List UInt8
  spkiDer : List UInt8
  spkiDigest : Buffer gmSpkiDigestBytes
  certificateDer : List UInt8
  runtimeIdentity : RuntimeIdentity Key Certificate

abbrev longMax : Nat := 9223372036854775807
abbrev intMax : Nat := 2147483647

variable {Uuid Key Certificate : Type} (platform : Platform Uuid Key Certificate)
  (around : Surroundings Uuid Key Certificate)

namespace Ed25519Identity

def decodePkcs8 (privateKeyPkcs8 : List UInt8) : Option Key :=
  if privateKeyPkcs8 = [] ∨ privateKeyPkcs8.length > longMax then none
  else platform.pkcs8Key privateKeyPkcs8

/-- The bytes of an encoder of OpenSSL, whose size is an `int` that must be positive. -/
def encoded (der : Option (List UInt8)) : Option (List UInt8) :=
  der.filter fun bytes => 0 < bytes.length && bytes.length ≤ intMax

def privateKeyPkcs8 (identity : RuntimeIdentity Key Certificate) : Option (List UInt8) :=
  encoded (platform.keyPkcs8 identity.key)

def certificateDer (identity : RuntimeIdentity Key Certificate) : Option (List UInt8) :=
  encoded (platform.certificateDer identity.certificate)

def publicKeySpkiDer (identity : RuntimeIdentity Key Certificate) : Option (List UInt8) :=
  encoded (platform.keySpki identity.key)

def generate : Except GmStatus (RuntimeIdentity Key Certificate) :=
  match around.generatedKey with
  | none => .error .internal
  | some key =>
    match around.madeCertificate key with
    | none => .error .internal
    | some certificate => .ok ⟨key, certificate⟩

/-- The checks that `load` and `load_raw_private_key` share. -/
def checked (key : Option Key) (certificate : Option Certificate) :
    Except GmStatus (RuntimeIdentity Key Certificate) :=
  match key, certificate with
  | some key, some certificate =>
    if !platform.certifies certificate key then .error .badMessage
    else
      match around.certificateProfile certificate with
      | .expired => .error .stateConflict
      | .valid => .ok ⟨key, certificate⟩
      | .notYetValid | .invalid => .error .badMessage
  | _, _ => .error .badMessage

def load (privateKeyPkcs8 certificateDer : List UInt8) :
    Except GmStatus (RuntimeIdentity Key Certificate) :=
  if privateKeyPkcs8 = [] ∨ certificateDer = [] ∨ privateKeyPkcs8.length > longMax ∨
      certificateDer.length > gmIdentityLeafDerMaxBytes then
    .error .badArgument
  else
    checked platform around (decodePkcs8 platform privateKeyPkcs8)
      (platform.derCertificate certificateDer)

def loadRawPrivateKey (privateKeyRaw certificateDer : List UInt8) :
    Except GmStatus (RuntimeIdentity Key Certificate) :=
  if privateKeyRaw.length ≠ 32 ∨ certificateDer = [] ∨
      certificateDer.length > gmIdentityLeafDerMaxBytes then
    .error .badArgument
  else
    checked platform around (platform.rawKey privateKeyRaw)
      (platform.derCertificate certificateDer)

/-- A key, if there is one, under a new certificate. -/
def renewed (key : Option Key) : Except GmStatus (RuntimeIdentity Key Certificate) :=
  match key with
  | none => .error .badMessage
  | some key =>
    match around.madeCertificate key with
    | none => .error .internal
    | some certificate => .ok ⟨key, certificate⟩

def renewRawPrivateKey (privateKeyRaw : List UInt8) :
    Except GmStatus (RuntimeIdentity Key Certificate) :=
  if privateKeyRaw.length ≠ 32 then .error .badArgument
  else renewed around (platform.rawKey privateKeyRaw)

def renewCertificate (privateKeyPkcs8 : List UInt8) :
    Except GmStatus (RuntimeIdentity Key Certificate) :=
  renewed around (decodePkcs8 platform privateKeyPkcs8)

end Ed25519Identity

section Manager

def serverIdKey : List UInt8 := ascii "server-id"
def identityKey : List UInt8 := ascii "identity-ed25519-pkcs8-and-certificate"
def legacySigningKey : List UInt8 := ascii "identity-ed25519-private-key"
def legacyCertificate : List UInt8 := ascii "identity-ed25519-leaf-certificate"

/-- The status of a runtime function that hands out its result on `GM_OK` only. -/
def statusOf {α : Type} : Except GmStatus α → GmStatus
  | .ok _ => .ok
  | .error status => status

def requireRuntimeOk {α : Type} (operation : String) : Except GmStatus α → Storing α
  | .ok value => pure value
  | .error status => throw (.runtimeFailure operation (gmStatusString status))

/-- The variable output of a runtime function that fails only with `GM_INTERNAL`. -/
def copyVariableOutput (operation : String) (output : Option (List UInt8)) : Storing (List UInt8) :=
  requireRuntimeOk operation
    (match output with | some bytes => .ok bytes | none => .error .internal)

def requireStored {α : Type} (key : List UInt8) : Option α → Storing α
  | some value => pure value
  | none => throw (.invalidStoredValue key)

def appleOutputIdentity (serverId : Uuid) (runtimeIdentity : RuntimeIdentity Key Certificate) :
    Storing (AppleOutputIdentity Uuid Key Certificate) := do
  let spkiDer ← copyVariableOutput "gm_runtime_identity_spki_der"
    (Ed25519Identity.publicKeySpkiDer platform runtimeIdentity)
  let digest ← requireRuntimeOk "gm_runtime_identity_spki_sha256"
    (match platform.sha256 spkiDer with | some digest => .ok digest | none => .error .internal)
  let certificateDer ← copyVariableOutput "gm_runtime_identity_certificate_der"
    (Ed25519Identity.certificateDer platform runtimeIdentity)
  match Crypto.gmIdentityEncodePeerId digest.bytes with
  | .ok peerId => return ⟨serverId, peerId, spkiDer, digest, certificateDer, runtimeIdentity⟩
  | .error status =>
    throw (.protocolCore (.callFailed "gm_identity_encode_peer_id" (gmStatusString status)))

def loadOrCreateServerId : Storing Uuid := do
  match ← SecureStore.data around.refusals serverIdKey with
  | some stored => requireStored serverIdKey (platform.parseUuid stored)
  | none =>
    SecureStore.set around.refusals (platform.uuidText around.newUuid) serverIdKey
    return around.newUuid

def generateIdentity : Storing (RuntimeIdentity Key Certificate) :=
  requireRuntimeOk "gm_runtime_identity_generate" (Ed25519Identity.generate around)

def persist (identity : RuntimeIdentity Key Certificate) : Storing Unit := do
  let privateKeyPkcs8 ← copyVariableOutput "gm_runtime_identity_private_key_pkcs8"
    (Ed25519Identity.privateKeyPkcs8 platform identity)
  let certificateDer ← copyVariableOutput "gm_runtime_identity_certificate_der"
    (Ed25519Identity.certificateDer platform identity)
  match platform.encodeStored ⟨privateKeyPkcs8, certificateDer⟩ with
  | some encoded => SecureStore.set around.refusals encoded identityKey
  | none => throw .encoding

def renewIdentity (privateKeyPkcs8 : List UInt8) : Storing (RuntimeIdentity Key Certificate) :=
  requireStored identityKey
    (Ed25519Identity.renewCertificate platform around privateKeyPkcs8).toOption

def loadOrRenewIdentity (stored : StoredIdentity) : Storing (RuntimeIdentity Key Certificate) :=
  let loaded := Ed25519Identity.load platform around stored.privateKeyPkcs8 stored.certificateDer
  if statusOf loaded = .stateConflict then do
    let renewed ← renewIdentity platform around stored.privateKeyPkcs8
    persist platform around renewed
    return renewed
  else requireStored identityKey loaded.toOption

def renewLegacyIdentity (privateKeyRaw : List UInt8) : Storing (RuntimeIdentity Key Certificate) :=
  requireStored identityKey
    (Ed25519Identity.renewRawPrivateKey platform around privateKeyRaw).toOption

def loadLegacyIdentity (privateKeyRaw certificateDer : List UInt8) :
    Storing (RuntimeIdentity Key Certificate) :=
  let loaded := Ed25519Identity.loadRawPrivateKey platform around privateKeyRaw certificateDer
  if statusOf loaded = .stateConflict then renewLegacyIdentity platform around privateKeyRaw
  else requireStored identityKey loaded.toOption

/-- The branch of `loadOrCreate` for a store without an identity in the current format. -/
def migrateOrGenerate : Storing (RuntimeIdentity Key Certificate) := do
  let key ← SecureStore.data around.refusals legacySigningKey
  let certificate ← SecureStore.data around.refusals legacyCertificate
  match key, certificate with
  | some key, some certificate =>
    let identity ← loadLegacyIdentity platform around key certificate
    persist platform around identity
    return identity
  | none, none =>
    let identity ← generateIdentity around
    persist platform around identity
    return identity
  | _, _ => throw (.invalidStoredValue identityKey)

/-- The identity in the current format, or what replaces a missing one. -/
def loadIdentity : Storing (RuntimeIdentity Key Certificate) := do
  match ← SecureStore.data around.refusals identityKey with
  | some storedData =>
    let stored ← requireStored identityKey (platform.decodeStored storedData)
    loadOrRenewIdentity platform around stored
  | none => migrateOrGenerate platform around

def loadOrCreate : Storing (AppleOutputIdentity Uuid Key Certificate) := do
  let serverId ← loadOrCreateServerId platform around
  let runtimeIdentity ← loadIdentity platform around
  appleOutputIdentity platform serverId runtimeIdentity

end Manager

end GhostMedia.Security
