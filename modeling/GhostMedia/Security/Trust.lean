import GhostMedia.Security.Identity

/- The trust store of IdentityStore.swift: one record for each peer, under a key made from
   its digest, in the store that holds the identity too. The JSON codec is a parameter. -/
namespace GhostMedia.Security
open CString

structure StoredTrustRecord where
  peerSpkiDigest : List UInt8
  permissions : UInt32
  isRevoked : Bool
  deriving DecidableEq

structure TrustCodec where
  encode : StoredTrustRecord → Option (List UInt8)
  decode : List UInt8 → Option StoredTrustRecord

def hexDigit (nibble : UInt8) : UInt8 := if nibble < 10 then 48 + nibble else 87 + nibble

/-- The format `%02x`. -/
def hexByte (byte : UInt8) : List UInt8 := [hexDigit (byte / 16), hexDigit (byte % 16)]

def trustKey (digest : List UInt8) : List UInt8 := ascii "trust-" ++ digest.flatMap hexByte

/-- `ProtocolCore.trustRecord` -/
def trustRecord (record : StoredTrustRecord) (permission : UInt32) : Storing Bool :=
  if size : record.peerSpkiDigest.length = gmSpkiDigestBytes then
    let rawRecord : GmTrustRecord := {
      structSize := sizeofGmTrustRecord
      abiVersion := gmAbiVersion
      peerSpkiDigest := ⟨record.peerSpkiDigest, size⟩
      permissions := record.permissions
      revoked := if record.isRevoked then 1 else 0
      reserved := zero _ }
    match Crypto.gmTrustRecordAuthorizes rawRecord permission with
    | .ok authorized => pure (authorized ≠ 0)
    | .error status =>
      throw (.protocolCore (.callFailed "gm_trust_record_authorizes" (gmStatusString status)))
  else
    throw (.protocolCore (.callFailed "copy_fixed_bytes"
      s!"expected {gmSpkiDigestBytes} bytes, got {record.peerSpkiDigest.length}"))

namespace AppleTrustStore
variable (codec : TrustCodec) (refusals : Refusals)

def record (peerSpkiDigest : List UInt8) : Storing (Option StoredTrustRecord) := do
  match ← SecureStore.data refusals (trustKey peerSpkiDigest) with
  | none => return none
  | some data =>
    match codec.decode data with
    | some record => return some record
    | none => throw (.invalidStoredValue (trustKey peerSpkiDigest))

def save (record : StoredTrustRecord) : Storing Unit :=
  match codec.encode record with
  | some data => SecureStore.set refusals data (trustKey record.peerSpkiDigest)
  | none => throw .encoding

def authorizes (peerSpkiDigest : List UInt8) (permission : UInt32) : Storing Bool :=
  if peerSpkiDigest.length ≠ 32 then pure false
  else do
    match ← record codec refusals peerSpkiDigest with
    | none => return false
    | some record => trustRecord record permission

def approve (peerSpkiDigest : List UInt8) (permissions : UInt32) : Storing Unit :=
  if peerSpkiDigest.length ≠ 32 then throw (.invalidStoredValue (ascii "peer SPKI digest"))
  else save codec refusals ⟨peerSpkiDigest, permissions, false⟩

def revoke (peerSpkiDigest : List UInt8) : Storing Unit :=
  if peerSpkiDigest.length ≠ 32 then throw (.invalidStoredValue (ascii "peer SPKI digest"))
  else do
    let found ← record codec refusals peerSpkiDigest
    let permissions := match found with | some record => record.permissions | none => 0
    save codec refusals ⟨peerSpkiDigest, permissions, true⟩

end AppleTrustStore

end GhostMedia.Security
