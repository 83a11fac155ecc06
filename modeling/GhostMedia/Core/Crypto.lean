import GhostMedia.Core.Abi

/- Peer ids and trust records of gm_crypto.cpp. -/
namespace GhostMedia.Crypto
open CString

def kPeerIdAlphabet : List UInt8 := ascii "abcdefghijklmnopqrstuvwxyz234567"

def peerIdDigit (alphabetIndex : UInt32) : UInt8 :=
  kPeerIdAlphabet.getD (alphabetIndex &&& 0x1f).toNat 0

/-- The inner loop: the digits of the complete groups of five bits, and the bits left. -/
def peerIdGroups (bitBuffer : UInt32) : Nat → List UInt8 × Nat
  | bitsAvailable + 5 =>
    let (digits, left) := peerIdGroups bitBuffer bitsAvailable
    (peerIdDigit (bitBuffer >>> UInt32.ofNat bitsAvailable) :: digits, left)
  | bitsAvailable => ([], bitsAvailable)

def peerIdDigits (bitBuffer : UInt32) (bitsAvailable : Nat) : List UInt8 → List UInt8
  | [] =>
    if bitsAvailable ≠ 0 then [peerIdDigit (bitBuffer <<< UInt32.ofNat (5 - bitsAvailable))] else []
  | byte :: input =>
    let bitBuffer := (bitBuffer <<< 8) ||| byte.toUInt32
    let (digits, bitsAvailable) := peerIdGroups bitBuffer (bitsAvailable + 8)
    digits ++ peerIdDigits bitBuffer bitsAvailable input

/-- The peer id for an output of the size it needs, without the NUL behind it. -/
def gmIdentityEncodePeerId (spkiDigest : List UInt8) : Except GmStatus (List UInt8) :=
  if spkiDigest.length ≠ gmSpkiDigestBytes then .error .badMessage
  else
    let output := peerIdDigits 0 0 spkiDigest
    if output.length = gmPeerIdBase32Bytes then .ok output else .error .internal

def knownPermission (permission : UInt32) : Bool :=
  permission = gmTrustPermissionConnect || permission = gmTrustPermissionViewStatus ||
    permission = gmTrustPermissionReceiveSystemAudio ||
    permission = gmTrustPermissionProvideMicrophone || permission = gmTrustPermissionProvideCamera

def gmTrustRecordAuthorizes (record : GmTrustRecord) (permission : UInt32) :
    Except GmStatus UInt8 :=
  if record.structSize < sizeofGmTrustRecord || record.abiVersion ≠ gmAbiVersion ||
      !knownPermission permission || record.revoked > 1 || !record.reserved.bytes.all (· = 0) then
    .error .badArgument
  else
    .ok (if record.revoked = 0 && record.permissions &&& permission = permission then 1 else 0)

end GhostMedia.Crypto
