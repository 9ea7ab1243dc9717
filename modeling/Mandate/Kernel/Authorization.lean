import Mandate.Kernel.Codec

/-! Authorization envelopes: how a signer committed to a mandate digest under a domain.
The curve's recovery is the platform's; every check around it is the kernel's. -/
namespace Mandate.Kernel
open Core Lib.Wire Lib.Text

variable [Keccak]

def mandateDigest (m : CanonicalMandate) : Digest32 := keccakDigest (encodeMandate m)
def candidateDigest (c : ExecutionCandidate) : Digest32 := keccakDigest (encodeCandidate c)
def trustedStateDigest (s : TrustedState) : Digest32 := keccakDigest (encodeTrustedState s)

abbrev Address := BitVec 160

def Address.bytes (address : Address) : Bytes := beBytes 20 address.toNat
def Address.ofBytes (bytes : Bytes) : Address := BitVec.ofNat 160 (beNat bytes)
def Address.toHex (address : Address) : String := bytesToHex (Address.bytes address)

structure Eip712DomainInput where
  name : String
  version : String
  chainId : IntegerInput
  verifyingContract : String

abbrev ShortText (max : Nat) := {text : String // 0 < utf16Length text ∧ utf16Length text ≤ max}

structure Eip712Domain where
  name : ShortText 128
  version : ShortText 32
  chainId : IntegerInRange 0 UINT256_MAX
  verifyingContract : Address
deriving DecidableEq

def parseShortText (raw : String) (max : Nat) : KernelResult (ShortText max) :=
  if short : 0 < utf16Length raw ∧ utf16Length raw ≤ max then .ok ⟨raw, short⟩
  else .error .malformedAuthorization

def parseAddress (raw : String) (code : ReasonCode) : KernelResult Address :=
  match hexToBytes raw with
  | some bytes => if bytes.length = 20 then .ok (Address.ofBytes bytes) else .error code
  | none => .error code

def parseEip712Domain (input : Eip712DomainInput) : KernelResult Eip712Domain := do
  let name ← parseShortText input.name 128
  let version ← parseShortText input.version 32
  let verifyingContract ← parseAddress input.verifyingContract .malformedAuthorization
  let chainId ← (parseBounded input.chainId 0 UINT256_MAX .malformedAuthorization).mapError fun _ =>
    .malformedAuthorization
  .ok ⟨name, version, chainId, verifyingContract⟩

def EIP712_DOMAIN_TYPE : String :=
  "EIP712Domain(string name,string version,uint256 chainId,address verifyingContract)"
def MANDATE_AUTHORIZATION_TYPE : String := "MandateAuthorization(bytes32 mandateDigest)"

def word (value : Nat) : Bytes := beBytes 32 value

def keccakText (text : String) : Bytes := Digest32.bytes (keccakDigest (encodeText text))

def domainSeparator (domain : Eip712Domain) : Digest32 :=
  keccakDigest (keccakText EIP712_DOMAIN_TYPE ++ keccakText domain.name.1 ++ keccakText domain.version.1 ++
    word domain.chainId.1.toNat ++ word domain.verifyingContract.toNat)

def mandateAuthorizationStructHash (digest : Digest32) : Digest32 :=
  keccakDigest (keccakText MANDATE_AUTHORIZATION_TYPE ++ Digest32.bytes digest)

def eip712SigningHash (domain : Eip712Domain) (digest : Digest32) : Digest32 :=
  keccakDigest ([0x19, 0x01] ++ Digest32.bytes (domainSeparator domain) ++
    Digest32.bytes (mandateAuthorizationStructHash digest))

/-- The platform's curve: the uncompressed public key a signature recovers to, or a throw. -/
class Secp256k1 where
  recoverPublicKey (hash : Digest32) (r s : Nat) (recovery : Nat) : Option Bytes

def SECP256K1_ORDER : Nat := 0xFFFFFFFFFFFFFFFFFFFFFFFFFFFFFFFEBAAEDCE6AF48A03BBFD25E8CD0364141

def AUTHORIZATION_SCHEME : String := "eip712-secp256k1"

structure AuthorizationInput where
  scheme : String
  signer : PartyIdInput
  signature : String
  domain : Eip712DomainInput

structure AuthorizationEnvelope where
  signer : PartyId
  signature : Bytes
  domain : Eip712Domain
  addressed : signer.kind.1 = PARTY_KIND_EIP155_ADDRESS
  sized : signature.length = 65

def parseAuthorizationEnvelope (input : AuthorizationInput) : KernelResult AuthorizationEnvelope :=
  if input.scheme ≠ AUTHORIZATION_SCHEME then .error .authorizationSchemeUnsupported
  else do
    let signer ← (parsePartyId input.signer).mapError fun _ => .malformedAuthorization
    if addressed : signer.kind.1 = PARTY_KIND_EIP155_ADDRESS then
      match hexToBytes input.signature with
      | some signature =>
        if sized : signature.length = 65 then do
          let domain ← parseEip712Domain input.domain
          .ok ⟨signer, signature, domain, addressed, sized⟩
        else .error .malformedAuthorization
      | none => .error .malformedAuthorization
    else .error .malformedAuthorization

/-- The address is the low 20 bytes of the hash of the key without its prefix. -/
def addressFromPublicKey (uncompressed : Bytes) : String :=
  bytesToHex ((Digest32.bytes (keccakDigest (uncompressed.drop 1))).drop 12)

/-- That `envelope.signer` committed to the digest under the deployment's domain. Only the
canonical recovery ids and low `s` are taken, so one signature has one form. -/
def verifyAuthorization [Secp256k1] (envelope : AuthorizationEnvelope) (digest : Digest32)
    (expectedDomain : Eip712Domain) : KernelResult PartyId :=
  if envelope.domain ≠ expectedDomain then .error .authorizationDomainMismatch
  else
    let v := (envelope.signature.getD 64 0).toNat
    let r := beNat (envelope.signature.take 32)
    let s := beNat ((envelope.signature.drop 32).take 32)
    if v ≠ 27 ∧ v ≠ 28 then .error .signatureInvalid
    else if r = 0 ∨ SECP256K1_ORDER ≤ r ∨ s = 0 ∨ SECP256K1_ORDER ≤ s then .error .signatureInvalid
    else if SECP256K1_ORDER / 2 < s then .error .signatureInvalid
    else match Secp256k1.recoverPublicKey (eip712SigningHash expectedDomain digest) r s (v - 27) with
      | none => .error .signatureInvalid
      | some key =>
        if addressFromPublicKey key ≠ envelope.signer.value.1 then .error .signatureInvalid
        else .ok envelope.signer

end Mandate.Kernel
