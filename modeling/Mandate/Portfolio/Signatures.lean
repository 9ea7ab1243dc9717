import Mandate.Kernel.Authorization
import Mandate.Portfolio.PortfolioMandate

/-! Who signed a portfolio mandate: the prehash of its digest, or a wallet's typed message.
Each scheme signs a message of its own, so no signature stands for another. -/
namespace Mandate.Portfolio
open Core Lib.Wire Lib.Text
open Kernel (Secp256k1 SECP256K1_ORDER addressFromPublicKey word keccakText)

variable [Keccak] [Secp256k1]

/-- The signer under the kernel's rule: 65 bytes, `v` of 27 or 28, canonical `r` and low `s`. -/
def recoverSigner (hash : Digest32) (signature : String) : Option String :=
  match hexToBytes signature with
  | none => none
  | some bytes =>
    let v := (bytes.getD 64 0).toNat
    let r := beNat (bytes.take 32)
    let s := beNat ((bytes.drop 32).take 32)
    if bytes.length ≠ 65 then none
    else if v ≠ 27 ∧ v ≠ 28 then none
    else if r = 0 ∨ SECP256K1_ORDER ≤ r ∨ s = 0 ∨ SECP256K1_ORDER ≤ s ∨ SECP256K1_ORDER / 2 < s then none
    else (Secp256k1.recoverPublicKey hash r s (v - 27)).map addressFromPublicKey

theorem recoverSigner_some {hash : Digest32} {signature address : String} {read : Option Bytes}
    (reads : hexToBytes signature = read) (recovers : read.any (fun bytes =>
      let v := (bytes.getD 64 0).toNat
      let r := beNat (bytes.take 32)
      let s := beNat ((bytes.drop 32).take 32)
      decide (bytes.length = 65 ∧ (v = 27 ∨ v = 28) ∧
        ¬(r = 0 ∨ SECP256K1_ORDER ≤ r ∨ s = 0 ∨ SECP256K1_ORDER ≤ s ∨ SECP256K1_ORDER / 2 < s) ∧
        (Secp256k1.recoverPublicKey hash r s (v - 27)).map addressFromPublicKey = some address)) = true) :
    recoverSigner hash signature = some address := by
  obtain ⟨bytes, rfl, checked⟩ := (Option.any_eq_true _ _).mp recovers
  obtain ⟨sized, v, canonical, recovered⟩ := of_decide_eq_true checked
  unfold recoverSigner
  rw [reads]
  dsimp only
  rw [if_neg (not_not.mpr sized), if_neg (by omega), if_neg canonical, recovered]

def mandateSigningHash (digest : PortfolioMandateDigest) : Digest32 :=
  keccakDigest (encodeWith (fun digest =>
    portfolioWriter "PORTFOLIO_MANDATE_SIGNATURE.V1" ++ writeDigest digest) digest)

def mandateSignedByPrincipal (m : PortfolioMandate) (signature : String) : Bool :=
  m.principal.kind.1 == PARTY_KIND_EIP155_ADDRESS &&
    recoverSigner (mandateSigningHash (portfolioMandateDigest m)) signature == some m.principal.value.1

inductive PortfolioAuthority
  | v1Prehash
  | v2Eip712 (chainId : Int) (sessionDigest : String)
  | v2PlanEip712 (chainId : Int) (sessionDigest initialAllocationDigest : String)

def portfolioMandateV2Statement (m : PortfolioMandate) : String :=
  let limits := String.intercalate ", " (m.limits.amounts.map fun l => l.resource.1 ++ " " ++ toString l.atoms)
  let agents := String.intercalate ", " (m.agents.members.map fun a => a.label.1)
  String.intercalate " " [
    "Authorize Mandate policy " ++ toString m.policyVersion.1 ++ " as protocol principal " ++
      m.principal.value.1 ++ ".",
    "Portfolio limits (atoms): " ++ (if limits = "" then "none" else limits) ++ ".",
    "Agents: " ++ (if agents = "" then "none" else agents) ++ ".",
    "Expires at protocol time " ++ toString m.window.expiresAt.1 ++ ".",
    "This EIP-712 signature is the protocol principal signature of this portfolio mandate.",
    "It is not a blockchain transaction.",
    "Domain execution may proceed only when the signer is this same address."]

def DOMAIN_TYPE : String := "EIP712Domain(string name,string version,uint256 chainId)"
def PORTFOLIO_MANDATE_V2_TYPE : String :=
  "PortfolioMandateV2(string statement,bytes32 mandateDigest,address principal,bytes32 sessionDigest)"
def PORTFOLIO_MANDATE_AUTHORIZATION_V2_TYPE : String :=
  "PortfolioMandateAuthorizationV2(string statement,bytes32 mandateDigest,address principal,bytes32 sessionDigest,bytes32 initialAllocationDigest)"

def domainSeparatorV2 (chainId : Nat) : Digest32 :=
  keccakDigest (keccakText DOMAIN_TYPE ++ keccakText "Mandate" ++ keccakText "2" ++ word chainId)

def bytes32 (text : String) : Option Bytes :=
  (hexToBytes text).filter fun bytes => bytes.length = 32

/-- The typed hash over a struct of the statement, the digests and the principal; a field that
cannot be encoded is a throw of the source. -/
def portfolioV2Hash (m : PortfolioMandate) (chainId : Int) (type : String) (digests : List String) :
    Option Digest32 := do
  let principal ← hexToBytes m.principal.value.1
  if m.principal.kind.1 ≠ PARTY_KIND_EIP155_ADDRESS ∨ principal.length ≠ 20 then none
  else if chainId < 0 ∨ UINT256_MAX < chainId then none
  else do
    let bound ← digests.mapM bytes32
    let struct := keccakDigest (keccakText type ++ keccakText (portfolioMandateV2Statement m) ++
      Digest32.bytes (portfolioMandateDigest m) ++ word (beNat principal) ++ bound.flatten)
    some (keccakDigest ([0x19, 0x01] ++ Digest32.bytes (domainSeparatorV2 chainId.toNat) ++
      Digest32.bytes struct))

def portfolioMandateV2Hash (m : PortfolioMandate) (chainId : Int) (sessionDigest : String) : Option Digest32 :=
  portfolioV2Hash m chainId PORTFOLIO_MANDATE_V2_TYPE [sessionDigest]

def portfolioMandateAuthorizationV2Hash (m : PortfolioMandate) (chainId : Int)
    (sessionDigest initialAllocationDigest : String) : Option Digest32 :=
  portfolioV2Hash m chainId PORTFOLIO_MANDATE_AUTHORIZATION_V2_TYPE [sessionDigest, initialAllocationDigest]

def normalizeSignature (signature : String) : Option String := do
  let bytes ← if signature.toList.take 2 = ['0', 'x'] then hexToBytes signature.toLower else none
  if bytes.length ≠ 65 then none
  else
    let v := (bytes.getD 64 0).toNat
    if v = 0 ∨ v = 1 then some (bytesToHex (bytes.take 64 ++ [UInt8.ofNat (v + 27)]))
    else if v = 27 ∨ v = 28 then some (bytesToHex bytes)
    else none

def signedV2 (m : PortfolioMandate) (signature : String) (hash : Option Digest32) : Bool :=
  m.principal.kind.1 == PARTY_KIND_EIP155_ADDRESS &&
    match normalizeSignature signature, hash with
    | some normal, some hash => recoverSigner hash normal == some m.principal.value.1
    | _, _ => false

def mandateSignedByPrincipalV2 (m : PortfolioMandate) (signature : String) (chainId : Int)
    (sessionDigest : String) : Bool :=
  signedV2 m signature (portfolioMandateV2Hash m chainId sessionDigest)

def mandateSignedByPrincipalV2Plan (m : PortfolioMandate) (signature : String) (chainId : Int)
    (sessionDigest initialAllocationDigest : String) : Bool :=
  signedV2 m signature (portfolioMandateAuthorizationV2Hash m chainId sessionDigest initialAllocationDigest)

def principalSigned (m : PortfolioMandate) (signature : String) : Option PortfolioAuthority → Bool
  | none | some .v1Prehash => mandateSignedByPrincipal m signature
  | some (.v2Eip712 chainId sessionDigest) => mandateSignedByPrincipalV2 m signature chainId sessionDigest
  | some (.v2PlanEip712 chainId sessionDigest initialAllocationDigest) =>
    mandateSignedByPrincipalV2Plan m signature chainId sessionDigest initialAllocationDigest

end Mandate.Portfolio
