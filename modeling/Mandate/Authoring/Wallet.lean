import Mandate.Authoring.Versions
import Mandate.Portfolio.Signatures

/-! Wallet approvals of a session: one-time challenges, the message a wallet signs, and the two ways a
signature authorizes the version its challenge was issued for. -/
set_option linter.dupNamespace false
namespace Mandate.Authoring
open Core Lib.Text Lib.Wire
open Kernel (Secp256k1 word keccakText)

section Approval

def APPROVAL_ENVIRONMENT : String := "robinhood-chain-testnet"
def CHALLENGE_LIFETIME_SECONDS : Int := 300
def MAX_SIGNATURE_FAILURES : Nat := 5
def USDC_SCALE : Nat := 1000000

structure ApprovalMessage where
  statement : String
  environment : String
  mandateDigest : Digest32
  mandateVersion : Nat
  principal : String
  protocolSigner : String
  validAfter : Int
  validUntil : Int
  sessionDigest : Digest32
  challenge : Digest32

def usdcText (atoms : Int) : String :=
  let a := atoms.natAbs
  let digits := (toString (a % USDC_SCALE)).toList
  let frac := (List.replicate (6 - digits.length) '0' ++ digits).reverse.dropWhile (· == '0') |>.reverse
  (if atoms < 0 then "-" else "") ++ toString (a / USDC_SCALE) ++
    (if frac = [] then "" else "." ++ String.ofList frac)

/-- A fixed-form statement of what the mandate allows, from the mandate alone. -/
def approvalStatement (m : CompiledMandate) (version : Nat) : String :=
  let limits := String.intercalate ", " (m.limits.map fun l => l.1 ++ " " ++ usdcText l.2)
  let agents := String.intercalate ", " m.agents
  String.intercalate " " [
    "Approve Mandate V" ++ toString version ++ " for the Mandate Live AI Lab on Robinhood Chain testnet.",
    "Portfolio limits (USDC): " ++ (if limits = "" then "none" else limits) ++ ".",
    "Agents: " ++ (if agents = "" then "none" else agents) ++ ".",
    "Expires at protocol time " ++ toString m.expiresAt ++ ".",
    "This signature is not a blockchain transaction, moves no funds and does not delegate onchain execution authority."]

variable [Keccak]

def sessionDigest (sessionId : String) : Digest32 :=
  keccakDigest (encodeText ("mandate-live-session/v1:" ++ sessionId))

def approvalMessage (m : CompiledMandate) (version : Nat) (principal protocolSigner : String) (validAfter : Int)
    (sessionId : String) (challenge : Digest32) : ApprovalMessage :=
  ⟨approvalStatement m version, APPROVAL_ENVIRONMENT, m.portfolioMandateDigest, version, principal, protocolSigner,
    validAfter, validAfter + CHALLENGE_LIFETIME_SECONDS, sessionDigest sessionId, challenge⟩

def APPROVAL_TYPE : String :=
  "PortfolioMandateApproval(string statement,string environment,bytes32 mandateDigest,uint64 mandateVersion,address principal,address protocolSigner,uint64 validAfter,uint64 validUntil,bytes32 sessionDigest,bytes32 challenge)"

def approvalDomainSeparator : Digest32 :=
  keccakDigest (keccakText Portfolio.DOMAIN_TYPE ++ keccakText "Mandate" ++ keccakText "1" ++ word APPROVAL_CHAIN_ID)

/-- An address field's word; any other text is a throw of the source. -/
def addressWord (address : String) : Option Bytes := do
  let bytes ← hexToBytes address
  if bytes.length = 20 then some (word (beNat bytes)) else none

def uint64Word (value : Int) : Option Bytes :=
  if value < 0 ∨ 2 ^ 64 ≤ value then none else some (word value.toNat)

/-- The digest the wallet signs; a field its type cannot hold is a throw. -/
def approvalHash (m : ApprovalMessage) : Option Digest32 := do
  let version ← uint64Word m.mandateVersion
  let principal ← addressWord m.principal
  let protocolSigner ← addressWord m.protocolSigner
  let validAfter ← uint64Word m.validAfter
  let validUntil ← uint64Word m.validUntil
  let struct := keccakDigest (keccakText APPROVAL_TYPE ++ keccakText m.statement ++ keccakText m.environment ++
    Digest32.bytes m.mandateDigest ++ version ++ principal ++ protocolSigner ++ validAfter ++ validUntil ++
    Digest32.bytes m.sessionDigest ++ Digest32.bytes m.challenge)
  some (keccakDigest ([0x19, 0x01] ++ Digest32.bytes approvalDomainSeparator ++ Digest32.bytes struct))

def keccakHex (h : String) : Digest32 := keccakDigest ((hexToBytes h.toLower).getD [])

variable [Secp256k1]

/-- The address that signed, and the signature with `v` of 27 or 28. -/
def recoverAddress (hash : Digest32) (signature : String) : Option (String × String) := do
  let normalized ← Portfolio.normalizeSignature signature
  let address ← Portfolio.recoverSigner hash normalized
  some (address, normalized)

/-- Whether it is the message's principal's signature of exactly this message. -/
def checkApproval (message : ApprovalMessage) (signature : String) : Option (Except RefusalCode String) := do
  let hash ← approvalHash message
  match recoverAddress hash signature with
  | none => some (.error .walletSignatureMalformed)
  | some (address, normalized) =>
    if address ≠ message.principal then some (.error .walletSignerMismatch) else some (.ok normalized)

end Approval

section Challenges

inductive Spine | v1 | v2

structure WalletChallenge (Draft : Type) where
  id : Digest32
  sessionId : String
  prepared : PreparedVersion Draft
  spine : Spine
  message : Option ApprovalMessage
  initialAllocationDigest : Option Digest32
  issuedAt : Int
  deadline : Int
  draftKey : String
  failures : Nat
  consumed : Bool

abbrev ChallengeBook (Draft : Type) := Digest32 → Option (WalletChallenge Draft)

namespace ChallengeBook
variable {Draft : Type} (book : ChallengeBook Draft)

def issue (c : WalletChallenge Draft) : Option (ChallengeBook Draft) :=
  if (book c.id).isSome then none else some (Function.update book c.id (some c))

def change (id : Digest32) (f : WalletChallenge Draft → WalletChallenge Draft) : ChallengeBook Draft :=
  match book id with
  | none => book
  | some c => Function.update book id (some (f c))

def failed (id : Digest32) : ChallengeBook Draft := book.change id fun c => { c with failures := c.failures + 1 }

def consume (id : Digest32) : ChallengeBook Draft := book.change id fun c => { c with consumed := true }

end ChallengeBook

/-- What a session is built with, and the pure functions of a draft it applies. -/
structure SessionEnv (Draft : Type) extends VersionsEnv where
  sessionId : String
  draftKey : Draft → String
  portfolioMandateAuthorizationV2Hash : CompiledMandate → Digest32 → Digest32 → Option Digest32

/-- One live session: its versions, its challenges, and the evidence it keeps of V1 approvals. -/
structure LiveSession (Draft : Type) where
  core : VersionsSystem Draft
  challenges : ChallengeBook Draft
  approvals : Nat → Option (ApprovalMessage × String)

inductive Checked (Draft : Type)
  | refused (code : RefusalCode)
  | threw
  | failed (code : RefusalCode)
  | approved (c : WalletChallenge Draft) (message : ApprovalMessage) (signature : String)
  | spine (c : WalletChallenge Draft) (plan : Digest32) (signature : String)

def isAddress (address : String) : Bool :=
  address.toList.take 2 = ['0', 'x'] ∧ (hexToBytes address.toLower).any fun bytes => bytes.length = 20

inductive SessionLabel (Draft : Type)
  | walletChallenge (draft : Draft) (drafted : Option CompiledMandate) (address : String) (id : Digest32)
    (wallNow protocolNow : Int)
  | spineChallenge (draft : Draft) (drafted : Option CompiledMandate) (address : String) (stale : Bool)
    (allocation : Option Digest32) (id : Digest32) (wallNow protocolNow : Int)
  | authorizeWithWallet (call : Nat) (draft : Draft) (id : Digest32) (signature : String) (wallNow protocolNow : Int)
  | versions (label : VersionsLabel Draft)

namespace LiveSession
variable {Draft : Type} [Keccak] (e : SessionEnv Draft) (s : LiveSession Draft)

def new : LiveSession Draft := ⟨.new, fun _ => none, fun _ => none⟩

/-- What the wallet is asked to sign for the next version; an id that is taken throws. -/
def walletChallenge (draft : Draft) (drafted : Option CompiledMandate) (address : String) (id : Digest32)
    (wallNow protocolNow : Int) : LiveSession Draft :=
  if isAddress address = false then s
  else match s.core.versions.prepare draft drafted protocolNow with
    | .error _ => s
    | .ok prepared =>
      let message := approvalMessage prepared.mandate prepared.version address.toLower e.protocolSigner wallNow
        e.sessionId id
      { s with challenges := (s.challenges.issue ⟨id, e.sessionId, prepared, .v1, some message, none,
          message.validAfter, message.validUntil, e.draftKey draft, 0, false⟩).getD s.challenges }

/-- `drafted` is compiled with the wallet as its principal; `allocation` is the accepted plan's digest. -/
def spineChallenge (draft : Draft) (drafted : Option CompiledMandate) (address : String) (stale : Bool)
    (allocation : Option Digest32) (id : Digest32) (wallNow protocolNow : Int) : LiveSession Draft :=
  if isAddress address = false then s
  else match s.core.versions.prepare draft drafted protocolNow with
    | .error _ => s
    | .ok prepared =>
      if stale then s
      else match allocation with
        | none => s
        | some plan =>
          if prepared.mandate.principal ≠ address.toLower then s
          else { s with challenges := (s.challenges.issue ⟨id, e.sessionId, prepared, .v2, none, some plan, wallNow,
            wallNow + CHALLENGE_LIFETIME_SECONDS, e.draftKey draft, 0, false⟩).getD s.challenges }

variable [Secp256k1]

def checkSpine (c : WalletChallenge Draft) (signature : String) : Checked Draft :=
  match c.initialAllocationDigest with
  | none => .refused .spineSignatureInvalid
  | some plan =>
    match e.portfolioMandateAuthorizationV2Hash c.prepared.mandate (sessionDigest e.sessionId) plan with
    | none => .refused .spineSignatureInvalid
    | some hash => match recoverAddress hash signature with
      | none => .failed .walletSignatureMalformed
      | some (address, normalized) =>
        if address ≠ c.prepared.mandate.principal then .failed .walletSignerMismatch
        else .spine c plan normalized

def checked (draft : Draft) (id : Digest32) (signature : String) (wallNow : Int) : Checked Draft :=
  match s.challenges id with
  | none => .refused .walletChallengeUnknown
  | some c =>
    if c.sessionId ≠ e.sessionId then .refused .walletChallengeUnknown
    else if c.consumed then .refused .walletChallengeReused
    else if MAX_SIGNATURE_FAILURES ≤ c.failures then .refused .walletChallengeLocked
    else if wallNow < c.issuedAt ∨ c.deadline ≤ wallNow then .refused .walletChallengeExpired
    else if c.prepared.version ≠ s.core.versions.nextVersion then .refused .walletChallengeStale
    else if e.draftKey draft ≠ c.draftKey then .refused .walletDraftChanged
    else match c.spine with
      | .v2 => checkSpine e c signature
      | .v1 => match c.message with
        | none => .refused .walletChallengeUnknown
        | some message =>
          let rebuilt := approvalMessage c.prepared.mandate c.prepared.version message.principal e.protocolSigner
            message.validAfter e.sessionId c.id
          match checkApproval rebuilt signature with
          | none => .threw
          | some (.error code) => .failed code
          | some (.ok normalized) => .approved c rebuilt normalized

def approvalAuthorization (c : WalletChallenge Draft) (rebuilt : ApprovalMessage) (signature : String) :
    PrincipalAuthorization :=
  ⟨.walletEip712, rebuilt.principal, e.protocolSigner, some ⟨APPROVAL_CHAIN_ID, rebuilt.sessionDigest,
    keccakDigest (Digest32.bytes c.id), keccakHex signature, rebuilt.validAfter, rebuilt.validUntil, none⟩,
    .notDelegated⟩

def spineAuthorization (c : WalletChallenge Draft) (plan : Digest32) (signature : String) : PrincipalAuthorization :=
  ⟨.walletPrincipalV2Plan, c.prepared.mandate.principal, c.prepared.mandate.principal,
    some ⟨APPROVAL_CHAIN_ID, sessionDigest e.sessionId, keccakDigest (Digest32.bytes c.id), keccakHex signature,
      c.issuedAt, c.deadline, some plan⟩, .samePrincipal⟩

/-- Up to the commit's first await: the challenge is consumed, and a V1 approval kept, before it. -/
def authorizeWithWallet (call : Nat) (draft : Draft) (id : Digest32) (signature : String)
    (wallNow protocolNow : Int) : LiveSession Draft :=
  match s.checked e draft id signature wallNow with
  | .refused code => { s with core := s.core.move call (.returned (.error code)) }
  | .threw => { s with core := s.core.move call (.threw none) }
  | .failed code =>
    { s with core := s.core.move call (.returned (.error code)), challenges := s.challenges.failed id }
  | .approved c rebuilt normalized =>
    { core := s.core.start call (s.core.versions.commit e.toVersionsEnv c.prepared
        (approvalAuthorization e c rebuilt normalized) protocolNow none)
      challenges := s.challenges.consume id
      approvals := Function.update s.approvals c.prepared.version (some (rebuilt, normalized)) }
  | .spine c plan normalized =>
    { s with
      core := s.core.start call (s.core.versions.commit e.toVersionsEnv c.prepared
        (spineAuthorization e c plan normalized) protocolNow (some normalized))
      challenges := s.challenges.consume id }

/-- A wallet-approved version is verified again from the evidence kept of it. -/
def verifyWalletApproval (version : Nat) : Except String String :=
  match s.core.versions.entries.find? fun entry => entry.record.version = version with
  | none => .error "VERSION_UNKNOWN"
  | some entry =>
    if entry.record.authorization.method ≠ .walletEip712 then .error "NOT_WALLET_APPROVED"
    else match s.approvals version with
      | none => .error "APPROVAL_EVIDENCE_MISSING"
      | some (message, signature) =>
        if message.mandateDigest ≠ entry.record.digest ∨ message.mandateVersion ≠ version ∨
            message.principal ≠ entry.record.authorization.principal ∨
            message.sessionDigest ≠ sessionDigest e.sessionId then .error "APPROVAL_NOT_FOR_THIS_VERSION"
        else match checkApproval message signature with
          | none => .error "THREW"
          | some (.error _) => .error "SIGNATURE"
          | some (.ok normalized) =>
            if entry.record.authorization.wallet.map (·.signatureDigest) ≠ some (keccakHex normalized) then
              .error "SIGNATURE_DIGEST_MISMATCH"
            else .ok message.principal

/-- Commits reach a session's versions only through a wallet's signature or the demonstration key. -/
def step : SessionLabel Draft → Option (LiveSession Draft)
  | .walletChallenge draft drafted address id wallNow protocolNow =>
    some (s.walletChallenge e draft drafted address id wallNow protocolNow)
  | .spineChallenge draft drafted address stale allocation id wallNow protocolNow =>
    some (s.spineChallenge e draft drafted address stale allocation id wallNow protocolNow)
  | .authorizeWithWallet call draft id signature wallNow protocolNow => match s.core.calls call with
    | .idle => some (s.authorizeWithWallet e call draft id signature wallNow protocolNow)
    | _ => none
  | .versions (.commit _ _ _ _ _) => none
  | .versions label => (s.core.step e.toVersionsEnv label).map fun core => { s with core }

def Steps (before : LiveSession Draft) (label : SessionLabel Draft) (after : LiveSession Draft) : Prop :=
  before.step e label = some after

end LiveSession

end Challenges

end Mandate.Authoring
