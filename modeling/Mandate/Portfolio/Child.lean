import Mandate.Portfolio.Signatures
import Mandate.Portfolio.Authority

/-! What agents sign: a proposal of one exact action, and a release of unused allocation. Each
signs its own digest under its own prefix; a signature authenticates and authorizes nothing. -/
namespace Mandate.Portfolio
open Core Lib.Wire
open Kernel (Secp256k1)

def MAX_EXTENSIONS : Nat := 8

abbrev ProposalDigest := Digest32
abbrev ReleaseDigest := Digest32

structure AgentProposal where
  portfolioMandate : PortfolioMandateDigest
  agent : AgentId
  sequence : Uint64
  candidate : ActionCandidate
  requested : ValidVector
  minimum : ValidVector
  utilityBps : IntegerInRange INT64_MIN INT64_MAX
  createdAt : UnixSeconds
  expiresAt : UnixSeconds
  ordered : createdAt.1 < expiresAt.1
  criticalExtensions : CanonicalSet writeIdentifier MAX_EXTENSIONS

structure SignedProposal where
  proposal : AgentProposal
  signature : String

def writeAgentProposal (p : AgentProposal) : Writer :=
  portfolioWriter "PORTFOLIO_PROPOSAL.V1" ++ writeDigest p.portfolioMandate ++ writeParty p.agent ++
  writeU64 p.sequence.1 ++ writeActionCandidate p.candidate ++
  writeResourceVector p.requested.amounts ++ writeResourceVector p.minimum.amounts ++
  writeI64 p.utilityBps.1 ++ writeI64 p.createdAt.1 ++ writeI64 p.expiresAt.1 ++
  writeList writeIdentifier p.criticalExtensions.members

def encodeAgentProposal (p : AgentProposal) : Bytes := encodeWith writeAgentProposal p

structure AgentRelease where
  portfolioMandate : PortfolioMandateDigest
  agent : AgentId
  sequence : Uint64
  amounts : ValidVector
deriving DecidableEq

structure SignedRelease where
  release : AgentRelease
  signature : String

def writeAgentRelease (r : AgentRelease) : Writer :=
  portfolioWriter "PORTFOLIO_RELEASE.V1" ++ writeDigest r.portfolioMandate ++ writeParty r.agent ++
  writeU64 r.sequence.1 ++ writeResourceVector r.amounts.amounts

def encodeAgentRelease (r : AgentRelease) : Bytes := encodeWith writeAgentRelease r

variable [Keccak]

def proposalDigest (p : AgentProposal) : ProposalDigest := keccakDigest (encodeAgentProposal p)
def releaseDigest (r : AgentRelease) : ReleaseDigest := keccakDigest (encodeAgentRelease r)

def proposalSigningHash (digest : ProposalDigest) : Digest32 :=
  keccakDigest (encodeWith (fun digest =>
    portfolioWriter "PORTFOLIO_PROPOSAL_SIGNATURE.V1" ++ writeDigest digest) digest)

def releaseSigningHash (digest : ReleaseDigest) : Digest32 :=
  keccakDigest (encodeWith (fun digest =>
    portfolioWriter "PORTFOLIO_RELEASE_SIGNATURE.V1" ++ writeDigest digest) digest)

variable [Secp256k1]

def proposalSignedByAgent (p : AgentProposal) (signature : String) : Bool :=
  p.agent.kind.1 == PARTY_KIND_EIP155_ADDRESS &&
    recoverSigner (proposalSigningHash (proposalDigest p)) signature == some p.agent.value.1

def releaseSignedByAgent (r : AgentRelease) (signature : String) : Bool :=
  r.agent.kind.1 == PARTY_KIND_EIP155_ADDRESS &&
    recoverSigner (releaseSigningHash (releaseDigest r)) signature == some r.agent.value.1

end Mandate.Portfolio

/-! Child execution authorizations: the exact authority one accepted proposal is given, and the
check that it lies within its agent's policy and the portfolio's. -/
namespace Mandate.Portfolio
open Core Lib.Wire

abbrev ChildAuthorizationDigest := Digest32

structure ChildExecutionAuthorization where
  portfolioMandate : PortfolioMandateDigest
  principal : PrincipalId
  agent : AgentId
  proposal : ProposalDigest
  candidate : CandidateDigest
  scope : AuthorityScope
  approved : ResourceVector
  notBefore : Int
  expiresAt : Int

def writeChildBody (c : ChildExecutionAuthorization) : Writer :=
  writeDigest c.portfolioMandate ++ writeParty c.principal ++ writeParty c.agent ++
  writeDigest c.proposal ++ writeDigest c.candidate ++ writeAuthorityScope c.scope ++
  writeResourceVector c.approved ++ writeI64 c.notBefore ++ writeI64 c.expiresAt

def encodeChildExecutionAuthorization (c : ChildExecutionAuthorization) : Bytes :=
  encodeWith (fun c => portfolioWriter "PORTFOLIO_CHILD_AUTHORIZATION.V1" ++ writeChildBody c) c

variable [Keccak]

def childAuthorizationDigest (c : ChildExecutionAuthorization) : ChildAuthorizationDigest :=
  keccakDigest (encodeChildExecutionAuthorization c)

/-- Every way a child is not bound to this mandate or not within its agent and the portfolio. -/
def checkChildAuthorization (m : PortfolioMandate) (c : ChildExecutionAuthorization) : List Reason :=
  let bound :=
    (if c.portfolioMandate ≠ portfolioMandateDigest m then [reason .mandateDigestMismatch ""] else []) ++
    (if partyIdsEqual c.principal m.principal then [] else [reason .mandateDigestMismatch "principal"])
  match agentPolicyOf m c.agent with
  | none => canonicalReasons (bound ++ [reason .agentUnknown c.agent.value.1])
  | some agent => canonicalReasons (bound ++
      checkChildScope agent.scope c.scope ++ checkChildScope m.scope c.scope ++
      checkChildWindow agent.window c.notBefore c.expiresAt ++
      checkChildWindow m.window c.notBefore c.expiresAt ++
      checkChildLimits agent.hardMaxima.amounts c.approved m.resources.members false ++
      checkChildLimits m.limits.amounts c.approved m.resources.members true)

def windowReasons (m : PortfolioMandate) (agent : AgentPolicy) (p : AgentProposal) (now : Int) : List Reason :=
  (if now < m.window.notBefore.1 then [reason .mandateNotYetValid ""] else []) ++
  (if m.window.expiresAt.1 ≤ now then [reason .mandateExpired ""] else []) ++
  (if now < agent.window.notBefore.1 then [reason .agentNotYetValid agent.agent.value.1] else []) ++
  (if agent.window.expiresAt.1 ≤ now then [reason .agentExpired agent.agent.value.1] else []) ++
  (if now < p.createdAt.1 then [reason .proposalNotYetValid ""] else []) ++
  (if p.expiresAt.1 ≤ now then [reason .proposalExpired ""] else [])

/-- The child of an accepted proposal, or every reason there is none; `none` where deriving it
throws. The outer decision is of `now`; no field of the child is. -/
def deriveChildAuthorization (m : PortfolioMandate) (p : AgentProposal) (a : ResolvedAction) (now : Int) :
    Option (Except (List Reason) ChildExecutionAuthorization) :=
  match agentPolicyOf m p.agent with
  | none => some (.error [reason .agentUnknown p.agent.value.1])
  | some agent => do
    let byAgent ← permits agent.scope a now
    let byPortfolio ← permits m.scope a now
    let bound := quoteAgeBound agent.scope m.scope
    let ends := [agent.window.expiresAt.1, m.window.expiresAt.1] ++
      (match a.quoteObservedAt, bound with
        | some observedAt, some age => [quoteExpiresAt observedAt age.1]
        | _, _ => [])
    let notBefore := max (max p.createdAt.1 agent.window.notBefore.1) m.window.notBefore.1
    let expiresAt := ends.foldl min p.expiresAt.1
    let found := byAgent ++ byPortfolio ++
      ((exceedingListed a.demand agent.hardMaxima.amounts).map fun r => reason .agentLimitExceeded r.1) ++
      ((exceeding a.demand m.limits.amounts).map fun r => reason .portfolioLimitExceeded r.1) ++
      windowReasons m agent p now
    let found := if found = [] ∧ expiresAt ≤ notBefore then [reason .quoteStale "quote"] else found
    if found ≠ [] then some (.error (canonicalReasons found))
    else do
      let scope ← authorizedScope a bound
      let child : ChildExecutionAuthorization := {
        portfolioMandate := portfolioMandateDigest m
        principal := m.principal
        agent := agent.agent
        proposal := proposalDigest p
        candidate := candidateDigest p.candidate
        scope
        approved := a.demand
        notBefore
        expiresAt }
      let recheck := checkChildAuthorization m child
      some (if recheck = [] then .ok child else .error recheck)

end Mandate.Portfolio
