import Mandate.Portfolio.Screen

/-! The portfolio verifier: it trusts nothing the room produced and derives all of it again
from the signed mandate, the signed messages, the bindings and the availability. -/
namespace Mandate.Portfolio
open Core Lib.Table
open Kernel (Secp256k1)

structure VerifierInput where
  mandate : PortfolioMandate
  signature : String
  authority : Option PortfolioAuthority
  bindings : List DomainBinding
  availability : ResourceAvailability
  now : Int
  candidate : PortfolioCandidate
  proposals : List SignedProposal
  releases : List SignedRelease

structure VerifiedChild where
  child : ChildExecutionAuthorization
  digest : ChildAuthorizationDigest
  candidate : ActionCandidate
  proposal : ProposalDigest
  registry : Option RepresentationDecisionRecord

inductive VerifierResult
  | verified (children : List VerifiedChild) (book : AllocationBook) (approved : ResourceVector)
  | refused (reasons : List Reason)

variable [Keccak] [Secp256k1]

def proposalText (p : AgentProposal) : String := Digest32.toHex (proposalDigest p)

def releaseText (r : AgentRelease) : String := "release/" ++ Digest32.toHex (releaseDigest r)

/-- The proposals and releases by digest: of two supplied for one, the last. -/
def byDigest (proposals : List SignedProposal) (text : String) : Option SignedProposal :=
  proposals.reverse.find? fun s => proposalText s.proposal = text

def signedRelease (releases : List SignedRelease) (id : String) : Option SignedRelease :=
  releases.reverse.find? fun s => releaseText s.release = id

def proposalLE (a b : SignedProposal) : Prop :=
  a.proposal.sequence.1 < b.proposal.sequence.1 ∨
    (a.proposal.sequence.1 = b.proposal.sequence.1 ∧ proposalText a.proposal ≤ proposalText b.proposal)

instance : DecidableRel proposalLE := fun _ _ => inferInstanceAs (Decidable (_ ∨ _))

/-- The accepted proposals in order: each screened again, its sequence above the agent's last.
Yields every reason against them, and the child and the demand of each that passes. -/
def verifyAccepted (m : PortfolioMandate) (bindings : List DomainBinding) (now : Int) :
    List SignedProposal → PMap Identifier Int → Option (List Reason × List (VerifiedChild × ResourceVector))
  | [], _ => some ([], [])
  | signed :: rest, last => do
    let p := signed.proposal
    let replayed := if (last.lookup p.agent.value).any fun s => p.sequence.1 ≤ s then
      [reason .proposalReplayed (proposalText p)] else []
    let s ← screenProposal m bindings signed now
    let (found, children) ← verifyAccepted m bindings now rest (last.insert p.agent.value p.sequence.1)
    match s.child with
    | none => some (replayed ++ prefixed (proposalText p) s.reasons ++ found, children)
    | some child =>
      let verified : VerifiedChild :=
        ⟨child, childAuthorizationDigest child, p.candidate, proposalDigest p, s.registry⟩
      some (replayed ++ found, (verified, s.demand) :: children)

def mismatch (subject : String) : Reason := reason .candidateBookMismatch subject

/-- A release of the log is one its agent signed for this mandate, with these amounts. -/
def genuineRelease (c : PortfolioCandidate) (agent : AgentId) (amounts : ResourceVector)
    (s : SignedRelease) : Bool :=
  s.release.agent.value = agent.value && s.release.portfolioMandate = c.portfolioMandate &&
  vectorsEqual s.release.amounts.amounts amounts && releaseSignedByAgent s.release s.signature

/-- Every operation of the log, after those before it and the last release sequence of each agent. -/
def checkLog (c : PortfolioCandidate) (proposals : List SignedProposal) (releases : List SignedRelease)
    (demands : List (String × ResourceVector)) :
    List AllocationOp → List AllocationOp → PMap Identifier Int → List Reason
  | [], _, _ => []
  | op :: rest, earlier, last =>
    match op with
    | .release agent id amounts =>
      let repeated := if earlier.any fun op => op.kind = .release ∧ op.id = id then
        [mismatch ("release-duplicate:" ++ id)] else []
      match (signedRelease releases id).filter (genuineRelease c agent amounts) with
      | none => mismatch ("release-unsigned:" ++ id) :: repeated ++
          checkLog c proposals releases demands rest (earlier ++ [op]) last
      | some s =>
        let holder := s.release.agent.value
        if (last.lookup holder).any fun sequence => s.release.sequence.1 ≤ sequence then
          repeated ++ reason .releaseSequenceInvalid (holder.1 ++ "/" ++ toString s.release.sequence.1) ::
            checkLog c proposals releases demands rest (earlier ++ [op]) last
        else repeated ++ checkLog c proposals releases demands rest (earlier ++ [op])
          (last.insert holder s.release.sequence.1)
    | .claim _ id _ _ =>
      (if earlier.any fun op => op.kind = .claim ∧ op.id = id then
        [mismatch ("claim-duplicate:" ++ id)] else []) ++
        checkLog c proposals releases demands rest (earlier ++ [op]) last
    | .commit agent id amounts =>
      (match byDigest proposals id with
        | none => [mismatch ("commit-not-accepted:" ++ id)]
        | some signed =>
          if ¬ id ∈ c.accepted then [mismatch ("commit-not-accepted:" ++ id)]
          else if signed.proposal.agent.value ≠ agent.value then [mismatch ("commit-agent:" ++ id)]
          else match demands.lookup id with
          | none => []
          | some demand => if vectorsEqual demand amounts then [] else [mismatch ("commit-amount:" ++ id)]) ++
        checkLog c proposals releases demands rest (earlier ++ [op]) last

def approvedOf (children : List VerifiedChild) : ResourceVector :=
  children.foldl (fun approved x => addVectors approved x.child.approved) []

def checkRoom (av : ResourceAvailability) (children : List VerifiedChild) : List Reason :=
  (((approvedOf children).filter fun a => amountOf av.portfolio a.resource < a.atoms).map
    fun a => reason .portfolioLimitExceeded a.resource.1) ++
  ((children.map fun x => x.child.agent.value).dedup.flatMap fun agent =>
    ((approvedOf (children.filter fun x => x.child.agent.value = agent)).filter fun a =>
        headroom av agent a.resource < a.atoms).map
      fun a => reason .agentLimitExceeded (agent.1 ++ "/" ++ a.resource.1))

def byText (a b : VerifiedChild) : Prop := Digest32.toHex a.digest ≤ Digest32.toHex b.digest

instance : DecidableRel byText := fun _ _ => inferInstanceAs (Decidable (_ ≤ _))

/-- The accepted proposals that are supplied, in the order they are verified. -/
def inOrder (input : VerifierInput) : List SignedProposal :=
  (input.candidate.accepted.dedup.filterMap (byDigest input.proposals)).insertionSort proposalLE

def checkAccepted (input : VerifierInput) : List Reason :=
  ((input.candidate.accepted.filter fun d => 1 < input.candidate.accepted.count d).map
    fun d => reason .candidateProposalDuplicated d) ++
  ((input.candidate.accepted.filter fun d => (byDigest input.proposals d).isNone).map
    fun d => reason .candidateProposalUnknown d)

def checkCommitted (c : PortfolioCandidate) : List Reason :=
  (c.accepted.filter fun d =>
      (c.allocationLog.filter fun op => op.kind = .commit ∧ op.id = d).length ≠ 1).map
    fun d => mismatch ("commit-missing:" ++ d)

def verifyPortfolio (input : VerifierInput) : Option VerifierResult :=
  let m := input.mandate
  let c := input.candidate
  let refuse := fun reasons => some (VerifierResult.refused (canonicalReasons reasons))
  let mandate := mandateReasons m input.signature input.now input.authority
  if mandate ≠ [] then refuse mandate
  else if c.portfolioMandate ≠ portfolioMandateDigest m then
    refuse [reason .mandateDigestMismatch "candidate"]
  else do
    let (screened, passed) ← verifyAccepted m input.bindings input.now (inOrder input) ∅
    let children := passed.map (·.1)
    let demands := passed.map fun x => (Digest32.toHex x.1.proposal, x.2)
    match replayAllocation m c.allocationLog with
    | .error (index, why) => refuse (checkAccepted input ++ screened ++
        [mismatch ("log[" ++ toString index ++ "]:" ++ why.code.text)])
    | .ok book =>
      let found := checkAccepted input ++ screened ++ checkBookInvariant m book ++
        checkLog c input.proposals input.releases demands c.allocationLog [] ∅ ++
        checkCommitted c ++ checkRoom input.availability children ++
        children.flatMap fun x => (checkChildAuthorization m x.child).map
          fun r => reason r.code (Digest32.toHex x.digest ++ "/" ++ r.subject)
      if found ≠ [] then refuse found
      else some (.verified (children.insertionSort byText) book (approvedOf children))

end Mandate.Portfolio
