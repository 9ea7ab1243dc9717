import Mandate.Control.Guards
import Mandate.Portfolio.Compile
import Mandate.Portfolio.Inputs
import Mandate.Portfolio.Verifier

/-! Resource reservation through the control engine. A child is verified again where it is reserved,
and again where a key could be used for it; both know one generation of its action only. -/
set_option linter.dupNamespace false
namespace Mandate.Portfolio
open Core Ledger Control
open Kernel (Secp256k1)

structure VerificationTranscript where
  signature : String
  authority : Option PortfolioAuthority
  availability : ResourceAvailability
  verifiedAt : Int
  candidate : PortfolioCandidate
  proposals : List SignedProposal
  releases : List SignedRelease

def PORTFOLIO_GENERATION : ReservationGeneration := ⟨1, positive_one⟩

/-- An engine over a compiled portfolio, with what its bindings supply at the time of a request. -/
structure PortfolioCore where
  compiled : CompiledPortfolio
  engine : ControlEngine
  states : Binding → ActionCandidate → Int → List SuppliedState
  sources : Binding → List StateSourceConfigInput

def domainBindings (c : CompiledPortfolio) : List DomainBinding := c.bindings.map (·.toDomainBinding)

def ledgerRefusal (r : ControlRefusal) : Reason :=
  reason (.ledger (controlCodeText r.code ++ "/" ++ r.reason)) r.path

/-- What a set of demands charges, by the matching rule the ledger uses. -/
def demandedResources (c : CompiledPortfolio) (domain : String) (demands : List (EconomicQuantity × Int)) :
    Except Reason ResourceVector :=
  demandOf c.mandate.resources.members
    (demands.map fun d => ⟨d.1.kind, d.1.unit.1, d.1.decimals.1, d.2, domain⟩)

section Boundary
variable [Keccak] [Secp256k1]

def verifyTranscript (m : PortfolioMandate) (bindings : List DomainBinding) (t : VerificationTranscript) :
    Option VerifierResult :=
  verifyPortfolio ⟨m, t.signature, t.authority, bindings, t.availability, t.verifiedAt, t.candidate,
    t.proposals, t.releases⟩

/-- The request for a child: its compiled action, fresh state and its binding's sources. -/
def requestFor (core : PortfolioCore) (child : ChildExecutionAuthorization) (candidate : ActionCandidate) (time : Int) :
    Option (Except Reason (PrincipalId × AuthorizationRequest)) :=
  (compileAction core.compiled child candidate).map fun compiled => compiled.map fun a =>
    (a.envelope.principal, {
      action := .given (actionEnvelopeInputOf a.envelope)
      payload := some a.payload
      generation := .bigint PORTFOLIO_GENERATION.1
      states := core.states a.binding candidate time
      context := ⟨.bigint time, (core.sources a.binding).map some, [], []⟩ })

/-- The child the transcript verifies, screened again at the boundary: `none` where either throws. -/
def verifiedAtBoundary (core : PortfolioCore) (transcript : VerificationTranscript)
    (digest : ChildAuthorizationDigest) (time : Int) : Option (Except (List Reason) VerifiedChild) := do
  let m := core.compiled.mandate
  match ← verifyTranscript m (domainBindings core.compiled) transcript with
  | .refused reasons => some (.error reasons)
  | .verified children _ _ =>
    match children.find? fun x => x.digest = digest with
    | none => some (.error [reason .childAuthorizationUnknown digest.toHex])
    | some verified =>
      match transcript.proposals.find? fun x => proposalDigest x.proposal = verified.proposal with
      | none => some (.error [reason .candidateProposalUnknown (Digest32.toHex verified.proposal)])
      | some signed => do
        let current ← screenProposal m (domainBindings core.compiled) signed time
        match current.child with
        | none => some (.error current.reasons)
        | some child =>
          if childAuthorizationDigest child ≠ verified.digest then
            some (.error [reason .childActionMutated digest.toHex])
          else some (.ok verified)

inductive ReserveOutcome
  | reserved (record : AuthorizationRecord) (snapshot : LedgerSnapshot) (verified : VerifiedChild)
  | refused (reasons : List Reason)

/-- What a decision would charge, against what the child is approved. -/
def chargedReasons (c : CompiledPortfolio) (child : ChildExecutionAuthorization) (decision : Decision) : List Reason :=
  match demandedResources c decision.module.domainId.1 (decision.demands.map fun d => (d.quantity, d.quantity.atoms)) with
  | .error refused => [refused]
  | .ok charged => if vectorsEqual charged child.approved then []
    else [reason .reservationDemandMismatch (childAuthorizationDigest child).toHex]

def reserveOutcome (verified : VerifiedChild) : AuthorizationOutcome → ReserveOutcome
  | .authorized record _ snapshot _ _ => .reserved record snapshot verified
  | .refused refusal _ _ _ => .refused [ledgerRefusal refusal]
  | .conflict refusal _ _ => .refused [ledgerRefusal refusal]

/-- The engine's decision first: nothing but exactly the approved resources is reserved. -/
def reserveVerified (core : PortfolioCore) (verified : VerifiedChild) (principal : PrincipalId)
    (request : AuthorizationRequest) (retry : RetryPolicy) : LedgerProgram ReserveOutcome :=
  .read principal fun snapshot =>
    match decideWith PRODUCTION_PIPELINE snapshot request core.engine.env with
    | .error .thrown => .failed
    | .error (.refused r) => .done (.refused [ledgerRefusal r])
    | .ok decision =>
      match chargedReasons core.compiled verified.child decision with
      | [] => (authorizeAndReserve core.engine principal request retry).map (reserveOutcome verified)
      | reasons => .done (.refused reasons)

def reserveChild (core : PortfolioCore) (transcript : VerificationTranscript) (digest : ChildAuthorizationDigest)
    (time : Int) (retry : RetryPolicy) : LedgerProgram ReserveOutcome :=
  match verifiedAtBoundary core transcript digest time with
  | none => .failed
  | some (.error reasons) => .done (.refused reasons)
  | some (.ok verified) =>
    match checkChildAuthorization core.compiled.mandate verified.child with
    | [] =>
      match requestFor core verified.child verified.candidate time with
      | none => .failed
      | some (.error refused) => .done (.refused [refused])
      | some (.ok (principal, request)) => reserveVerified core verified principal request retry
    | invalid => .done (.refused invalid)

structure SignClaim where
  agent : PartyIdInput
  child : ValidChild
  candidate : ActionCandidate
  reservation : ReservationId
  action : ActionId
  generation : ReservationGeneration
  authorization : Digest32
  attempt : AttemptId
  time : Int

def SignClaim.authorized (claim : SignClaim) : ChildExecutionAuthorization := claim.child.authorization

def digestOf (claim : SignClaim) : ChildAuthorizationDigest := childAuthorizationDigest claim.authorized

def childReasons (claim : SignClaim) : Except (List Reason) VerifiedChild → List Reason
  | .error reasons => reasons
  | .ok proof => if proof.child.candidate ≠ claim.authorized.candidate ∨ proof.proposal ≠ claim.authorized.proposal then
      [reason .childActionMutated (digestOf claim).toHex] else []

def actionReasons (claim : SignClaim) : Except Reason CompiledAction → List Reason
  | .error refused => [refused]
  | .ok compiled => if actionId compiled.envelope ≠ claim.action then [reason .childActionMutated "action"] else []

/-- The reservation is active, of the one generation, the action's, and holds exactly what is approved. -/
def reservationReasons (core : PortfolioCore) (claim : SignClaim) (state : LedgerState) : List Reason :=
  match state.reservations.lookup claim.reservation with
  | none => [reason .reservationMissing claim.reservation.toHex]
  | some r =>
    (if r.generation ≠ PORTFOLIO_GENERATION then
      [reason .reservationGenerationInvalid ("reservation:" ++ toString r.generation.1)] else []) ++
    if r.status ≠ .active ∨ r.action ≠ claim.action ∨ r.generation ≠ claim.generation then
      [reason .reservationMissing claim.reservation.toHex]
    else match demandedResources core.compiled r.module.domainId.1
        (r.demands.map fun d => (d.contribution.quantity, d.reserved - d.consumed - d.released)) with
      | .error _ => [reason .reservationDemandMismatch claim.reservation.toHex]
      | .ok held => if vectorsEqual held claim.authorized.approved then []
        else [reason .reservationDemandMismatch claim.reservation.toHex]

def attemptReasons (claim : SignClaim) (state : LedgerState) : List Reason :=
  let committed := (state.attempts.lookup claim.attempt).any fun attempt =>
    attempt.admission.reservation = claim.reservation ∧ attempt.admission.generation = claim.generation ∧
    attempt.admission.action = claim.action ∧ attempt.admission.authorization = claim.authorization
  if committed then [] else [reason .attemptNotCommitted claim.attempt.toHex]

/-- Every reason no key may be used for the claim; empty where one may. -/
def checkBeforeSign (core : PortfolioCore) (transcript : VerificationTranscript) (claim : SignClaim)
    (state : LedgerState) : Option (List Reason) := do
  let proof ← verifiedAtBoundary core transcript (digestOf claim) claim.time
  let compiled ← compileAction core.compiled claim.authorized claim.candidate
  some (canonicalReasons (childReasons claim proof ++
    (if claim.agent ≠ partyIdInputOf claim.authorized.agent then [reason .childAgentMismatch claim.agent.value] else []) ++
    actionReasons claim compiled ++ (if claim.generation ≠ PORTFOLIO_GENERATION then
      [reason .reservationGenerationInvalid ("claim:" ++ toString claim.generation.1)] else []) ++
    reservationReasons core claim state ++ attemptReasons claim state))

end Boundary

end Mandate.Portfolio
