import Mandate.Core.Authority

/-! Ledger refusals: a refusal is a value that says why nothing changed. An assertion of an
encoder, or a read of an absent record, throws instead; it is the other fault. -/
namespace Mandate.Ledger
open Core

inductive GenericRefusalCode
  | principalMismatch | principalPolicyMissing | policySequenceNotIncreasing
  | policyUpdateRequiresBaseline
  | authorityAlreadyRegistered | authorityUnknown | authorityPrincipalMismatch
  | authorityIssuerMismatch | authorityNotYetValid | authorityExpired | authorityRevoked
  | authorityDepthExceeded | lineageTermsIncomparable
  | semanticProofInvalid | semanticProofUnexpected | semanticBindingInvalid
  | semanticBindingUnexpected | semanticBindingMissing | semanticBindingMismatch
  | historicalSemanticsUnbound
  | revocationIssuerNotEligible | revocationNotEffective
  | actorNotHolder | moduleNotPermitted | moduleUnregistered | moduleDigestMismatch
  | moduleImplementationUnregistered | moduleRetiring | moduleDisabled
  | adapterUnregistered | adapterDigestMismatch | adapterRetiring | adapterDisabled
  | reservationExists | generationOutOfSequence
  | previousGenerationOpen | contributionInvalid | unboundedContribution | inexactRescale
  | netDimensionUnsupported | epochNotStarted | amountOverflow | chargePathMismatch
  | reservationUnknown | reservationIdMismatch | reservationClosed | accountingShapeInvalid
  | consumeExceedsReserved | releaseMismatch | restoreExceedsConsumed | restoreNotPermitted
  | attemptShapeInvalid | attemptBindingMismatch | attemptIdMismatch | attemptUnresolved
  | artifactReused | venueSlotReused | attemptExpired
  | evaluationTimeRegressed | batchEmpty | batchTooLarge | ledgerChainBroken
  | retryPolicyInvalid
deriving DecidableEq

inductive DelegationViolationCode
  | widensSet | widensRight | widensBound | widensWindow | widensLimit
  | dropsBound | dropsInvariant | dropsStatePolicy
  | weakensInvariant | weakensStatePolicy | depthExceeded | termIncomparable | narrowingUnproven
deriving DecidableEq

inductive ViolationTerm
  | term (key : TermKey)
  | validity
deriving DecidableEq

structure DelegationViolation where
  code : DelegationViolationCode
  term : ViolationTerm
deriving DecidableEq

/-- A node's dimension, or a principal-global dimension of the policy in force. -/
inductive TargetRef
  | node (authority : AuthorityId) (dimensionId : DimensionId)
  | policy (policy : PrincipalPolicyId) (dimensionId : DimensionId)
deriving DecidableEq

structure LimitFailure where
  target : TargetRef
  kind : QuantityKind
  unit : UnitCode
  decimals : Decimals
  requested : Int
  available : Int
  limit : Int
deriving DecidableEq

inductive LedgerRefusal
  | malformed (path : String) (core : CoreError)
  | limitExceeded (path : String) (failures : List LimitFailure)
  | delegationRefused (path : String) (violations : List DelegationViolation)
  | generic (code : GenericRefusalCode) (path : String) (node : Option AuthorityId)
deriving DecidableEq

inductive LedgerFault
  | refused (refusal : LedgerRefusal)
  | thrown

abbrev LedgerResult := Except LedgerFault

variable {α : Type}

def refuseAt (code : GenericRefusalCode) (path : String) (node : Option AuthorityId) : LedgerResult α :=
  .error (.refused (.generic code path node))

def refuse (code : GenericRefusalCode) (path : String) : LedgerResult α := refuseAt code path none

def malformed (core : CoreError) (path : String) : LedgerResult α :=
  .error (.refused (.malformed path core))

def orThrow (value : Option α) : LedgerResult α := value.elim (.error .thrown) .ok

def prefixed (path pre : String) : String := if path = "" then pre else pre ++ "." ++ path

/-- Re-address a refusal produced for one event at its position in a batch. -/
def withPath (refusal : LedgerRefusal) (pre : String) : LedgerRefusal :=
  match refusal with
  | .malformed path core => .malformed (prefixed path pre) core
  | .limitExceeded path failures => .limitExceeded (prefixed path pre) failures
  | .delegationRefused path violations => .delegationRefused (prefixed path pre) violations
  | .generic code path node => .generic code (prefixed path pre) node

def readdress (pre : String) : LedgerFault → LedgerFault
  | .refused refusal => .refused (withPath refusal pre)
  | .thrown => .thrown

@[simp] theorem refuse_ne_ok (code : GenericRefusalCode) (path : String) (value : α) :
    (refuse code path : LedgerResult α) = .ok value ↔ False := by simp [refuse, refuseAt]

@[simp] theorem refuseAt_ne_ok (code : GenericRefusalCode) (path : String) (node : Option AuthorityId)
    (value : α) : (refuseAt code path node : LedgerResult α) = .ok value ↔ False := by simp [refuseAt]

section Checks
variable {condition : Prop} [Decidable condition] {code : GenericRefusalCode} {path : String}
  {node : Option AuthorityId} {next : LedgerResult α} {value : α}

theorem ite_refuseAt_ok : (if condition then refuseAt code path node else next) = .ok value ↔
    ¬ condition ∧ next = .ok value := by
  by_cases holds : condition <;> simp [holds]

theorem ite_refuse_ok : (if condition then refuse code path else next) = .ok value ↔
    ¬ condition ∧ next = .ok value := ite_refuseAt_ok

theorem ite_else_refuse_ok : (if condition then next else refuse code path) = .ok value ↔
    condition ∧ next = .ok value := by
  by_cases holds : condition <;> simp [holds]

end Checks

@[simp] theorem orThrow_ok {option : Option α} {value : α} :
    orThrow option = .ok value ↔ option = some value := by
  cases option <;> simp [orThrow]

end Mandate.Ledger
