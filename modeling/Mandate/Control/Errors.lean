import Mandate.Control.Module

/-! The control engine's refusals: what kind of thing failed, the rule that failed in the
vocabulary of whoever owns it, and the structure a caller needs to act on it. -/
namespace Mandate.Control
open Core Ledger

inductive ControlCode
  | requestInvalid | contextInvalid | resourceBoundExceeded | moduleNotFound
  | moduleNotConforming | actionInvalid | actionNotCovered | authorityInvalid
  | authorityUnavailable | delegationRefused | semanticNarrowingUnprovable
  | semanticBindingRefused | stateMissing | stateStale | stateUntrusted | stateConflict
  | stateFinalityInsufficient | stateInvalid | statePolicyConflict | invariantFailed
  | invariantUnknown | demandInvalid | ledgerConflict | retryExhausted | authorizationExpired
  | reservationNotActive | revalidationFailed | revalidationPassed | executionEvidenceExists
  | neverIssuedForbidden | adapterNotUsable | preExecutionFailed | attemptRefused
deriving DecidableEq

inductive RefusalOrigin | control | core | ledger | module
deriving DecidableEq

structure StateFailure where
  code : ControlCode
  reason : String
  requirement : String
deriving DecidableEq

inductive Evaluator
  | core
  | module (module : ModuleRef)
  | none
deriving DecidableEq

inductive InvariantOrigin | lineage | policy
deriving DecidableEq

structure InvariantResult where
  origin : InvariantOrigin
  term : StateInvariantTerm
  evaluator : Evaluator
  outcome : InvariantOutcome
  reason : String
  observed : Option Measure
  bound : Option Measure
  states : List Digest32
  reservations : List ReservationId
  projection : Digest32
  ledgerVersion : Nat
deriving DecidableEq

structure NarrowingProof where
  term : TermKey
  invariantId : Identifier
  version : SmallUint UINT32_MAX
  parentParams : OpaqueBytes MAX_INVARIANT_PARAMS_BYTES
  childParams : OpaqueBytes MAX_INVARIANT_PARAMS_BYTES
  evaluator : Evaluator
  definition : Option SemanticInvariantRef
  verdict : InvariantNarrowing
deriving DecidableEq

inductive RefusalDetail
  | none
  | ledger (refusal : LedgerRefusal)
  | invariants (results : List InvariantResult)
  | delegation (violations : List DelegationViolation) (proofs : List NarrowingProof)
  | state (failures : List StateFailure)
deriving DecidableEq

structure ControlRefusal where
  code : ControlCode
  reason : String
  origin : RefusalOrigin
  path : String
  module : Option ModuleRef
  detail : RefusalDetail
deriving DecidableEq

inductive ControlFault
  | refused (refusal : ControlRefusal)
  | thrown
deriving DecidableEq

abbrev ControlResult := Except ControlFault

variable {α : Type}

def refusal (code : ControlCode) (reason path : String) : ControlRefusal :=
  ⟨code, reason, .control, path, none, .none⟩

def ControlRefusal.about (r : ControlRefusal) (module : ModuleRef) : ControlRefusal :=
  { r with module := some module }

def ControlRefusal.raisedBy (r : ControlRefusal) (origin : RefusalOrigin) : ControlRefusal :=
  { r with origin }

def ControlRefusal.detailing (r : ControlRefusal) (detail : RefusalDetail) : ControlRefusal :=
  { r with detail }

def refuseWith (r : ControlRefusal) : ControlResult α := .error (.refused r)

def refuse (code : ControlCode) (reason path : String) : ControlResult α :=
  refuseWith (refusal code reason path)

def written {β : Type} (value : Option β) : ControlResult β := value.elim (.error .thrown) .ok

def coreErrorText : CoreErrorCode → String
  | .wrongType => "WRONG_TYPE"
  | .nonFiniteNumber => "NON_FINITE_NUMBER"
  | .nonInteger => "NON_INTEGER"
  | .unsafeInteger => "UNSAFE_INTEGER"
  | .nonCanonicalInteger => "NON_CANONICAL_INTEGER"
  | .integerOutOfRange => "INTEGER_OUT_OF_RANGE"
  | .invalidDecimals => "INVALID_DECIMALS"
  | .unknownEnumValue => "UNKNOWN_ENUM_VALUE"
  | .malformedIdentifier => "MALFORMED_IDENTIFIER"
  | .malformedUnit => "MALFORMED_UNIT"
  | .malformedDigest => "MALFORMED_DIGEST"
  | .zeroDigest => "ZERO_DIGEST"
  | .malformedParty => "MALFORMED_PARTY"
  | .malformedBytes => "MALFORMED_BYTES"
  | .resourceKindMismatch => "RESOURCE_KIND_MISMATCH"
  | .collectionTooLarge => "COLLECTION_TOO_LARGE"
  | .collectionEmpty => "COLLECTION_EMPTY"
  | .duplicateSetMember => "DUPLICATE_SET_MEMBER"
  | .quantityNegativeUnsigned => "QUANTITY_NEGATIVE_UNSIGNED"
  | .quantityOutOfRange => "QUANTITY_OUT_OF_RANGE"
  | .assetRequired => "ASSET_REQUIRED"
  | .assetForbidden => "ASSET_FORBIDDEN"
  | .assetFormInvalid => "ASSET_FORM_INVALID"
  | .valuationRequired => "VALUATION_REQUIRED"
  | .valuationForbidden => "VALUATION_FORBIDDEN"
  | .valuationBasisInvalid => "VALUATION_BASIS_INVALID"
  | .valuationSourceInvalid => "VALUATION_SOURCE_INVALID"
  | .valuationUnitMismatch => "VALUATION_UNIT_MISMATCH"
  | .countUnitRequired => "COUNT_UNIT_REQUIRED"
  | .quantityKindMismatch => "QUANTITY_KIND_MISMATCH"
  | .quantityUnitMismatch => "QUANTITY_UNIT_MISMATCH"
  | .quantityAssetMismatch => "QUANTITY_ASSET_MISMATCH"
  | .quantityDecimalsMismatch => "QUANTITY_DECIMALS_MISMATCH"
  | .quantityValuationMismatch => "QUANTITY_VALUATION_MISMATCH"
  | .inexactRescale => "INEXACT_RESCALE"
  | .nonCanonicalDecimal => "NON_CANONICAL_DECIMAL"
  | .duplicateTerm => "DUPLICATE_TERM"
  | .invalidTimeWindow => "INVALID_TIME_WINDOW"
  | .delegateDepthInvalid => "DELEGATE_DEPTH_INVALID"
  | .dimensionKindNotLedgerTrackable => "DIMENSION_KIND_NOT_LEDGER_TRACKABLE"
  | .restorationAccountingMismatch => "RESTORATION_ACCOUNTING_MISMATCH"
  | .epochRequired => "EPOCH_REQUIRED"
  | .epochForbidden => "EPOCH_FORBIDDEN"
  | .epochInvalid => "EPOCH_INVALID"
  | .netSignRequiresSignedKind => "NET_SIGN_REQUIRES_SIGNED_KIND"
  | .minTrustNotAdmissible => "MIN_TRUST_NOT_ADMISSIBLE"
  | .executionDependenceIncompatible => "EXECUTION_DEPENDENCE_INCOMPATIBLE"
  | .trustClassNotAdmissible => "TRUST_CLASS_NOT_ADMISSIBLE"
  | .stateValidityInvalid => "STATE_VALIDITY_INVALID"
  | .targetRepeatedInResources => "TARGET_REPEATED_IN_RESOURCES"
  | .lineageRepeatsNode => "LINEAGE_REPEATS_NODE"
  | .rootIssuerNotPrincipal => "ROOT_ISSUER_NOT_PRINCIPAL"
  | .principalPolicyGrantsAuthority => "PRINCIPAL_POLICY_GRANTS_AUTHORITY"
  | .principalPolicyTermNotPermitted => "PRINCIPAL_POLICY_TERM_NOT_PERMITTED"
  | .generationZero => "GENERATION_ZERO"
  | .encodingMalformed => "ENCODING_MALFORMED"
  | .encodingTrailingBytes => "ENCODING_TRAILING_BYTES"
  | .encodingWrongTag => "ENCODING_WRONG_TAG"
  | .encodingUnsupportedVersion => "ENCODING_UNSUPPORTED_VERSION"
  | .encodingNonCanonical => "ENCODING_NON_CANONICAL"
  | .encodingUnknownCode => "ENCODING_UNKNOWN_CODE"
  | .encodingInvalidFlag => "ENCODING_INVALID_FLAG"

def refusalText : GenericRefusalCode → String
  | .principalMismatch => "PRINCIPAL_MISMATCH"
  | .principalPolicyMissing => "PRINCIPAL_POLICY_MISSING"
  | .policySequenceNotIncreasing => "POLICY_SEQUENCE_NOT_INCREASING"
  | .policyUpdateRequiresBaseline => "POLICY_UPDATE_REQUIRES_BASELINE"
  | .authorityAlreadyRegistered => "AUTHORITY_ALREADY_REGISTERED"
  | .authorityUnknown => "AUTHORITY_UNKNOWN"
  | .authorityPrincipalMismatch => "AUTHORITY_PRINCIPAL_MISMATCH"
  | .authorityIssuerMismatch => "AUTHORITY_ISSUER_MISMATCH"
  | .authorityNotYetValid => "AUTHORITY_NOT_YET_VALID"
  | .authorityExpired => "AUTHORITY_EXPIRED"
  | .authorityRevoked => "AUTHORITY_REVOKED"
  | .authorityDepthExceeded => "AUTHORITY_DEPTH_EXCEEDED"
  | .lineageTermsIncomparable => "LINEAGE_TERMS_INCOMPARABLE"
  | .semanticProofInvalid => "SEMANTIC_PROOF_INVALID"
  | .semanticProofUnexpected => "SEMANTIC_PROOF_UNEXPECTED"
  | .semanticBindingInvalid => "SEMANTIC_BINDING_INVALID"
  | .semanticBindingUnexpected => "SEMANTIC_BINDING_UNEXPECTED"
  | .semanticBindingMissing => "SEMANTIC_BINDING_MISSING"
  | .semanticBindingMismatch => "SEMANTIC_BINDING_MISMATCH"
  | .historicalSemanticsUnbound => "HISTORICAL_SEMANTICS_UNBOUND"
  | .revocationIssuerNotEligible => "REVOCATION_ISSUER_NOT_ELIGIBLE"
  | .revocationNotEffective => "REVOCATION_NOT_EFFECTIVE"
  | .actorNotHolder => "ACTOR_NOT_HOLDER"
  | .moduleNotPermitted => "MODULE_NOT_PERMITTED"
  | .reservationExists => "RESERVATION_EXISTS"
  | .generationOutOfSequence => "GENERATION_OUT_OF_SEQUENCE"
  | .previousGenerationOpen => "PREVIOUS_GENERATION_OPEN"
  | .contributionInvalid => "CONTRIBUTION_INVALID"
  | .unboundedContribution => "UNBOUNDED_CONTRIBUTION"
  | .inexactRescale => "INEXACT_RESCALE"
  | .netDimensionUnsupported => "NET_DIMENSION_UNSUPPORTED"
  | .epochNotStarted => "EPOCH_NOT_STARTED"
  | .amountOverflow => "AMOUNT_OVERFLOW"
  | .chargePathMismatch => "CHARGE_PATH_MISMATCH"
  | .reservationUnknown => "RESERVATION_UNKNOWN"
  | .reservationIdMismatch => "RESERVATION_ID_MISMATCH"
  | .reservationClosed => "RESERVATION_CLOSED"
  | .accountingShapeInvalid => "ACCOUNTING_SHAPE_INVALID"
  | .consumeExceedsReserved => "CONSUME_EXCEEDS_RESERVED"
  | .releaseMismatch => "RELEASE_MISMATCH"
  | .restoreExceedsConsumed => "RESTORE_EXCEEDS_CONSUMED"
  | .restoreNotPermitted => "RESTORE_NOT_PERMITTED"
  | .attemptShapeInvalid => "ATTEMPT_SHAPE_INVALID"
  | .attemptBindingMismatch => "ATTEMPT_BINDING_MISMATCH"
  | .attemptIdMismatch => "ATTEMPT_ID_MISMATCH"
  | .attemptUnresolved => "ATTEMPT_UNRESOLVED"
  | .artifactReused => "ARTIFACT_REUSED"
  | .venueSlotReused => "VENUE_SLOT_REUSED"
  | .attemptExpired => "ATTEMPT_EXPIRED"
  | .evaluationTimeRegressed => "EVALUATION_TIME_REGRESSED"
  | .batchEmpty => "BATCH_EMPTY"
  | .batchTooLarge => "BATCH_TOO_LARGE"
  | .ledgerChainBroken => "LEDGER_CHAIN_BROKEN"
  | .retryPolicyInvalid => "RETRY_POLICY_INVALID"
  | .moduleUnregistered => "MODULE_UNREGISTERED"
  | .moduleDigestMismatch => "MODULE_DIGEST_MISMATCH"
  | .moduleImplementationUnregistered => "MODULE_IMPLEMENTATION_UNREGISTERED"
  | .moduleRetiring => "MODULE_RETIRING"
  | .moduleDisabled => "MODULE_DISABLED"
  | .adapterUnregistered => "ADAPTER_UNREGISTERED"
  | .adapterDigestMismatch => "ADAPTER_DIGEST_MISMATCH"
  | .adapterRetiring => "ADAPTER_RETIRING"
  | .adapterDisabled => "ADAPTER_DISABLED"

def ledgerReason : LedgerRefusal → String
  | .malformed _ _ => "MALFORMED"
  | .limitExceeded _ _ => "LEDGER_LIMIT_EXCEEDED"
  | .delegationRefused _ _ => "DELEGATION_REFUSED"
  | .generic code _ _ => refusalText code

def ledgerPath : LedgerRefusal → String
  | .malformed path _ => path
  | .limitExceeded path _ => path
  | .delegationRefused path _ => path
  | .generic _ path _ => path

def genericFamily : GenericRefusalCode → ControlCode
  | .unboundedContribution | .amountOverflow | .epochNotStarted | .netDimensionUnsupported
  | .inexactRescale => .authorityUnavailable
  | .moduleUnregistered => .moduleNotFound
  | .moduleDigestMismatch | .moduleImplementationUnregistered | .moduleRetiring
  | .moduleDisabled => .moduleNotConforming
  | .adapterUnregistered | .adapterDigestMismatch | .adapterRetiring | .adapterDisabled =>
    .adapterNotUsable
  | .attemptShapeInvalid | .attemptBindingMismatch | .attemptIdMismatch | .attemptUnresolved
  | .artifactReused | .venueSlotReused | .attemptExpired => .attemptRefused
  | .moduleNotPermitted => .actionNotCovered
  | .contributionInvalid => .demandInvalid
  | .semanticProofInvalid | .semanticProofUnexpected => .semanticNarrowingUnprovable
  | .semanticBindingInvalid | .semanticBindingUnexpected | .semanticBindingMissing
  | .semanticBindingMismatch | .historicalSemanticsUnbound => .semanticBindingRefused
  | .evaluationTimeRegressed => .contextInvalid
  | .reservationExists | .previousGenerationOpen | .generationOutOfSequence => .requestInvalid
  | _ => .authorityInvalid

def ledgerFamily : LedgerRefusal → ControlCode
  | .malformed _ _ => .demandInvalid
  | .limitExceeded _ _ => .authorityUnavailable
  | .delegationRefused _ violations =>
    if violations.all (·.code == .narrowingUnproven) then .semanticNarrowingUnprovable
    else .delegationRefused
  | .generic code _ _ => genericFamily code

def fromLedger (r : LedgerRefusal) (path : String) : ControlRefusal where
  code := ledgerFamily r
  reason := ledgerReason r
  origin := .ledger
  path := if path = "" then ledgerPath r else path ++ "." ++ ledgerPath r
  module := none
  detail := .ledger r

def ofLedger (path : String) (result : LedgerResult α) : ControlResult α :=
  result.mapError fun
    | .refused r => .refused (fromLedger r path)
    | .thrown => .thrown

end Mandate.Control
