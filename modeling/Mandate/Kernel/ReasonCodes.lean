import Mandate.Core.TermSpelling

/-! The reason codes of the kernel: the one vocabulary in which it refuses. -/
namespace Mandate.Kernel

inductive ReasonCode
  | malformedMandate | unsupportedMandateVersion | malformedCandidate | malformedTrustedState
  | malformedAuthorization | malformedIdentifier | resourceLimitExceeded | unitMismatch
  | valueOutOfRange | notionalInconsistent | verifierInternalError | mandateExpired
  | mandateNotYetActive | signatureInvalid | signerUnauthorized | mandateQuarantined
  | agentUnauthorized | mandateAlreadyConsumed | mandateReserved | replayStateUnknown
  | authorizationSchemeUnsupported | authorizationDomainMismatch | canonicalAssetMismatch
  | representationAssetMismatch | representationUnknown | issuerNotAllowed
  | syntheticNotAllowed | representationInactive | representationMetadataUnknown
  | representationChainInconsistent | representationAttributesMismatch | maxNotionalExceeded
  | priceDeviationExceeded | sideMismatch | totalDebitExceeded | totalCreditBelowMinimum
  | feesExceedNotional | priceStateStale | corporateActionStateChanged
  | corporateActionStateInconsistent | tradingHalted | marketStateUnknown
  | corporateActionStateUnknown | corporateActionStateStale | candidateStateMismatch
  | registrySnapshotMismatch | registrySnapshotUnknown | chainNotAllowed | venueNotAllowed
  | untrustedRequiredState | trustedStateMissing
deriving DecidableEq

abbrev KernelResult := Except ReasonCode

namespace ReasonCode

def name : ReasonCode → String
  | malformedMandate => "MALFORMED_MANDATE"
  | unsupportedMandateVersion => "UNSUPPORTED_MANDATE_VERSION"
  | malformedCandidate => "MALFORMED_CANDIDATE"
  | malformedTrustedState => "MALFORMED_TRUSTED_STATE"
  | malformedAuthorization => "MALFORMED_AUTHORIZATION"
  | malformedIdentifier => "MALFORMED_IDENTIFIER"
  | resourceLimitExceeded => "RESOURCE_LIMIT_EXCEEDED"
  | unitMismatch => "UNIT_MISMATCH"
  | valueOutOfRange => "VALUE_OUT_OF_RANGE"
  | notionalInconsistent => "NOTIONAL_INCONSISTENT"
  | verifierInternalError => "VERIFIER_INTERNAL_ERROR"
  | mandateExpired => "MANDATE_EXPIRED"
  | mandateNotYetActive => "MANDATE_NOT_YET_ACTIVE"
  | signatureInvalid => "SIGNATURE_INVALID"
  | signerUnauthorized => "SIGNER_UNAUTHORIZED"
  | mandateQuarantined => "MANDATE_QUARANTINED"
  | agentUnauthorized => "AGENT_UNAUTHORIZED"
  | mandateAlreadyConsumed => "MANDATE_ALREADY_CONSUMED"
  | mandateReserved => "MANDATE_RESERVED"
  | replayStateUnknown => "REPLAY_STATE_UNKNOWN"
  | authorizationSchemeUnsupported => "AUTHORIZATION_SCHEME_UNSUPPORTED"
  | authorizationDomainMismatch => "AUTHORIZATION_DOMAIN_MISMATCH"
  | canonicalAssetMismatch => "CANONICAL_ASSET_MISMATCH"
  | representationAssetMismatch => "REPRESENTATION_ASSET_MISMATCH"
  | representationUnknown => "REPRESENTATION_UNKNOWN"
  | issuerNotAllowed => "ISSUER_NOT_ALLOWED"
  | syntheticNotAllowed => "SYNTHETIC_NOT_ALLOWED"
  | representationInactive => "REPRESENTATION_INACTIVE"
  | representationMetadataUnknown => "REPRESENTATION_METADATA_UNKNOWN"
  | representationChainInconsistent => "REPRESENTATION_CHAIN_INCONSISTENT"
  | representationAttributesMismatch => "REPRESENTATION_ATTRIBUTES_MISMATCH"
  | maxNotionalExceeded => "MAX_NOTIONAL_EXCEEDED"
  | priceDeviationExceeded => "PRICE_DEVIATION_EXCEEDED"
  | sideMismatch => "SIDE_MISMATCH"
  | totalDebitExceeded => "TOTAL_DEBIT_EXCEEDED"
  | totalCreditBelowMinimum => "TOTAL_CREDIT_BELOW_MINIMUM"
  | feesExceedNotional => "FEES_EXCEED_NOTIONAL"
  | priceStateStale => "PRICE_STATE_STALE"
  | corporateActionStateChanged => "CORPORATE_ACTION_STATE_CHANGED"
  | corporateActionStateInconsistent => "CORPORATE_ACTION_STATE_INCONSISTENT"
  | tradingHalted => "TRADING_HALTED"
  | marketStateUnknown => "MARKET_STATE_UNKNOWN"
  | corporateActionStateUnknown => "CORPORATE_ACTION_STATE_UNKNOWN"
  | corporateActionStateStale => "CORPORATE_ACTION_STATE_STALE"
  | candidateStateMismatch => "CANDIDATE_STATE_MISMATCH"
  | registrySnapshotMismatch => "REGISTRY_SNAPSHOT_MISMATCH"
  | registrySnapshotUnknown => "REGISTRY_SNAPSHOT_UNKNOWN"
  | chainNotAllowed => "CHAIN_NOT_ALLOWED"
  | venueNotAllowed => "VENUE_NOT_ALLOWED"
  | untrustedRequiredState => "UNTRUSTED_REQUIRED_STATE"
  | trustedStateMissing => "TRUSTED_STATE_MISSING"

def id : ReasonCode → String
  | malformedMandate => "MND-INPUT-001"
  | unsupportedMandateVersion => "MND-INPUT-002"
  | malformedCandidate => "MND-INPUT-003"
  | malformedTrustedState => "MND-INPUT-004"
  | malformedAuthorization => "MND-INPUT-005"
  | malformedIdentifier => "MND-INPUT-006"
  | resourceLimitExceeded => "MND-INPUT-011"
  | unitMismatch => "MND-INPUT-007"
  | valueOutOfRange => "MND-INPUT-008"
  | notionalInconsistent => "MND-INPUT-009"
  | verifierInternalError => "MND-INPUT-010"
  | mandateExpired => "MND-AUTH-001"
  | mandateNotYetActive => "MND-AUTH-002"
  | signatureInvalid => "MND-AUTH-003"
  | signerUnauthorized => "MND-AUTH-004"
  | mandateQuarantined => "MND-AUTH-011"
  | agentUnauthorized => "MND-AUTH-005"
  | mandateAlreadyConsumed => "MND-AUTH-006"
  | mandateReserved => "MND-AUTH-010"
  | replayStateUnknown => "MND-AUTH-007"
  | authorizationSchemeUnsupported => "MND-AUTH-008"
  | authorizationDomainMismatch => "MND-AUTH-009"
  | canonicalAssetMismatch => "MND-ASSET-001"
  | representationAssetMismatch => "MND-ASSET-002"
  | representationUnknown => "MND-ASSET-003"
  | issuerNotAllowed => "MND-REPR-001"
  | syntheticNotAllowed => "MND-REPR-002"
  | representationInactive => "MND-REPR-003"
  | representationMetadataUnknown => "MND-REPR-004"
  | representationChainInconsistent => "MND-REPR-006"
  | representationAttributesMismatch => "MND-REPR-005"
  | maxNotionalExceeded => "MND-ECON-001"
  | priceDeviationExceeded => "MND-ECON-002"
  | sideMismatch => "MND-ECON-003"
  | totalDebitExceeded => "MND-ECON-004"
  | totalCreditBelowMinimum => "MND-ECON-005"
  | feesExceedNotional => "MND-ECON-006"
  | priceStateStale => "MND-STATE-001"
  | corporateActionStateChanged => "MND-STATE-002"
  | corporateActionStateInconsistent => "MND-STATE-003"
  | tradingHalted => "MND-STATE-004"
  | marketStateUnknown => "MND-STATE-005"
  | corporateActionStateUnknown => "MND-STATE-007"
  | corporateActionStateStale => "MND-STATE-008"
  | candidateStateMismatch => "MND-STATE-006"
  | registrySnapshotMismatch => "MND-STATE-009"
  | registrySnapshotUnknown => "MND-STATE-010"
  | chainNotAllowed => "MND-NET-001"
  | venueNotAllowed => "MND-NET-002"
  | untrustedRequiredState => "MND-TRUST-001"
  | trustedStateMissing => "MND-TRUST-002"

end ReasonCode

end Mandate.Kernel
