import Mathlib.Data.List.Dedup
import Mathlib.Data.List.Sort
import Mathlib.Data.String.Basic

/-! Portfolio reasons: a code and the subject it concerns. A list of reasons is canonical
when it is sorted and free of duplicates, so the order of the checks never shows. -/
namespace Mandate.Portfolio

inductive ReasonCode
  | mandateMalformed | mandateSignatureInvalid | mandateDigestMismatch | mandateNotYetValid | mandateExpired
  | preferredExceedsHardMaximum | preferredExceedsPortfolioLimit | allocationModeViolation
  | agentUnknown | agentSignatureInvalid | agentNotYetValid | agentExpired
  | proposalNotYetValid | proposalExpired | proposalReplayed | proposalExtensionUnknown
  | proposalResourcesMisdeclared | proposalMinimumInvalid
  | instrumentUnknown | identityClaimMismatch
  | domainNotAllowed | actionNotAllowed | chainNotAllowed | venueNotAllowed | routeNotAllowed
  | assetNotAllowed | representationNotAllowed | issuerNotAllowed | recipientNotAllowed
  | syntheticNotAllowed | requiredRightMissing | leverageNotAllowed | slippageNotAllowed
  | quoteNotAllowed | quoteStale
  | resourceUndeclared | resourceIncomparable | agentLimitExceeded | portfolioLimitExceeded
  | allocationInsufficient
  | releaseExceedsUnused | releaseAlreadyApplied | releaseSequenceInvalid
  | claimNotPermittedInMode | claimAlreadyApplied | lotUnknown | lotExhausted
  | commitExceedsAllocation | commitAlreadyApplied
  | childWidensDomains | childWidensActions | childWidensChains | childWidensVenues
  | childWidensAssets | childWidensRepresentations | childWidensIssuers | childWidensRecipients
  | childWidensSyntheticPolicy | childDropsRequiredRight | childWidensLeverage
  | childWidensSlippage | childWidensQuoteAge | childWidensWindow | childResourceUndeclared
  | childWidensResourceLimit
  | candidateProposalUnknown | candidateProposalDuplicated | candidateBookMismatch
  | childAuthorizationUnknown | childAgentMismatch | childActionMutated
  | reservationMissing | reservationGenerationInvalid | reservationDemandMismatch | attemptNotCommitted
  | registry (code : String)
  | ledger (code : String)
deriving DecidableEq

def ReasonCode.text : ReasonCode → String
  | .mandateMalformed => "PORTFOLIO_MANDATE_MALFORMED"
  | .mandateSignatureInvalid => "PORTFOLIO_MANDATE_SIGNATURE_INVALID"
  | .mandateDigestMismatch => "PORTFOLIO_MANDATE_DIGEST_MISMATCH"
  | .mandateNotYetValid => "PORTFOLIO_MANDATE_NOT_YET_VALID"
  | .mandateExpired => "PORTFOLIO_MANDATE_EXPIRED"
  | .preferredExceedsHardMaximum => "PREFERRED_EXCEEDS_HARD_MAXIMUM"
  | .preferredExceedsPortfolioLimit => "PREFERRED_EXCEEDS_PORTFOLIO_LIMIT"
  | .allocationModeViolation => "ALLOCATION_MODE_VIOLATION"
  | .agentUnknown => "AGENT_UNKNOWN"
  | .agentSignatureInvalid => "AGENT_SIGNATURE_INVALID"
  | .agentNotYetValid => "AGENT_NOT_YET_VALID"
  | .agentExpired => "AGENT_EXPIRED"
  | .proposalNotYetValid => "PROPOSAL_NOT_YET_VALID"
  | .proposalExpired => "PROPOSAL_EXPIRED"
  | .proposalReplayed => "PROPOSAL_REPLAYED"
  | .proposalExtensionUnknown => "PROPOSAL_EXTENSION_UNKNOWN"
  | .proposalResourcesMisdeclared => "PROPOSAL_RESOURCES_MISDECLARED"
  | .proposalMinimumInvalid => "PROPOSAL_MINIMUM_INVALID"
  | .instrumentUnknown => "INSTRUMENT_UNKNOWN"
  | .identityClaimMismatch => "IDENTITY_CLAIM_MISMATCH"
  | .domainNotAllowed => "DOMAIN_NOT_ALLOWED"
  | .actionNotAllowed => "ACTION_NOT_ALLOWED"
  | .chainNotAllowed => "CHAIN_NOT_ALLOWED"
  | .venueNotAllowed => "VENUE_NOT_ALLOWED"
  | .routeNotAllowed => "ROUTE_NOT_ALLOWED"
  | .assetNotAllowed => "ASSET_NOT_ALLOWED"
  | .representationNotAllowed => "REPRESENTATION_NOT_ALLOWED"
  | .issuerNotAllowed => "ISSUER_NOT_ALLOWED"
  | .recipientNotAllowed => "RECIPIENT_NOT_ALLOWED"
  | .syntheticNotAllowed => "SYNTHETIC_NOT_ALLOWED"
  | .requiredRightMissing => "REQUIRED_RIGHT_MISSING"
  | .leverageNotAllowed => "LEVERAGE_NOT_ALLOWED"
  | .slippageNotAllowed => "SLIPPAGE_NOT_ALLOWED"
  | .quoteNotAllowed => "QUOTE_NOT_ALLOWED"
  | .quoteStale => "QUOTE_STALE"
  | .resourceUndeclared => "RESOURCE_UNDECLARED"
  | .resourceIncomparable => "RESOURCE_INCOMPARABLE"
  | .agentLimitExceeded => "AGENT_LIMIT_EXCEEDED"
  | .portfolioLimitExceeded => "PORTFOLIO_LIMIT_EXCEEDED"
  | .allocationInsufficient => "ALLOCATION_INSUFFICIENT"
  | .releaseExceedsUnused => "RELEASE_EXCEEDS_UNUSED"
  | .releaseAlreadyApplied => "RELEASE_ALREADY_APPLIED"
  | .releaseSequenceInvalid => "RELEASE_SEQUENCE_INVALID"
  | .claimNotPermittedInMode => "CLAIM_NOT_PERMITTED_IN_MODE"
  | .claimAlreadyApplied => "CLAIM_ALREADY_APPLIED"
  | .lotUnknown => "LOT_UNKNOWN"
  | .lotExhausted => "LOT_EXHAUSTED"
  | .commitExceedsAllocation => "COMMIT_EXCEEDS_ALLOCATION"
  | .commitAlreadyApplied => "COMMIT_ALREADY_APPLIED"
  | .childWidensDomains => "CHILD_WIDENS_DOMAINS"
  | .childWidensActions => "CHILD_WIDENS_ACTIONS"
  | .childWidensChains => "CHILD_WIDENS_CHAINS"
  | .childWidensVenues => "CHILD_WIDENS_VENUES"
  | .childWidensAssets => "CHILD_WIDENS_ASSETS"
  | .childWidensRepresentations => "CHILD_WIDENS_REPRESENTATIONS"
  | .childWidensIssuers => "CHILD_WIDENS_ISSUERS"
  | .childWidensRecipients => "CHILD_WIDENS_RECIPIENTS"
  | .childWidensSyntheticPolicy => "CHILD_WIDENS_SYNTHETIC_POLICY"
  | .childDropsRequiredRight => "CHILD_DROPS_REQUIRED_RIGHT"
  | .childWidensLeverage => "CHILD_WIDENS_LEVERAGE"
  | .childWidensSlippage => "CHILD_WIDENS_SLIPPAGE"
  | .childWidensQuoteAge => "CHILD_WIDENS_QUOTE_AGE"
  | .childWidensWindow => "CHILD_WIDENS_WINDOW"
  | .childResourceUndeclared => "CHILD_RESOURCE_UNDECLARED"
  | .childWidensResourceLimit => "CHILD_WIDENS_RESOURCE_LIMIT"
  | .candidateProposalUnknown => "CANDIDATE_PROPOSAL_UNKNOWN"
  | .candidateProposalDuplicated => "CANDIDATE_PROPOSAL_DUPLICATED"
  | .candidateBookMismatch => "CANDIDATE_BOOK_MISMATCH"
  | .childAuthorizationUnknown => "CHILD_AUTHORIZATION_UNKNOWN"
  | .childAgentMismatch => "CHILD_AGENT_MISMATCH"
  | .childActionMutated => "CHILD_ACTION_MUTATED"
  | .reservationMissing => "RESERVATION_MISSING"
  | .reservationGenerationInvalid => "RESERVATION_GENERATION_INVALID"
  | .reservationDemandMismatch => "RESERVATION_DEMAND_MISMATCH"
  | .attemptNotCommitted => "ATTEMPT_NOT_COMMITTED"
  | .registry code => "REGISTRY:" ++ code
  | .ledger code => "LEDGER:" ++ code

structure Reason where
  code : ReasonCode
  subject : String
deriving DecidableEq

def reason (code : ReasonCode) (subject : String) : Reason := ⟨code, subject⟩

theorem sole_ne_nil (r : Reason) : [r] ≠ [] := List.cons_ne_nil _ _

def reasonLE (a b : Reason) : Prop :=
  a.code.text < b.code.text ∨ (a.code.text = b.code.text ∧ a.subject ≤ b.subject)

instance : DecidableRel reasonLE := fun _ _ => inferInstanceAs (Decidable (_ ∨ _))

def canonicalReasons (reasons : List Reason) : List Reason := reasons.dedup.insertionSort reasonLE

variable {reasons : List Reason}

@[simp] theorem mem_canonicalReasons {r : Reason} : r ∈ canonicalReasons reasons ↔ r ∈ reasons := by
  simp [canonicalReasons]

@[simp] theorem canonicalReasons_eq_nil : canonicalReasons reasons = [] ↔ reasons = [] := by
  simp [List.eq_nil_iff_forall_not_mem]

def prefixed (subject : String) (reasons : List Reason) : List Reason :=
  reasons.map fun r => reason r.code (if r.subject = "" then subject else subject ++ "/" ++ r.subject)

@[simp] theorem prefixed_eq_nil {subject : String} :
    prefixed subject reasons = [] ↔ reasons = [] := List.map_eq_nil_iff

end Mandate.Portfolio
