import Mandate.Kernel.Authorization

/-! The check families. Each check is a function from the context to the violations it can
establish; where it needs state that is absent or unknown, it produces a violation. -/
namespace Mandate.Kernel
open Core

structure Violation where
  code : ReasonCode
  detail : List (String × String)

structure CheckContext where
  mandate : CanonicalMandate
  authorization : AuthorizationEnvelope
  candidate : ExecutionCandidate
  state : TrustedState
  now : UnixSeconds
  expectedDomain : Eip712Domain
  mandateDigest : Digest32
  trustedStateDigest : Digest32

abbrev Check := CheckContext → List Violation

def Side.name : Side → String
  | .buy => "BUY" | .sell => "SELL"

def OperationalState.name : OperationalState → String
  | .active => "ACTIVE" | .paused => "PAUSED" | .transition => "TRANSITION" | .deprecated => "DEPRECATED"
  | .unknown => "UNKNOWN"

def trustClassName : TrustClass → String
  | .authoritative => "AUTHORITATIVE" | .verified => "VERIFIED" | .advisory => "ADVISORY"
  | .untrusted => "UNTRUSTED"

def unlessViolated (holds : Prop) [Decidable holds] (code : ReasonCode) (detail : List (String × String)) :
    List Violation := if holds then [] else [⟨code, detail⟩]

theorem unlessViolated_nil {holds : Prop} [Decidable holds] {code : ReasonCode}
    {detail : List (String × String)} : unlessViolated holds code detail = [] ↔ holds := by
  unfold unlessViolated
  split <;> simp_all

def checkSignature [Keccak] [Secp256k1] : Check := fun ctx =>
  match verifyAuthorization ctx.authorization ctx.mandateDigest ctx.expectedDomain with
  | .error code => [⟨code, [("scheme", AUTHORIZATION_SCHEME)]⟩]
  | .ok signer => unlessViolated (partyIdsEqual signer ctx.mandate.principal = true) .signerUnauthorized
      [("expected", ctx.mandate.principal.value.1), ("observed", signer.value.1)]

def checkAgent : Check := fun ctx =>
  unlessViolated (partyIdsEqual ctx.candidate.agent ctx.mandate.agent = true) .agentUnauthorized
    [("expected", ctx.mandate.agent.value.1), ("observed", ctx.candidate.agent.value.1)]

/-- Live from `notBefore`, and expired at the instant of `expiresAt` itself. -/
def checkValidityWindow : Check := fun ctx =>
  unlessViolated (ctx.now.1 < ctx.mandate.expiresAt.1) .mandateExpired
    [("now", toString ctx.now.1), ("expiresAt", toString ctx.mandate.expiresAt.1)] ++
  unlessViolated (ctx.mandate.notBefore.1 ≤ ctx.now.1) .mandateNotYetActive
    [("now", toString ctx.now.1), ("notBefore", toString ctx.mandate.notBefore.1)]

def checkReplay : Check := fun ctx =>
  let own := [("mandateDigest", ctx.mandateDigest.toHex)]
  match ctx.state.replay with
  | none => [⟨.trustedStateMissing, [("input", "replay")]⟩]
  | some replay =>
    if replay.value.mandateDigest ≠ ctx.mandateDigest then
      [⟨.replayStateUnknown, [("reason", "record-is-for-a-different-mandate")]⟩]
    else match replay.value.status with
      | .consumed => [⟨.mandateAlreadyConsumed, own⟩]
      | .reserved => [⟨.mandateReserved, own⟩]
      | .quarantined => [⟨.mandateQuarantined, own⟩]
      | .unknown => [⟨.replayStateUnknown, [("reason", "source-reported-unknown")]⟩]
      | .unused => []

def checkCanonicalAsset : Check := fun ctx =>
  unlessViolated (canonicalAssetIdEquals ctx.candidate.canonicalAsset ctx.mandate.canonicalAsset = true)
    .canonicalAssetMismatch [("expected", ctx.mandate.canonicalAsset.value.1),
      ("observed", ctx.candidate.canonicalAsset.value.1)]

def checkChain : Check := fun ctx =>
  unlessViolated (ctx.candidate.chain ∈ ctx.mandate.allowedChains.members) .chainNotAllowed
    [("observed", ctx.candidate.chain.1)]

def checkVenue : Check := fun ctx =>
  unlessViolated (ctx.candidate.venue ∈ ctx.mandate.allowedVenues.members) .venueNotAllowed
    [("observed", ctx.candidate.venue.1)]

def checkSide : Check := fun ctx =>
  unlessViolated (ctx.candidate.side = ctx.mandate.side) .sideMismatch
    [("expected", ctx.mandate.side.name), ("observed", ctx.candidate.side.name)]

def checkRepresentation : Check := fun ctx =>
  match findRepresentation ctx.state ctx.candidate.representationId with
  | none => [⟨.representationUnknown, [("representationId", ctx.candidate.representationId.1)]⟩]
  | some observed =>
    let rep := observed.value
    unlessViolated (canonicalAssetIdEquals rep.canonicalAsset ctx.mandate.canonicalAsset = true)
      .representationAssetMismatch
      [("expected", ctx.mandate.canonicalAsset.value.1), ("observed", rep.canonicalAsset.value.1)] ++
    unlessViolated (rep.issuer = ctx.candidate.issuer) .representationAttributesMismatch
      [("field", "issuer"), ("expected", rep.issuer.1), ("observed", ctx.candidate.issuer.1)] ++
    unlessViolated (rep.chain = ctx.candidate.chain) .representationAttributesMismatch
      [("field", "chain"), ("expected", rep.chain.1), ("observed", ctx.candidate.chain.1)] ++
    unlessViolated (rep.issuer ∈ ctx.mandate.allowedIssuers.members) .issuerNotAllowed
      [("observed", rep.issuer.1)] ++
    (if rep.synthetic = .unknown then [⟨.representationMetadataUnknown, [("field", "synthetic")]⟩]
      else unlessViolated (¬(rep.synthetic = .yes ∧ ctx.mandate.syntheticPolicy = .forbidden))
        .syntheticNotAllowed [("representationId", rep.representationId.1)]) ++
    (if rep.operationalState = .unknown then
        [⟨.representationMetadataUnknown, [("field", "operationalState")]⟩]
      else unlessViolated (rep.operationalState = .active) .representationInactive
        [("observed", rep.operationalState.name)])

/-- What stands before the one `/` of an identifier that has exactly one, not in front. -/
def chainSegmentOf (representationId : Identifier) : Option String :=
  let chain := representationId.1.toList.takeWhile (· ≠ '/')
  match representationId.1.toList.dropWhile (· ≠ '/') with
  | [] => none
  | _ :: rest => if chain = [] then none else if '/' ∈ rest then none else some (String.ofList chain)

def chainViolation (source : String) (representationId chain : Identifier) : List Violation :=
  unlessViolated (chainSegmentOf representationId = some chain.1) .representationChainInconsistent
    [("source", source), ("representationId", representationId.1), ("declared", chain.1)]

def checkRepresentationChain : Check := fun ctx =>
  chainViolation "candidate" ctx.candidate.representationId ctx.candidate.chain ++
  ctx.state.representations.flatMap fun observed =>
    chainViolation "trustedState" observed.value.representationId observed.value.chain

/-- Either rounding of `quantity * price` is accepted, at the scale the candidate declares. -/
def checkNotionalConsistency : Check := fun ctx =>
  let c := ctx.candidate
  match notionalBounds c.quantity.1 c.executionPrice c.notional.1.unit c.notional.1.decimals with
  | .error code => [⟨code, [("check", "notional-consistency")]⟩]
  | .ok bounds =>
    unlessViolated (bounds.floorAtoms ≤ c.notional.1.atoms ∧ c.notional.1.atoms ≤ bounds.ceilAtoms)
      .notionalInconsistent [("declared", toString c.notional.1.atoms),
        ("floor", toString bounds.floorAtoms), ("ceil", toString bounds.ceilAtoms)]

/-- The declared notional, and then the product rounded up at the principal's own scale. -/
def checkMaxNotional : Check := fun ctx =>
  let c := ctx.candidate
  let max := ctx.mandate.maxNotional.1
  match compareAmounts c.notional.1 max with
  | .error code => [⟨code, [("check", "max-notional")]⟩]
  | .ok .gt => [⟨.maxNotionalExceeded, [("declared", toString c.notional.1.atoms),
      ("maximum", toString max.atoms)]⟩]
  | .ok _ =>
    let exceeded (product : String) : List Violation := [⟨.maxNotionalExceeded,
      [("basis", "quantity-times-execution-price"), ("productCeil", product),
        ("maximum", toString max.atoms), ("maximumDecimals", toString max.decimals)]⟩]
    match notionalBounds c.quantity.1 c.executionPrice max.unit max.decimals with
    | .error .valueOutOfRange => exceeded "beyond-uint256"
    | .error code => [⟨code, [("check", "max-notional")]⟩]
    | .ok product => if max.atoms < product.ceilAtoms then exceeded (toString product.ceilAtoms) else []

/-- The signed cash-flow bound, on the declared notional: a debit with its fee, or a credit
without it. -/
def checkEconomicLimit : Check := fun ctx =>
  let c := ctx.candidate
  let limit := ctx.mandate.economicLimit.1
  match ctx.mandate.side with
  | .buy => match addAmounts c.notional.1 c.feeTotal.1 with
    | .error code => [⟨code, [("check", "economic-limit"), ("kind", "MAX_TOTAL_DEBIT")]⟩]
    | .ok debit => match compareAmounts debit limit with
      | .error code => [⟨code, [("check", "economic-limit")]⟩]
      | .ok .gt => [⟨.totalDebitExceeded, [("declared", toString debit.atoms),
          ("decimals", toString debit.decimals), ("maximum", toString limit.atoms),
          ("maximumDecimals", toString limit.decimals)]⟩]
      | .ok _ => []
  | .sell => match compareAmounts c.feeTotal.1 c.notional.1 with
    | .error code => [⟨code, [("check", "economic-limit")]⟩]
    | .ok .lt => match subtractAmounts c.notional.1 c.feeTotal.1 with
      | .error code => [⟨code, [("check", "economic-limit"), ("kind", "MIN_TOTAL_CREDIT")]⟩]
      | .ok credit => match compareAmounts credit limit with
        | .error code => [⟨code, [("check", "economic-limit")]⟩]
        | .ok .lt => [⟨.totalCreditBelowMinimum, [("declared", toString credit.atoms),
            ("decimals", toString credit.decimals), ("minimum", toString limit.atoms),
            ("minimumDecimals", toString limit.decimals)]⟩]
        | .ok _ => []
    | .ok _ => [⟨.feesExceedNotional, [("fees", toString c.feeTotal.1.atoms),
        ("notional", toString c.notional.1.atoms)]⟩]

def checkPriceDeviation : Check := fun ctx =>
  match ctx.state.market with
  | none => [⟨.trustedStateMissing, [("input", "market")]⟩]
  | some market =>
    if canonicalAssetIdEquals market.value.canonicalAsset ctx.mandate.canonicalAsset = false then
      [⟨.marketStateUnknown, [("reason", "market-state-is-for-a-different-asset")]⟩]
    else match market.value.referencePrice with
      | none => [⟨.marketStateUnknown, [("field", "referencePrice")]⟩]
      | some reference => match deviationBps ctx.candidate.executionPrice reference with
        | .error code => [⟨code, [("check", "price-deviation")]⟩]
        | .ok bps => unlessViolated (bps ≤ ctx.mandate.maxDeviationBps.1) .priceDeviationExceeded
            [("observedBps", toString bps), ("maximumBps", toString ctx.mandate.maxDeviationBps.1)]

def checkPriceFreshness : Check := fun ctx =>
  match ctx.state.market with
  | none => [⟨.trustedStateMissing, [("input", "market")]⟩]
  | some market =>
    let age := ctx.now.1 - market.provenance.observedAt.1
    if age < 0 then [⟨.marketStateUnknown, [("reason", "observation-is-in-the-future"),
      ("ageSeconds", toString age)]⟩]
    else unlessViolated (age ≤ ctx.mandate.maxPriceAgeSeconds.1) .priceStateStale
      [("ageSeconds", toString age), ("maximumSeconds", toString ctx.mandate.maxPriceAgeSeconds.1)]

def checkHalt : Check := fun ctx =>
  match ctx.state.market with
  | none => [⟨.trustedStateMissing, [("input", "market")]⟩]
  | some market =>
    if market.value.haltStatus = .unknown then [⟨.marketStateUnknown, [("field", "haltStatus")]⟩]
    else unlessViolated (¬(market.value.haltStatus = .halted ∧ ctx.mandate.haltPolicy = .forbidWhenHalted))
      .tradingHalted []

def checkCorporateAction : Check := fun ctx =>
  match ctx.state.corporateAction with
  | none => [⟨.trustedStateMissing, [("input", "corporateAction")]⟩]
  | some ca =>
    if canonicalAssetIdEquals ca.value.canonicalAsset ctx.mandate.canonicalAsset = false then
      [⟨.corporateActionStateUnknown, [("reason", "state-is-for-a-different-asset")]⟩]
    else
      let age := ctx.now.1 - ca.provenance.observedAt.1
      (if age < 0 then [⟨.corporateActionStateUnknown, [("reason", "observation-is-in-the-future")]⟩]
        else unlessViolated (age ≤ ctx.mandate.maxCorporateActionAgeSeconds.1) .corporateActionStateStale
          [("ageSeconds", toString age),
            ("maximumSeconds", toString ctx.mandate.maxCorporateActionAgeSeconds.1)]) ++
      match ca.value.epoch with
      | none => [⟨.corporateActionStateUnknown, [("field", "epoch")]⟩]
      | some observed =>
        let required := ctx.mandate.requiredCorporateActionEpoch.1
        let epochs := [("authorized", toString required), ("observed", toString observed.1)]
        (if required < observed.1 then [⟨.corporateActionStateChanged, epochs⟩]
          else unlessViolated (required ≤ observed.1) .corporateActionStateInconsistent epochs) ++
        unlessViolated (ctx.candidate.corporateActionEpoch = observed) .candidateStateMismatch
          [("field", "corporateActionEpoch"), ("observed", toString observed.1),
            ("candidate", toString ctx.candidate.corporateActionEpoch.1)]

def checkRegistrySnapshotBinding : Check := fun ctx =>
  match ctx.state.registrySnapshotDigest with
  | none => [⟨.registrySnapshotUnknown, [("candidate", ctx.candidate.registrySnapshotDigest.toHex)]⟩]
  | some declared => unlessViolated (declared = ctx.candidate.registrySnapshotDigest)
      .registrySnapshotMismatch [("observed", declared.toHex),
        ("candidate", ctx.candidate.registrySnapshotDigest.toHex)]

def trustViolation (name : String) (provenance : Provenance) : List Violation :=
  unlessViolated (provenance.trustClass.1 ∈ ADMISSIBLE_TRUST) .untrustedRequiredState
    [("input", name), ("trustClass", trustClassName provenance.trustClass.1)]

/-- Trust levels asserted again, though a parsed state has no other. -/
def checkTrustLevels : Check := fun ctx =>
  let optional {α : Type} (name : String) (input : Option (Observed α)) : List Violation :=
    input.elim [] fun o => trustViolation name o.provenance
  optional "market" ctx.state.market ++ optional "corporateAction" ctx.state.corporateAction ++
  optional "replay" ctx.state.replay ++ ctx.state.representations.flatMap fun o =>
    trustViolation ("representation:" ++ o.value.representationId.1) o.provenance

def CHECKS [Keccak] [Secp256k1] : List Check :=
  [checkSignature, checkAgent, checkValidityWindow, checkReplay, checkCanonicalAsset, checkChain,
    checkVenue, checkSide, checkRepresentation, checkRepresentationChain, checkNotionalConsistency,
    checkMaxNotional, checkEconomicLimit, checkPriceDeviation, checkPriceFreshness, checkHalt,
    checkCorporateAction, checkRegistrySnapshotBinding, checkTrustLevels]

end Mandate.Kernel
