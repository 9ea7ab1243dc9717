import Mandate.Kernel.Verify

/-! The verifier's public boundary. A request is any plain value at all, and every parser reads
it field by field, in its own order, before a canonical object exists. -/
set_option linter.dupNamespace false
namespace Mandate.Kernel
open Core Lib.Wire Lib.Text

inductive Plain
  | undefined
  | null
  | boolean (value : Bool)
  | number (value : NumberInput)
  | bigint (value : Int)
  | text (value : String)
  | array (items : List Plain)
  | object (fields : List (String × Plain))

namespace Plain

abbrev Fields := List (String × Plain)

def field (fields : Fields) (name : String) : Plain :=
  ((fields.find? fun entry => entry.1 == name).map (·.2)).getD .undefined

theorem field_nil (name : String) : field [] name = .undefined := rfl

theorem field_cons (first : String × Plain) (rest : Fields) (name : String) :
    field (first :: rest) name = if first.1 = name then first.2 else field rest name := by
  unfold field
  rw [List.find?_cons]
  by_cases same : first.1 = name
  · rw [if_pos same, beq_iff_eq.mpr same]
    rfl
  · rw [if_neg same, beq_eq_false_iff_ne.mpr same]

/-- What is not an object is refused. An array is one, without any field a parser reads. -/
def fieldsOf (code : ReasonCode) : Plain → KernelResult Fields
  | .object fields => .ok fields
  | .array _ => .ok []
  | _ => .error code

def optional {α : Type} (parse : Plain → KernelResult α) : Plain → KernelResult (Option α)
  | .undefined => .ok none
  | .null => .ok none
  | raw => some <$> parse raw

def parseText (code : ReasonCode) : Plain → KernelResult String
  | .text raw => .ok raw
  | _ => .error code

def parseIdentifier : Plain → KernelResult Identifier
  | .text raw => Kernel.parseIdentifier raw
  | _ => .error .malformedIdentifier

def parseBytes32 (code : ReasonCode) : Plain → KernelResult Digest32
  | .text raw => Kernel.parseBytes32 raw code
  | _ => .error code

/-- A bigint or a decimal text. A `number` is refused even when it is integral. -/
def parseBounded (min max : Int) (code : ReasonCode) : Plain → KernelResult (IntegerInRange min max)
  | .bigint value => Kernel.parseBounded (.bigint value) min max code
  | .text digits => Kernel.parseBounded (.text digits) min max code
  | _ => .error code

def parseUnixSeconds (code : ReasonCode) (raw : Plain) : KernelResult UnixSeconds :=
  parseBounded INT64_MIN INT64_MAX code raw

def parseDurationSeconds (code : ReasonCode) (raw : Plain) : KernelResult Seconds32 :=
  parseBounded 0 UINT32_MAX code raw

def parseEnum {α : Type} (names : List (String × α)) (code : ReasonCode) : Plain → KernelResult α
  | .text raw => match names.lookup raw with
    | some value => .ok value
    | none => .error code
  | _ => .error code

theorem stated {expected : Nat} (version : {version : Nat // version = expected}) : version.1 = expected := version.2

def parseVersion (expected : Nat) (malformed unsupported : ReasonCode) :
    Plain → KernelResult {version : Nat // version = expected}
  | .number raw => Kernel.parseVersion raw expected malformed unsupported
  | _ => .error malformed

def knownOnly (known : List String) (code : ReasonCode) (fields : Fields) : KernelResult Unit :=
  if fields.all fun entry => known.contains entry.1 then .ok () else .error code

def parsePartyId (code : ReasonCode) (raw : Plain) : KernelResult PartyId := do
  let r ← fieldsOf code raw
  let kind ← parseIdentifier (field r "kind")
  let value ← parseIdentifier (field r "value")
  if shaped : partyShape kind.1 value.1 = true then .ok ⟨kind, value, shaped⟩
  else .error .malformedIdentifier

def parseCanonicalAssetId (raw : Plain) : KernelResult CanonicalAssetId := do
  let r ← fieldsOf .malformedIdentifier raw
  let assetClass ← parseIdentifier (field r "assetClass")
  let idScheme ← parseIdentifier (field r "idScheme")
  let value ← parseIdentifier (field r "value")
  .ok ⟨assetClass, idScheme, value⟩

def parseDecimals : Plain → KernelResult Decimals
  | .number raw => Kernel.parseDecimals raw
  | _ => .error .malformedIdentifier

def parseAtoms (raw : Plain) : KernelResult Atoms := parseBounded 0 UINT256_MAX .malformedIdentifier raw

def parseAmount (raw : Plain) : KernelResult ParsedAmount := do
  let r ← fieldsOf .malformedIdentifier raw
  let unit ← parseIdentifier (field r "unit")
  let decimals ← parseDecimals (field r "decimals")
  let atoms ← parseAtoms (field r "atoms")
  .ok ⟨⟨unit, decimals.1, atoms.1⟩, decimals.2, atoms.2⟩

def parsePrice (raw : Plain) : KernelResult Price := do
  let r ← fieldsOf .malformedIdentifier raw
  let numeratorUnit ← parseIdentifier (field r "numeratorUnit")
  let denominatorUnit ← parseIdentifier (field r "denominatorUnit")
  let decimals ← parseDecimals (field r "decimals")
  let atoms ← parseAtoms (field r "atoms")
  .ok ⟨numeratorUnit, denominatorUnit, decimals, atoms⟩

/-- Every entry of a collection, or the error of the first that fails. -/
def parseEach {α : Type} (parse : Plain → KernelResult α) :
    (raw : List Plain) → KernelResult {parsed : List α // parsed.length = raw.length}
  | [] => .ok ⟨[], List.length_nil⟩
  | entry :: rest => do
    let first ← parse entry
    let others ← parseEach parse rest
    .ok ⟨first :: others.1, congrArg (· + 1) others.2⟩

def parseIdentifierSet (code : ReasonCode) : Plain → KernelResult IdentifierSet
  | .array raw =>
    if fits : raw.length ≤ MAX_SET_SIZE then do
      let out ← parseEach parseIdentifier raw
      if distinct : out.1.Nodup then
        .ok ⟨out.1.insertionSort identifierLE, by
            rw [List.length_insertionSort, out.2]
            exact fits, ascends_of_sorted (List.pairwise_insertionSort _ _)
            ((List.perm_insertionSort identifierLE out.1).nodup_iff.mpr distinct)⟩
      else .error code
    else .error .valueOutOfRange
  | _ => .error code

def SIDES : List (String × Side) := [("BUY", .buy), ("SELL", .sell)]

def SYNTHETIC_POLICIES : List (String × SyntheticPolicy) := [("FORBIDDEN", .forbidden), ("ALLOWED", .allowed)]

def HALT_POLICIES : List (String × HaltPolicy) :=
  [("FORBID_WHEN_HALTED", .forbidWhenHalted), ("ALLOW_WHEN_HALTED", .allowWhenHalted)]

def MANDATE_FIELDS : List String :=
  ["version", "mandateId", "nonce", "principal", "agent", "canonicalAsset", "side", "maxNotional",
    "economicLimit", "maxDeviationBps", "syntheticPolicy", "allowedIssuers", "allowedChains", "allowedVenues",
    "requiredCorporateActionEpoch", "maxPriceAgeSeconds", "maxCorporateActionAgeSeconds", "haltPolicy",
    "createdAtUnixSeconds", "notBeforeUnixSeconds", "expiresAtUnixSeconds"]

def parseMandate (raw : Plain) : KernelResult CanonicalMandate := do
  let r ← fieldsOf .malformedMandate raw
  let version ← parseVersion MANDATE_SCHEMA_VERSION .malformedMandate .unsupportedMandateVersion
    (field r "version")
  knownOnly MANDATE_FIELDS .malformedMandate r
  let mandateId ← parseBytes32 .malformedMandate (field r "mandateId")
  let nonce ← parseBounded 0 UINT64_MAX .malformedMandate (field r "nonce")
  let principal ← parsePartyId .malformedMandate (field r "principal")
  let agent ← parsePartyId .malformedMandate (field r "agent")
  let canonicalAsset ← parseCanonicalAssetId (field r "canonicalAsset")
  let side ← parseEnum SIDES .malformedMandate (field r "side")
  let maxNotional ← parseAmount (field r "maxNotional")
  let economicLimit ← parseAmount (field r "economicLimit")
  let maxDeviationBps ← parseBounded 0 UINT16_MAX .malformedMandate (field r "maxDeviationBps")
  let syntheticPolicy ← parseEnum SYNTHETIC_POLICIES .malformedMandate (field r "syntheticPolicy")
  let allowedIssuers ← parseIdentifierSet .malformedMandate (field r "allowedIssuers")
  let allowedChains ← parseIdentifierSet .malformedMandate (field r "allowedChains")
  let allowedVenues ← parseIdentifierSet .malformedMandate (field r "allowedVenues")
  let epoch ← parseBounded 0 UINT64_MAX .malformedMandate (field r "requiredCorporateActionEpoch")
  let maxPriceAge ← parseDurationSeconds .malformedMandate (field r "maxPriceAgeSeconds")
  let maxActionAge ← parseDurationSeconds .malformedMandate (field r "maxCorporateActionAgeSeconds")
  let haltPolicy ← parseEnum HALT_POLICIES .malformedMandate (field r "haltPolicy")
  let createdAt ← parseUnixSeconds .malformedMandate (field r "createdAtUnixSeconds")
  let notBefore ← parseUnixSeconds .malformedMandate (field r "notBeforeUnixSeconds")
  let expiresAt ← parseUnixSeconds .malformedMandate (field r "expiresAtUnixSeconds")
  if window : notBefore.1 < expiresAt.1 then
    if oneUnit : maxNotional.1.unit = economicLimit.1.unit then
      .ok ⟨version.1, mandateId, nonce, principal, agent, canonicalAsset, side, maxNotional, economicLimit,
        maxDeviationBps, syntheticPolicy, allowedIssuers, allowedChains, allowedVenues, epoch, maxPriceAge,
        maxActionAge, haltPolicy, createdAt, notBefore, expiresAt, stated version, window, oneUnit⟩
    else .error .unitMismatch
  else .error .malformedMandate

def CANDIDATE_FIELDS : List String :=
  ["version", "representationId", "canonicalAsset", "issuer", "chain", "venue", "side", "agent", "quantity",
    "executionPrice", "notional", "feeTotal", "evaluationStateId", "evaluationStateDigest",
    "registrySnapshotDigest", "corporateActionEpoch"]

def parseCandidate (raw : Plain) : KernelResult ExecutionCandidate := do
  let r ← fieldsOf .malformedCandidate raw
  let version ← parseVersion CANDIDATE_SCHEMA_VERSION .malformedCandidate .malformedCandidate
    (field r "version")
  knownOnly CANDIDATE_FIELDS .malformedCandidate r
  let representationId ← parseIdentifier (field r "representationId")
  let canonicalAsset ← parseCanonicalAssetId (field r "canonicalAsset")
  let issuer ← parseIdentifier (field r "issuer")
  let chain ← parseIdentifier (field r "chain")
  let venue ← parseIdentifier (field r "venue")
  let side ← parseEnum SIDES .malformedCandidate (field r "side")
  let agent ← parsePartyId .malformedCandidate (field r "agent")
  let quantity ← parseAmount (field r "quantity")
  let executionPrice ← parsePrice (field r "executionPrice")
  let notional ← parseAmount (field r "notional")
  let feeTotal ← parseAmount (field r "feeTotal")
  let evaluationStateId ← parseIdentifier (field r "evaluationStateId")
  let evaluationStateDigest ← parseBytes32 .malformedCandidate (field r "evaluationStateDigest")
  let registrySnapshotDigest ← parseBytes32 .malformedCandidate (field r "registrySnapshotDigest")
  let epoch ← parseBounded 0 UINT64_MAX .malformedCandidate (field r "corporateActionEpoch")
  .ok ⟨version.1, representationId, canonicalAsset, issuer, chain, venue, side, agent, quantity,
    executionPrice, notional, feeTotal, evaluationStateId, evaluationStateDigest, registrySnapshotDigest,
    epoch, stated version⟩

def TRUST_CLASSES : List (String × TrustClass) :=
  [("AUTHORITATIVE", .authoritative), ("VERIFIED", .verified), ("ADVISORY", .advisory),
    ("UNTRUSTED", .untrusted)]

def INHERITED_KEYS : List String :=
  ["constructor", "__defineGetter__", "__defineSetter__", "hasOwnProperty", "__lookupGetter__",
    "__lookupSetter__", "isPrototypeOf", "propertyIsEnumerable", "toString", "valueOf", "__proto__",
    "toLocaleString"]

/-- `none` for an inherited name, which is in the enumeration and is no trusted class. -/
def parseTrustClass : Plain → KernelResult (Option TrustClass)
  | .text raw => match TRUST_CLASSES.lookup raw with
    | some trustClass => .ok (some trustClass)
    | none => if INHERITED_KEYS.contains raw then .ok none else .error .malformedTrustedState
  | _ => .error .malformedTrustedState

def parseProvenance (raw : Plain) : KernelResult Provenance := do
  let r ← fieldsOf .malformedTrustedState raw
  let trustClass ← parseTrustClass (field r "trustClass")
  let sourceId ← asStateError (parseIdentifier (field r "sourceId"))
  let observedAt ← parseUnixSeconds .malformedTrustedState (field r "observedAtUnixSeconds")
  match trustClass with
  | some trustClass =>
    if admissible : trustClass ∈ ADMISSIBLE_TRUST then .ok ⟨⟨trustClass, admissible⟩, sourceId, observedAt⟩
    else .error .untrustedRequiredState
  | none => .error .untrustedRequiredState

def parseObserved {α : Type} (parse : Plain → KernelResult α) (raw : Plain) : KernelResult (Observed α) := do
  let r ← fieldsOf .malformedTrustedState raw
  let provenance ← parseProvenance (field r "provenance")
  let value ← parse (field r "value")
  .ok ⟨provenance, value⟩

def TRISTATES : List (String × TriState) := [("YES", .yes), ("NO", .no), ("UNKNOWN", .unknown)]

def OPERATIONAL_STATES : List (String × OperationalState) :=
  [("ACTIVE", .active), ("PAUSED", .paused), ("TRANSITION", .transition), ("DEPRECATED", .deprecated),
    ("UNKNOWN", .unknown)]

def HALT_STATUSES : List (String × HaltStatus) :=
  [("TRADING", .trading), ("HALTED", .halted), ("UNKNOWN", .unknown)]

def REPLAY_STATUSES : List (String × ReplayStatus) :=
  [("UNUSED", .unused), ("RESERVED", .reserved), ("CONSUMED", .consumed), ("QUARANTINED", .quarantined),
    ("UNKNOWN", .unknown)]

def parseRepresentationState (raw : Plain) : KernelResult RepresentationState := do
  let r ← fieldsOf .malformedTrustedState raw
  let representationId ← asStateError (parseIdentifier (field r "representationId"))
  let canonicalAsset ← asStateError (parseCanonicalAssetId (field r "canonicalAsset"))
  let issuer ← asStateError (parseIdentifier (field r "issuer"))
  let chain ← asStateError (parseIdentifier (field r "chain"))
  let instrumentType ← asStateError (optional parseIdentifier (field r "instrumentType"))
  let synthetic ← parseEnum TRISTATES .malformedTrustedState (field r "synthetic")
  let operationalState ← parseEnum OPERATIONAL_STATES .malformedTrustedState (field r "operationalState")
  .ok ⟨representationId, canonicalAsset, issuer, chain, instrumentType, synthetic, operationalState⟩

def parseMarketState (raw : Plain) : KernelResult MarketState := do
  let r ← fieldsOf .malformedTrustedState raw
  let canonicalAsset ← asStateError (parseCanonicalAssetId (field r "canonicalAsset"))
  let referencePrice ← asStateError (optional parsePrice (field r "referencePrice"))
  let haltStatus ← parseEnum HALT_STATUSES .malformedTrustedState (field r "haltStatus")
  .ok ⟨canonicalAsset, referencePrice, haltStatus⟩

def parseCorporateActionState (raw : Plain) : KernelResult CorporateActionState := do
  let r ← fieldsOf .malformedTrustedState raw
  let canonicalAsset ← asStateError (parseCanonicalAssetId (field r "canonicalAsset"))
  let epoch ← optional (parseBounded 0 UINT64_MAX .malformedTrustedState) (field r "epoch")
  .ok ⟨canonicalAsset, epoch⟩

def parseReplayState (raw : Plain) : KernelResult ReplayState := do
  let r ← fieldsOf .malformedTrustedState raw
  let mandateDigest ← parseBytes32 .malformedTrustedState (field r "mandateDigest")
  let status ← parseEnum REPLAY_STATUSES .malformedTrustedState (field r "status")
  .ok ⟨mandateDigest, status⟩

def parseEntries (code : ReasonCode) : Plain → KernelResult (List Plain)
  | .array items => .ok items
  | _ => .error code

def parseTrustedState (raw : Plain) : KernelResult TrustedState := do
  let r ← fieldsOf .malformedTrustedState raw
  let version ← parseVersion STATE_SCHEMA_VERSION .malformedTrustedState .malformedTrustedState
    (field r "version")
  let stateId ← asStateError (parseIdentifier (field r "stateId"))
  let registrySnapshotDigest ← optional (parseBytes32 .malformedTrustedState) (field r "registrySnapshotDigest")
  let entries ← parseEntries .malformedTrustedState (field r "representations")
  if fits : entries.length ≤ MAX_STATE_REPRESENTATIONS then
    let reps ← parseEach (parseObserved parseRepresentationState) entries
    if distinct : (reps.1.map representationId).Nodup then
      let market ← optional (parseObserved parseMarketState) (field r "market")
      let corporateAction ← optional (parseObserved parseCorporateActionState) (field r "corporateAction")
      let replay ← optional (parseObserved parseReplayState) (field r "replay")
      .ok ⟨version.1, stateId, registrySnapshotDigest, reps.1, market, corporateAction, replay, stated version,
        reps.2.le.trans fits, distinct⟩
    else .error .malformedTrustedState
  else .error .resourceLimitExceeded

def parseClock (raw : Plain) : KernelResult UnixSeconds := do
  let r ← fieldsOf .malformedTrustedState raw
  parseUnixSeconds .malformedTrustedState (field r "nowUnixSeconds")

def parseShortText (max : Nat) : Plain → KernelResult (ShortText max)
  | .text raw => Kernel.parseShortText raw max
  | _ => .error .malformedAuthorization

def parseAddress : Plain → KernelResult Address
  | .text raw => Kernel.parseAddress raw .malformedAuthorization
  | _ => .error .malformedAuthorization

def parseEip712Domain (raw : Plain) : KernelResult Eip712Domain := do
  let r ← fieldsOf .malformedAuthorization raw
  let name ← parseShortText 128 (field r "name")
  let version ← parseShortText 32 (field r "version")
  let verifyingContract ← parseAddress (field r "verifyingContract")
  let chainId ← (parseBounded 0 UINT256_MAX .malformedAuthorization (field r "chainId")).mapError fun _ =>
    .malformedAuthorization
  .ok ⟨name, version, chainId, verifyingContract⟩

def parseSignature : Plain → KernelResult {signature : Bytes // signature.length = 65}
  | .text raw => match hexToBytes raw with
    | some signature =>
      if sized : signature.length = 65 then .ok ⟨signature, sized⟩ else .error .malformedAuthorization
    | none => .error .malformedAuthorization
  | _ => .error .malformedAuthorization

def parseAuthorizationEnvelope (raw : Plain) : KernelResult AuthorizationEnvelope := do
  let r ← fieldsOf .malformedAuthorization raw
  let scheme ← parseText .malformedAuthorization (field r "scheme")
  if scheme ≠ AUTHORIZATION_SCHEME then .error .authorizationSchemeUnsupported
  else
    let signer ← (parsePartyId .malformedAuthorization (field r "signer")).mapError fun _ =>
      .malformedAuthorization
    if addressed : signer.kind.1 = PARTY_KIND_EIP155_ADDRESS then
      let signature ← parseSignature (field r "signature")
      let domain ← parseEip712Domain (field r "domain")
      .ok ⟨signer, signature.1, domain, addressed, signature.2⟩
    else .error .malformedAuthorization

variable [Keccak] [Secp256k1]

/-- The digest of what parsed. A writer that throws is reported as the kernel's own failure. -/
def digest {α : Type} (parsed : KernelResult α) (write : α → Writer) (name : String) :
    Option Digest32 × List Violation :=
  match parsed with
  | .error _ => (none, [])
  | .ok value => match write value with
    | some bytes => (some (keccakDigest bytes), [])
    | none => (none, [⟨.verifierInternalError, [("stage", "digest"), ("input", name)]⟩])

def mandateWriter (m : CanonicalMandate) : Writer := writeHeader MANDATE_TAG m.version ++ writeMandate m

def candidateWriter (c : ExecutionCandidate) : Writer := writeHeader CANDIDATE_TAG c.version ++ writeCandidate c

def stateWriter (s : TrustedState) : Writer :=
  writeHeader STATE_TAG s.sorted.version ++ writeState s.sorted

/-- The seam for another list of checks. No entry of a plain array has a function in it, so only
the empty array passes for one. -/
def chosenChecks : Plain → Option (List Check)
  | .undefined => some CHECKS
  | .array [] => some []
  | _ => none

/-- What is not an object, or is an array, is read as an object without fields. -/
def requestFields : Plain → Fields
  | .object fields => fields
  | _ => []

def verify (request : Plain) : Option VerificationReceipt :=
  let r := requestFields request
  let mandate := parseMandate (field r "mandate")
  let authorization := parseAuthorizationEnvelope (field r "authorization")
  let candidate := parseCandidate (field r "candidate")
  let state := parseTrustedState (field r "trustedState")
  let clock := parseClock (field r "clock")
  let expectedDomain := parseEip712Domain (field r "expectedDomain")
  let mandateDigest := digest mandate mandateWriter "mandate"
  let candidateDigest := digest candidate candidateWriter "candidate"
  let stateDigest := digest state stateWriter "trustedState"
  let parseViolations := collect mandate "mandate" ++ collect authorization "authorization" ++
    collect candidate "candidate" ++ collect state "trustedState" ++ collect clock "clock" ++
    collect expectedDomain "expectedDomain" ++ mandateDigest.2 ++ candidateDigest.2 ++ stateDigest.2
  let finished := finish mandateDigest.1 candidateDigest.1 stateDigest.1 clock.toOption
  match mandate, authorization, candidate, state, clock, expectedDomain, mandateDigest.1, stateDigest.1 with
  | .ok mandate, .ok authorization, .ok candidate, .ok state, .ok now, .ok expectedDomain,
      some mandateDigest, some stateDigest =>
    let ctx : CheckContext := ⟨mandate, authorization, candidate, state, now, expectedDomain, mandateDigest,
      stateDigest⟩
    match chosenChecks (field r "checks") with
    | none => finished (parseViolations ++
        [⟨.verifierInternalError, [("stage", "checks"), ("input", "checks")]⟩])
    | some checks => finished (parseViolations ++ checks.flatMap fun check => check ctx)
  | _, _, _, _, _, _, _, _ => finished parseViolations

end Plain

end Mandate.Kernel
