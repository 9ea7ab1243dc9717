import Mandate.Core.Action
import Mandate.Portfolio.Child

/-! What callers hand over for each portfolio object, built directly or read from bytes: one
validator and one reader each, under the tags of the portfolio. -/
set_option linter.dupNamespace false
namespace Mandate.Portfolio
open Core Lib.Wire
open Kernel (CanonicalAssetId AssetIdInput assetIdInputOf)

/-- Core's discipline under the portfolio's own tags; both count schema versions from 1. -/
def decodePortfolio {ι α : Type} (bytes : Bytes) (tag : String) (read : CoreReader ι)
    (validate : ι → CoreResult α) : CoreResult α := decodeTagged bytes tag read validate

def readInt64 : CoreReader IntegerInput := IntegerInput.bigint <$> readI64
def readUint64 : CoreReader IntegerInput := IntegerInput.bigint <$> (fun n : Nat => (n : Int)) <$> readU64
def readUint256 : CoreReader IntegerInput := IntegerInput.bigint <$> (fun n : Nat => (n : Int)) <$> readU256
def readSmall (read : CoreReader Nat) : CoreReader NumberInput := (fun n : Nat => NumberInput.integer n) <$> read

section Scope

structure AuthorityScopeInput where
  domains : List String
  actions : List ActionKind
  chains : List String
  venues : List String
  assets : List AssetIdInput
  representations : List String
  issuers : List String
  recipients : List String
  syntheticPolicy : SyntheticPolicy
  requiredRights : List RightKind
  maxLeverage : Option RatioInput
  maxSlippageBps : Option NumberInput
  maxQuoteAgeSeconds : Option IntegerInput

def identifierSet (inputs : List String) (path : String) : CoreResult IdentifierSet :=
  validateMembers writeIdentifier MAX_SCOPE_MEMBERS parseIdentifierAs inputs path

def enumSet {α : Type} (codes : WireCodes α) (inputs : List α) (path : String) :
    CoreResult (CanonicalSet (writeCode codes) MAX_SCOPE_MEMBERS) :=
  validateMembers (writeCode codes) MAX_SCOPE_MEMBERS (fun value _ => .ok value) inputs path

def validateCanonicalAsset (input : AssetIdInput) (path : String) : CoreResult CanonicalAssetId := do
  let assetClass ← parseIdentifierAs input.assetClass (atField path "assetClass")
  let idScheme ← parseIdentifierAs input.idScheme (atField path "idScheme")
  let value ← parseIdentifierAs input.value (atField path "value")
  .ok ⟨assetClass, idScheme, value⟩

def readCanonicalAssetInput : CoreReader AssetIdInput := do
  let assetClass ← readStr
  let idScheme ← readStr
  let value ← readStr
  pure ⟨assetClass, idScheme, value⟩

def parseBasisPoints (raw : NumberInput) (path : String) : CoreResult BasisPoints :=
  parseSmallUint raw 10000 path

def validateAuthorityScope (input : AuthorityScopeInput) (path : String) : CoreResult AuthorityScope := do
  let domains ← identifierSet input.domains (atField path "domains")
  let actions ← enumSet ACTION_KIND_CODE input.actions (atField path "actions")
  let chains ← identifierSet input.chains (atField path "chains")
  let venues ← identifierSet input.venues (atField path "venues")
  let assets ← validateMembers Kernel.writeAsset MAX_SCOPE_MEMBERS validateCanonicalAsset input.assets
    (atField path "assets")
  let representations ← identifierSet input.representations (atField path "representations")
  let issuers ← identifierSet input.issuers (atField path "issuers")
  let recipients ← identifierSet input.recipients (atField path "recipients")
  let requiredRights ← enumSet RIGHT_CODE input.requiredRights (atField path "requiredRights")
  let maxLeverage ← validateNullable validateRatio (atField path "maxLeverage") input.maxLeverage
  let maxSlippageBps ← validateNullable parseBasisPoints (atField path "maxSlippageBps") input.maxSlippageBps
  let maxQuoteAgeSeconds ← validateNullable parseUint64 (atField path "maxQuoteAgeSeconds")
    input.maxQuoteAgeSeconds
  .ok ⟨domains, actions, chains, venues, assets, representations, issuers, recipients,
    input.syntheticPolicy, requiredRights, maxLeverage, maxSlippageBps, maxQuoteAgeSeconds⟩

def readStrings : CoreReader (List String) := readList MAX_SCOPE_MEMBERS readStr true

/-- Any `u32` reads as basis points; the validator refuses one above 10,000. -/
def readAuthorityScopeInput : CoreReader AuthorityScopeInput := do
  let domains ← readStrings
  let actions ← readList MAX_SCOPE_MEMBERS (readCode ACTION_KIND_CODE) true
  let chains ← readStrings
  let venues ← readStrings
  let assets ← readList MAX_SCOPE_MEMBERS readCanonicalAssetInput true
  let representations ← readStrings
  let issuers ← readStrings
  let recipients ← readStrings
  let syntheticPolicy ← readCode SYNTHETIC_CODE
  let requiredRights ← readList MAX_SCOPE_MEMBERS (readCode RIGHT_CODE) true
  let maxLeverage ← readNullable readRatioInput
  let maxSlippageBps ← readNullable (readSmall readU32)
  let maxQuoteAgeSeconds ← readNullable readUint64
  pure ⟨domains, actions, chains, venues, assets, representations, issuers, recipients,
    syntheticPolicy, requiredRights, maxLeverage, maxSlippageBps, maxQuoteAgeSeconds⟩

def authorityScopeInputOf (s : AuthorityScope) : AuthorityScopeInput where
  domains := s.domains.members.map (·.1)
  actions := s.actions.members
  chains := s.chains.members.map (·.1)
  venues := s.venues.members.map (·.1)
  assets := s.assets.members.map assetIdInputOf
  representations := s.representations.members.map (·.1)
  issuers := s.issuers.members.map (·.1)
  recipients := s.recipients.members.map (·.1)
  syntheticPolicy := s.syntheticPolicy
  requiredRights := s.requiredRights.members
  maxLeverage := s.maxLeverage.map ratioInputOf
  maxSlippageBps := s.maxSlippageBps.map fun bps => .integer bps.1
  maxQuoteAgeSeconds := s.maxQuoteAgeSeconds.map fun age => .bigint age.1

end Scope

section Candidates

structure ClaimsInput where
  ticker : Option String
  displayName : Option String
  issuer : Option String
  asset : Option AssetIdInput

inductive ActionCandidateInput
  | stockBuy (representation account : String) (quantity : IntegerInput) (claims : ClaimsInput)
  | swapExactIn (router : String) (route : List String) (tokenIn tokenOut : String)
      (amountIn quotedOut minOut quoteObservedAt : IntegerInput) (recipient : String) (claims : ClaimsInput)
  | nftBuy (marketplace collection : String) (tokenId maxPrice : IntegerInput) (recipient : String)
      (claims : ClaimsInput)
  | yieldDeposit (product : String) (amount : IntegerInput) (quotedApyBps : NumberInput)
      (quoteObservedAt : IntegerInput) (recipient : String) (claims : ClaimsInput)
  | perpOpen (market account : String) (side : PerpSide) (size price : IntegerInput)
      (initialMarginFraction : NumberInput) (claims : ClaimsInput)

def validateClaims (input : ClaimsInput) (path : String) : CoreResult Claims := do
  let ticker ← validateNullable parseIdentifierAs (atField path "ticker") input.ticker
  let displayName ← validateNullable parseIdentifierAs (atField path "displayName") input.displayName
  let issuer ← validateNullable parseIdentifierAs (atField path "issuer") input.issuer
  let asset ← validateNullable validateCanonicalAsset (atField path "asset") input.asset
  .ok ⟨ticker, displayName, issuer, asset⟩

def positive (raw : IntegerInput) (path : String) : CoreResult PositiveAtoms :=
  parseIntegerInRange raw 1 UINT256_MAX path

def unsigned (raw : IntegerInput) (path : String) : CoreResult UnsignedAtoms :=
  parseIntegerInRange raw 0 UINT256_MAX path

def validateActionCandidate (input : ActionCandidateInput) (path : String) : CoreResult ActionCandidate :=
  match input with
  | .stockBuy representation account quantity claims => do
    let claims ← validateClaims claims (atField path "claims")
    let representation ← parseIdentifierAs representation (atField path "representation")
    let account ← parseIdentifierAs account (atField path "account")
    let quantity ← positive quantity (atField path "quantity")
    .ok (.stockBuy representation account quantity claims)
  | .swapExactIn router route tokenIn tokenOut amountIn quotedOut minOut quoteObservedAt recipient claims => do
    let claims ← validateClaims claims (atField path "claims")
    let router ← parseIdentifierAs router (atField path "router")
    if few : route.length ≤ MAX_ROUTE_HOPS then
      if routed : 0 < route.length then do
        let hops ← validateEach parseIdentifierAs (atField path "route") route 0
        let tokenIn ← parseIdentifierAs tokenIn (atField path "tokenIn")
        let tokenOut ← parseIdentifierAs tokenOut (atField path "tokenOut")
        let amountIn ← positive amountIn (atField path "amountIn")
        let quotedOut ← positive quotedOut (atField path "quotedOut")
        let minOut ← unsigned minOut (atField path "minOut")
        -- A minimum above the quote is an order the quote cannot fill.
        if fillable : minOut.1 ≤ quotedOut.1 then do
          let observed ← parseUnixSeconds quoteObservedAt (atField path "quoteObservedAt")
          let recipient ← parseIdentifierAs recipient (atField path "recipient")
          .ok (.swapExactIn router hops.1 tokenIn tokenOut amountIn quotedOut minOut observed recipient
            claims (by rw [hops.2]; exact ⟨routed, few⟩) fillable)
        else fail .integerOutOfRange (atField path "minOut")
      else fail .collectionEmpty (atField path "route")
    else fail .collectionTooLarge (atField path "route")
  | .nftBuy marketplace collection tokenId maxPrice recipient claims => do
    let claims ← validateClaims claims (atField path "claims")
    let marketplace ← parseIdentifierAs marketplace (atField path "marketplace")
    let collection ← parseIdentifierAs collection (atField path "collection")
    let tokenId ← unsigned tokenId (atField path "tokenId")
    let maxPrice ← positive maxPrice (atField path "maxPrice")
    let recipient ← parseIdentifierAs recipient (atField path "recipient")
    .ok (.nftBuy marketplace collection tokenId maxPrice recipient claims)
  | .yieldDeposit product amount quotedApyBps quoteObservedAt recipient claims => do
    let claims ← validateClaims claims (atField path "claims")
    let product ← parseIdentifierAs product (atField path "product")
    let amount ← positive amount (atField path "amount")
    let apy ← parseSmallUint quotedApyBps 1000000 (atField path "quotedApyBps")
    let observed ← parseUnixSeconds quoteObservedAt (atField path "quoteObservedAt")
    let recipient ← parseIdentifierAs recipient (atField path "recipient")
    .ok (.yieldDeposit product amount apy observed recipient claims)
  | .perpOpen market account side size price initialMarginFraction claims => do
    let claims ← validateClaims claims (atField path "claims")
    let market ← parseIdentifierAs market (atField path "market")
    let account ← parseIdentifierAs account (atField path "account")
    let size ← positive size (atField path "size")
    let price ← positive price (atField path "price")
    let imf ← parseBasisPoints initialMarginFraction (atField path "initialMarginFraction")
    if margined : imf.1 ≠ 0 then .ok (.perpOpen market account side size price imf claims margined)
    else fail .integerOutOfRange (atField path "initialMarginFraction")

def readClaimsInput : CoreReader ClaimsInput := do
  let ticker ← readNullable readStr
  let displayName ← readNullable readStr
  let issuer ← readNullable readStr
  let asset ← readNullable readCanonicalAssetInput
  pure ⟨ticker, displayName, issuer, asset⟩

def readCandidateBody : ActionKind → CoreReader ActionCandidateInput
  | .stockBuy => do
    let representation ← readStr
    let account ← readStr
    let quantity ← readUint256
    let claims ← readClaimsInput
    pure (.stockBuy representation account quantity claims)
  | .swapExactIn => do
    let router ← readStr
    let route ← readList MAX_ROUTE_HOPS readStr false
    let tokenIn ← readStr
    let tokenOut ← readStr
    let amountIn ← readUint256
    let quotedOut ← readUint256
    let minOut ← readUint256
    let quoteObservedAt ← readInt64
    let recipient ← readStr
    let claims ← readClaimsInput
    pure (.swapExactIn router route tokenIn tokenOut amountIn quotedOut minOut quoteObservedAt recipient claims)
  | .nftBuy => do
    let marketplace ← readStr
    let collection ← readStr
    let tokenId ← readUint256
    let maxPrice ← readUint256
    let recipient ← readStr
    let claims ← readClaimsInput
    pure (.nftBuy marketplace collection tokenId maxPrice recipient claims)
  | .yieldDeposit => do
    let product ← readStr
    let amount ← readUint256
    let quotedApyBps ← readSmall readU32
    let quoteObservedAt ← readInt64
    let recipient ← readStr
    let claims ← readClaimsInput
    pure (.yieldDeposit product amount quotedApyBps quoteObservedAt recipient claims)
  | .perpOpen => do
    let market ← readStr
    let account ← readStr
    let side ← readCode PERP_SIDE_CODE
    let size ← readUint256
    let price ← readUint256
    let initialMarginFraction ← readSmall readU16
    let claims ← readClaimsInput
    pure (.perpOpen market account side size price initialMarginFraction claims)

def readActionCandidateInput : CoreReader ActionCandidateInput := do
  let kind ← readCode ACTION_KIND_CODE
  readCandidateBody kind

def claimsInputOf (c : Claims) : ClaimsInput :=
  ⟨c.ticker.map (·.1), c.displayName.map (·.1), c.issuer.map (·.1), c.asset.map assetIdInputOf⟩

def actionCandidateInputOf : ActionCandidate → ActionCandidateInput
  | .stockBuy representation account quantity claims =>
    .stockBuy representation.1 account.1 (.bigint quantity.1) (claimsInputOf claims)
  | .swapExactIn router route tokenIn tokenOut amountIn quotedOut minOut quoteObservedAt recipient claims _ _ =>
    .swapExactIn router.1 (route.map (·.1)) tokenIn.1 tokenOut.1 (.bigint amountIn.1) (.bigint quotedOut.1)
      (.bigint minOut.1) (.bigint quoteObservedAt.1) recipient.1 (claimsInputOf claims)
  | .nftBuy marketplace collection tokenId maxPrice recipient claims =>
    .nftBuy marketplace.1 collection.1 (.bigint tokenId.1) (.bigint maxPrice.1) recipient.1 (claimsInputOf claims)
  | .yieldDeposit product amount quotedApyBps quoteObservedAt recipient claims =>
    .yieldDeposit product.1 (.bigint amount.1) (.integer quotedApyBps.1) (.bigint quoteObservedAt.1)
      recipient.1 (claimsInputOf claims)
  | .perpOpen market account side size price initialMarginFraction claims _ =>
    .perpOpen market.1 account.1 side (.bigint size.1) (.bigint price.1) (.integer initialMarginFraction.1)
      (claimsInputOf claims)

end Candidates

section Amounts

structure ResourceDefinitionInput where
  resource : String
  kind : ResourceKind
  unit : String
  decimals : NumberInput
  domain : Option String

structure ResourceAmountInput where
  resource : String
  atoms : IntegerInput

def validateResourceDefinition (input : ResourceDefinitionInput) (path : String) :
    CoreResult ResourceDefinition := do
  let resource ← parseIdentifierAs input.resource (atField path "resource")
  if (QUANTITY_KIND_RULES input.kind.1).ledgerTrackable then do
    let unit ← parseUnitCode input.unit (atField path "unit")
    if counted : input.kind.1 = .count ↔ unit.1 = COUNT_UNIT then do
      let decimals ← parseDecimals input.decimals (atField path "decimals")
      let domain ← validateNullable parseIdentifierAs (atField path "domain") input.domain
      .ok ⟨resource, input.kind, unit, decimals, domain, counted⟩
    else fail .countUnitRequired (atField path "unit")
  else fail .dimensionKindNotLedgerTrackable (atField path "kind")

def readResourceDefinitionInput : CoreReader ResourceDefinitionInput := do
  let resource ← readStr
  let kind ← readCode RESOURCE_KIND_CODE
  let unit ← readStr
  let decimals ← readSmall readU8
  let domain ← readNullable readStr
  pure ⟨resource, kind, unit, decimals, domain⟩

def resourceDefinitionInputOf (d : ResourceDefinition) : ResourceDefinitionInput :=
  ⟨d.resource.1, d.kind, d.unit.1, .integer d.decimals.1, d.domain.map (·.1)⟩

/-- Keyed by resource alone: two definitions of one are refused even if they differ. -/
def validateResourceDefinitions (inputs : List ResourceDefinitionInput) (path : String) :
    CoreResult (CanonicalSet writeDefinitionKey MAX_RESOURCES) :=
  validateMembers writeDefinitionKey MAX_RESOURCES validateResourceDefinition inputs path

def validateAmount (input : ResourceAmountInput) (path : String) : CoreResult ValidAmount := do
  let resource ← parseIdentifierAs input.resource (atField path "resource")
  let atoms ← parseInteger input.atoms (atField path "atoms")
  if atoms < 0 then fail .quantityNegativeUnsigned (atField path "atoms")
  else if inside : 0 ≤ atoms ∧ atoms ≤ UINT256_MAX then .ok ⟨⟨resource, atoms⟩, inside⟩
  else fail .quantityOutOfRange (atField path "atoms")

def validateResourceVector (inputs : List ResourceAmountInput) (path : String) : CoreResult ValidVector :=
  validateMembers writeAmountKey MAX_RESOURCES validateAmount inputs path

def readAmountInput : CoreReader ResourceAmountInput := do
  let resource ← readStr
  let atoms ← readUint256
  pure ⟨resource, atoms⟩

def readResourceVectorInput : CoreReader (List ResourceAmountInput) :=
  readList MAX_RESOURCES readAmountInput true

def amountInputOf (a : ValidAmount) : ResourceAmountInput := ⟨a.1.resource.1, .bigint a.1.atoms⟩

def resourceVectorInputOf (v : ValidVector) : List ResourceAmountInput := v.members.map amountInputOf

end Amounts

section Mandates

structure AgentPolicyInput where
  agent : PartyIdInput
  label : String
  scope : AuthorityScopeInput
  notBefore : IntegerInput
  expiresAt : IntegerInput
  hardMaxima : List ResourceAmountInput
  preferred : List ResourceAmountInput

structure PortfolioMandateInput where
  principal : PartyIdInput
  policyVersion : IntegerInput
  nonce : IntegerInput
  notBefore : IntegerInput
  expiresAt : IntegerInput
  allocationMode : AllocationMode
  resources : List ResourceDefinitionInput
  scope : AuthorityScopeInput
  limits : List ResourceAmountInput
  agents : List AgentPolicyInput

def validateAgentPolicy (input : AgentPolicyInput) (path : String) : CoreResult AgentPolicy := do
  let agent ← validatePartyId input.agent (atField path "agent")
  let label ← parseIdentifierAs input.label (atField path "label")
  let scope ← validateAuthorityScope input.scope (atField path "scope")
  let window ← validateWindow input.notBefore input.expiresAt path
  let hardMaxima ← validateResourceVector input.hardMaxima (atField path "hardMaxima")
  let preferred ← validateResourceVector input.preferred (atField path "preferred")
  .ok ⟨agent, label, scope, window, hardMaxima, preferred⟩

def readAgentPolicyInput : CoreReader AgentPolicyInput := do
  let agent ← readPartyInput
  let label ← readStr
  let scope ← readAuthorityScopeInput
  let notBefore ← readInt64
  let expiresAt ← readInt64
  let hardMaxima ← readResourceVectorInput
  let preferred ← readResourceVectorInput
  pure ⟨agent, label, scope, notBefore, expiresAt, hardMaxima, preferred⟩

def agentPolicyInputOf (a : AgentPolicy) : AgentPolicyInput :=
  ⟨partyIdInputOf a.agent, a.label.1, authorityScopeInputOf a.scope, .bigint a.window.notBefore.1,
    .bigint a.window.expiresAt.1, resourceVectorInputOf a.hardMaxima, resourceVectorInputOf a.preferred⟩

/-- Structure only; agents are unique by party, whatever else differs. -/
def validatePortfolioMandate (input : PortfolioMandateInput) (path : String) : CoreResult PortfolioMandate := do
  let principal ← validatePartyId input.principal (atField path "principal")
  let policyVersion ← parseUint64 input.policyVersion (atField path "policyVersion")
  let nonce ← parseUint64 input.nonce (atField path "nonce")
  let window ← validateWindow input.notBefore input.expiresAt path
  let resources ← validateResourceDefinitions input.resources (atField path "resources")
  let scope ← validateAuthorityScope input.scope (atField path "scope")
  let limits ← validateResourceVector input.limits (atField path "limits")
  let agents ← validateMembers writeAgentKey MAX_AGENTS validateAgentPolicy input.agents (atField path "agents")
  .ok ⟨principal, policyVersion, nonce, window, input.allocationMode, resources, scope, limits, agents⟩

def readMandateInput : CoreReader PortfolioMandateInput := do
  let principal ← readPartyInput
  let policyVersion ← readUint64
  let nonce ← readUint64
  let notBefore ← readInt64
  let expiresAt ← readInt64
  let allocationMode ← readCode ALLOCATION_MODE_CODE
  let resources ← readList MAX_RESOURCES readResourceDefinitionInput true
  let scope ← readAuthorityScopeInput
  let limits ← readResourceVectorInput
  let agents ← readList MAX_AGENTS readAgentPolicyInput true
  pure ⟨principal, policyVersion, nonce, notBefore, expiresAt, allocationMode, resources, scope, limits, agents⟩

def portfolioMandateInputOf (m : PortfolioMandate) : PortfolioMandateInput where
  principal := partyIdInputOf m.principal
  policyVersion := .bigint m.policyVersion.1
  nonce := .bigint m.nonce.1
  notBefore := .bigint m.window.notBefore.1
  expiresAt := .bigint m.window.expiresAt.1
  allocationMode := m.allocationMode
  resources := m.resources.members.map resourceDefinitionInputOf
  scope := authorityScopeInputOf m.scope
  limits := resourceVectorInputOf m.limits
  agents := m.agents.members.map agentPolicyInputOf

def MANDATE_TAG : String := "PORTFOLIO_MANDATE.V1"

def decodePortfolioMandate (bytes : Bytes) : CoreResult PortfolioMandate :=
  decodePortfolio bytes MANDATE_TAG readMandateInput (validatePortfolioMandate · "mandate")

end Mandates

section Signed

structure AgentProposalInput where
  portfolioMandate : String
  agent : PartyIdInput
  sequence : IntegerInput
  candidate : ActionCandidateInput
  requested : List ResourceAmountInput
  minimum : List ResourceAmountInput
  utilityBps : IntegerInput
  createdAt : IntegerInput
  expiresAt : IntegerInput
  criticalExtensions : List String

def validateAgentProposal (input : AgentProposalInput) (path : String) : CoreResult AgentProposal := do
  let portfolioMandate ← parseDigest input.portfolioMandate (atField path "portfolioMandate")
  let agent ← validatePartyId input.agent (atField path "agent")
  let sequence ← parseUint64 input.sequence (atField path "sequence")
  let candidate ← validateActionCandidate input.candidate (atField path "candidate")
  let requested ← validateResourceVector input.requested (atField path "requested")
  let minimum ← validateResourceVector input.minimum (atField path "minimum")
  let utility ← parseIntegerInRange input.utilityBps INT64_MIN INT64_MAX (atField path "utilityBps")
  let window ← validateWindowFrom "createdAt" input.createdAt input.expiresAt path
  let extensions ← validateMembers writeIdentifier MAX_EXTENSIONS parseIdentifierAs input.criticalExtensions
    (atField path "criticalExtensions")
  .ok ⟨portfolioMandate, agent, sequence, candidate, requested, minimum, utility, window.notBefore,
    window.expiresAt, window.ordered, extensions⟩

def readProposalInput : CoreReader AgentProposalInput := do
  let portfolioMandate ← readDigest
  let agent ← readPartyInput
  let sequence ← readUint64
  let candidate ← readActionCandidateInput
  let requested ← readResourceVectorInput
  let minimum ← readResourceVectorInput
  let utilityBps ← readInt64
  let createdAt ← readInt64
  let expiresAt ← readInt64
  let criticalExtensions ← readList MAX_EXTENSIONS readStr true
  pure ⟨portfolioMandate, agent, sequence, candidate, requested, minimum, utilityBps, createdAt, expiresAt,
    criticalExtensions⟩

def agentProposalInputOf (p : AgentProposal) : AgentProposalInput :=
  ⟨p.portfolioMandate.toHex, partyIdInputOf p.agent, .bigint p.sequence.1, actionCandidateInputOf p.candidate,
    resourceVectorInputOf p.requested, resourceVectorInputOf p.minimum, .bigint p.utilityBps.1,
    .bigint p.createdAt.1, .bigint p.expiresAt.1, p.criticalExtensions.members.map (·.1)⟩

def PROPOSAL_TAG : String := "PORTFOLIO_PROPOSAL.V1"

def decodeAgentProposal (bytes : Bytes) : CoreResult AgentProposal :=
  decodePortfolio bytes PROPOSAL_TAG readProposalInput (validateAgentProposal · "proposal")

structure AgentReleaseInput where
  portfolioMandate : String
  agent : PartyIdInput
  sequence : IntegerInput
  amounts : List ResourceAmountInput

def validateAgentRelease (input : AgentReleaseInput) (path : String) : CoreResult AgentRelease := do
  let portfolioMandate ← parseDigest input.portfolioMandate (atField path "portfolioMandate")
  let agent ← validatePartyId input.agent (atField path "agent")
  let sequence ← parseUint64 input.sequence (atField path "sequence")
  let amounts ← validateResourceVector input.amounts (atField path "amounts")
  .ok ⟨portfolioMandate, agent, sequence, amounts⟩

def readReleaseInput : CoreReader AgentReleaseInput := do
  let portfolioMandate ← readDigest
  let agent ← readPartyInput
  let sequence ← readUint64
  let amounts ← readResourceVectorInput
  pure ⟨portfolioMandate, agent, sequence, amounts⟩

def agentReleaseInputOf (r : AgentRelease) : AgentReleaseInput :=
  ⟨r.portfolioMandate.toHex, partyIdInputOf r.agent, .bigint r.sequence.1, resourceVectorInputOf r.amounts⟩

def RELEASE_TAG : String := "PORTFOLIO_RELEASE.V1"

def decodeAgentRelease (bytes : Bytes) : CoreResult AgentRelease :=
  decodePortfolio bytes RELEASE_TAG readReleaseInput (validateAgentRelease · "release")

end Signed

section Children

structure ChildExecutionAuthorizationInput where
  portfolioMandate : String
  principal : PartyIdInput
  agent : PartyIdInput
  proposal : String
  candidate : String
  scope : AuthorityScopeInput
  approved : List ResourceAmountInput
  notBefore : IntegerInput
  expiresAt : IntegerInput

/-- A child authorization that passed its validator; one that was only derived need not have. -/
structure ValidChild where
  portfolioMandate : PortfolioMandateDigest
  principal : PrincipalId
  agent : AgentId
  proposal : ProposalDigest
  candidate : CandidateDigest
  scope : AuthorityScope
  approved : ValidVector
  window : Window

def ValidChild.authorization (c : ValidChild) : ChildExecutionAuthorization where
  portfolioMandate := c.portfolioMandate
  principal := c.principal
  agent := c.agent
  proposal := c.proposal
  candidate := c.candidate
  scope := c.scope
  approved := c.approved.amounts
  notBefore := c.window.notBefore.1
  expiresAt := c.window.expiresAt.1

def validateChildExecutionAuthorization (input : ChildExecutionAuthorizationInput) (path : String) :
    CoreResult ValidChild := do
  let portfolioMandate ← parseDigest input.portfolioMandate (atField path "portfolioMandate")
  let principal ← validatePartyId input.principal (atField path "principal")
  let agent ← validatePartyId input.agent (atField path "agent")
  let proposal ← parseDigest input.proposal (atField path "proposal")
  let candidate ← parseDigest input.candidate (atField path "candidate")
  let scope ← validateAuthorityScope input.scope (atField path "scope")
  let approved ← validateResourceVector input.approved (atField path "approved")
  let window ← validateWindow input.notBefore input.expiresAt path
  .ok ⟨portfolioMandate, principal, agent, proposal, candidate, scope, approved, window⟩

def readChildInput : CoreReader ChildExecutionAuthorizationInput := do
  let portfolioMandate ← readDigest
  let principal ← readPartyInput
  let agent ← readPartyInput
  let proposal ← readDigest
  let candidate ← readDigest
  let scope ← readAuthorityScopeInput
  let approved ← readResourceVectorInput
  let notBefore ← readInt64
  let expiresAt ← readInt64
  pure ⟨portfolioMandate, principal, agent, proposal, candidate, scope, approved, notBefore, expiresAt⟩

def childExecutionAuthorizationInputOf (c : ValidChild) : ChildExecutionAuthorizationInput where
  portfolioMandate := c.portfolioMandate.toHex
  principal := partyIdInputOf c.principal
  agent := partyIdInputOf c.agent
  proposal := c.proposal.toHex
  candidate := c.candidate.toHex
  scope := authorityScopeInputOf c.scope
  approved := resourceVectorInputOf c.approved
  notBefore := .bigint c.window.notBefore.1
  expiresAt := .bigint c.window.expiresAt.1

def CHILD_AUTHORIZATION_TAG : String := "PORTFOLIO_CHILD_AUTHORIZATION.V1"

def decodeChildExecutionAuthorization (bytes : Bytes) : CoreResult ValidChild :=
  decodePortfolio bytes CHILD_AUTHORIZATION_TAG readChildInput (validateChildExecutionAuthorization · "child")

end Children

/-! The initial allocation plan the principal accepts before signing: evidence of the starting
plan, one entry for each agent of the exact mandate it names; it grants nothing. -/
section InitialAllocation

inductive InitialAllocationMode | fixed | dynamic | hybrid

def INITIAL_MODE_CODE : WireCodes InitialAllocationMode where
  keys := [.fixed, .dynamic, .hybrid]
  code
    | .fixed => 1 | .dynamic => 2 | .hybrid => 3
  width key := by cases key <;> decide
  unique key := by cases key <;> rfl

inductive InitialAllocationSource | fixed | planned
deriving DecidableEq

def SOURCE_CODE : WireCodes InitialAllocationSource where
  keys := [.fixed, .planned]
  code
    | .fixed => 1 | .planned => 2
  width key := by cases key <;> decide
  unique key := by cases key <;> rfl

structure InitialAllocationEntryInput where
  agent : PartyIdInput
  allocatedAtoms : IntegerInput
  source : InitialAllocationSource

structure InitialAllocationEntry where
  agent : AgentId
  allocatedAtoms : Uint64
  source : InitialAllocationSource

structure InitialAllocationPlanInput where
  portfolioMandateDigest : String
  totalCapitalAtoms : IntegerInput
  mode : InitialAllocationMode
  autoReallocate : Bool
  entries : List InitialAllocationEntryInput
  unallocatedAtoms : IntegerInput

def writeEntryKey (e : InitialAllocationEntry) : Writer := writeParty e.agent

def writeEntry (e : InitialAllocationEntry) : Writer :=
  writeParty e.agent ++ writeU64 e.allocatedAtoms.1 ++ writeCode SOURCE_CODE e.source

def readEntryInput : CoreReader InitialAllocationEntryInput := do
  let agent ← readPartyInput
  let allocatedAtoms ← readUint64
  let source ← readCode SOURCE_CODE
  pure ⟨agent, allocatedAtoms, source⟩

/-- A fixed plan has fixed entries only, a dynamic one planned ones only. -/
def InitialAllocationMode.admits : InitialAllocationMode → InitialAllocationSource → Bool
  | .fixed, source => source == .fixed
  | .dynamic, source => source == .planned
  | .hybrid, _ => true

def entriesAllocated (entries : List InitialAllocationEntry) : Int :=
  (entries.map fun e => e.allocatedAtoms.1).sum

variable [Keccak]

structure InitialAllocationPlan (m : PortfolioMandate) where
  portfolioMandateDigest : PortfolioMandateDigest
  totalCapitalAtoms : Uint64
  mode : InitialAllocationMode
  autoReallocate : Bool
  entries : CanonicalSet writeEntryKey MAX_AGENTS
  unallocatedAtoms : Uint64
  bound : portfolioMandateDigest = Portfolio.portfolioMandateDigest m
  listed : entries.members.map (·.agent) = m.agents.members.map (·.agent)
  sourced : entries.members.all fun e => mode.admits e.source
  whole : entriesAllocated entries.members + unallocatedAtoms.1 = totalCapitalAtoms.1

def validateEntry (m : PortfolioMandate) (mode : InitialAllocationMode) (input : InitialAllocationEntryInput)
    (path : String) : CoreResult {e : InitialAllocationEntry // mode.admits e.source = true} := do
  let agent ← validatePartyId input.agent (atField path "agent")
  if m.agents.members.any fun policy => partyIdsEqual policy.agent agent then do
    let amount ← parseUint64 input.allocatedAtoms (atField path "allocatedAtoms")
    if sourced : mode.admits input.source = true then .ok ⟨⟨agent, amount, input.source⟩, sourced⟩
    else fail .unknownEnumValue (atField path "source")
  else fail .malformedParty (atField path "agent")

omit [Keccak] in
theorem canonicalSet_all {α : Type} {write : α → Writer} {max : Nat} {items : List α}
    {bounded : items.length ≤ max} {path : String} {set : CanonicalSet write max} {p : α → Bool}
    (valid : canonicalSet write items bounded path = .ok set) (all : ∀ item ∈ items, p item = true) :
    set.members.all p = true := by
  rw [canonicalSet_ok valid]
  exact List.all_eq_true.mpr fun item member => all item ((List.mem_insertionSort _).mp member)

def validateInitialAllocationPlan (input : InitialAllocationPlanInput) (m : PortfolioMandate) (path : String) :
    CoreResult (InitialAllocationPlan m) := do
  let digest ← parseDigest input.portfolioMandateDigest (atField path "portfolioMandateDigest")
  if bound : digest = portfolioMandateDigest m then do
    let total ← parseUint64 input.totalCapitalAtoms (atField path "totalCapitalAtoms")
    if few : input.entries.length ≤ m.agents.members.length then
      if input.entries.length ≠ m.agents.members.length then fail .malformedParty (atField path "entries")
      else do
        let entries ← validateEach (validateEntry m input.mode) (atField path "entries") input.entries 0
        match unique : (canonicalSet writeEntryKey (entries.1.map (·.1))
            (by rw [List.length_map, entries.2]; exact few.trans m.agents.bounded) (atField path "entries") :
            CoreResult (CanonicalSet writeEntryKey MAX_AGENTS)) with
        | .error error => .error error
        | .ok set =>
          if listed : set.members.map (·.agent) = m.agents.members.map (·.agent) then do
            let unallocated ← parseUint64 input.unallocatedAtoms (atField path "unallocatedAtoms")
            if whole : entriesAllocated set.members ≤ total.1 ∧ entriesAllocated set.members + unallocated.1 = total.1 then
              .ok ⟨digest, total, input.mode, input.autoReallocate, set, unallocated, bound, listed,
                canonicalSet_all unique (by simp +contextual), whole.2⟩
            else fail .integerOutOfRange (atField path "unallocatedAtoms")
          else fail .malformedParty (atField path "entries")
    else fail .collectionTooLarge (atField path "entries")
  else fail .malformedDigest (atField path "portfolioMandateDigest")

def writePlanBody {m : PortfolioMandate} (plan : InitialAllocationPlan m) : Writer :=
  writeDigest plan.portfolioMandateDigest ++ writeU64 plan.totalCapitalAtoms.1 ++
  writeCode INITIAL_MODE_CODE plan.mode ++ writeFlag plan.autoReallocate ++
  writeList writeEntry plan.entries.members ++ writeU64 plan.unallocatedAtoms.1

def INITIAL_ALLOCATION_TAG : String := "PORTFOLIO_INITIAL_ALLOCATION.V1"

def encodeInitialAllocationPlan {m : PortfolioMandate} (plan : InitialAllocationPlan m) : Bytes :=
  encodeWith (fun plan => portfolioWriter INITIAL_ALLOCATION_TAG ++ writePlanBody plan) plan

def readPlanInput : CoreReader InitialAllocationPlanInput := do
  let portfolioMandateDigest ← readDigest
  let totalCapitalAtoms ← readUint64
  let mode ← readCode INITIAL_MODE_CODE
  let autoReallocate ← readFlag
  let entries ← readList 16 readEntryInput true
  let unallocatedAtoms ← readUint64
  pure ⟨portfolioMandateDigest, totalCapitalAtoms, mode, autoReallocate, entries, unallocatedAtoms⟩

def decodeInitialAllocationPlan (bytes : Bytes) (m : PortfolioMandate) : CoreResult (InitialAllocationPlan m) :=
  decodePortfolio bytes INITIAL_ALLOCATION_TAG readPlanInput
    fun input => validateInitialAllocationPlan input m "initialAllocation"

def entryInputOf (e : InitialAllocationEntry) : InitialAllocationEntryInput :=
  ⟨partyIdInputOf e.agent, .bigint e.allocatedAtoms.1, e.source⟩

def initialAllocationPlanInputOf {m : PortfolioMandate} (plan : InitialAllocationPlan m) :
    InitialAllocationPlanInput where
  portfolioMandateDigest := plan.portfolioMandateDigest.toHex
  totalCapitalAtoms := .bigint plan.totalCapitalAtoms.1
  mode := plan.mode
  autoReallocate := plan.autoReallocate
  entries := plan.entries.members.map entryInputOf
  unallocatedAtoms := .bigint plan.unallocatedAtoms.1

end InitialAllocation

end Mandate.Portfolio
