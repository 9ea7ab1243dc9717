import Mandate.Portfolio.Screen
import Mandate.Registry.Bridge

/-! The stock domain: identity through the registry's own evaluation, under requirements projected
from the agent's scope, and execution over one reviewed gate. -/
set_option linter.dupNamespace false
namespace Mandate.Portfolio
open Core Lib.Wire
open Kernel (CanonicalAssetId)
open Registry (RepresentationRequirements RepresentationRecord claimPolicyOf resolveClaimSet)

def ROBINHOOD_DOMAIN : DomainId := ⟨"robinhood-evm", by decide⟩
def ACTION_GATE_BUY : String := "evm.gate-buy"

def scaledUp (a b : Int) : Int := if a = 0 then 0 else (a + b - 1) / b

/-- Funding atoms for one whole representation token, where they express the typed price exactly. -/
def venuePrice (fundingDecimals priceDecimals : Nat) (priceAtoms : Int) : Option Int :=
  if priceDecimals ≤ fundingDecimals then some (priceAtoms * 10 ^ (fundingDecimals - priceDecimals))
  else if priceAtoms % 10 ^ (priceDecimals - fundingDecimals) = 0 then
    some (priceAtoms / 10 ^ (priceDecimals - fundingDecimals))
  else none

/-- A market as its deployment review recorded it, at a price its funding token expresses. -/
structure ReviewedMarket where
  representation : String
  representationDecimals : Nat
  fundingDecimals : Nat
  canonicalAsset : CanonicalAssetId
  settlementUnit : Identifier
  priceDecimals : Nat
  priceAtoms : Int
  feeBps : Nat
  priced : 0 < priceAtoms
  representable : (venuePrice fundingDecimals priceDecimals priceAtoms).isSome = true

namespace ReviewedMarket
variable (m : ReviewedMarket)

def grossCost (quantity : Int) : Int :=
  scaledUp (quantity * (venuePrice m.fundingDecimals m.priceDecimals m.priceAtoms).get m.representable)
    (10 ^ m.representationDecimals)

def feeOn (gross : Int) : Int := scaledUp (gross * m.feeBps) 10000

def buyCost (quantity : Int) : Int := m.grossCost quantity + m.feeOn (m.grossCost quantity)

end ReviewedMarket

/-- The reviewed gate, the registry, and the principal's address on the gate's chain. -/
structure StockConfig where
  ref : ModuleRef
  adapter : AdapterRefInput
  chainId : Int
  gate : String
  markets : List ReviewedMarket
  registry : Registry.Registry
  principalAddress : String
  venue : Identifier
  placed : venue.1 = "eip155:" ++ toString chainId ++ "/gate:" ++ gate

def registryRight : RightKind → Registry.RightKind
  | .economicExposure => .economicExposure | .dividendTreatment => .dividendTreatment
  | .votingRights => .votingRights | .redemptionRights => .redemptionRights
  | .beneficialOwnership => .beneficialOwnership | .transferability => .transferability

def RIGHT_KINDS : List RightKind :=
  [.economicExposure, .dividendTreatment, .votingRights, .redemptionRights, .beneficialOwnership, .transferability]

def kernelPolicy : SyntheticPolicy → Kernel.SyntheticPolicy
  | .forbidden => .forbidden | .allowed => .allowed

variable [Keccak]

/-- A kernel mandate projected from the scope: never signed, digested or executed. -/
def projectedMandate (scope : AuthorityScope) (asset : CanonicalAssetId) (ctx : ResolveContext) : Kernel.MandateInput where
  version := .integer 2
  mandateId := (portfolioMandateDigest ctx.mandate).toHex
  nonce := .bigint 0
  principal := partyIdInputOf ctx.mandate.principal
  agent := partyIdInputOf ctx.agent.agent
  canonicalAsset := Kernel.assetIdInputOf asset
  side := .buy
  maxNotional := ⟨"USDC", .integer 6, .bigint 1⟩
  economicLimit := ⟨"USDC", .integer 6, .bigint 1⟩
  maxDeviationBps := .bigint 0
  syntheticPolicy := kernelPolicy scope.syntheticPolicy
  allowedIssuers := scope.issuers.members.map (·.1)
  allowedChains := scope.chains.members.map (·.1)
  allowedVenues := []
  requiredCorporateActionEpoch := .bigint 0
  maxPriceAgeSeconds := .bigint 60
  maxCorporateActionAgeSeconds := .bigint 60
  haltPolicy := .forbidWhenHalted
  createdAt := .bigint ctx.now
  notBefore := .bigint ctx.now
  expiresAt := .bigint (ctx.now + 1)

def rightsPolicy (scope : AuthorityScope) : Registry.AdditionalRequirements where
  allowedIssuers := none
  allowedChains := none
  forbidSynthetic := false
  allowedInstrumentTypes := none
  allowedBackingModels := none
  allowedRedemptionModels := none
  requiredRights := scope.requiredRights.members.map fun kind => ⟨registryRight kind, [.present]⟩
  allowedCorporateActionModels := none
  allowedSettlementModels := none
  holderJurisdiction := none
  minimumTrust := none
  maxClaimAge := none

def requirementsFor (scope : AuthorityScope) (asset : CanonicalAssetId) (ctx : ResolveContext) :
    Option RepresentationRequirements := do
  let mandate ← (Kernel.parseMandate (projectedMandate scope asset ctx)).toOption
  let base ← (Registry.deriveRequirements mandate ⟨mandate.createdAt, none, none⟩).toOption
  (Registry.narrowRequirements base (rightsPolicy scope)).toOption

namespace StockConfig
variable (config : StockConfig)

def chain : String := "eip155:" ++ toString config.chainId

def principalAccount : String := config.chain ++ "/account:" ++ config.principalAddress

def marketOf (representation : Identifier) : Option ReviewedMarket :=
  match Registry.parseRepresentationId (.text representation.1) with
  | .error _ => none
  | .ok id => if id.chain.1 ≠ config.chain then none
    else config.markets.find? fun m => m.representation == String.ofList id.contractAddress

def marketResource (m : ReviewedMarket) : Option (ResourceOf [.market]) :=
  mustResource [.market] ⟨ROBINHOOD_DOMAIN.1, .market, config.chain ++ "/erc20:" ++ m.representation⟩

def coreAccount : Option (ResourceOf [.account]) :=
  mustResource [.account] ⟨ROBINHOOD_DOMAIN.1, .account, config.chain ++ ":account:" ++ config.principalAddress⟩

end StockConfig

/-- The registry's verdict: the first asset of the scope it admits the representation as, or codes. -/
inductive RegistryVerdict
  | admissible (asset : CanonicalAssetId) (requirements : RepresentationRequirements)
  | excluded (codes : List String)

def registryVerdict (config : StockConfig) (representation : Identifier) (ctx : ResolveContext) : RegistryVerdict :=
  let scope := ctx.agent.scope
  let step (verdict : RegistryVerdict) (asset : CanonicalAssetId) : RegistryVerdict :=
    match verdict with
    | .admissible asset requirements => .admissible asset requirements
    | .excluded codes =>
      match requirementsFor scope asset ctx with
      | none => .excluded (codes ++ ["REQUIREMENTS_UNDERIVABLE"])
      | some requirements =>
        match Registry.evaluateRepresentation config.registry requirements (.text representation.1) with
        | .admissible _ => .admissible asset requirements
        | .excluded _ found _ => .excluded (codes ++ found.map (·.name))
  match scope.assets.members.foldl step (.excluded []) with
  | .admissible asset requirements => .admissible asset requirements
  | .excluded codes =>
    .excluded (codes ++ if scope.assets.members = [] then ["CANONICAL_ASSET_NOT_IN_SCOPE"] else [])

/-- A refusal with its reasons in canonical order; no caller has none. -/
def refusedFor (reasons : List Reason) (registry : Option RepresentationDecisionRecord) (fallback : Reason) : Resolution :=
  if named : canonicalReasons reasons ≠ [] then .refused _ named registry
  else .refused [fallback] (sole_ne_nil _) registry

def establishedRights (record : RepresentationRecord) (requirements : RepresentationRequirements) : List RightKind :=
  RIGHT_KINDS.filter fun kind =>
    match resolveClaimSet (Registry.rightClaims record (registryRight kind)) (claimPolicyOf requirements)
      Registry.RightState.text with
    | .established .present _ => true
    | _ => false

def stockContributions (m : ReviewedMarket) (quantity : PositiveAtoms) : List Contribution :=
  [⟨.capital, m.settlementUnit.1, m.fundingDecimals, m.buyCost quantity.1, ROBINHOOD_DOMAIN.1⟩,
    ⟨.notional, m.settlementUnit.1, m.fundingDecimals, m.grossCost quantity.1, ROBINHOOD_DOMAIN.1⟩]

def stockAction (config : StockConfig) (chain : Identifier) (asset : CanonicalAssetId)
    (representation issuer account : Identifier) (synthetic : Bool) (rights : List RightKind) (demand : ResourceVector)
    (unrepeated : Unrepeated demand) : ResolvedAction where
  kind := .stockBuy
  domain := ROBINHOOD_DOMAIN
  chain
  venue := config.venue
  route := []
  asset
  representation
  issuer := some issuer
  recipient := account
  synthetic
  rights
  leverage := none
  slippageBps := none
  quoteObservedAt := none
  demand
  unrepeated

/-- What the registry established, bought on the reviewed gate that lists exactly that token. -/
def stockEstablished (config : StockConfig) (representation account : Identifier) (quantity : PositiveAtoms)
    (claims : Claims) (ctx : ResolveContext) (asset : CanonicalAssetId)
    (requirements : RepresentationRequirements) : Resolution :=
  let decided : RepresentationDecisionRecord := ⟨representation, true, []⟩
  let unknown (code : String) : Resolution :=
    .refused [reason (.registry code) representation.1] (sole_ne_nil _) (some decided)
  match Registry.getRepresentation config.registry (.text representation.1),
      Registry.parseRepresentationId (.text representation.1) with
  | some record, .ok id =>
    match resolveClaimSet record.issuer.1 (claimPolicyOf requirements) (·.1),
        resolveClaimSet record.backing.1 (claimPolicyOf requirements) Registry.BackingModel.text with
    | .established issuer _, .established backing _ =>
      let market := config.marketOf representation
      let listed := market.any fun m => assetKey m.canonicalAsset == assetKey asset
      let found := claimMismatches claims asset (some issuer) ++
        (if listed then [] else [reason .instrumentUnknown ("gate-market:" ++ representation.1)])
      match market with
      | none => refusedFor found (some decided) (reason .instrumentUnknown representation.1)
      | some m =>
        if found ≠ [] then refusedFor found (some decided) (reason .instrumentUnknown representation.1)
        else match demanded : demandOf ctx.table (stockContributions m quantity) with
          | .error code => .refused [code] (sole_ne_nil _) (some decided)
          | .ok demand => .resolved (stockAction config id.chain asset representation issuer account
              (Registry.isSyntheticBacking backing) (establishedRights record requirements) demand
              (demandOf_unrepeated demanded)) (some decided)
    | _, _ => unknown "REPRESENTATION_METADATA_UNKNOWN"
  | _, _ => unknown "REPRESENTATION_UNKNOWN"

def stockResolve (config : StockConfig) (candidate : ActionCandidate) (ctx : ResolveContext) : Resolution :=
  match candidate with
  | .stockBuy representation account quantity claims =>
    match registryVerdict config representation ctx with
    | .excluded codes =>
      let sorted := codes.dedup.insertionSort (· ≤ ·)
      refusedFor (sorted.map fun c => reason (.registry c) representation.1) (some ⟨representation, false, sorted⟩)
        (reason (.registry "REPRESENTATION_UNKNOWN") representation.1)
    | .admissible asset requirements =>
      stockEstablished config representation account quantity claims ctx asset requirements
  | _ => .refused [reason .actionNotAllowed candidate.kind.text] (List.cons_ne_nil _ _) none

def stockCoverage (config : StockConfig) (scope : AuthorityScope) : Option CoreCoverage := do
  let markets ← (config.markets.filter fun m =>
    scope.representations.members.any fun r => r.1 == config.chain ++ "/erc20:" ++ m.representation).mapM
      config.marketResource
  some ⟨markets.map resourceOfInputOf, [], []⟩

def encodeGateBuy (account : ResourceOf [.account]) (market : ResourceOf [.market]) (quantity : PositiveAtoms) : Writer :=
  writeStr "robinhood-evm/v1/gate-buy" ++ writeResourceOf account ++ writeResourceOf market ++ writeU256 quantity.1

def stockCoreAction (config : StockConfig) (candidate : ActionCandidate) : Option (Option CoreAction) :=
  match candidate with
  | .stockBuy representation account quantity _ =>
    if account.1 ≠ config.principalAccount then some none
    else match config.marketOf representation with
      | none => some none
      | some market => do
        let own ← config.coreAccount
        let target ← config.marketResource market
        let payload ← encodeGateBuy own target quantity
        some (some ⟨ACTION_GATE_BUY, resourceOfInputOf target, [resourceOfInputOf own], payload⟩)
  | _ => some none

def createStockBinding (config : StockConfig) : Binding where
  kind := .stockBuy
  resolve := stockResolve config
  domain := ROBINHOOD_DOMAIN
  module := config.ref
  adapter := config.adapter
  actionTypes := [ACTION_GATE_BUY]
  coverage := stockCoverage config
  delegationTerms _ := some []
  coreAction candidate _ := stockCoreAction config candidate

end Mandate.Portfolio
