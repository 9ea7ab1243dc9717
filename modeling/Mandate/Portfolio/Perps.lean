import Mandate.Portfolio.Screen
import Mandate.Perp.Vocabulary

/-! The perps domain, over reviewed market claims. It adds no semantics: demand is what the module
demands, and a leverage bound compiles into the module's own invariant. -/
set_option linter.dupNamespace false
namespace Mandate.Portfolio
open Core Lib.Wire Lib.Text
open Kernel (CanonicalAssetId)

def MARGIN_FRACTION_TICK : Int := 10000
def FEE_TICK : Int := 1000000
def USDC_DECIMALS : Nat := 6
def MAX_LEVERAGE : String := "perp.max-leverage"

def LIGHTER_DOMAIN : DomainId := ⟨Perp.DOMAIN_ID, by decide⟩

def ceilDiv (a b : Int) : Int := if a = 0 then 0 else (a + b - 1) / b

/-- A reviewed market: what it is exposure to, and at which size decimals. -/
structure CheckedClaim where
  asset : ResourceOf [.canonicalAsset]
  marketIndex : Nat
  sizeDecimals : Nat
  maxTakerFeeRate : Int
  headroom : 0 ≤ maxTakerFeeRate ∧ maxTakerFeeRate ≤ 1000000

/-- The policy's claims on one chain, and the principal's account on it. -/
structure PerpsConfig where
  ref : ModuleRef
  adapter : AdapterRefInput
  chainId : SmallUint UINT32_MAX
  claims : List CheckedClaim
  subAccount : Int
  chain : Identifier
  venue : Identifier
  chained : chain.1 = "lighter:" ++ toString chainId.1
  placed : venue.1 = "lighter:" ++ toString chainId.1 ++ "/exchange"

namespace PerpsConfig
variable (config : PerpsConfig)

def account : String := "lighter:" ++ toString config.chainId.1 ++ "/account:" ++ toString config.subAccount

def marketId (claim : CheckedClaim) : String :=
  "lighter:" ++ toString config.chainId.1 ++ "/perp:" ++ toString claim.marketIndex

def claimOf (market : Identifier) : Option CheckedClaim := config.claims.find? fun c => config.marketId c == market.1

def marketResource (claim : CheckedClaim) : Option (ResourceOf [.market]) :=
  mustResource [.market] ⟨Perp.DOMAIN_ID, .market,
    "lighter:" ++ toString config.chainId.1 ++ ":market:" ++ toString claim.marketIndex⟩

def coreAccount : Option (ResourceOf [.account]) :=
  mustResource [.account] ⟨Perp.DOMAIN_ID, .account,
    "lighter:" ++ toString config.chainId.1 ++ ":account:" ++ toString config.subAccount⟩

end PerpsConfig

/-- Named by the Core resource under a scheme that says so; nothing parses it. -/
def assetOf (claim : CheckedClaim) : CanonicalAssetId :=
  ⟨⟨"crypto", by decide⟩, ⟨"mandate-core", by decide⟩, claim.asset.1.localId⟩

/-- Leverage at an initial margin fraction, rounded up at 2 decimals. -/
def leverageNumerator (fraction : BasisPoints) : Int := ceilDiv (MARGIN_FRACTION_TICK * 100) fraction.1

theorem leverageNumerator_bounds {fraction : BasisPoints} (margined : fraction.1 ≠ 0) :
    0 ≤ leverageNumerator fraction ∧ leverageNumerator fraction ≤ UINT256_MAX := by
  have wide : (1000001 : Int) ≤ UINT256_MAX := by decide
  have positive : (0 : Int) < fraction.1 := by omega
  have below : leverageNumerator fraction < 1000001 := by
    rw [leverageNumerator, ceilDiv, if_neg (by decide), Int.ediv_lt_iff_lt_mul positive]
    simp only [MARGIN_FRACTION_TICK]
    omega
  refine ⟨?_, by omega⟩
  rw [leverageNumerator, ceilDiv, if_neg (by decide)]
  exact Int.ediv_nonneg (by simp only [MARGIN_FRACTION_TICK]; omega) (by omega)

def leverageAt (fraction : BasisPoints) (margined : fraction.1 ≠ 0) : Ratio :=
  ⟨⟨leverageNumerator fraction, leverageNumerator_bounds margined⟩, ⟨2, by decide⟩⟩

/-- Notional is exact in the collateral's atoms; margin is worst-case, each part rounded up. -/
def perpContributions (claim : CheckedClaim) (size price : PositiveAtoms) (fraction : BasisPoints) : List Contribution :=
  let notional := size.1 * price.1
  let margin := ceilDiv (notional * fraction.1) MARGIN_FRACTION_TICK + ceilDiv (notional * claim.maxTakerFeeRate) FEE_TICK
  [⟨.notional, "USDC", USDC_DECIMALS, notional, Perp.DOMAIN_ID⟩, ⟨.margin, "USDC", USDC_DECIMALS, margin, Perp.DOMAIN_ID⟩,
    ⟨.positionSize, "UNIT", claim.sizeDecimals, size.1, Perp.DOMAIN_ID⟩]

def perpAction (config : PerpsConfig) (claim : CheckedClaim) (market account : Identifier) (leverage : Ratio)
    (demand : ResourceVector) (unrepeated : Unrepeated demand) : ResolvedAction where
  kind := .perpOpen
  domain := LIGHTER_DOMAIN
  chain := config.chain
  venue := config.venue
  route := []
  asset := assetOf claim
  representation := market
  issuer := none
  recipient := account
  synthetic := false
  rights := []
  leverage := some leverage
  slippageBps := none
  quoteObservedAt := none
  demand
  unrepeated

def perpResolve (config : PerpsConfig) (candidate : ActionCandidate) (ctx : ResolveContext) : Resolution :=
  let refuse (r : Reason) : Resolution := .refused [r] (sole_ne_nil _) none
  match candidate with
  | .perpOpen market account _ size price fraction claims margined =>
    match config.claimOf market with
    | none => refuse (reason .instrumentUnknown market.1)
    | some claim =>
      if mismatched : claimMismatches claims (assetOf claim) none ≠ [] then .refused _ mismatched none
      else match demanded : demandOf ctx.table (perpContributions claim size price fraction) with
        | .error code => refuse code
        | .ok demand => .resolved (perpAction config claim market account (leverageAt fraction margined) demand
            (demandOf_unrepeated demanded)) none
  | _ => refuse (reason .actionNotAllowed candidate.kind.text)

def perpCoverage (config : PerpsConfig) (scope : AuthorityScope) : Option CoreCoverage := do
  let markets ← (config.claims.filter fun c =>
    scope.representations.members.any fun r => r.1 == config.marketId c).mapM config.marketResource
  some ⟨markets.map resourceOfInputOf, [], []⟩

def maxLeverageParams (r : Ratio) : Option String :=
  (writeU64 r.numerator.1 ++ writeU8 r.scale.1 : Writer).map bytesToHex

/-- The module's own invariant over the principal's account: Core re-derives the leverage. -/
def perpDelegationTerms (config : PerpsConfig) (scope : AuthorityScope) : Option (List AuthorityTermInput) :=
  match scope.maxLeverage with
  | none => some []
  | some leverage =>
    if LIGHTER_DOMAIN ∉ scope.domains.members then some []
    else do
      let account ← config.coreAccount
      let params ← maxLeverageParams leverage
      some [.stateInvariant ⟨MAX_LEVERAGE, .integer config.ref.moduleVersion.1, [resourceOfInputOf account], params⟩]

def encodeOrder (account : ResourceOf [.account]) (market : ResourceOf [.market]) (side : PerpSide)
    (size price : PositiveAtoms) : Writer :=
  writeStr "lighter-perp/v1/create-order" ++ writeResourceOf account ++ writeResourceOf market ++
  writeU8 (match side with | .long => 1 | .short => 2) ++ writeU64 size.1 ++ writeU64 price.1 ++ writeU8 2 ++
  writeU8 0 ++ writeU64 0

def perpCoreAction (config : PerpsConfig) (candidate : ActionCandidate) : Option (Option CoreAction) :=
  match candidate with
  | .perpOpen market account side size price _ _ _ =>
    if account.1 ≠ config.account then some none
    else match config.claimOf market with
      | none => some none
      | some claim => do
        let target ← config.marketResource claim
        let own ← config.coreAccount
        let payload ← encodeOrder own target side size price
        some (some ⟨Perp.ACTION_CREATE_ORDER, resourceOfInputOf target, [resourceOfInputOf own], payload⟩)
  | _ => some none

def createPerpsBinding (config : PerpsConfig) : Binding where
  kind := .perpOpen
  resolve := perpResolve config
  domain := LIGHTER_DOMAIN
  module := config.ref
  adapter := config.adapter
  actionTypes := [Perp.ACTION_CREATE_ORDER]
  coverage := perpCoverage config
  delegationTerms := perpDelegationTerms config
  coreAction candidate _ := perpCoreAction config candidate

end Mandate.Portfolio
