import Mandate.Portfolio.Screen

/-! The fixture domains: swaps, collectibles and deposits over a reviewed catalog. Identity is the
catalog's, never a display name, and resolution reads no clock. -/
namespace Mandate.Portfolio
open Core Lib.Wire
open Kernel (CanonicalAssetId)

def FIXTURE_KINDS : List ActionKind := [.swapExactIn, .nftBuy, .yieldDeposit]

structure FixtureInstrument where
  instrument : Identifier
  chain : Identifier
  asset : CanonicalAssetId
  issuer : Option Identifier
  synthetic : Bool
  venues : List Identifier
  traded : venues ≠ []

structure FixturePool where
  router : Identifier
  pool : Identifier

/-- A module over its reviewed catalog, each instrument reviewed once. -/
structure FixtureModule where
  ref : ModuleRef
  adapter : AdapterRefInput
  domain : DomainId
  kind : ActionKind
  actionType : Identifier
  fundingToken : Identifier
  settlementUnit : UnitCode
  settlementDecimals : Nat
  instruments : List FixtureInstrument
  pools : List FixturePool
  recipients : List Identifier
  fixture : kind ∈ FIXTURE_KINDS
  reviewed : instruments ≠ [] ∧ (instruments.map (·.instrument)).Nodup
  routed : kind ≠ .swapExactIn → pools = []

def FixtureModule.instrumentFor (c : FixtureModule) (id : Identifier) : Option FixtureInstrument :=
  c.instruments.find? fun i => i.instrument == id

def marketOf (c : FixtureModule) (instrument : Identifier) : ResourceIdInput := ⟨c.domain.1, .market, instrument.1⟩

def slippageBps (quotedOut : PositiveAtoms) (minOut : UnsignedAtoms) : Int :=
  ((quotedOut.1 - minOut.1) * 10000 + quotedOut.1 - 1) / quotedOut.1

theorem slippageBps_bounds {quotedOut : PositiveAtoms} {minOut : UnsignedAtoms} (fillable : minOut.1 ≤ quotedOut.1) :
    0 ≤ slippageBps quotedOut minOut ∧ slippageBps quotedOut minOut ≤ 10000 := by
  have positive := quotedOut.2.1
  have unsigned := minOut.2.1
  have below : slippageBps quotedOut minOut < 10001 := by
    rw [slippageBps, Int.ediv_lt_iff_lt_mul (by omega)]
    omega
  exact ⟨Int.ediv_nonneg (by omega) (by omega), by omega⟩

def toleratedBps (quotedOut : PositiveAtoms) (minOut : UnsignedAtoms) (fillable : minOut.1 ≤ quotedOut.1) :
    BasisPoints :=
  ⟨(slippageBps quotedOut minOut).toNat, by have := slippageBps_bounds fillable; omega⟩

structure FixtureFacts where
  instrument : Identifier
  venue : Identifier
  route : List Identifier
  recipient : Identifier
  amount : PositiveAtoms
  slippage : Option BasisPoints
  quoteObservedAt : Option UnixSeconds

/-- A vault trades on its own protocol, which the record names and the agent does not. -/
def fixtureFacts (c : FixtureModule) : ActionCandidate → Option FixtureFacts
  | .swapExactIn router route _ tokenOut amountIn quotedOut minOut quoteObservedAt recipient _ _ fillable =>
    some ⟨tokenOut, router, route, recipient, amountIn, some (toleratedBps quotedOut minOut fillable),
      some quoteObservedAt⟩
  | .nftBuy marketplace collection _ maxPrice recipient _ =>
    some ⟨collection, marketplace, [], recipient, maxPrice, none, none⟩
  | .yieldDeposit product amount _ quoteObservedAt recipient _ =>
    some ⟨product, ((c.instrumentFor product).bind (·.venues.head?)).getD product, [], recipient, amount, none,
      some quoteObservedAt⟩
  | _ => none

def ActionCandidate.claims : ActionCandidate → Claims
  | .stockBuy _ _ _ claims => claims
  | .swapExactIn _ _ _ _ _ _ _ _ _ claims _ _ => claims
  | .nftBuy _ _ _ _ _ claims => claims
  | .yieldDeposit _ _ _ _ _ claims => claims
  | .perpOpen _ _ _ _ _ _ claims _ => claims

def foreignFunding (c : FixtureModule) : ActionCandidate → Option Identifier
  | .swapExactIn _ _ tokenIn _ _ _ _ _ _ _ _ _ => if tokenIn ≠ c.fundingToken then some tokenIn else none
  | _ => none

def fixtureContributions (c : FixtureModule) (f : FixtureFacts) : List Contribution :=
  [⟨.notional, c.settlementUnit.1, c.settlementDecimals, f.amount.1, c.domain.1⟩]

def fixtureAction (c : FixtureModule) (f : FixtureFacts) (i : FixtureInstrument) (demand : ResourceVector)
    (unrepeated : Unrepeated demand) : ResolvedAction where
  kind := c.kind
  domain := c.domain
  chain := i.chain
  venue := f.venue
  route := f.route
  asset := i.asset
  representation := i.instrument
  issuer := i.issuer
  recipient := f.recipient
  synthetic := i.synthetic
  rights := []
  leverage := none
  slippageBps := f.slippage
  quoteObservedAt := f.quoteObservedAt.map (·.1)
  demand
  unrepeated

def fixtureResolve (c : FixtureModule) (candidate : ActionCandidate) (ctx : ResolveContext) : Resolution :=
  let refuse (r : Reason) : Resolution := .refused [r] (sole_ne_nil _) none
  if candidate.kind ≠ c.kind then refuse (reason .actionNotAllowed candidate.kind.text)
  else match fixtureFacts c candidate, foreignFunding c candidate with
  | none, _ => refuse (reason .actionNotAllowed candidate.kind.text)
  | some _, some tokenIn => refuse (reason .instrumentUnknown ("tokenIn:" ++ tokenIn.1))
  | some f, none =>
    match c.instrumentFor f.instrument with
    | none => refuse (reason .instrumentUnknown f.instrument.1)
    | some i =>
      if mismatched : claimMismatches candidate.claims i.asset i.issuer ≠ [] then .refused _ mismatched none
      else match demanded : demandOf ctx.table (fixtureContributions c f) with
        | .error code => refuse code
        | .ok demand => .resolved (fixtureAction c f i demand (demandOf_unrepeated demanded)) none

def fixtureCoverage (c : FixtureModule) (scope : AuthorityScope) : CoreCoverage :=
  let reviewed := c.instruments.filter fun i => scope.representations.members.contains i.instrument
  let venues := (reviewed.flatMap fun i => i.venues.filter scope.venues.members.contains) ++
    (c.pools.filter fun p => scope.venues.members.contains p.router && scope.venues.members.contains p.pool).map (·.pool)
  { markets := reviewed.map fun i => marketOf c i.instrument
    venues := (venues.dedup.insertionSort fun a b => a.1 ≤ b.1).map fun v => ⟨c.domain.1, .venue, v.1⟩
    recipients := (c.recipients.filter scope.recipients.members.contains).map fun r =>
      ⟨c.domain.1, .recipient, r.1⟩ }

def fixturePayload (child : ChildAuthorizationDigest) (f : FixtureFacts) : Writer :=
  writeStr "mandate-portfolio/fixture-action" ++ writeU16 1 ++ writeDigest child ++ writeStr f.instrument.1 ++
  writeStr f.venue.1 ++ writeList writeIdentifier f.route ++ writeStr f.recipient.1 ++ writeU256 f.amount.1

/-- The venue and each hop once, in the order they come, and the recipient. -/
def coreResources (c : FixtureModule) (f : FixtureFacts) : List ResourceIdInput :=
  ((f.venue :: f.route).reverse.dedup.reverse.map fun v => ⟨c.domain.1, .venue, v.1⟩) ++
    [⟨c.domain.1, .recipient, f.recipient.1⟩]

def fixtureCoreAction (c : FixtureModule) (candidate : ActionCandidate) (child : ChildAuthorizationDigest) :
    Option (Option CoreAction) :=
  match fixtureFacts c candidate with
  | none => some none
  | some f =>
    if c.instrumentFor f.instrument = none then some none
    else (fixturePayload child f).map fun payload =>
      some ⟨c.actionType.1, marketOf c f.instrument, coreResources c f, payload⟩

def createFixtureBinding (c : FixtureModule) : Binding where
  kind := c.kind
  resolve := fixtureResolve c
  domain := c.domain
  module := c.ref
  adapter := c.adapter
  actionTypes := [c.actionType.1]
  coverage scope := some (fixtureCoverage c scope)
  delegationTerms _ := some []
  coreAction := fixtureCoreAction c

end Mandate.Portfolio
