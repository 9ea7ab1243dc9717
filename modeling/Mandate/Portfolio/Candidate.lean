import Mandate.Kernel.Codec
import Mandate.Portfolio.Reasons
import Mathlib.Data.Fintype.Card

/-! Authority scopes: which domains, actions, chains, venues, assets, representations, issuers
and recipients an authority covers, and its per-action bounds. Closed world: an empty set or
an absent bound permits nothing that needs it. -/
set_option linter.dupNamespace false
namespace Mandate.Portfolio
open Core Lib.Wire
open Kernel (CanonicalAssetId writeAsset)

def MAX_SCOPE_MEMBERS : Nat := 64

inductive ActionKind | stockBuy | swapExactIn | nftBuy | yieldDeposit | perpOpen
deriving DecidableEq

def ActionKind.text : ActionKind → String
  | .stockBuy => "STOCK_BUY" | .swapExactIn => "SWAP_EXACT_IN" | .nftBuy => "NFT_BUY"
  | .yieldDeposit => "YIELD_DEPOSIT" | .perpOpen => "PERP_OPEN"

def ACTION_KIND_CODE : WireCodes ActionKind where
  keys := [.stockBuy, .swapExactIn, .nftBuy, .yieldDeposit, .perpOpen]
  code
    | .stockBuy => 1 | .swapExactIn => 2 | .nftBuy => 3 | .yieldDeposit => 4 | .perpOpen => 5
  width key := by cases key <;> decide
  unique key := by cases key <;> rfl

inductive SyntheticPolicy | forbidden | allowed
deriving DecidableEq

def SYNTHETIC_CODE : WireCodes SyntheticPolicy where
  keys := [.forbidden, .allowed]
  code
    | .forbidden => 1 | .allowed => 2
  width key := by cases key <;> decide
  unique key := by cases key <;> rfl

inductive RightKind
  | economicExposure | dividendTreatment | votingRights | redemptionRights | beneficialOwnership
  | transferability
deriving DecidableEq

instance : Fintype RightKind where
  elems := {.economicExposure, .dividendTreatment, .votingRights, .redemptionRights,
    .beneficialOwnership, .transferability}
  complete kind := by cases kind <;> decide

def RightKind.text : RightKind → String
  | .economicExposure => "ECONOMIC_EXPOSURE" | .dividendTreatment => "DIVIDEND_TREATMENT"
  | .votingRights => "VOTING_RIGHTS" | .redemptionRights => "REDEMPTION_RIGHTS"
  | .beneficialOwnership => "BENEFICIAL_OWNERSHIP" | .transferability => "TRANSFERABILITY"

def RIGHT_CODE : WireCodes RightKind where
  keys := [.economicExposure, .dividendTreatment, .votingRights, .redemptionRights,
    .beneficialOwnership, .transferability]
  code
    | .economicExposure => 1 | .dividendTreatment => 2 | .votingRights => 3
    | .redemptionRights => 4 | .beneficialOwnership => 5 | .transferability => 6
  width key := by cases key <;> decide
  unique key := by cases key <;> rfl

def writeIdentifier (id : Identifier) : Writer := writeStr id.1

abbrev IdentifierSet := CanonicalSet writeIdentifier MAX_SCOPE_MEMBERS
abbrev ActionSet := CanonicalSet (writeCode ACTION_KIND_CODE) MAX_SCOPE_MEMBERS
abbrev AssetSet := CanonicalSet writeAsset MAX_SCOPE_MEMBERS
abbrev RightSet := CanonicalSet (writeCode RIGHT_CODE) MAX_SCOPE_MEMBERS
abbrev BasisPoints := SmallUint 10000

structure AuthorityScope where
  domains : IdentifierSet
  actions : ActionSet
  chains : IdentifierSet
  venues : IdentifierSet
  assets : AssetSet
  representations : IdentifierSet
  issuers : IdentifierSet
  recipients : IdentifierSet
  syntheticPolicy : SyntheticPolicy
  requiredRights : RightSet
  maxLeverage : Option Ratio
  maxSlippageBps : Option BasisPoints
  maxQuoteAgeSeconds : Option Uint64

def writeAuthorityScope (s : AuthorityScope) : Writer :=
  writeList writeIdentifier s.domains.members ++ writeList (writeCode ACTION_KIND_CODE) s.actions.members ++
  writeList writeIdentifier s.chains.members ++ writeList writeIdentifier s.venues.members ++
  writeList writeAsset s.assets.members ++ writeList writeIdentifier s.representations.members ++
  writeList writeIdentifier s.issuers.members ++ writeList writeIdentifier s.recipients.members ++
  writeCode SYNTHETIC_CODE s.syntheticPolicy ++ writeList (writeCode RIGHT_CODE) s.requiredRights.members ++
  writeNullable writeRatio s.maxLeverage ++
  writeNullable (fun bps : BasisPoints => writeU32 bps.1) s.maxSlippageBps ++
  writeNullable (fun age : Uint64 => writeU64 age.1) s.maxQuoteAgeSeconds

/-- One text key per canonical asset, for set membership; never parsed. -/
def assetKey (a : CanonicalAssetId) : String :=
  a.assetClass.1 ++ "\x00" ++ a.idScheme.1 ++ "\x00" ++ a.value.1

inductive ScopeSet
  | domains | actions | chains | venues | assets | representations | issuers | recipients
deriving DecidableEq

def SCOPE_SETS : List ScopeSet :=
  [.domains, .actions, .chains, .venues, .assets, .representations, .issuers, .recipients]

def ScopeSet.text : ScopeSet → String
  | .domains => "domains" | .actions => "actions" | .chains => "chains" | .venues => "venues"
  | .assets => "assets" | .representations => "representations" | .issuers => "issuers"
  | .recipients => "recipients"

def setKeys (s : AuthorityScope) : ScopeSet → List String
  | .domains => s.domains.members.map (·.1)
  | .actions => s.actions.members.map ActionKind.text
  | .chains => s.chains.members.map (·.1)
  | .venues => s.venues.members.map (·.1)
  | .assets => s.assets.members.map assetKey
  | .representations => s.representations.members.map (·.1)
  | .issuers => s.issuers.members.map (·.1)
  | .recipients => s.recipients.members.map (·.1)

end Mandate.Portfolio

/-! Action candidates: the one exact action a proposal asks for. What the agent believes about
it is committed beside it and never read as identity. -/
namespace Mandate.Portfolio
open Core Lib.Wire
open Kernel (CanonicalAssetId writeAsset)

def PORTFOLIO_SCHEMA_VERSION : Nat := 1

def portfolioWriter (tag : String) : Writer := writeStr tag ++ writeU16 PORTFOLIO_SCHEMA_VERSION

def MAX_ROUTE_HOPS : Nat := 4

structure Claims where
  ticker : Option Identifier
  displayName : Option Identifier
  issuer : Option Identifier
  asset : Option CanonicalAssetId

inductive PerpSide | long | short

def PERP_SIDE_CODE : WireCodes PerpSide where
  keys := [.long, .short]
  code
    | .long => 1 | .short => 2
  width key := by cases key <;> decide
  unique key := by cases key <;> rfl

abbrev PositiveAtoms := IntegerInRange 1 UINT256_MAX
abbrev UnsignedAtoms := IntegerInRange 0 UINT256_MAX

inductive ActionCandidate
  | stockBuy (representation account : Identifier) (quantity : PositiveAtoms) (claims : Claims)
  | swapExactIn (router : Identifier) (route : List Identifier) (tokenIn tokenOut : Identifier)
      (amountIn quotedOut : PositiveAtoms) (minOut : UnsignedAtoms) (quoteObservedAt : UnixSeconds)
      (recipient : Identifier) (claims : Claims)
      (routed : 0 < route.length ∧ route.length ≤ MAX_ROUTE_HOPS) (fillable : minOut.1 ≤ quotedOut.1)
  | nftBuy (marketplace collection : Identifier) (tokenId : UnsignedAtoms) (maxPrice : PositiveAtoms)
      (recipient : Identifier) (claims : Claims)
  | yieldDeposit (product : Identifier) (amount : PositiveAtoms) (quotedApyBps : SmallUint 1000000)
      (quoteObservedAt : UnixSeconds) (recipient : Identifier) (claims : Claims)
  | perpOpen (market account : Identifier) (side : PerpSide) (size price : PositiveAtoms)
      (initialMarginFraction : BasisPoints) (claims : Claims) (margined : initialMarginFraction.1 ≠ 0)

def ActionCandidate.kind : ActionCandidate → ActionKind
  | .stockBuy .. => .stockBuy
  | .swapExactIn .. => .swapExactIn
  | .nftBuy .. => .nftBuy
  | .yieldDeposit .. => .yieldDeposit
  | .perpOpen .. => .perpOpen

def writeClaims (c : Claims) : Writer :=
  writeNullable writeIdentifier c.ticker ++ writeNullable writeIdentifier c.displayName ++
  writeNullable writeIdentifier c.issuer ++ writeNullable writeAsset c.asset

def writeActionCandidate (c : ActionCandidate) : Writer :=
  writeCode ACTION_KIND_CODE c.kind ++
  match c with
  | .stockBuy representation account quantity claims =>
    writeIdentifier representation ++ writeIdentifier account ++ writeU256 quantity.1 ++ writeClaims claims
  | .swapExactIn router route tokenIn tokenOut amountIn quotedOut minOut quoteObservedAt recipient claims _ _ =>
    writeIdentifier router ++ writeList writeIdentifier route ++ writeIdentifier tokenIn ++
    writeIdentifier tokenOut ++ writeU256 amountIn.1 ++ writeU256 quotedOut.1 ++ writeU256 minOut.1 ++
    writeI64 quoteObservedAt.1 ++ writeIdentifier recipient ++ writeClaims claims
  | .nftBuy marketplace collection tokenId maxPrice recipient claims =>
    writeIdentifier marketplace ++ writeIdentifier collection ++ writeU256 tokenId.1 ++
    writeU256 maxPrice.1 ++ writeIdentifier recipient ++ writeClaims claims
  | .yieldDeposit product amount quotedApyBps quoteObservedAt recipient claims =>
    writeIdentifier product ++ writeU256 amount.1 ++ writeU32 quotedApyBps.1 ++
    writeI64 quoteObservedAt.1 ++ writeIdentifier recipient ++ writeClaims claims
  | .perpOpen market account side size price initialMarginFraction claims _ =>
    writeIdentifier market ++ writeIdentifier account ++ writeCode PERP_SIDE_CODE side ++
    writeU256 size.1 ++ writeU256 price.1 ++ writeU16 initialMarginFraction.1 ++ writeClaims claims

abbrev CandidateDigest := Digest32

def encodeActionCandidate (c : ActionCandidate) : Bytes :=
  encodeWith (fun c => portfolioWriter "PORTFOLIO_ACTION_CANDIDATE.V1" ++ writeActionCandidate c) c

def candidateDigest [Keccak] (c : ActionCandidate) : CandidateDigest := keccakDigest (encodeActionCandidate c)

end Mandate.Portfolio
