import Mandate.Registry.Claims
import Mandate.Registry.Identity

/-! Registry state: assets and representations as their sources describe them, in a snapshot that
is opened only where no identity is recorded twice. Nothing in it says a representation is
admissible. -/
namespace Mandate.Registry
open Core

def MAX_SNAPSHOT_ENTRIES : Nat := 65535

abbrev Entries (α : Type) := {entries : List α // entries.length ≤ MAX_SNAPSHOT_ENTRIES}

def tickerText (text : List Char) : Bool :=
  text.head?.any (fun c => c.isUpper || c.isDigit) &&
  (text.drop 1).all (fun c => c.isUpper || c.isDigit || c == '.' || c == '-') && text.length ≤ 12

abbrev Ticker := {text : String // tickerText text.toList = true}

def displayText (text : List Char) : Bool :=
  text.all (fun c => ' ' ≤ c && c ≤ '~') && text.head?.any (· ≠ ' ') && text.getLast?.any (· ≠ ' ') &&
  text.length ≤ 128

abbrev DisplayText := {text : String // displayText text.toList = true}

abbrev Mic := {text : String // text.length = 4 ∧ text.toList.all (fun c => c.isUpper || c.isDigit) = true}

inductive AliasKind | name | symbol | legacyTicker | exchangeQualified

structure MarketListing where
  mic : Mic
  ticker : Ticker

structure AssetAlias where
  kind : AliasKind
  value : DisplayText

/-- What the asset is, whether it still trades, and the display data nothing decides on. -/
structure CanonicalAssetRecord where
  identity : ValidatedCanonicalAssetId
  status : AssetStatus
  primaryName : DisplayText
  displayTicker : Option Ticker
  primaryMarketIdentifier : Option Mic
  listings : Entries MarketListing
  aliases : Entries AssetAlias

structure RepresentationRecord where
  representationId : RepresentationId
  tokenSymbol : Option Ticker
  tokenName : Option DisplayText
  underlying : ClaimSet ValidatedCanonicalAssetId
  issuer : ClaimSet Identifier
  instrumentType : ClaimSet InstrumentType
  backing : ClaimSet BackingModel
  redemption : ClaimSet RedemptionModel
  rights : RightKind → Option (ClaimSet RightState)
  corporateActionHandling : ClaimSet CorporateActionModel
  settlement : ClaimSet SettlementModel
  operationalStatus : ClaimSet RepresentationOperationalStatus
  eligibility : ClaimSet EligibilityProfile

inductive DataClass | syntheticFixture | observed

structure SourceVersion where
  sourceId : Identifier
  version : Identifier

structure RegistrySnapshot where
  snapshotId : Identifier
  createdAt : UnixSeconds
  dataClass : DataClass
  sourceVersions : Entries SourceVersion
  assets : Entries CanonicalAssetRecord
  representations : Entries RepresentationRecord

def RegistrySnapshot.assetKeys (s : RegistrySnapshot) : List String :=
  s.assets.1.map fun a => canonicalAssetKey a.identity

def RegistrySnapshot.recordKeys (s : RegistrySnapshot) : List Identifier :=
  s.representations.1.map (·.representationId.value)

set_option linter.dupNamespace false in
/-- An opened snapshot: each asset and each representation recorded once. -/
structure Registry where
  snapshot : RegistrySnapshot
  assetsApart : snapshot.assetKeys.Nodup
  recordsApart : snapshot.recordKeys.Nodup

def getAsset (registry : Registry) (id : ValidatedCanonicalAssetId) : Option CanonicalAssetRecord :=
  registry.snapshot.assets.1.find? fun a => canonicalAssetKey a.identity == canonicalAssetKey id

def byRepresentationId (registry : Registry) (id : Identifier) : Option RepresentationRecord :=
  registry.snapshot.representations.1.find? fun r => r.representationId.value == id

def getRepresentation [Keccak] (registry : Registry) (id : RepresentationIdInput) : Option RepresentationRecord :=
  match parseRepresentationId id with
  | .error _ => none
  | .ok id => byRepresentationId registry id.value

theorem byRepresentationId_some {registry : Registry} {id : Identifier} {record : RepresentationRecord}
    (found : byRepresentationId registry id = some record) :
    record ∈ registry.snapshot.representations.1 ∧ record.representationId.value = id := by
  unfold byRepresentationId at found
  have named := List.find?_some found
  exact ⟨List.mem_of_find?_eq_some found, eq_of_beq named⟩

end Mandate.Registry
