import Mandate.Registry.Record

/-! What a representation is evaluated against: the signed mandate's constraints, and the
institutional policy layered on them. `none` on a list does not constrain; an empty list permits
nothing. -/
namespace Mandate.Registry
open Core
open Kernel (CanonicalMandate SyntheticPolicy)

structure RequiredRight where
  kind : RightKind
  acceptable : List RightState
deriving DecidableEq

structure RepresentationRequirements where
  canonicalAsset : ValidatedCanonicalAssetId
  allowedIssuers : List Identifier
  allowedChains : List Identifier
  syntheticPolicy : SyntheticPolicy
  allowedInstrumentTypes : Option (List InstrumentType)
  allowedBackingModels : Option (List BackingModel)
  allowedRedemptionModels : Option (List RedemptionModel)
  requiredRights : List RequiredRight
  allowedCorporateActionModels : Option (List CorporateActionModel)
  allowedSettlementModels : Option (List SettlementModel)
  holderJurisdiction : Option Jurisdiction
  minimumTrust : TrustClass
  maxClaimAge : Option Int
  now : UnixSeconds
deriving DecidableEq

/-- Not authority: when the evaluation is, and how old and how trusted metadata must be. -/
structure EvaluationContext where
  now : UnixSeconds
  maxClaimAge : Option Int
  minimumTrust : Option TrustClass

def deriveRequirements (mandate : CanonicalMandate) (context : EvaluationContext) :
    RegistryResult RepresentationRequirements := do
  let canonicalAsset ← validateCanonicalAssetId mandate.canonicalAsset
  let minimumTrust := context.minimumTrust.getD EXECUTION_TRUST_FLOOR
  if meetsTrustFloor (some minimumTrust) EXECUTION_TRUST_FLOOR = false then .error .trustRequirementNotMet
  else if context.maxClaimAge.any (· < 0) then .error .snapshotMalformed
  else .ok {
    canonicalAsset
    allowedIssuers := mandate.allowedIssuers.members
    allowedChains := mandate.allowedChains.members
    syntheticPolicy := mandate.syntheticPolicy
    allowedInstrumentTypes := none
    allowedBackingModels := none
    allowedRedemptionModels := none
    requiredRights := []
    allowedCorporateActionModels := none
    allowedSettlementModels := none
    holderJurisdiction := none
    minimumTrust
    maxClaimAge := context.maxClaimAge
    now := context.now }

structure AdditionalRequirements where
  allowedIssuers : Option (List String)
  allowedChains : Option (List String)
  forbidSynthetic : Bool
  allowedInstrumentTypes : Option (List InstrumentType)
  allowedBackingModels : Option (List BackingModel)
  allowedRedemptionModels : Option (List RedemptionModel)
  requiredRights : List RequiredRight
  allowedCorporateActionModels : Option (List CorporateActionModel)
  allowedSettlementModels : Option (List SettlementModel)
  holderJurisdiction : Option String
  minimumTrust : Option TrustClass
  maxClaimAge : Option Int

def intersectOrAdopt {α : Type} [DecidableEq α] (base extra : Option (List α)) : Option (List α) :=
  match extra, base with
  | none, base => base
  | some extra, none => some extra
  | some extra, some base => some (base.filter extra.contains)

/-- An allowlist kept to the identifiers named; one that does not parse refuses the policy. -/
def narrowIdentifiers (base : List Identifier) : Option (List String) → RegistryResult (List Identifier)
  | none => .ok base
  | some raw =>
    match raw.mapM fun id => (Kernel.parseIdentifier id).toOption with
    | none => .error .snapshotMalformed
    | some parsed => .ok (base.filter parsed.contains)

def parseJurisdiction (raw : String) : RegistryResult Jurisdiction :=
  if valid : raw.length = 2 ∧ raw.toList.all Char.isUpper then .ok ⟨raw, valid⟩ else .error .snapshotMalformed

def narrowTrust (base : TrustClass) : Option TrustClass → RegistryResult TrustClass
  | none => .ok base
  | some floor => if meetsTrustFloor (some floor) base then .ok floor else .error .trustRequirementNotMet

def narrowAge (base : Option Int) : Option Int → RegistryResult (Option Int)
  | none => .ok base
  | some age =>
    if age < 0 then .error .snapshotMalformed
    else .ok (some (base.elim age fun bound => if age < bound then age else bound))

/-- One jurisdiction in place of another is a different question, not a narrower one. -/
def narrowHolder (base : Option Jurisdiction) : Option String → RegistryResult (Option Jurisdiction)
  | none => .ok base
  | some raw => do
    let holder ← parseJurisdiction raw
    if base.any (· ≠ holder) then .error .jurisdictionNotEligible else .ok (some holder)

/-- Both demands must hold: the first of the same kind keeps what both accept. -/
def demandRight (rights : List RequiredRight) (right : RequiredRight) : List RequiredRight :=
  match rights with
  | [] => [right]
  | first :: rest =>
    if first.kind = right.kind then
      ⟨right.kind, first.acceptable.filter right.acceptable.contains⟩ :: rest
    else first :: demandRight rest right

def rightLE (a b : RequiredRight) : Prop := a.kind.text ≤ b.kind.text

instance : DecidableRel rightLE := fun _ _ => inferInstanceAs (Decidable (_ ≤ _))

/-- Layers policy on requirements; what would replace or loosen a constraint is refused. -/
def narrowRequirements (base : RepresentationRequirements) (additional : AdditionalRequirements) :
    RegistryResult RepresentationRequirements := do
  let allowedIssuers ← narrowIdentifiers base.allowedIssuers additional.allowedIssuers
  let allowedChains ← narrowIdentifiers base.allowedChains additional.allowedChains
  let minimumTrust ← narrowTrust base.minimumTrust additional.minimumTrust
  let maxClaimAge ← narrowAge base.maxClaimAge additional.maxClaimAge
  let holderJurisdiction ← narrowHolder base.holderJurisdiction additional.holderJurisdiction
  .ok {
    canonicalAsset := base.canonicalAsset
    allowedIssuers
    allowedChains
    syntheticPolicy := if additional.forbidSynthetic then .forbidden else base.syntheticPolicy
    allowedInstrumentTypes := intersectOrAdopt base.allowedInstrumentTypes additional.allowedInstrumentTypes
    allowedBackingModels := intersectOrAdopt base.allowedBackingModels additional.allowedBackingModels
    allowedRedemptionModels := intersectOrAdopt base.allowedRedemptionModels additional.allowedRedemptionModels
    requiredRights := (additional.requiredRights.foldl demandRight base.requiredRights).insertionSort rightLE
    allowedCorporateActionModels :=
      intersectOrAdopt base.allowedCorporateActionModels additional.allowedCorporateActionModels
    allowedSettlementModels := intersectOrAdopt base.allowedSettlementModels additional.allowedSettlementModels
    holderJurisdiction
    minimumTrust
    maxClaimAge
    now := base.now }

def claimPolicyOf (requirements : RepresentationRequirements) : ClaimPolicy where
  minimumTrust := requirements.minimumTrust
  now := requirements.now
  maxClaimAge := requirements.maxClaimAge

end Mandate.Registry
