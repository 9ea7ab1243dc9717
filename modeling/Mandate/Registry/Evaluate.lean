import Mandate.Registry.Requirements

/-! Admissibility: a function of requirements and registry state, never stored. Every property the
requirements constrain must be established and satisfy them; every failure is collected. -/
set_option linter.dupNamespace false
namespace Mandate.Registry
open Core

structure RepresentationExclusion where
  code : RegistryReasonCode
  detail : List (String × String)

inductive RepresentationDecision
  | admissible (id : RepresentationId)
  | excluded (id : Option RepresentationId) (reasonCodes : List RegistryReasonCode)
      (exclusions : List RepresentationExclusion)

/-- Missing data, the wrong kind of source and old data need different remedies. -/
def unknownCode : UnknownReason → RegistryReasonCode
  | .noClaims => .kernel .representationMetadataUnknown
  | .belowTrustFloor => .trustRequirementNotMet
  | .stale => .representationMetadataStale

def conflictValues (keys : List String) : String := ",".intercalate (sortedTexts keys.dedup)

def establish {α : Type} (claims : List (Claim α)) (requirements : RepresentationRequirements)
    (keyOf : α → String) (property : String) (judge : α → List RepresentationExclusion) :
    List RepresentationExclusion :=
  match resolveClaimSet claims (claimPolicyOf requirements) keyOf with
  | .established value _ => judge value
  | .conflict shown => [⟨.representationMetadataConflict,
      [("property", property), ("values", conflictValues (shown.map fun c => keyOf c.value))]⟩]
  | .unknown reason => [⟨unknownCode reason, [("property", property)]⟩]

def unlessExcluded (holds : Prop) [Decidable holds] (code : RegistryReasonCode)
    (detail : List (String × String)) : List RepresentationExclusion := if holds then [] else [⟨code, detail⟩]

def establishAllowed {α : Type} [DecidableEq α] (claims : List (Claim α)) (requirements : RepresentationRequirements)
    (keyOf : α → String) (property : String) (allowed : Option (List α)) (code : RegistryReasonCode) :
    List RepresentationExclusion :=
  match allowed with
  | none => []
  | some allowed => establish claims requirements keyOf property fun value =>
      unlessExcluded (value ∈ allowed) code [("observed", keyOf value)]

section Checks
variable (registry : Registry) (requirements : RepresentationRequirements) (record : RepresentationRecord)

def underlyingExclusions : List RepresentationExclusion :=
  establish record.underlying.1 requirements canonicalAssetKey "underlying" fun underlying =>
    if canonicalAssetKey underlying ≠ canonicalAssetKey requirements.canonicalAsset then
      [⟨.kernel .representationAssetMismatch, [("expected", requirements.canonicalAsset.1.value.1),
        ("observed", underlying.1.value.1)]⟩]
    else match getAsset registry requirements.canonicalAsset with
    | none => [⟨.canonicalAssetUnknown, [("canonicalAsset", requirements.canonicalAsset.1.value.1)]⟩]
    | some asset => unlessExcluded (asset.status = .active) .canonicalAssetInactive
        [("observed", asset.status.text)]

def issuerExclusions : List RepresentationExclusion :=
  establish record.issuer.1 requirements (·.1) "issuer" fun issuer =>
    unlessExcluded (issuer ∈ requirements.allowedIssuers) (.kernel .issuerNotAllowed) [("observed", issuer.1)]

def chainExclusions (id : RepresentationId) : List RepresentationExclusion :=
  unlessExcluded (id.chain ∈ requirements.allowedChains) (.kernel .chainNotAllowed) [("observed", id.chain.1)]

/-- Established whatever is required: the kernel reads synthetic status on every representation. -/
def backingExclusions : List RepresentationExclusion :=
  establish record.backing.1 requirements BackingModel.text "backing" fun backing =>
    unlessExcluded (¬(isSyntheticBacking backing = true ∧ requirements.syntheticPolicy = .forbidden))
      (.kernel .syntheticNotAllowed) [("observed", backing.text)] ++
    unlessExcluded (∀ allowed ∈ requirements.allowedBackingModels, backing ∈ allowed)
      .backingRequirementNotMet [("observed", backing.text)]

def operationalExclusions : List RepresentationExclusion :=
  establish record.operationalStatus.1 requirements RepresentationOperationalStatus.text "operationalStatus"
    fun operational => unlessExcluded (operational = .active) (.kernel .representationInactive)
      [("observed", operational.text)]

def rightClaims (kind : RightKind) : List (Claim RightState) := (record.rights kind).elim [] (·.1)

def rightExclusions (required : RequiredRight) : List RepresentationExclusion :=
  establish (rightClaims record required.kind) requirements RightState.text ("rights." ++ required.kind.text)
    fun state => unlessExcluded (state ∈ required.acceptable) .rightsRequirementNotMet
      [("right", required.kind.text), ("observed", state.text)]

def eligibilityExclusions : List RepresentationExclusion :=
  match requirements.holderJurisdiction with
  | none => []
  | some holder => establish record.eligibility.1 requirements eligibilityKey "eligibility" fun profile =>
    if holder ∈ profile.prohibited then
      [⟨.jurisdictionNotEligible, [("holder", holder.1), ("reason", "prohibited")]⟩]
    else unlessExcluded (holder ∈ profile.permitted) .jurisdictionNotEligible
      [("holder", holder.1), ("reason", "not-permitted")]

def recordExclusions (id : RepresentationId) : List RepresentationExclusion :=
  underlyingExclusions registry requirements record ++ issuerExclusions requirements record ++
  chainExclusions requirements id ++ backingExclusions requirements record ++
  operationalExclusions requirements record ++
  establishAllowed record.instrumentType.1 requirements InstrumentType.text "instrumentType"
    requirements.allowedInstrumentTypes .instrumentTypeNotAllowed ++
  establishAllowed record.redemption.1 requirements RedemptionModel.text "redemption"
    requirements.allowedRedemptionModels .redemptionRequirementNotMet ++
  establishAllowed record.corporateActionHandling.1 requirements CorporateActionModel.text
    "corporateActionHandling" requirements.allowedCorporateActionModels .corporateActionModelNotAllowed ++
  establishAllowed record.settlement.1 requirements SettlementModel.text "settlement"
    requirements.allowedSettlementModels .settlementModelNotAllowed ++
  requirements.requiredRights.flatMap (rightExclusions requirements record) ++
  eligibilityExclusions requirements record

end Checks

def sortedDetail (detail : List (String × String)) : List (String × String) :=
  detail.insertionSort fun a b => a.1 ≤ b.1

def exclusionKey (e : RepresentationExclusion) : String :=
  e.code.id ++ "\x00" ++ "\x00".intercalate ((sortedDetail e.detail).map fun entry => entry.1 ++ "=" ++ entry.2)

def canonicalize (exclusions : List RepresentationExclusion) : List RepresentationExclusion :=
  let firsts := exclusions.foldl (fun seen e =>
    if seen.any fun other => exclusionKey other == exclusionKey e then seen else seen ++ [e]) []
  firsts.insertionSort fun a b => exclusionKey a ≤ exclusionKey b

def evaluateRecord (registry : Registry) (requirements : RepresentationRequirements)
    (record : RepresentationRecord) (id : RepresentationId) : RepresentationDecision :=
  let found := recordExclusions registry requirements record id
  if found = [] then .admissible id
  else
    let canonical := canonicalize found
    .excluded (some id) ((canonical.map (·.code)).eraseDups) canonical

section Established
variable {α : Type} {claims : List (Claim α)} {requirements : RepresentationRequirements}
  {keyOf : α → String} {property : String} {judge : α → List RepresentationExclusion}

theorem establish_eq_nil : establish claims requirements keyOf property judge = [] ↔
    ∃ value provenance, resolveClaimSet claims (claimPolicyOf requirements) keyOf = .established value provenance ∧
      judge value = [] := by
  unfold establish
  cases resolveClaimSet claims (claimPolicyOf requirements) keyOf with
  | established value provenance => simp
  | unknown reason => simp
  | conflict shown => simp

end Established

@[simp] theorem unlessExcluded_eq_nil {holds : Prop} [Decidable holds] {code : RegistryReasonCode}
    {detail : List (String × String)} : unlessExcluded holds code detail = [] ↔ holds := by
  unfold unlessExcluded
  split <;> simp_all

variable [Keccak]

/-- By identifier only: a contract nobody registered is never admissible. -/
def evaluateRepresentation (registry : Registry) (requirements : RepresentationRequirements)
    (input : RepresentationIdInput) : RepresentationDecision :=
  match parseRepresentationId input with
  | .error code => .excluded none [code] [⟨code, []⟩]
  | .ok id =>
    match byRepresentationId registry id.value with
    | none => .excluded (some id) [.kernel .representationUnknown]
        [⟨.kernel .representationUnknown, [("representationId", id.value.1)]⟩]
    | some record => evaluateRecord registry requirements record id

def Admits (registry : Registry) (requirements : RepresentationRequirements) (input : RepresentationIdInput) :
    Prop := ∃ id, evaluateRepresentation registry requirements input = .admissible id

instance (registry : Registry) (requirements : RepresentationRequirements) (input : RepresentationIdInput) :
    Decidable (Admits registry requirements input) :=
  match decided : evaluateRepresentation registry requirements input with
  | .admissible id => .isTrue ⟨id, decided⟩
  | .excluded .. => .isFalse fun ⟨_, admitted⟩ => by
      rw [decided] at admitted
      cases admitted

theorem admits_iff {registry : Registry} {requirements : RepresentationRequirements}
    {input : RepresentationIdInput} : Admits registry requirements input ↔
      ∃ id record, parseRepresentationId input = .ok id ∧ byRepresentationId registry id.value = some record ∧
        recordExclusions registry requirements record id = [] := by
  unfold Admits evaluateRepresentation
  constructor
  · rintro ⟨admitted, decided⟩
    split at decided
    · cases decided
    · rename_i id parsed
      split at decided
      · cases decided
      · rename_i record found
        refine ⟨id, record, parsed, found, ?_⟩
        by_contra failed
        rw [evaluateRecord, if_neg failed] at decided
        cases decided
  · rintro ⟨id, record, parsed, found, clean⟩
    exact ⟨id, by simp only [parsed, found, evaluateRecord, clean, if_true]⟩

end Mandate.Registry
