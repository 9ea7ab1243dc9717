import Mathlib.Data.List.Perm.Basic
import Mandate.Kernel.TrustedState
import Mandate.Lib.Lines

/-! The registry's vocabularies: why it refuses, what a tokenized instrument can be, and how far
a source is trusted. -/
set_option linter.dupNamespace false
namespace Mandate.Registry
open Core List

/-- The kernel's codes where one already means this, the registry's own elsewhere. -/
inductive RegistryReasonCode
  | kernel (code : Kernel.ReasonCode)
  | assetIdentifierInvalid | assetIdentifierSchemeUnsupported | assetClassUnsupported
  | snapshotMalformed | snapshotResourceLimitExceeded | representationIdMalformed | canonicalAssetUnknown
  | canonicalAssetInactive | representationMetadataConflict | trustRequirementNotMet
  | representationMetadataStale | backingRequirementNotMet | instrumentTypeNotAllowed | rightsRequirementNotMet
  | redemptionRequirementNotMet | settlementModelNotAllowed | corporateActionModelNotAllowed
  | jurisdictionNotEligible
deriving DecidableEq

abbrev RegistryResult := Except RegistryReasonCode

namespace RegistryReasonCode

def name : RegistryReasonCode → String
  | kernel code => code.name
  | assetIdentifierInvalid => "ASSET_IDENTIFIER_INVALID"
  | assetIdentifierSchemeUnsupported => "ASSET_IDENTIFIER_SCHEME_UNSUPPORTED"
  | assetClassUnsupported => "ASSET_CLASS_UNSUPPORTED"
  | snapshotMalformed => "SNAPSHOT_MALFORMED"
  | snapshotResourceLimitExceeded => "SNAPSHOT_RESOURCE_LIMIT_EXCEEDED"
  | representationIdMalformed => "REPRESENTATION_ID_MALFORMED"
  | canonicalAssetUnknown => "CANONICAL_ASSET_UNKNOWN"
  | canonicalAssetInactive => "CANONICAL_ASSET_INACTIVE"
  | representationMetadataConflict => "REPRESENTATION_METADATA_CONFLICT"
  | trustRequirementNotMet => "TRUST_REQUIREMENT_NOT_MET"
  | representationMetadataStale => "REPRESENTATION_METADATA_STALE"
  | backingRequirementNotMet => "BACKING_REQUIREMENT_NOT_MET"
  | instrumentTypeNotAllowed => "INSTRUMENT_TYPE_NOT_ALLOWED"
  | rightsRequirementNotMet => "RIGHTS_REQUIREMENT_NOT_MET"
  | redemptionRequirementNotMet => "REDEMPTION_REQUIREMENT_NOT_MET"
  | settlementModelNotAllowed => "SETTLEMENT_MODEL_NOT_ALLOWED"
  | corporateActionModelNotAllowed => "CORPORATE_ACTION_MODEL_NOT_ALLOWED"
  | jurisdictionNotEligible => "JURISDICTION_NOT_ELIGIBLE"

def id : RegistryReasonCode → String
  | kernel code => code.id
  | assetIdentifierInvalid => "MND-REF-004"
  | assetIdentifierSchemeUnsupported => "MND-REF-005"
  | assetClassUnsupported => "MND-REF-006"
  | snapshotMalformed => "MND-REG-001"
  | snapshotResourceLimitExceeded => "MND-REG-015"
  | representationIdMalformed => "MND-REG-002"
  | canonicalAssetUnknown => "MND-REG-003"
  | canonicalAssetInactive => "MND-REG-004"
  | representationMetadataConflict => "MND-REG-005"
  | trustRequirementNotMet => "MND-REG-006"
  | representationMetadataStale => "MND-REG-007"
  | backingRequirementNotMet => "MND-REG-008"
  | instrumentTypeNotAllowed => "MND-REG-009"
  | rightsRequirementNotMet => "MND-REG-010"
  | redemptionRequirementNotMet => "MND-REG-011"
  | settlementModelNotAllowed => "MND-REG-012"
  | corporateActionModelNotAllowed => "MND-REG-013"
  | jurisdictionNotEligible => "MND-REG-014"

end RegistryReasonCode

inductive InstrumentType | backedNote | depositaryReceipt | fundShare | syntheticExposure | debtInstrument
deriving DecidableEq

def InstrumentType.text : InstrumentType → String
  | .backedNote => "BACKED_NOTE" | .depositaryReceipt => "DEPOSITARY_RECEIPT"
  | .fundShare => "FUND_SHARE" | .syntheticExposure => "SYNTHETIC_EXPOSURE"
  | .debtInstrument => "DEBT_INSTRUMENT"

theorem InstrumentType.text_injective : Function.Injective InstrumentType.text := fun a b same => by
  cases a <;> cases b <;> first | rfl | exact absurd same (by decide)

inductive BackingModel | fullyBacked | partiallyBacked | collateralized | debtLinked | synthetic | unbacked
deriving DecidableEq

def BackingModel.text : BackingModel → String
  | .fullyBacked => "FULLY_BACKED" | .partiallyBacked => "PARTIALLY_BACKED"
  | .collateralized => "COLLATERALIZED" | .debtLinked => "DEBT_LINKED" | .synthetic => "SYNTHETIC"
  | .unbacked => "UNBACKED"

theorem BackingModel.text_injective : Function.Injective BackingModel.text := fun a b same => by
  cases a <;> cases b <;> first | rfl | exact absurd same (by decide)

/-- Synthetic status is derived from the backing model, never claimed beside it. -/
def isSyntheticBacking (backing : BackingModel) : Bool :=
  backing = .synthetic ∨ backing = .unbacked

inductive RedemptionModel | none | qualifiedHoldersOnly | openRedemption | issuerDiscretion
deriving DecidableEq

def RedemptionModel.text : RedemptionModel → String
  | .none => "NONE" | .qualifiedHoldersOnly => "QUALIFIED_HOLDERS_ONLY"
  | .openRedemption => "OPEN_REDEMPTION" | .issuerDiscretion => "ISSUER_DISCRETION"

theorem RedemptionModel.text_injective : Function.Injective RedemptionModel.text := fun a b same => by
  cases a <;> cases b <;> first | rfl | exact absurd same (by decide)

inductive RightKind
  | economicExposure | dividendTreatment | votingRights | redemptionRights | beneficialOwnership
  | transferability
deriving DecidableEq

def RightKind.text : RightKind → String
  | .economicExposure => "ECONOMIC_EXPOSURE" | .dividendTreatment => "DIVIDEND_TREATMENT"
  | .votingRights => "VOTING_RIGHTS" | .redemptionRights => "REDEMPTION_RIGHTS"
  | .beneficialOwnership => "BENEFICIAL_OWNERSHIP" | .transferability => "TRANSFERABILITY"

inductive RightState | present | priceAdjusted | restricted | absent
deriving DecidableEq

def RightState.text : RightState → String
  | .present => "PRESENT" | .priceAdjusted => "PRICE_ADJUSTED" | .restricted => "RESTRICTED"
  | .absent => "ABSENT"

theorem RightState.text_injective : Function.Injective RightState.text := fun a b same => by
  cases a <;> cases b <;> first | rfl | exact absurd same (by decide)

inductive CorporateActionModel
  | supplyRebase | onChainMultiplier | issuerAccountingAdjustment | cashDistribution | notApplied
deriving DecidableEq

def CorporateActionModel.text : CorporateActionModel → String
  | .supplyRebase => "SUPPLY_REBASE" | .onChainMultiplier => "ON_CHAIN_MULTIPLIER"
  | .issuerAccountingAdjustment => "ISSUER_ACCOUNTING_ADJUSTMENT"
  | .cashDistribution => "CASH_DISTRIBUTION" | .notApplied => "NOT_APPLIED"

theorem CorporateActionModel.text_injective : Function.Injective CorporateActionModel.text := fun a b same => by
  cases a <;> cases b <;> first | rfl | exact absurd same (by decide)

inductive SettlementModel | atomicOnChain | deferred | issuerConfirmed
deriving DecidableEq

def SettlementModel.text : SettlementModel → String
  | .atomicOnChain => "ATOMIC_ON_CHAIN" | .deferred => "DEFERRED" | .issuerConfirmed => "ISSUER_CONFIRMED"

theorem SettlementModel.text_injective : Function.Injective SettlementModel.text := fun a b same => by
  cases a <;> cases b <;> first | rfl | exact absurd same (by decide)

inductive RepresentationOperationalStatus | active | paused | transition | deprecated
deriving DecidableEq

def RepresentationOperationalStatus.text : RepresentationOperationalStatus → String
  | .active => "ACTIVE" | .paused => "PAUSED" | .transition => "TRANSITION" | .deprecated => "DEPRECATED"

theorem RepresentationOperationalStatus.text_injective : Function.Injective RepresentationOperationalStatus.text := fun a b same => by
  cases a <;> cases b <;> first | rfl | exact absurd same (by decide)

inductive AssetStatus | active | delisted | superseded | unknown
deriving DecidableEq

def AssetStatus.text : AssetStatus → String
  | .active => "ACTIVE" | .delisted => "DELISTED" | .superseded => "SUPERSEDED" | .unknown => "UNKNOWN"

abbrev Jurisdiction := {text : String // text.length = 2 ∧ text.toList.all Char.isUpper}

/-- Where a representation may be held; an undeclared jurisdiction is not permitted. -/
structure EligibilityProfile where
  permitted : List Jurisdiction
  prohibited : List Jurisdiction

def sortedTexts (texts : List String) : List String := texts.insertionSort (· ≤ ·)

/-- Sorted, so that two sources listing the same jurisdictions agree. -/
def eligibilityKey (profile : EligibilityProfile) : String :=
  "P:" ++ ",".intercalate (sortedTexts (profile.permitted.map (·.1))) ++
  "|X:" ++ ",".intercalate (sortedTexts (profile.prohibited.map (·.1)))

theorem jurisdictions_solid {listed : List Jurisdiction} :
    ∀ s ∈ sortedTexts (listed.map (·.1)), s.toList ≠ [] ∧ ',' ∉ s.toList ∧ '|' ∉ s.toList := by
  intro s member
  obtain ⟨j, -, rfl⟩ := mem_map.mp ((perm_insertionSort _ _).mem_iff.mp member)
  obtain ⟨width, upper⟩ := j.2
  have letters := all_eq_true.mp upper
  refine ⟨?_, fun comma => absurd (letters _ comma) (by decide), fun bar => absurd (letters _ bar) (by decide)⟩
  intro empty
  rw [← String.length_toList, empty] at width
  cases width

theorem mem_intercalate {α : Type} {x c : α} {ls : List (List α)}
    (member : c ∈ [x].intercalate ls) : c = x ∨ ∃ l ∈ ls, c ∈ l := by
  induction ls with
  | nil => simp at member
  | cons l ls ih =>
    match ls with
    | [] =>
      rw [intercalate_singleton] at member
      exact .inr ⟨l, mem_cons_self .., member⟩
    | m :: ls =>
      rw [intercalate_cons_cons, List.append_assoc, mem_append, singleton_append, mem_cons] at member
      rcases member with first | rfl | later
      · exact .inr ⟨l, mem_cons_self .., first⟩
      · exact .inl rfl
      · rcases ih later with rfl | ⟨k, listed, inside⟩
        · exact .inl rfl
        · exact .inr ⟨k, mem_cons_of_mem _ listed, inside⟩

theorem unbarred (listed : List Jurisdiction) :
    '|' ∉ (",".intercalate (sortedTexts (listed.map (·.1)))).toList := by
  rw [String.toList_intercalate]
  intro bar
  rcases mem_intercalate bar with same | ⟨word, among, inside⟩
  · cases same
  · obtain ⟨s, member, rfl⟩ := mem_map.mp among
    exact (jurisdictions_solid s member).2.2 inside

private theorem sorted_perm {p q : List Jurisdiction}
    (same : ",".intercalate (sortedTexts (p.map (·.1))) = ",".intercalate (sortedTexts (q.map (·.1)))) : p.Perm q := by
  have texts := Lib.Lines.joined_inj (c := ',') (fun s member => ⟨(jurisdictions_solid s member).1, (jurisdictions_solid s member).2.1⟩)
    (fun s member => ⟨(jurisdictions_solid s member).1, (jurisdictions_solid s member).2.1⟩) same
  have sorted : ∀ texts : List String, (sortedTexts texts).Perm texts := fun texts => perm_insertionSort _ _
  exact (map_perm_map_iff Subtype.val_injective).mp ((sorted _).symm.trans (texts ▸ sorted _))

variable {p q : EligibilityProfile}

theorem eligibilityKey_perm (same : eligibilityKey p = eligibilityKey q) :
    p.permitted.Perm q.permitted ∧ p.prohibited.Perm q.prohibited := by
  have letters := congrArg String.toList same
  simp only [eligibilityKey, String.toList_append] at letters
  have split : ∀ r : EligibilityProfile, (((",".intercalate (sortedTexts (r.permitted.map (·.1)))).toList ++
      '|' :: 'X' :: ':' :: (",".intercalate (sortedTexts (r.prohibited.map (·.1)))).toList).splitOn '|') =
      [(",".intercalate (sortedTexts (r.permitted.map (·.1)))).toList,
        'X' :: ':' :: (",".intercalate (sortedTexts (r.prohibited.map (·.1)))).toList] := by
    intro r
    rw [splitOn_append_cons_self_of_not_mem (unbarred r.permitted),
      splitOn_eq_singleton (by simpa using unbarred r.prohibited)]
  have parts := split p
  have whole : (",".intercalate (sortedTexts (p.permitted.map (·.1)))).toList ++
      '|' :: 'X' :: ':' :: (",".intercalate (sortedTexts (p.prohibited.map (·.1)))).toList =
      (",".intercalate (sortedTexts (q.permitted.map (·.1)))).toList ++
      '|' :: 'X' :: ':' :: (",".intercalate (sortedTexts (q.prohibited.map (·.1)))).toList := by
    simpa using letters
  rw [whole, split q] at parts
  simp only [List.cons.injEq, true_and, and_true] at parts
  exact ⟨sorted_perm (String.toList_inj.mp parts.1.symm), sorted_perm (String.toList_inj.mp parts.2.symm)⟩

theorem eligibilityKey_members (same : eligibilityKey p = eligibilityKey q)
    (j : Jurisdiction) : (j ∈ p.permitted ↔ j ∈ q.permitted) ∧ (j ∈ p.prohibited ↔ j ∈ q.prohibited) :=
  ⟨(eligibilityKey_perm same).1.mem_iff, (eligibilityKey_perm same).2.mem_iff⟩

/-- Only a floor's test, never a precedence between sources that disagree. -/
def TRUST_RANK : TrustClass → Nat
  | .untrusted => 0 | .advisory => 1 | .verified => 2 | .authoritative => 3

/-- A name only an object's prototype carries is in the enumeration and ranks with nothing. -/
def meetsTrustFloor (actual : Option TrustClass) (floor : TrustClass) : Bool :=
  actual.any fun a => TRUST_RANK floor ≤ TRUST_RANK a

/-- The floor for anything that gates an execution, as the kernel's. -/
def EXECUTION_TRUST_FLOOR : TrustClass := .verified

theorem meetsTrustFloor_trans {actual : Option TrustClass} {floor higher : TrustClass}
    (meets : meetsTrustFloor actual higher = true) (above : meetsTrustFloor (some higher) floor = true) :
    meetsTrustFloor actual floor = true := by
  cases actual with
  | none => exact meets
  | some actual =>
    simp only [meetsTrustFloor, Option.any_some, decide_eq_true_eq] at meets above ⊢
    exact above.trans meets

end Mandate.Registry
