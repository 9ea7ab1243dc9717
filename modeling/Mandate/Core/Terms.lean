import Mandate.Core.State

/-! Authority terms: seven kinds, each typed, validated and written under its own wire code. -/
namespace Mandate.Core
open Lib.Wire Lib.Text

def MAX_DELEGATION_DEPTH : Nat := 7
def MAX_LINEAGE_LENGTH : Nat := MAX_DELEGATION_DEPTH + 1
def MAX_GRANT_TERMS : Nat := 128
def MAX_POLICY_TERMS : Nat := 128
def MAX_SET_MEMBERS : Nat := 256
def MAX_INVARIANT_SCOPE : Nat := 16
def MAX_INVARIANT_PARAMS_BYTES : Nat := 1024
def MAX_ADMITTED_SOURCES : Nat := 32

def validateEach {ι α : Type} (validate : ι → String → CoreResult α) (path : String) :
    (inputs : List ι) → Nat → CoreResult {items : List α // items.length = inputs.length}
  | [], _ => .ok ⟨[], rfl⟩
  | input :: rest, index => do
    let item ← validate input (atIndex path index)
    let items ← validateEach validate path rest (index + 1)
    .ok ⟨item :: items.1, congrArg (· + 1) items.2⟩

/-- Each member at its index, then the set: sorted by encoded bytes, duplicates refused. -/
def validateMembers {ι α : Type} (write : α → Writer) (max : Nat)
    (validate : ι → String → CoreResult α) (inputs : List ι) (path : String) :
    CoreResult (CanonicalSet write max) :=
  if fits : inputs.length ≤ max then do
    let items ← validateEach validate path inputs 0
    canonicalSet write items.1 (items.2.le.trans fits) path
  else fail .collectionTooLarge path

structure ActionTypeRefInput where
  domain : String
  actionType : String

structure ActionTypeRef where
  domain : DomainId
  actionType : Identifier
deriving DecidableEq

def validateActionTypeRef (input : ActionTypeRefInput) (path : String) : CoreResult ActionTypeRef := do
  let domain ← parseIdentifierAs input.domain (atField path "domain")
  let actionType ← parseIdentifierAs input.actionType (atField path "actionType")
  .ok ⟨domain, actionType⟩

def writeActionTypeRef (a : ActionTypeRef) : Writer := writeStr a.domain.1 ++ writeStr a.actionType.1

def readActionTypeRefInput : CoreReader ActionTypeRefInput := do
  let domain ← readStr
  let actionType ← readStr
  pure ⟨domain, actionType⟩

def actionTypeInputOf (a : ActionTypeRef) : ActionTypeRefInput := ⟨a.domain.1, a.actionType.1⟩

inductive SetVocabulary | modules | adapters | markets | assets | venues | recipients | actionTypes
deriving DecidableEq

def SET_VOCABULARY_CODE : WireCodes SetVocabulary where
  keys := [.modules, .adapters, .markets, .assets, .venues, .recipients, .actionTypes]
  code
    | .modules => 1 | .adapters => 2 | .markets => 3 | .assets => 4 | .venues => 5
    | .recipients => 6 | .actionTypes => 7
  width key := by cases key <;> decide
  unique key := by cases key <;> rfl

inductive ResourceVocabulary | markets | assets | venues | recipients
deriving DecidableEq

def ResourceVocabulary.kinds : ResourceVocabulary → List ResourceKind
  | .markets => [.market]
  | .assets => ASSET_KINDS
  | .venues => [.venue]
  | .recipients => [.recipient, .account]

def ResourceVocabulary.toSet : ResourceVocabulary → SetVocabulary
  | .markets => .markets
  | .assets => .assets
  | .venues => .venues
  | .recipients => .recipients

inductive SetConstraintInput
  | modules (members : List ModuleRefInput)
  | adapters (members : List AdapterRefInput)
  | resources (vocabulary : ResourceVocabulary) (members : List ResourceIdInput)
  | actionTypes (members : List ActionTypeRefInput)

/-- Closed-world membership: an empty set grants nothing, and so does an absent vocabulary. -/
inductive SetConstraintTerm
  | modules (members : CanonicalSet writeModuleRef MAX_SET_MEMBERS)
  | adapters (members : CanonicalSet writeAdapterRef MAX_SET_MEMBERS)
  | resources (vocabulary : ResourceVocabulary)
      (members : CanonicalSet (@writeResourceOf vocabulary.kinds) MAX_SET_MEMBERS)
  | actionTypes (members : CanonicalSet writeActionTypeRef MAX_SET_MEMBERS)
deriving DecidableEq

def SetConstraintTerm.vocabulary : SetConstraintTerm → SetVocabulary
  | .modules _ => .modules
  | .adapters _ => .adapters
  | .resources vocabulary _ => vocabulary.toSet
  | .actionTypes _ => .actionTypes

def validateResourceIn (allowed : List ResourceKind) (input : ResourceIdInput) (path : String) :
    CoreResult (ResourceOf allowed) := validateResourceId input allowed path

def validateSetTerm (input : SetConstraintInput) (path : String) : CoreResult SetConstraintTerm :=
  let members := atField path "members"
  match input with
  | .modules inputs =>
    .modules <$> validateMembers writeModuleRef MAX_SET_MEMBERS validateModuleRef inputs members
  | .adapters inputs =>
    .adapters <$> validateMembers writeAdapterRef MAX_SET_MEMBERS validateAdapterRef inputs members
  | .resources vocabulary inputs =>
    .resources vocabulary <$> validateMembers writeResourceOf MAX_SET_MEMBERS
      (validateResourceIn vocabulary.kinds) inputs members
  | .actionTypes inputs => .actionTypes <$>
    validateMembers writeActionTypeRef MAX_SET_MEMBERS validateActionTypeRef inputs members

def writeSetMembers : SetConstraintTerm → Writer
  | .modules set => writeList writeModuleRef set.members
  | .adapters set => writeList writeAdapterRef set.members
  | .resources _ set => writeList writeResourceOf set.members
  | .actionTypes set => writeList writeActionTypeRef set.members

def writeSetTerm (t : SetConstraintTerm) : Writer :=
  writeCode SET_VOCABULARY_CODE t.vocabulary ++ writeSetMembers t

def readResources (vocabulary : ResourceVocabulary) : CoreReader SetConstraintInput :=
  .resources vocabulary <$> readList MAX_SET_MEMBERS readResourceIdInput true

def readSetMembers : SetVocabulary → CoreReader SetConstraintInput
  | .modules => .modules <$> readList MAX_SET_MEMBERS readModuleRefInput true
  | .adapters => .adapters <$> readList MAX_SET_MEMBERS readAdapterRefInput true
  | .markets => readResources .markets
  | .assets => readResources .assets
  | .venues => readResources .venues
  | .recipients => readResources .recipients
  | .actionTypes => .actionTypes <$> readList MAX_SET_MEMBERS readActionTypeRefInput true

def readSetTermInput : CoreReader SetConstraintInput := do
  let vocabulary ← readCode SET_VOCABULARY_CODE
  readSetMembers vocabulary

def setTermInputOf : SetConstraintTerm → SetConstraintInput
  | .modules set => .modules (set.members.map moduleRefInputOf)
  | .adapters set => .adapters (set.members.map adapterRefInputOf)
  | .resources vocabulary set => .resources vocabulary (set.members.map resourceOfInputOf)
  | .actionTypes set => .actionTypes (set.members.map actionTypeInputOf)

inductive Right | openRisk | reduceRisk | transferOut | delegate
deriving DecidableEq

def RIGHT_CODE : WireCodes Right where
  keys := [.openRisk, .reduceRisk, .transferOut, .delegate]
  code
    | .openRisk => 1 | .reduceRisk => 2 | .transferOut => 3 | .delegate => 4
  width key := by cases key <;> decide
  unique key := by cases key <;> rfl

/-- A right is never `DELEGATE` without its depth, so the depth comes with the right. -/
abbrev PlainRight := {right : Right // right ≠ .delegate}

inductive RightTermInput
  | plain (right : PlainRight)
  | delegate (maxDepth : NumberInput)

abbrev DelegateDepth := {depth : Nat // 1 ≤ depth ∧ depth ≤ MAX_DELEGATION_DEPTH}

inductive RightTerm
  | plain (right : PlainRight)
  | delegate (maxDepth : DelegateDepth)
deriving DecidableEq

def RightTerm.right : RightTerm → Right
  | .plain right => right.1
  | .delegate _ => .delegate

def validateRightTerm (input : RightTermInput) (path : String) : CoreResult RightTerm :=
  match input with
  | .plain right => .ok (.plain right)
  | .delegate maxDepth => do
    let depth ← parseSmallUint maxDepth MAX_SAFE_INTEGER (atField path "maxDepth")
    if inside : 1 ≤ depth.1 ∧ depth.1 ≤ MAX_DELEGATION_DEPTH then .ok (.delegate ⟨depth.1, inside⟩)
    else fail .delegateDepthInvalid (atField path "maxDepth")

def writeRightDepth : RightTerm → Writer
  | .plain _ => Writer.raw []
  | .delegate maxDepth => writeU8 maxDepth.1

def writeRightTerm (t : RightTerm) : Writer := writeCode RIGHT_CODE t.right ++ writeRightDepth t

def readRightDepth (right : Right) : CoreReader RightTermInput :=
  if plain : right ≠ .delegate then pure (.plain ⟨right, plain⟩)
  else do
    let maxDepth ← readU8
    pure (.delegate (.integer maxDepth))

def readRightTermInput : CoreReader RightTermInput := do
  let right ← readCode RIGHT_CODE
  readRightDepth right

def rightTermInputOf : RightTerm → RightTermInput
  | .plain right => .plain right
  | .delegate maxDepth => .delegate (.integer maxDepth.1)

inductive BoundPolarity | max | min
deriving DecidableEq

def POLARITY_CODE : WireCodes BoundPolarity where
  keys := [.max, .min]
  code
    | .max => 1 | .min => 2
  width key := by cases key <;> decide
  unique key := by cases key <;> rfl

inductive BoundValueType | quantity | ratio

def BOUND_VALUE_CODE : WireCodes BoundValueType where
  keys := [.quantity, .ratio]
  code
    | .quantity => 1 | .ratio => 2
  width key := by cases key <;> decide
  unique key := by cases key <;> rfl

inductive BoundValueInput
  | quantity (quantity : QuantityBoundInput)
  | ratio (ratio : RatioInput)

inductive BoundValue
  | quantity (quantity : QuantityBound)
  | ratio (ratio : Ratio)
deriving DecidableEq

def BoundValue.type : BoundValue → BoundValueType
  | .quantity _ => .quantity
  | .ratio _ => .ratio

structure PerActionBoundInput where
  boundId : String
  polarity : BoundPolarity
  value : BoundValueInput

structure PerActionBoundTerm where
  boundId : Identifier
  polarity : BoundPolarity
  value : BoundValue
deriving DecidableEq

def validateBoundValue (input : BoundValueInput) (path : String) : CoreResult BoundValue :=
  match input with
  | .quantity quantity => .quantity <$> validateQuantityBound quantity (atField path "quantity")
  | .ratio ratio => .ratio <$> validateRatio ratio (atField path "ratio")

def validateBoundTerm (input : PerActionBoundInput) (path : String) : CoreResult PerActionBoundTerm := do
  let boundId ← parseIdentifierAs input.boundId (atField path "boundId")
  let value ← validateBoundValue input.value (atField path "value")
  .ok ⟨boundId, input.polarity, value⟩

def writeBoundValue : BoundValue → Writer
  | .quantity quantity => writeQuantityBound quantity
  | .ratio ratio => writeRatio ratio

def writeBoundTerm (t : PerActionBoundTerm) : Writer :=
  writeStr t.boundId.1 ++ (writeCode POLARITY_CODE t.polarity ++
    (writeCode BOUND_VALUE_CODE t.value.type ++ writeBoundValue t.value))

def readBoundValue : BoundValueType → CoreReader BoundValueInput
  | .quantity => .quantity <$> readQuantityBoundInput
  | .ratio => .ratio <$> readRatioInput

def readBoundTermInput : CoreReader PerActionBoundInput := do
  let boundId ← readStr
  let polarity ← readCode POLARITY_CODE
  let type ← readCode BOUND_VALUE_CODE
  let value ← readBoundValue type
  pure ⟨boundId, polarity, value⟩

def boundValueInputOf : BoundValue → BoundValueInput
  | .quantity quantity => .quantity (quantityBoundInputOf quantity)
  | .ratio ratio => .ratio (ratioInputOf ratio)

def boundTermInputOf (t : PerActionBoundTerm) : PerActionBoundInput :=
  ⟨t.boundId.1, t.polarity, boundValueInputOf t.value⟩

structure Window where
  notBefore : UnixSeconds
  expiresAt : UnixSeconds
  ordered : notBefore.1 < expiresAt.1
deriving DecidableEq

def validateWindow (notBefore expiresAt : IntegerInput) (path : String) : CoreResult Window := do
  let start ← parseUnixSeconds notBefore (atField path "notBefore")
  let stop ← parseUnixSeconds expiresAt (atField path "expiresAt")
  if ordered : start.1 < stop.1 then .ok ⟨start, stop, ordered⟩ else fail .invalidTimeWindow path

structure TimeWindowInput where
  domain : String
  notBefore : IntegerInput
  expiresAt : IntegerInput

structure TimeWindowTerm where
  domain : DomainId
  window : Window
deriving DecidableEq

def validateTimeWindowTerm (input : TimeWindowInput) (path : String) : CoreResult TimeWindowTerm := do
  let domain ← parseIdentifierAs input.domain (atField path "domain")
  let window ← validateWindow input.notBefore input.expiresAt path
  .ok ⟨domain, window⟩

def writeTimeWindowTerm (t : TimeWindowTerm) : Writer :=
  writeStr t.domain.1 ++ (writeI64 t.window.notBefore.1 ++ writeI64 t.window.expiresAt.1)

def readTimeWindowTermInput : CoreReader TimeWindowInput := do
  let domain ← readStr
  let notBefore ← readI64
  let expiresAt ← readI64
  pure ⟨domain, .bigint notBefore, .bigint expiresAt⟩

def timeWindowInputOf (t : TimeWindowTerm) : TimeWindowInput :=
  ⟨t.domain.1, .bigint t.window.notBefore.1, .bigint t.window.expiresAt.1⟩

inductive Accounting | budget | capacity
deriving DecidableEq

def ACCOUNTING_CODE : WireCodes Accounting where
  keys := [.budget, .capacity]
  code
    | .budget => 1 | .capacity => 2
  width key := by cases key <;> decide
  unique key := by cases key <;> rfl

inductive Restoration | none | epoch | asCharged | units
deriving DecidableEq

def RESTORATION_CODE : WireCodes Restoration where
  keys := [.none, .epoch, .asCharged, .units]
  code
    | .none => 1 | .epoch => 2 | .asCharged => 3 | .units => 4
  width key := by cases key <;> decide
  unique key := by cases key <;> rfl

def RESTORATION_FAMILY : Restoration → Accounting
  | .none => .budget
  | .epoch => .budget
  | .asCharged => .capacity
  | .units => .capacity

inductive SignMode | unsigned | net
deriving DecidableEq

def SIGN_MODE_CODE : WireCodes SignMode where
  keys := [.unsigned, .net]
  code
    | .unsigned => 1 | .net => 2
  width key := by cases key <;> decide
  unique key := by cases key <;> rfl

structure EpochInput where
  anchor : IntegerInput
  lengthSeconds : IntegerInput

structure Epoch where
  anchor : UnixSeconds
  lengthSeconds : IntegerInRange 1 UINT32_MAX
deriving DecidableEq

structure DimensionScopeInput where
  asset : Option ResourceIdInput
  market : Option ResourceIdInput
  domain : Option String
  account : Option ResourceIdInput

/-- Which contributions a dimension receives; an empty scope receives every one of its measure. -/
structure DimensionScope where
  asset : Option AssetId
  market : Option MarketId
  domain : Option DomainId
  account : Option AccountId
deriving DecidableEq

structure LedgerDimensionInput where
  dimensionId : String
  limit : QuantityBoundInput
  accounting : Accounting
  restoration : Restoration
  epoch : Option EpochInput
  sign : SignMode
  scope : DimensionScopeInput

structure LedgerDimensionTerm where
  dimensionId : DimensionId
  limit : QuantityBound
  accounting : Accounting
  restoration : Restoration
  epoch : Option Epoch
  sign : SignMode
  scope : DimensionScope
  trackable : (QUANTITY_KIND_RULES limit.kind).ledgerTrackable = true
  family : RESTORATION_FAMILY restoration = accounting
  epochal : epoch.isSome = true ↔ restoration = .epoch
  signFits : sign = .net → (QUANTITY_KIND_RULES limit.kind).signed = true
deriving DecidableEq

def validateNullable {ι α : Type} (validate : ι → String → CoreResult α) (path : String) :
    Option ι → CoreResult (Option α)
  | none => .ok none
  | some input => some <$> validate input path

def validateScope (input : DimensionScopeInput) (path : String) : CoreResult DimensionScope := do
  let asset ← validateNullable (validateResourceIn ASSET_KINDS) (atField path "asset") input.asset
  let market ← validateNullable (validateResourceIn [.market]) (atField path "market") input.market
  let domain ← validateNullable parseIdentifierAs (atField path "domain") input.domain
  let account ← validateNullable (validateResourceIn [.account]) (atField path "account") input.account
  .ok ⟨asset, market, domain, account⟩

def validateEpoch (input : EpochInput) (path : String) : CoreResult Epoch := do
  let anchor ← parseUnixSeconds input.anchor (atField path "anchor")
  let length ← parseIntegerInRange input.lengthSeconds 0 UINT32_MAX (atField path "lengthSeconds")
  if positive : 1 ≤ length.1 then .ok ⟨anchor, ⟨length.1, positive, length.2.2⟩⟩
  else fail .epochInvalid (atField path "lengthSeconds")

def validateEpochOf (restoration : Restoration) (input : Option EpochInput) (path : String) :
    CoreResult {epoch : Option Epoch // epoch.isSome = true ↔ restoration = .epoch} :=
  if epochal : restoration = .epoch then
    match input with
    | none => fail .epochRequired path
    | some input => (validateEpoch input path).map fun epoch => ⟨some epoch, by simp [epochal]⟩
  else match input with
    | none => .ok ⟨none, by simp [epochal]⟩
    | some _ => fail .epochForbidden path

def validateDimensionTerm (input : LedgerDimensionInput) (path : String) :
    CoreResult LedgerDimensionTerm := do
  let dimensionId ← parseIdentifierAs input.dimensionId (atField path "dimensionId")
  let limit ← validateQuantityBound input.limit (atField path "limit")
  let rule := QUANTITY_KIND_RULES limit.kind
  if trackable : rule.ledgerTrackable = true then
    if family : RESTORATION_FAMILY input.restoration = input.accounting then
      let epoch ← validateEpochOf input.restoration input.epoch (atField path "epoch")
      if signFits : input.sign = .net → rule.signed = true then
        let scope ← validateScope input.scope (atField path "scope")
        .ok ⟨dimensionId, limit, input.accounting, input.restoration, epoch.1, input.sign, scope,
          trackable, family, epoch.2, signFits⟩
      else fail .netSignRequiresSignedKind (atField path "sign")
    else fail .restorationAccountingMismatch (atField path "restoration")
  else fail .dimensionKindNotLedgerTrackable (atField path "limit.kind")

def writeEpoch (e : Epoch) : Writer := writeI64 e.anchor.1 ++ writeU32 e.lengthSeconds.1

def readEpochInput : CoreReader EpochInput := do
  let anchor ← readI64
  let lengthSeconds ← (fun n : Nat => (n : Int)) <$> readU32
  pure ⟨.bigint anchor, .bigint lengthSeconds⟩

def writeDomain (domain : DomainId) : Writer := writeStr domain.1

def writeScope (s : DimensionScope) : Writer :=
  writeNullable writeResourceOf s.asset ++ (writeNullable writeResourceOf s.market ++
    (writeNullable writeDomain s.domain ++ writeNullable writeResourceOf s.account))

def readScopeInput : CoreReader DimensionScopeInput := do
  let asset ← readNullable readResourceIdInput
  let market ← readNullable readResourceIdInput
  let domain ← readNullable readStr
  let account ← readNullable readResourceIdInput
  pure ⟨asset, market, domain, account⟩

def writeDimensionTerm (t : LedgerDimensionTerm) : Writer :=
  writeStr t.dimensionId.1 ++ (writeQuantityBound t.limit ++ (writeCode ACCOUNTING_CODE t.accounting ++
    (writeCode RESTORATION_CODE t.restoration ++ (writeNullable writeEpoch t.epoch ++
      (writeCode SIGN_MODE_CODE t.sign ++ writeScope t.scope)))))

def readDimensionTermInput : CoreReader LedgerDimensionInput := do
  let dimensionId ← readStr
  let limit ← readQuantityBoundInput
  let accounting ← readCode ACCOUNTING_CODE
  let restoration ← readCode RESTORATION_CODE
  let epoch ← readNullable readEpochInput
  let sign ← readCode SIGN_MODE_CODE
  let scope ← readScopeInput
  pure ⟨dimensionId, limit, accounting, restoration, epoch, sign, scope⟩

def epochInputOf (e : Epoch) : EpochInput := ⟨.bigint e.anchor.1, .bigint e.lengthSeconds.1⟩

def identifierTextOf (id : Identifier) : String := id.1

def scopeInputOf (s : DimensionScope) : DimensionScopeInput :=
  ⟨s.asset.map resourceOfInputOf, s.market.map resourceOfInputOf, s.domain.map identifierTextOf,
    s.account.map resourceOfInputOf⟩

def dimensionTermInputOf (t : LedgerDimensionTerm) : LedgerDimensionInput :=
  ⟨t.dimensionId.1, quantityBoundInputOf t.limit, t.accounting, t.restoration,
    t.epoch.map epochInputOf, t.sign, scopeInputOf t.scope⟩

structure StateInvariantInput where
  invariantId : String
  version : NumberInput
  scope : List ResourceIdInput
  params : String

/-- Which invariant definition, over which resources; the parameters are opaque module bytes. -/
structure StateInvariantTerm where
  invariantId : Identifier
  version : SmallUint UINT32_MAX
  scope : CanonicalSet writeResourceId MAX_INVARIANT_SCOPE
  params : OpaqueBytes MAX_INVARIANT_PARAMS_BYTES
deriving DecidableEq

def validateAnyResource (input : ResourceIdInput) (path : String) : CoreResult ResourceId :=
  (·.1) <$> validateResourceId input RESOURCE_KINDS path

def validateInvariantTerm (input : StateInvariantInput) (path : String) :
    CoreResult StateInvariantTerm := do
  let invariantId ← parseIdentifierAs input.invariantId (atField path "invariantId")
  let version ← parseSmallUint input.version UINT32_MAX (atField path "version")
  let scope ← validateMembers writeResourceId MAX_INVARIANT_SCOPE validateAnyResource input.scope
    (atField path "scope")
  let params ← parseOpaqueBytes input.params MAX_INVARIANT_PARAMS_BYTES (atField path "params")
  .ok ⟨invariantId, version, scope, params⟩

def writeInvariantTerm (t : StateInvariantTerm) : Writer :=
  writeStr t.invariantId.1 ++ (writeU32 t.version.1 ++ (writeList writeResourceId t.scope.members ++
    writeOpaqueBytes t.params.1))

def readInvariantTermInput : CoreReader StateInvariantInput := do
  let invariantId ← readStr
  let version ← readU32
  let scope ← readList MAX_INVARIANT_SCOPE readResourceIdInput true
  let params ← readOpaqueBytes
  pure ⟨invariantId, .integer version, scope, params⟩

def invariantTermInputOf (t : StateInvariantTerm) : StateInvariantInput :=
  ⟨t.invariantId.1, .integer t.version.1, t.scope.members.map resourceIdInputOf, bytesToHex t.params.1⟩

structure StatePolicyInput where
  domain : String
  stateKind : String
  admittedSources : List String
  requirement : StateRequirementInput

def writeSourceId (source : Identifier) : Writer := writeStr source.1

/-- Which sources may supply one kind of state, and the requirement it is admitted under. -/
structure StatePolicyTerm where
  domain : DomainId
  stateKind : Identifier
  admittedSources : CanonicalSet writeSourceId MAX_ADMITTED_SOURCES
  requirement : StateRequirement
deriving DecidableEq

def validateStatePolicyTerm (input : StatePolicyInput) (path : String) : CoreResult StatePolicyTerm := do
  let domain ← parseIdentifierAs input.domain (atField path "domain")
  let stateKind ← parseIdentifierAs input.stateKind (atField path "stateKind")
  let sources ← validateMembers writeSourceId MAX_ADMITTED_SOURCES parseIdentifierAs
    input.admittedSources (atField path "admittedSources")
  let requirement ← validateStateRequirement input.requirement (atField path "requirement")
  .ok ⟨domain, stateKind, sources, requirement⟩

def writeStatePolicyTerm (t : StatePolicyTerm) : Writer :=
  writeStr t.domain.1 ++ (writeStr t.stateKind.1 ++
    (writeList writeSourceId t.admittedSources.members ++ writeStateRequirement t.requirement))

def readStatePolicyTermInput : CoreReader StatePolicyInput := do
  let domain ← readStr
  let stateKind ← readStr
  let admittedSources ← readList MAX_ADMITTED_SOURCES readStr true
  let requirement ← readStateRequirementInput
  pure ⟨domain, stateKind, admittedSources, requirement⟩

def statePolicyInputOf (t : StatePolicyTerm) : StatePolicyInput :=
  ⟨t.domain.1, t.stateKind.1, t.admittedSources.members.map identifierTextOf,
    stateRequirementInputOf t.requirement⟩

inductive TermKind
  | set | right | bound | timeWindow | ledgerDimension | stateInvariant | statePolicy
deriving DecidableEq

def TERM_KIND_CODE : WireCodes TermKind where
  keys := [.set, .right, .bound, .timeWindow, .ledgerDimension, .stateInvariant, .statePolicy]
  code
    | .set => 1 | .right => 2 | .bound => 3 | .timeWindow => 4 | .ledgerDimension => 5
    | .stateInvariant => 6 | .statePolicy => 7
  width key := by cases key <;> decide
  unique key := by cases key <;> rfl

inductive AuthorityTermInput
  | set (t : SetConstraintInput)
  | right (t : RightTermInput)
  | bound (t : PerActionBoundInput)
  | timeWindow (t : TimeWindowInput)
  | ledgerDimension (t : LedgerDimensionInput)
  | stateInvariant (t : StateInvariantInput)
  | statePolicy (t : StatePolicyInput)

inductive AuthorityTerm
  | set (t : SetConstraintTerm)
  | right (t : RightTerm)
  | bound (t : PerActionBoundTerm)
  | timeWindow (t : TimeWindowTerm)
  | ledgerDimension (t : LedgerDimensionTerm)
  | stateInvariant (t : StateInvariantTerm)
  | statePolicy (t : StatePolicyTerm)
deriving DecidableEq

def AuthorityTermInput.kind : AuthorityTermInput → TermKind
  | .set _ => .set
  | .right _ => .right
  | .bound _ => .bound
  | .timeWindow _ => .timeWindow
  | .ledgerDimension _ => .ledgerDimension
  | .stateInvariant _ => .stateInvariant
  | .statePolicy _ => .statePolicy

def AuthorityTerm.kind : AuthorityTerm → TermKind
  | .set _ => .set
  | .right _ => .right
  | .bound _ => .bound
  | .timeWindow _ => .timeWindow
  | .ledgerDimension _ => .ledgerDimension
  | .stateInvariant _ => .stateInvariant
  | .statePolicy _ => .statePolicy

def validateTerm (input : AuthorityTermInput) (path : String) : CoreResult AuthorityTerm :=
  match input with
  | .set t => .set <$> validateSetTerm t path
  | .right t => .right <$> validateRightTerm t path
  | .bound t => .bound <$> validateBoundTerm t path
  | .timeWindow t => .timeWindow <$> validateTimeWindowTerm t path
  | .ledgerDimension t => .ledgerDimension <$> validateDimensionTerm t path
  | .stateInvariant t => .stateInvariant <$> validateInvariantTerm t path
  | .statePolicy t => .statePolicy <$> validateStatePolicyTerm t path

def writeTermBody : AuthorityTerm → Writer
  | .set t => writeSetTerm t
  | .right t => writeRightTerm t
  | .bound t => writeBoundTerm t
  | .timeWindow t => writeTimeWindowTerm t
  | .ledgerDimension t => writeDimensionTerm t
  | .stateInvariant t => writeInvariantTerm t
  | .statePolicy t => writeStatePolicyTerm t

def writeTerm (t : AuthorityTerm) : Writer := writeCode TERM_KIND_CODE t.kind ++ writeTermBody t

def readTermBody : TermKind → CoreReader AuthorityTermInput
  | .set => .set <$> readSetTermInput
  | .right => .right <$> readRightTermInput
  | .bound => .bound <$> readBoundTermInput
  | .timeWindow => .timeWindow <$> readTimeWindowTermInput
  | .ledgerDimension => .ledgerDimension <$> readDimensionTermInput
  | .stateInvariant => .stateInvariant <$> readInvariantTermInput
  | .statePolicy => .statePolicy <$> readStatePolicyTermInput

def readTermInput : CoreReader AuthorityTermInput := do
  let kind ← readCode TERM_KIND_CODE
  readTermBody kind

def termInputOf : AuthorityTerm → AuthorityTermInput
  | .set t => .set (setTermInputOf t)
  | .right t => .right (rightTermInputOf t)
  | .bound t => .bound (boundTermInputOf t)
  | .timeWindow t => .timeWindow (timeWindowInputOf t)
  | .ledgerDimension t => .ledgerDimension (dimensionTermInputOf t)
  | .stateInvariant t => .stateInvariant (invariantTermInputOf t)
  | .statePolicy t => .statePolicy (statePolicyInputOf t)

inductive TermKey
  | set (vocabulary : SetVocabulary)
  | right (right : Right)
  | bound (boundId : Identifier) (polarity : BoundPolarity)
  | timeWindow (domain : DomainId)
  | ledgerDimension (dimensionId : DimensionId)
  | stateInvariant (invariantId : Identifier) (version : Nat) (scope : List ResourceId)
  | statePolicy (domain : DomainId) (stateKind : Identifier)
deriving DecidableEq

def termKey : AuthorityTerm → TermKey
  | .set t => .set t.vocabulary
  | .right t => .right t.right
  | .bound t => .bound t.boundId t.polarity
  | .timeWindow t => .timeWindow t.domain
  | .ledgerDimension t => .ledgerDimension t.dimensionId
  | .stateInvariant t => .stateInvariant t.invariantId t.version.1 t.scope.members
  | .statePolicy t => .statePolicy t.domain t.stateKind

end Mandate.Core
