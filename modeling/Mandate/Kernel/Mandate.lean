import Mandate.Kernel.Units

/-! The canonical mandate: what a principal signed, and the candidate an agent proposes
under it, each with the parser that is the only way to build it. -/
namespace Mandate.Kernel
open Core Lib.Wire

def MANDATE_SCHEMA_VERSION : Nat := 2
def CANDIDATE_SCHEMA_VERSION : Nat := 3
def MAX_SET_SIZE : Nat := 1024

inductive Side | buy | sell
deriving DecidableEq

inductive SyntheticPolicy | forbidden | allowed
deriving DecidableEq

inductive HaltPolicy | forbidWhenHalted | allowWhenHalted
deriving DecidableEq

def SIDE_CODE : WireCodes Side where
  keys := [.buy, .sell]
  code
    | .buy => 1 | .sell => 2
  width key := by cases key <;> decide
  unique key := by cases key <;> rfl

def SYNTHETIC_POLICY_CODE : WireCodes SyntheticPolicy where
  keys := [.forbidden, .allowed]
  code
    | .forbidden => 1 | .allowed => 2
  width key := by cases key <;> decide
  unique key := by cases key <;> rfl

def HALT_POLICY_CODE : WireCodes HaltPolicy where
  keys := [.forbidWhenHalted, .allowWhenHalted]
  code
    | .forbidWhenHalted => 1 | .allowWhenHalted => 2
  width key := by cases key <;> decide
  unique key := by cases key <;> rfl

/-- The kernel refuses a party with the error of the identifier that failed, or of its shape. -/
def parsePartyId (input : PartyIdInput) : KernelResult PartyId := do
  let kind ← parseIdentifier input.kind
  let value ← parseIdentifier input.value
  if shaped : partyShape kind.1 value.1 = true then .ok ⟨kind, value, shaped⟩
  else .error .malformedIdentifier

structure AssetIdInput where
  assetClass : String
  idScheme : String
  value : String

structure CanonicalAssetId where
  assetClass : Identifier
  idScheme : Identifier
  value : Identifier
deriving DecidableEq

def parseCanonicalAssetId (input : AssetIdInput) : KernelResult CanonicalAssetId := do
  let assetClass ← parseIdentifier input.assetClass
  let idScheme ← parseIdentifier input.idScheme
  let value ← parseIdentifier input.value
  .ok ⟨assetClass, idScheme, value⟩

def canonicalAssetIdEquals (a b : CanonicalAssetId) : Bool :=
  a.assetClass == b.assetClass && a.idScheme == b.idScheme && a.value == b.value

/-- By length, then by characters: the order of the length-prefixed encodings. -/
def compareIdentifierBytes (a b : Identifier) : Ordering :=
  (compare a.1.toList.length b.1.toList.length).then (compare a.1.toList b.1.toList)

def identifierLE (a b : Identifier) : Prop := (compareIdentifierBytes a b).isLE = true

instance : DecidableRel identifierLE := fun _ _ => inferInstanceAs (Decidable (_ = true))

def Ascends (ids : List Identifier) : Prop := ids.Pairwise fun a b => compareIdentifierBytes a b = .lt

instance (ids : List Identifier) : Decidable (Ascends ids) :=
  inferInstanceAs (Decidable (ids.Pairwise fun a b => compareIdentifierBytes a b = .lt))

variable {a b : Identifier}

theorem compareIdentifier_eq : compareIdentifierBytes a b = .eq ↔ a = b := by
  constructor
  · intro same
    obtain ⟨_, chars⟩ := Ordering.then_eq_eq.mp same
    have lists := Std.LawfulEqOrd.eq_of_compare chars
    exact Subtype.ext (String.toList_inj.mp lists)
  · rintro rfl
    simp [compareIdentifierBytes]

theorem compareIdentifier_swap (a b : Identifier) :
    compareIdentifierBytes b a = (compareIdentifierBytes a b).swap := by
  unfold compareIdentifierBytes
  rw [Ordering.swap_then, ← Std.OrientedOrd.eq_swap, ← Std.OrientedOrd.eq_swap]

theorem compareIdentifier_trans {c : Identifier} (first : compareIdentifierBytes a b = .lt)
    (second : compareIdentifierBytes b c = .lt) : compareIdentifierBytes a c = .lt := by
  unfold compareIdentifierBytes at *
  rw [Ordering.then_eq_lt] at *
  rcases first with short | ⟨same, first⟩
  · rcases second with shorter | ⟨same', _⟩
    · exact .inl (Std.TransCmp.lt_trans short shorter)
    · exact .inl (Std.TransCmp.lt_of_lt_of_eq short same')
  · rcases second with shorter | ⟨same', second⟩
    · exact .inl (Std.TransCmp.lt_of_eq_of_lt same shorter)
    · exact .inr ⟨Std.TransCmp.eq_trans same same', Std.TransCmp.lt_trans first second⟩

theorem identifierLE_iff : identifierLE a b ↔ compareIdentifierBytes a b = .lt ∨ a = b := by
  unfold identifierLE
  cases order : compareIdentifierBytes a b with
  | lt => simp
  | eq => simp [compareIdentifier_eq.mp order]
  | gt =>
    simp only [Ordering.isLE_gt, Bool.false_eq_true, reduceCtorEq, false_or, false_iff]
    intro same
    rw [compareIdentifier_eq.mpr same] at order
    cases order

instance : Std.Total identifierLE where
  total a b := by
    unfold identifierLE
    rw [compareIdentifier_swap a b]
    cases compareIdentifierBytes a b <;> simp

instance : IsTrans Identifier identifierLE where
  trans a b c first second := by
    rw [identifierLE_iff] at *
    rcases first with first | rfl
    · rcases second with second | rfl
      · exact .inl (compareIdentifier_trans first second)
      · exact .inl first
    · exact second

/-- Distinct identifiers in their one order: what an allowlist is once parsed. -/
structure IdentifierSet where
  members : List Identifier
  bounded : members.length ≤ MAX_SET_SIZE
  ascending : Ascends members

variable {ids : List Identifier}

theorem ascends_of_sorted (sorted : ids.Pairwise identifierLE) (distinct : ids.Nodup) : Ascends ids := by
  refine (sorted.and distinct).imp ?_
  rintro a b ⟨le, apart⟩
  exact (identifierLE_iff.mp le).resolve_right apart

theorem nodup_of_ascends (ascends : Ascends ids) : ids.Nodup := by
  refine ascends.imp ?_
  rintro a b below rfl
  rw [compareIdentifier_eq.mpr rfl] at below
  cases below

theorem sorted_of_ascends (ascends : Ascends ids) : ids.insertionSort identifierLE = ids :=
  List.Pairwise.insertionSort_eq (ascends.imp fun below => identifierLE_iff.mpr (.inl below))

def parseIdentifiers : (raw : List String) → KernelResult {ids : List Identifier // ids.length = raw.length}
  | [] => .ok ⟨[], rfl⟩
  | raw :: rest => do
    let id ← parseIdentifier raw
    let ids ← parseIdentifiers rest
    .ok ⟨id :: ids.1, congrArg (· + 1) ids.2⟩

/-- Sorted; a repeated entry is refused with the caller's code, never collapsed. -/
def parseIdentifierSet (raw : List String) (code : ReasonCode) : KernelResult IdentifierSet :=
  if fits : raw.length ≤ MAX_SET_SIZE then do
    let ids ← parseIdentifiers raw
    if distinct : ids.1.Nodup then
      .ok ⟨ids.1.insertionSort identifierLE, by
          rw [List.length_insertionSort, ids.2]
          exact fits, ascends_of_sorted (List.pairwise_insertionSort _ _)
          ((List.perm_insertionSort identifierLE ids.1).nodup_iff.mpr distinct)⟩
    else .error code
  else .error .valueOutOfRange

structure MandateInput where
  version : NumberInput
  mandateId : String
  nonce : IntegerInput
  principal : PartyIdInput
  agent : PartyIdInput
  canonicalAsset : AssetIdInput
  side : Side
  maxNotional : AmountInput
  economicLimit : AmountInput
  maxDeviationBps : IntegerInput
  syntheticPolicy : SyntheticPolicy
  allowedIssuers : List String
  allowedChains : List String
  allowedVenues : List String
  requiredCorporateActionEpoch : IntegerInput
  maxPriceAgeSeconds : IntegerInput
  maxCorporateActionAgeSeconds : IntegerInput
  haltPolicy : HaltPolicy
  createdAt : IntegerInput
  notBefore : IntegerInput
  expiresAt : IntegerInput

/-- What the principal signs: bounds in one unit, over a window that can be met. -/
structure CanonicalMandate where
  version : Nat
  mandateId : Digest32
  nonce : Uint64
  principal : PartyId
  agent : PartyId
  canonicalAsset : CanonicalAssetId
  side : Side
  maxNotional : ParsedAmount
  economicLimit : ParsedAmount
  maxDeviationBps : IntegerInRange 0 UINT16_MAX
  syntheticPolicy : SyntheticPolicy
  allowedIssuers : IdentifierSet
  allowedChains : IdentifierSet
  allowedVenues : IdentifierSet
  requiredCorporateActionEpoch : Uint64
  maxPriceAgeSeconds : Seconds32
  maxCorporateActionAgeSeconds : Seconds32
  haltPolicy : HaltPolicy
  createdAt : UnixSeconds
  notBefore : UnixSeconds
  expiresAt : UnixSeconds
  supported : version = MANDATE_SCHEMA_VERSION
  window : notBefore.1 < expiresAt.1
  oneUnit : maxNotional.1.unit = economicLimit.1.unit

def parseVersion (raw : NumberInput) (expected : Nat) (malformed unsupported : ReasonCode) :
    KernelResult {version : Nat // version = expected} :=
  match raw with
  | .integer value =>
    if value = expected then .ok ⟨expected, rfl⟩ else .error unsupported
  | _ => .error malformed

def parseMandate (input : MandateInput) : KernelResult CanonicalMandate := do
  let version ← parseVersion input.version MANDATE_SCHEMA_VERSION .malformedMandate .unsupportedMandateVersion
  let mandateId ← parseBytes32 input.mandateId .malformedMandate
  let nonce ← parseBounded input.nonce 0 UINT64_MAX .malformedMandate
  let principal ← parsePartyId input.principal
  let agent ← parsePartyId input.agent
  let canonicalAsset ← parseCanonicalAssetId input.canonicalAsset
  let maxNotional ← parseAmount input.maxNotional
  let economicLimit ← parseAmount input.economicLimit
  let maxDeviationBps ← parseBounded input.maxDeviationBps 0 UINT16_MAX .malformedMandate
  let allowedIssuers ← parseIdentifierSet input.allowedIssuers .malformedMandate
  let allowedChains ← parseIdentifierSet input.allowedChains .malformedMandate
  let allowedVenues ← parseIdentifierSet input.allowedVenues .malformedMandate
  let epoch ← parseBounded input.requiredCorporateActionEpoch 0 UINT64_MAX .malformedMandate
  let maxPriceAge ← parseDurationSeconds input.maxPriceAgeSeconds .malformedMandate
  let maxActionAge ← parseDurationSeconds input.maxCorporateActionAgeSeconds .malformedMandate
  let createdAt ← parseUnixSeconds input.createdAt .malformedMandate
  let notBefore ← parseUnixSeconds input.notBefore .malformedMandate
  let expiresAt ← parseUnixSeconds input.expiresAt .malformedMandate
  if window : notBefore.1 < expiresAt.1 then
    if oneUnit : maxNotional.1.unit = economicLimit.1.unit then
      .ok ⟨version.1, mandateId, nonce, principal, agent, canonicalAsset, input.side, maxNotional,
        economicLimit, maxDeviationBps, input.syntheticPolicy, allowedIssuers, allowedChains,
        allowedVenues, epoch, maxPriceAge, maxActionAge, input.haltPolicy, createdAt, notBefore,
        expiresAt, version.2, window, oneUnit⟩
    else .error .unitMismatch
  else .error .malformedMandate

structure CandidateInput where
  version : NumberInput
  representationId : String
  canonicalAsset : AssetIdInput
  issuer : String
  chain : String
  venue : String
  side : Side
  agent : PartyIdInput
  quantity : AmountInput
  executionPrice : PriceInput
  notional : AmountInput
  feeTotal : AmountInput
  evaluationStateId : String
  evaluationStateDigest : String
  registrySnapshotDigest : String
  corporateActionEpoch : IntegerInput

structure ExecutionCandidate where
  version : Nat
  representationId : Identifier
  canonicalAsset : CanonicalAssetId
  issuer : Identifier
  chain : Identifier
  venue : Identifier
  side : Side
  agent : PartyId
  quantity : ParsedAmount
  executionPrice : Price
  notional : ParsedAmount
  feeTotal : ParsedAmount
  evaluationStateId : Identifier
  evaluationStateDigest : Digest32
  registrySnapshotDigest : Digest32
  corporateActionEpoch : Uint64
  supported : version = CANDIDATE_SCHEMA_VERSION

def parseCandidate (input : CandidateInput) : KernelResult ExecutionCandidate := do
  let version ← parseVersion input.version CANDIDATE_SCHEMA_VERSION .malformedCandidate .malformedCandidate
  let representationId ← parseIdentifier input.representationId
  let canonicalAsset ← parseCanonicalAssetId input.canonicalAsset
  let issuer ← parseIdentifier input.issuer
  let chain ← parseIdentifier input.chain
  let venue ← parseIdentifier input.venue
  let agent ← parsePartyId input.agent
  let quantity ← parseAmount input.quantity
  let executionPrice ← parsePrice input.executionPrice
  let notional ← parseAmount input.notional
  let feeTotal ← parseAmount input.feeTotal
  let evaluationStateId ← parseIdentifier input.evaluationStateId
  let evaluationStateDigest ← parseBytes32 input.evaluationStateDigest .malformedCandidate
  let registrySnapshotDigest ← parseBytes32 input.registrySnapshotDigest .malformedCandidate
  let epoch ← parseBounded input.corporateActionEpoch 0 UINT64_MAX .malformedCandidate
  .ok ⟨version.1, representationId, canonicalAsset, issuer, chain, venue, input.side, agent, quantity,
    executionPrice, notional, feeTotal, evaluationStateId, evaluationStateDigest,
    registrySnapshotDigest, epoch, version.2⟩

def assetIdInputOf (a : CanonicalAssetId) : AssetIdInput := ⟨a.assetClass.1, a.idScheme.1, a.value.1⟩

def identifierSetInputOf (set : IdentifierSet) : List String := set.members.map (·.1)

def mandateInputOf (m : CanonicalMandate) : MandateInput where
  version := .integer m.version
  mandateId := m.mandateId.toHex
  nonce := .bigint m.nonce.1
  principal := partyIdInputOf m.principal
  agent := partyIdInputOf m.agent
  canonicalAsset := assetIdInputOf m.canonicalAsset
  side := m.side
  maxNotional := amountInputOf m.maxNotional
  economicLimit := amountInputOf m.economicLimit
  maxDeviationBps := .bigint m.maxDeviationBps.1
  syntheticPolicy := m.syntheticPolicy
  allowedIssuers := identifierSetInputOf m.allowedIssuers
  allowedChains := identifierSetInputOf m.allowedChains
  allowedVenues := identifierSetInputOf m.allowedVenues
  requiredCorporateActionEpoch := .bigint m.requiredCorporateActionEpoch.1
  maxPriceAgeSeconds := .bigint m.maxPriceAgeSeconds.1
  maxCorporateActionAgeSeconds := .bigint m.maxCorporateActionAgeSeconds.1
  haltPolicy := m.haltPolicy
  createdAt := .bigint m.createdAt.1
  notBefore := .bigint m.notBefore.1
  expiresAt := .bigint m.expiresAt.1

def candidateInputOf (c : ExecutionCandidate) : CandidateInput where
  version := .integer c.version
  representationId := c.representationId.1
  canonicalAsset := assetIdInputOf c.canonicalAsset
  issuer := c.issuer.1
  chain := c.chain.1
  venue := c.venue.1
  side := c.side
  agent := partyIdInputOf c.agent
  quantity := amountInputOf c.quantity
  executionPrice := priceInputOf c.executionPrice
  notional := amountInputOf c.notional
  feeTotal := amountInputOf c.feeTotal
  evaluationStateId := c.evaluationStateId.1
  evaluationStateDigest := c.evaluationStateDigest.toHex
  registrySnapshotDigest := c.registrySnapshotDigest.toHex
  corporateActionEpoch := .bigint c.corporateActionEpoch.1

@[simp] theorem parseIdentifier_self (id : Identifier) : parseIdentifier id.1 = .ok id :=
  parseIdentifier_ok.mpr rfl

@[simp] theorem parseBounded_self {min max : Int} (value : IntegerInRange min max) (code : ReasonCode) :
    parseBounded (.bigint value.1) min max code = .ok value := parseBounded_ok.mpr rfl

@[simp] theorem parseBytes32_self (digest : Digest32) (code : ReasonCode) :
    parseBytes32 digest.toHex code = .ok digest := parseBytes32_ok.mpr (parseDigest_toHex digest "")

@[simp] theorem parsePartyId_self (party : PartyId) : parsePartyId (partyIdInputOf party) = .ok party := by
  simp only [parsePartyId, partyIdInputOf, parseIdentifier_self, bind, Except.bind, dif_pos party.shaped]

@[simp] theorem parseCanonicalAssetId_self (a : CanonicalAssetId) :
    parseCanonicalAssetId (assetIdInputOf a) = .ok a := by
  simp only [parseCanonicalAssetId, assetIdInputOf, parseIdentifier_self, bind, Except.bind]

theorem parseVersion_self {expected : Nat} (malformed unsupported : ReasonCode) :
    parseVersion (.integer expected) expected malformed unsupported = .ok ⟨expected, rfl⟩ := by
  simp [parseVersion]

theorem parseIdentifiers_self (ids : List Identifier) :
    ∃ out, parseIdentifiers (ids.map (·.1)) = .ok out ∧ out.1 = ids := by
  induction ids with
  | nil => exact ⟨_, rfl, rfl⟩
  | cons id ids ih =>
    obtain ⟨out, rest, same⟩ := ih
    have whole : ∃ out, parseIdentifiers (id.1 :: ids.map (·.1)) = .ok out ∧ out.1 = id :: ids := by
      simp only [parseIdentifiers, parseIdentifier_self, rest, bind, Except.bind]
      exact ⟨_, rfl, congrArg (List.cons id) same⟩
    exact whole

@[simp] theorem parseIdentifierSet_self (set : IdentifierSet) (code : ReasonCode) :
    parseIdentifierSet (identifierSetInputOf set) code = .ok set := by
  obtain ⟨⟨_, _⟩, parsed, rfl⟩ := parseIdentifiers_self set.members
  have fits : (identifierSetInputOf set).length ≤ MAX_SET_SIZE := by
    rw [identifierSetInputOf, List.length_map]
    exact set.bounded
  have distinct := nodup_of_ascends set.ascending
  have sorted := sorted_of_ascends set.ascending
  rw [parseIdentifierSet, dif_pos fits]
  simp only [identifierSetInputOf] at parsed ⊢
  simp only [parsed, bind, Except.bind, dif_pos distinct, sorted]

theorem parseMandate_self (m : CanonicalMandate) : parseMandate (mandateInputOf m) = .ok m := by
  obtain ⟨version, _, _, _, _, _, _, _, _, _, _, _, _, _, _, _, _, _, _, _, _, rfl, window, oneUnit⟩ := m
  simp only [parseMandate, mandateInputOf, parseVersion_self, bind, Except.bind, parseBytes32_self,
    parseBounded_self, parsePartyId_self, parseCanonicalAssetId_self, parseAmount_self,
    parseIdentifierSet_self, parseDurationSeconds, parseUnixSeconds, dif_pos window, dif_pos oneUnit]

theorem parseCandidate_self (c : ExecutionCandidate) : parseCandidate (candidateInputOf c) = .ok c := by
  obtain ⟨version, _, _, _, _, _, _, _, _, _, _, _, _, _, _, _, rfl⟩ := c
  simp only [parseCandidate, candidateInputOf, parseVersion_self, bind, Except.bind, parseIdentifier_self,
    parseCanonicalAssetId_self, parsePartyId_self, parseAmount_self, parsePrice_self, parseBytes32_self,
    parseBounded_self]

end Mandate.Kernel
