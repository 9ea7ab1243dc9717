import Mandate.Kernel.Mandate

/-! The trusted state: what the deployment observed, each observation with the provenance
that admits it. The parser keeps the order the representations came in. -/
namespace Mandate.Kernel
open Core Lib.Wire

def STATE_SCHEMA_VERSION : Nat := 2
def MAX_STATE_REPRESENTATIONS : Nat := 65535

inductive TriState | yes | no | unknown
deriving DecidableEq

inductive OperationalState | active | paused | transition | deprecated | unknown
deriving DecidableEq

inductive HaltStatus | trading | halted | unknown
deriving DecidableEq

inductive ReplayStatus | unused | reserved | consumed | quarantined | unknown
deriving DecidableEq

def TRISTATE_CODE : WireCodes TriState where
  keys := [.no, .yes, .unknown]
  code
    | .no => 1 | .yes => 2 | .unknown => 3
  width key := by cases key <;> decide
  unique key := by cases key <;> rfl

def OPERATIONAL_CODE : WireCodes OperationalState where
  keys := [.active, .paused, .transition, .deprecated, .unknown]
  code
    | .active => 1 | .paused => 2 | .transition => 3 | .deprecated => 4 | .unknown => 5
  width key := by cases key <;> decide
  unique key := by cases key <;> rfl

def HALT_STATUS_CODE : WireCodes HaltStatus where
  keys := [.trading, .halted, .unknown]
  code
    | .trading => 1 | .halted => 2 | .unknown => 3
  width key := by cases key <;> decide
  unique key := by cases key <;> rfl

def REPLAY_STATUS_CODE : WireCodes ReplayStatus where
  keys := [.unused, .consumed, .unknown, .reserved, .quarantined]
  code
    | .unused => 1 | .consumed => 2 | .unknown => 3 | .reserved => 4 | .quarantined => 5
  width key := by cases key <;> decide
  unique key := by cases key <;> rfl

structure ProvenanceInput where
  trustClass : TrustClass
  sourceId : String
  observedAt : IntegerInput

/-- Where a value came from; only an admissible class reaches a trusted slot. -/
structure Provenance where
  trustClass : AdmissibleTrustClass
  sourceId : Identifier
  observedAt : UnixSeconds
deriving DecidableEq

structure ObservedInput (ι : Type) where
  provenance : ProvenanceInput
  value : ι

structure Observed (α : Type) where
  provenance : Provenance
  value : α
deriving DecidableEq

def asStateError {α : Type} (result : KernelResult α) : KernelResult α :=
  result.mapError fun _ => .malformedTrustedState

def parseProvenance (input : ProvenanceInput) : KernelResult Provenance := do
  let sourceId ← asStateError (parseIdentifier input.sourceId)
  let observedAt ← parseUnixSeconds input.observedAt .malformedTrustedState
  if admissible : input.trustClass ∈ ADMISSIBLE_TRUST then
    .ok ⟨⟨input.trustClass, admissible⟩, sourceId, observedAt⟩
  else .error .untrustedRequiredState

def parseObserved {ι α : Type} (parse : ι → KernelResult α) (input : ObservedInput ι) :
    KernelResult (Observed α) := do
  let provenance ← parseProvenance input.provenance
  let value ← parse input.value
  .ok ⟨provenance, value⟩

def parseOptional {ι α : Type} (parse : ι → KernelResult α) : Option ι → KernelResult (Option α)
  | none => .ok none
  | some input => some <$> parse input

structure RepresentationInput where
  representationId : String
  canonicalAsset : AssetIdInput
  issuer : String
  chain : String
  instrumentType : Option String
  synthetic : TriState
  operationalState : OperationalState

structure RepresentationState where
  representationId : Identifier
  canonicalAsset : CanonicalAssetId
  issuer : Identifier
  chain : Identifier
  instrumentType : Option Identifier
  synthetic : TriState
  operationalState : OperationalState
deriving DecidableEq

def parseRepresentationState (input : RepresentationInput) : KernelResult RepresentationState := do
  let representationId ← asStateError (parseIdentifier input.representationId)
  let canonicalAsset ← asStateError (parseCanonicalAssetId input.canonicalAsset)
  let issuer ← asStateError (parseIdentifier input.issuer)
  let chain ← asStateError (parseIdentifier input.chain)
  let instrumentType ← asStateError (parseOptional parseIdentifier input.instrumentType)
  .ok ⟨representationId, canonicalAsset, issuer, chain, instrumentType, input.synthetic,
    input.operationalState⟩

structure MarketInput where
  canonicalAsset : AssetIdInput
  referencePrice : Option PriceInput
  haltStatus : HaltStatus

structure MarketState where
  canonicalAsset : CanonicalAssetId
  referencePrice : Option Price
  haltStatus : HaltStatus
deriving DecidableEq

def parseMarketState (input : MarketInput) : KernelResult MarketState := do
  let canonicalAsset ← asStateError (parseCanonicalAssetId input.canonicalAsset)
  let referencePrice ← asStateError (parseOptional parsePrice input.referencePrice)
  .ok ⟨canonicalAsset, referencePrice, input.haltStatus⟩

structure CorporateActionInput where
  canonicalAsset : AssetIdInput
  epoch : Option IntegerInput

structure CorporateActionState where
  canonicalAsset : CanonicalAssetId
  epoch : Option Uint64
deriving DecidableEq

def parseEpochNumber (raw : IntegerInput) : KernelResult Uint64 :=
  parseBounded raw 0 UINT64_MAX .malformedTrustedState

def parseCorporateActionState (input : CorporateActionInput) : KernelResult CorporateActionState := do
  let canonicalAsset ← asStateError (parseCanonicalAssetId input.canonicalAsset)
  let epoch ← parseOptional parseEpochNumber input.epoch
  .ok ⟨canonicalAsset, epoch⟩

structure ReplayInput where
  mandateDigest : String
  status : ReplayStatus

structure ReplayState where
  mandateDigest : Digest32
  status : ReplayStatus
deriving DecidableEq

def parseReplayState (input : ReplayInput) : KernelResult ReplayState := do
  let mandateDigest ← parseBytes32 input.mandateDigest .malformedTrustedState
  .ok ⟨mandateDigest, input.status⟩

structure TrustedStateInput where
  version : NumberInput
  stateId : String
  registrySnapshotDigest : Option String
  representations : List (ObservedInput RepresentationInput)
  market : Option (ObservedInput MarketInput)
  corporateAction : Option (ObservedInput CorporateActionInput)
  replay : Option (ObservedInput ReplayInput)

def representationId (o : Observed RepresentationState) : Identifier := o.value.representationId

structure TrustedState where
  version : Nat
  stateId : Identifier
  registrySnapshotDigest : Option Digest32
  representations : List (Observed RepresentationState)
  market : Option (Observed MarketState)
  corporateAction : Option (Observed CorporateActionState)
  replay : Option (Observed ReplayState)
  supported : version = STATE_SCHEMA_VERSION
  bounded : representations.length ≤ MAX_STATE_REPRESENTATIONS
  distinct : (representations.map representationId).Nodup
deriving DecidableEq

def parseRepresentations : (inputs : List (ObservedInput RepresentationInput)) →
    KernelResult {reps : List (Observed RepresentationState) // reps.length = inputs.length}
  | [] => .ok ⟨[], rfl⟩
  | input :: rest => do
    let rep ← parseObserved parseRepresentationState input
    let reps ← parseRepresentations rest
    .ok ⟨rep :: reps.1, congrArg (· + 1) reps.2⟩

def parseDigestOf (raw : String) : KernelResult Digest32 := parseBytes32 raw .malformedTrustedState

def parseTrustedState (input : TrustedStateInput) : KernelResult TrustedState := do
  let version ← parseVersion input.version STATE_SCHEMA_VERSION .malformedTrustedState
    .malformedTrustedState
  let stateId ← asStateError (parseIdentifier input.stateId)
  let registrySnapshotDigest ← parseOptional parseDigestOf input.registrySnapshotDigest
  if fits : input.representations.length ≤ MAX_STATE_REPRESENTATIONS then
    let reps ← parseRepresentations input.representations
    if distinct : (reps.1.map representationId).Nodup then
      let market ← parseOptional (parseObserved parseMarketState) input.market
      let corporateAction ← parseOptional (parseObserved parseCorporateActionState) input.corporateAction
      let replay ← parseOptional (parseObserved parseReplayState) input.replay
      .ok ⟨version.1, stateId, registrySnapshotDigest, reps.1, market, corporateAction, replay,
        version.2, reps.2.le.trans fits, distinct⟩
    else .error .malformedTrustedState
  else .error .resourceLimitExceeded

def findRepresentation (s : TrustedState) (id : Identifier) : Option (Observed RepresentationState) :=
  s.representations.find? fun o => representationId o == id

def provenanceInputOf (p : Provenance) : ProvenanceInput :=
  ⟨p.trustClass.1, p.sourceId.1, .bigint p.observedAt.1⟩

def observedInputOf {α ι : Type} (inputOf : α → ι) (o : Observed α) : ObservedInput ι :=
  ⟨provenanceInputOf o.provenance, inputOf o.value⟩

def representationInputOf (r : RepresentationState) : RepresentationInput :=
  ⟨r.representationId.1, assetIdInputOf r.canonicalAsset, r.issuer.1, r.chain.1,
    r.instrumentType.map (·.1), r.synthetic, r.operationalState⟩

def marketInputOf (m : MarketState) : MarketInput :=
  ⟨assetIdInputOf m.canonicalAsset, m.referencePrice.map priceInputOf, m.haltStatus⟩

def corporateActionInputOf (c : CorporateActionState) : CorporateActionInput :=
  ⟨assetIdInputOf c.canonicalAsset, c.epoch.map fun epoch => .bigint epoch.1⟩

def replayInputOf (r : ReplayState) : ReplayInput := ⟨r.mandateDigest.toHex, r.status⟩

def trustedStateInputOf (s : TrustedState) : TrustedStateInput :=
  ⟨.integer s.version, s.stateId.1, s.registrySnapshotDigest.map Digest32.toHex,
    s.representations.map (observedInputOf representationInputOf),
    s.market.map (observedInputOf marketInputOf),
    s.corporateAction.map (observedInputOf corporateActionInputOf),
    s.replay.map (observedInputOf replayInputOf)⟩

@[simp] theorem asStateError_ok {α : Type} {result : KernelResult α} {value : α} :
    asStateError result = .ok value ↔ result = .ok value := by
  unfold asStateError
  cases result <;> simp [Except.mapError]

@[simp] theorem asStateError_value {α : Type} (value : α) : asStateError (.ok value) = .ok value := rfl

theorem parseOptional_self {ι α : Type} {parse : ι → KernelResult α} {inputOf : α → ι}
    (own : ∀ x, parse (inputOf x) = .ok x) (item : Option α) :
    parseOptional parse (item.map inputOf) = .ok item := by
  cases item with
  | none => rfl
  | some x => simp [parseOptional, own]

theorem parseProvenance_self (p : Provenance) : parseProvenance (provenanceInputOf p) = .ok p := by
  obtain ⟨⟨trust, admissible⟩, sourceId, observedAt⟩ := p
  simp only [parseProvenance, provenanceInputOf, bind, Except.bind, parseIdentifier_self,
    asStateError_value, parseUnixSeconds, parseBounded_self]
  exact dif_pos admissible

theorem parseObserved_self {ι α : Type} {parse : ι → KernelResult α} {inputOf : α → ι}
    (own : ∀ x, parse (inputOf x) = .ok x) (o : Observed α) :
    parseObserved parse (observedInputOf inputOf o) = .ok o := by
  simp only [parseObserved, observedInputOf, parseProvenance_self, own, bind, Except.bind]

theorem parseRepresentationState_self (r : RepresentationState) :
    parseRepresentationState (representationInputOf r) = .ok r := by
  simp only [parseRepresentationState, representationInputOf, bind, Except.bind, parseIdentifier_self,
    parseCanonicalAssetId_self, parseOptional_self parseIdentifier_self, asStateError_value]

theorem parseMarketState_self (m : MarketState) : parseMarketState (marketInputOf m) = .ok m := by
  simp only [parseMarketState, marketInputOf, bind, Except.bind, parseCanonicalAssetId_self,
    parseOptional_self parsePrice_self, asStateError_value]

theorem parseCorporateActionState_self (c : CorporateActionState) :
    parseCorporateActionState (corporateActionInputOf c) = .ok c := by
  have epoch : parseOptional parseEpochNumber (c.epoch.map fun epoch => .bigint epoch.1) = .ok c.epoch :=
    @parseOptional_self _ _ parseEpochNumber _ (fun x => parseBounded_self x _) c.epoch
  simp only [parseCorporateActionState, corporateActionInputOf, bind, Except.bind,
    parseCanonicalAssetId_self, asStateError_value, epoch]

theorem parseReplayState_self (r : ReplayState) : parseReplayState (replayInputOf r) = .ok r := by
  simp only [parseReplayState, replayInputOf, bind, Except.bind, parseBytes32_self]

theorem parseRepresentations_self (reps : List (Observed RepresentationState)) :
    ∃ out, parseRepresentations (reps.map (observedInputOf representationInputOf)) = .ok out ∧
      out.1 = reps := by
  induction reps with
  | nil => exact ⟨_, rfl, rfl⟩
  | cons rep reps ih =>
    obtain ⟨out, rest, same⟩ := ih
    have here := parseObserved_self parseRepresentationState_self rep
    have whole : ∃ out, parseRepresentations (observedInputOf representationInputOf rep ::
        reps.map (observedInputOf representationInputOf)) = .ok out ∧ out.1 = rep :: reps := by
      simp only [parseRepresentations, here, rest, bind, Except.bind]
      exact ⟨_, rfl, congrArg (List.cons rep) same⟩
    exact whole

theorem parseTrustedState_self (s : TrustedState) : parseTrustedState (trustedStateInputOf s) = .ok s := by
  obtain ⟨version, stateId, digest, reps, market, corporateAction, replay, rfl, bounded, distinct⟩ := s
  obtain ⟨⟨out, sized⟩, parsed, same⟩ := parseRepresentations_self reps
  simp only at same
  subst same
  have fits : (out.map (observedInputOf representationInputOf)).length ≤ MAX_STATE_REPRESENTATIONS := by
    rw [List.length_map]
    exact bounded
  have registry : parseOptional parseDigestOf (digest.map Digest32.toHex) = .ok digest :=
    @parseOptional_self _ _ parseDigestOf _ (fun d => parseBytes32_self d _) digest
  simp only [parseTrustedState, trustedStateInputOf, parseVersion_self, bind, Except.bind,
    parseIdentifier_self, asStateError_value, registry, dif_pos fits, parsed, dif_pos distinct,
    parseOptional_self (parseObserved_self parseMarketState_self),
    parseOptional_self (parseObserved_self parseCorporateActionState_self),
    parseOptional_self (parseObserved_self parseReplayState_self)]

end Mandate.Kernel
