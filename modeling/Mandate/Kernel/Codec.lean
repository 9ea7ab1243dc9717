import Mandate.Kernel.TrustedState
import Mandate.Lib.Format

/-! The kernel's byte formats of mandates, candidates and trusted states. The tag stands
without a length, a version follows it, and whatever fails to read is one malformed object. -/
set_option linter.dupNamespace false
namespace Mandate.Kernel
open Core Lib.Wire Lib.Text

def MANDATE_TAG : String := "MANDATE.MANDATE.V2"
def CANDIDATE_TAG : String := "MANDATE.CANDIDATE.V3"
def STATE_TAG : String := "MANDATE.STATE.V2"

def writeHeader (tag : String) (version : Nat) : Writer :=
  Writer.raw (encodeText tag) ++ writeU16 version

def readRawTag (tag : String) : CoreReader Unit := do
  let bytes ← Reader.raw .encodingMalformed (encodeText tag).length
  if bytes = encodeText tag then pure () else Reader.fail .encodingWrongTag

def readVersion (version : Nat) : CoreReader Unit := do
  let found ← readU16
  if found = version then pure () else Reader.fail .encodingUnsupportedVersion

def readHeader (tag : String) (version : Nat) : CoreReader Unit := do
  readRawTag tag
  readVersion version

def writeAsset (a : CanonicalAssetId) : Writer :=
  writeStr a.assetClass.1 ++ (writeStr a.idScheme.1 ++ writeStr a.value.1)

def readAssetInput : CoreReader AssetIdInput := do
  let assetClass ← readStr
  let idScheme ← readStr
  let value ← readStr
  pure ⟨assetClass, idScheme, value⟩

def readAtoms : CoreReader Int := (fun n : Nat => (n : Int)) <$> readU256

def writeUint16 (value : Int) : Writer := Writer.uint 2 value

def readUint16 : CoreReader Int := (fun n : Nat => (n : Int)) <$> readU16

def readUint64 : CoreReader Int := (fun n : Nat => (n : Int)) <$> readU64

def readSeconds32 : CoreReader Int := (fun n : Nat => (n : Int)) <$> readU32

def writeAmount (a : ParsedAmount) : Writer :=
  writeStr a.1.unit.1 ++ (writeU8 a.1.decimals ++ writeU256 a.1.atoms)

def readAmountInput : CoreReader AmountInput := do
  let unit ← readStr
  let decimals ← readU8
  let atoms ← readAtoms
  pure ⟨unit, .integer decimals, .bigint atoms⟩

def writePrice (p : Price) : Writer :=
  writeStr p.numeratorUnit.1 ++ (writeStr p.denominatorUnit.1 ++ (writeU8 p.decimals.1 ++
    writeU256 p.atoms.1))

def readPriceInput : CoreReader PriceInput := do
  let numeratorUnit ← readStr
  let denominatorUnit ← readStr
  let decimals ← readU8
  let atoms ← readAtoms
  pure ⟨numeratorUnit, denominatorUnit, .integer decimals, .bigint atoms⟩

/-- A set of the model is already sorted, so its members are written as they stand. -/
def writeIdentifierSet (set : IdentifierSet) : Writer :=
  writeList (fun id : Identifier => writeStr id.1) set.members

/-- Each member is an identifier above the previous one, as the decoded texts compare. -/
def readMembers : Nat → Option Identifier → CoreReader (List String)
  | 0, _ => pure []
  | count + 1, previous => do
    let id ← (do
      let text ← readStr
      Reader.ofExcept ((parseIdentifier text).mapError fun _ => .encodingMalformed))
    if previous.all fun before => compareIdentifierBytes before id == .lt then do
      let rest ← readMembers count (some id)
      pure (id.1 :: rest)
    else Reader.fail .encodingNonCanonical

def readIdentifierSet : CoreReader (List String) := do
  let count ← readU16
  readMembers count none

def writeMandate (m : CanonicalMandate) : Writer :=
  writeDigest m.mandateId ++ (writeU64 m.nonce.1 ++ (writeParty m.principal ++ (writeParty m.agent ++
    (writeAsset m.canonicalAsset ++ (writeCode SIDE_CODE m.side ++ (writeAmount m.maxNotional ++
      (writeAmount m.economicLimit ++ (writeUint16 m.maxDeviationBps.1 ++
        (writeCode SYNTHETIC_POLICY_CODE m.syntheticPolicy ++ (writeIdentifierSet m.allowedIssuers ++
          (writeIdentifierSet m.allowedChains ++ (writeIdentifierSet m.allowedVenues ++
            (writeU64 m.requiredCorporateActionEpoch.1 ++ (writeU32 m.maxPriceAgeSeconds.1 ++
              (writeU32 m.maxCorporateActionAgeSeconds.1 ++ (writeCode HALT_POLICY_CODE m.haltPolicy ++
                (writeI64 m.createdAt.1 ++ (writeI64 m.notBefore.1 ++ writeI64 m.expiresAt.1))))))))))))))))))

def encodeMandate (m : CanonicalMandate) : Bytes :=
  encodeWith (fun m => writeHeader MANDATE_TAG m.version ++ writeMandate m) m

def readMandateInput : CoreReader MandateInput := do
  let mandateId ← readDigest
  let nonce ← readUint64
  let principal ← readPartyInput
  let agent ← readPartyInput
  let canonicalAsset ← readAssetInput
  let side ← readCode SIDE_CODE
  let maxNotional ← readAmountInput
  let economicLimit ← readAmountInput
  let maxDeviationBps ← readUint16
  let syntheticPolicy ← readCode SYNTHETIC_POLICY_CODE
  let allowedIssuers ← readIdentifierSet
  let allowedChains ← readIdentifierSet
  let allowedVenues ← readIdentifierSet
  let epoch ← readUint64
  let maxPriceAge ← readSeconds32
  let maxActionAge ← readSeconds32
  let haltPolicy ← readCode HALT_POLICY_CODE
  let createdAt ← readI64
  let notBefore ← readI64
  let expiresAt ← readI64
  pure ⟨.integer MANDATE_SCHEMA_VERSION, mandateId, .bigint nonce, principal, agent, canonicalAsset,
    side, maxNotional, economicLimit, .bigint maxDeviationBps, syntheticPolicy, allowedIssuers,
    allowedChains, allowedVenues, .bigint epoch, .bigint maxPriceAge, .bigint maxActionAge, haltPolicy,
    .bigint createdAt, .bigint notBefore, .bigint expiresAt⟩

/-- Every failure to read is the object's one malformed code, its version's apart. -/
def decodeWith {ι α : Type} (read : CoreReader ι) (validate : ι → KernelResult α)
    (malformed unsupported : ReasonCode) (bytes : Bytes) : KernelResult α :=
  match read.run ⟨0, bytes, false⟩ with
  | .error (.encodingUnsupportedVersion, _) => .error unsupported
  | .error _ => .error malformed
  | .ok (input, _) => validate input

def wholeObject {ι : Type} (tag : String) (version : Nat) (body : CoreReader ι) : CoreReader ι :=
  whole (readHeader tag version) body .encodingTrailingBytes

def decodeMandate (bytes : Bytes) : KernelResult CanonicalMandate :=
  decodeWith (wholeObject MANDATE_TAG MANDATE_SCHEMA_VERSION readMandateInput) parseMandate
    .malformedMandate .unsupportedMandateVersion bytes

def writeCandidate (c : ExecutionCandidate) : Writer :=
  writeStr c.representationId.1 ++ (writeAsset c.canonicalAsset ++ (writeStr c.issuer.1 ++
    (writeStr c.chain.1 ++ (writeStr c.venue.1 ++ (writeCode SIDE_CODE c.side ++ (writeParty c.agent ++
      (writeAmount c.quantity ++ (writePrice c.executionPrice ++ (writeAmount c.notional ++
        (writeAmount c.feeTotal ++ (writeStr c.evaluationStateId.1 ++
          (writeDigest c.evaluationStateDigest ++ (writeDigest c.registrySnapshotDigest ++
            writeU64 c.corporateActionEpoch.1)))))))))))))

def encodeCandidate (c : ExecutionCandidate) : Bytes :=
  encodeWith (fun c => writeHeader CANDIDATE_TAG c.version ++ writeCandidate c) c

def readCandidateInput : CoreReader CandidateInput := do
  let representationId ← readStr
  let canonicalAsset ← readAssetInput
  let issuer ← readStr
  let chain ← readStr
  let venue ← readStr
  let side ← readCode SIDE_CODE
  let agent ← readPartyInput
  let quantity ← readAmountInput
  let executionPrice ← readPriceInput
  let notional ← readAmountInput
  let feeTotal ← readAmountInput
  let evaluationStateId ← readStr
  let evaluationStateDigest ← readDigest
  let registrySnapshotDigest ← readDigest
  let epoch ← readUint64
  pure ⟨.integer CANDIDATE_SCHEMA_VERSION, representationId, canonicalAsset, issuer, chain, venue, side,
    agent, quantity, executionPrice, notional, feeTotal, evaluationStateId, evaluationStateDigest,
    registrySnapshotDigest, .bigint epoch⟩

def decodeCandidate (bytes : Bytes) : KernelResult ExecutionCandidate :=
  decodeWith (wholeObject CANDIDATE_TAG CANDIDATE_SCHEMA_VERSION readCandidateInput) parseCandidate
    .malformedCandidate .malformedCandidate bytes

def writeProvenance (p : Provenance) : Writer :=
  writeCode TRUST_CLASS_CODE p.trustClass.1 ++ (writeStr p.sourceId.1 ++ writeI64 p.observedAt.1)

def readProvenanceInput : CoreReader ProvenanceInput := do
  let trustClass ← readCode TRUST_CLASS_CODE
  let sourceId ← readStr
  let observedAt ← readI64
  pure ⟨trustClass, sourceId, .bigint observedAt⟩

def writeObserved {α : Type} (write : α → Writer) (o : Observed α) : Writer :=
  writeProvenance o.provenance ++ write o.value

def readObservedInput {ι : Type} (read : CoreReader ι) : CoreReader (ObservedInput ι) := do
  let provenance ← readProvenanceInput
  let value ← read
  pure ⟨provenance, value⟩

def writeRepresentation (r : RepresentationState) : Writer :=
  writeStr r.representationId.1 ++ (writeAsset r.canonicalAsset ++ (writeStr r.issuer.1 ++
    (writeStr r.chain.1 ++ (writeNullable (fun id : Identifier => writeStr id.1) r.instrumentType ++
      (writeCode TRISTATE_CODE r.synthetic ++ writeCode OPERATIONAL_CODE r.operationalState)))))

def readRepresentationInput : CoreReader RepresentationInput := do
  let representationId ← readStr
  let canonicalAsset ← readAssetInput
  let issuer ← readStr
  let chain ← readStr
  let instrumentType ← readNullable readStr
  let synthetic ← readCode TRISTATE_CODE
  let operationalState ← readCode OPERATIONAL_CODE
  pure ⟨representationId, canonicalAsset, issuer, chain, instrumentType, synthetic, operationalState⟩

def writeMarket (m : MarketState) : Writer :=
  writeAsset m.canonicalAsset ++ (writeNullable writePrice m.referencePrice ++
    writeCode HALT_STATUS_CODE m.haltStatus)

def readMarketInput : CoreReader MarketInput := do
  let canonicalAsset ← readAssetInput
  let referencePrice ← readNullable readPriceInput
  let haltStatus ← readCode HALT_STATUS_CODE
  pure ⟨canonicalAsset, referencePrice, haltStatus⟩

def writeEpoch (epoch : Uint64) : Writer := writeU64 epoch.1

def readEpochInput : CoreReader IntegerInput := do
  let epoch ← readUint64
  pure (.bigint epoch)

def writeCorporateAction (c : CorporateActionState) : Writer :=
  writeAsset c.canonicalAsset ++ writeNullable writeEpoch c.epoch

def readCorporateActionInput : CoreReader CorporateActionInput := do
  let canonicalAsset ← readAssetInput
  let epoch ← readNullable readEpochInput
  pure ⟨canonicalAsset, epoch⟩

def writeReplay (r : ReplayState) : Writer :=
  writeDigest r.mandateDigest ++ writeCode REPLAY_STATUS_CODE r.status

def readReplayInput : CoreReader ReplayInput := do
  let mandateDigest ← readDigest
  let status ← readCode REPLAY_STATUS_CODE
  pure ⟨mandateDigest, status⟩

/-- The fields of a state, its representations in the order they are given. -/
def writeState (s : TrustedState) : Writer :=
  writeStr s.stateId.1 ++ (writeNullable writeDigest s.registrySnapshotDigest ++
    (writeList (writeObserved writeRepresentation) s.representations ++
      (writeNullable (writeObserved writeMarket) s.market ++
        (writeNullable (writeObserved writeCorporateAction) s.corporateAction ++
          writeNullable (writeObserved writeReplay) s.replay))))

def representationLE (a b : Observed RepresentationState) : Prop :=
  identifierLE (representationId a) (representationId b)

instance : DecidableRel representationLE := fun _ _ => inferInstanceAs (Decidable (identifierLE _ _))

instance : Std.Total representationLE where
  total a b := Std.Total.total (r := identifierLE) (representationId a) (representationId b)

instance : IsTrans (Observed RepresentationState) representationLE where
  trans _ _ _ first second := IsTrans.trans (r := identifierLE) _ _ _ first second

/-- The state with its representations in the order of their ids, which is how it is written. -/
def TrustedState.sorted (s : TrustedState) : TrustedState :=
  { s with
    representations := s.representations.insertionSort representationLE
    bounded := by
      rw [List.length_insertionSort]
      exact s.bounded
    distinct := ((List.perm_insertionSort representationLE s.representations).map
      representationId).nodup_iff.mpr s.distinct }

def encodeTrustedState (s : TrustedState) : Bytes :=
  encodeWith (fun s => writeHeader STATE_TAG s.version ++ writeState s) s.sorted

def readStateInput : CoreReader TrustedStateInput := do
  let stateId ← readStr
  let registrySnapshotDigest ← readNullable readDigest
  let representations ← readList MAX_STATE_REPRESENTATIONS (readObservedInput readRepresentationInput) false
  let market ← readNullable (readObservedInput readMarketInput)
  let corporateAction ← readNullable (readObservedInput readCorporateActionInput)
  let replay ← readNullable (readObservedInput readReplayInput)
  pure ⟨.integer STATE_SCHEMA_VERSION, stateId, registrySnapshotDigest, representations, market,
    corporateAction, replay⟩

def decodeTrustedState (bytes : Bytes) : KernelResult TrustedState :=
  decodeWith (wholeObject STATE_TAG STATE_SCHEMA_VERSION readStateInput) parseTrustedState
    .malformedTrustedState .malformedTrustedState bytes

end Mandate.Kernel
