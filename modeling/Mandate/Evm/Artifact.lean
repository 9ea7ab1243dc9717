import Mandate.Evm.Vocabulary

/-! The exact gate artifact of one authorization: mandate, candidate and terms, all three derived
from committed identity, the reviewed market and the slot; and the check that an artifact is that one.
Numbers have the widths the writers hold: outside them building throws, and nothing is signed. -/
set_option linter.dupNamespace false
namespace Mandate.Evm
open Core Lib.Wire Lib.Text
open Gate (TextMandate TextCandidate GateAmount encodeGateMandate encodeGateCandidate SIDE_BUY
  SYNTHETIC_FORBIDDEN SYNTHETIC_ALLOWED HALT_FORBID_WHEN_HALTED)
open Option (some.inj bind_eq_some_iff)
open Kernel (keccakText EIP712_DOMAIN_TYPE mandateAuthorizationStructHash)

structure GateTerms where
  recipient : String
  fundingLimit : Int
  deadline : Int
  executionData : String

structure Eip712Domain where
  name : String
  version : String
  chainId : Int
  verifyingContract : String

def gateDomain (chainId : Int) (gate : String) : Eip712Domain := ⟨"Mandate", "1", chainId, gate⟩

section Hashing

def word (value : Int) : Bytes := beBytes 32 (value % 2 ^ 256).toNat

/-- A lowercase address as a number; no other spelling comes this far. -/
def addressNumber (address : String) : Option Int := (hexToBytes address).map fun bytes => (beNat bytes : Int)

variable [Keccak]

def EXECUTION_AUTHORIZATION_TYPE : String :=
  "ExecutionAuthorization(bytes32 mandateDigest,bytes32 candidateDigest,address recipient,uint256 fundingLimit,uint64 deadline,bytes executionData)"

def commitmentMessage (mandateDigest candidateDigest : Digest32) (terms : GateTerms) : Option Bytes := do
  let recipient ← addressNumber terms.recipient
  let data ← hexToBytes terms.executionData
  some (keccakText EXECUTION_AUTHORIZATION_TYPE ++ (Digest32.bytes mandateDigest ++ (Digest32.bytes candidateDigest ++
    (word recipient ++ (word terms.fundingLimit ++ (word terms.deadline ++ Digest32.bytes (keccakDigest data)))))))

def executionCommitment (mandateDigest candidateDigest : Digest32) (terms : GateTerms) : Option Digest32 :=
  (commitmentMessage mandateDigest candidateDigest terms).map keccakDigest

def domainSeparator (domain : Eip712Domain) : Option Digest32 :=
  (addressNumber domain.verifyingContract).map fun contract =>
    keccakDigest (keccakText EIP712_DOMAIN_TYPE ++ keccakText domain.name ++ keccakText domain.version ++
      word domain.chainId ++ word contract)

def eip712Hash (domain : Eip712Domain) (structHash : Digest32) : Option Digest32 :=
  (domainSeparator domain).map fun separator =>
    keccakDigest ([0x19, 0x01] ++ Digest32.bytes separator ++ Digest32.bytes structHash)

def eip712SigningHash (domain : Eip712Domain) (mandateDigest : Digest32) : Option Digest32 :=
  eip712Hash domain (mandateAuthorizationStructHash mandateDigest)

end Hashing

section Artifact

def EVALUATION_STATE_ID : String := "mandate-core.authorization-record"

def ARTIFACT_KIND : Identifier := ⟨"evm.gate-execution-commitment", by decide⟩

structure ArtifactSource where
  executionId : Digest32
  authorizationId : Digest32
  reservation : ReservationId
  generation : ReservationGeneration
  adapter : AdapterRef
  evaluatedAt : Int
  validUntil : Int

structure ArtifactTerms where
  gate : ReviewedGate
  market : ReviewedMarket
  principal : String
  agent : String
  quantity : Int
  nonce : Int
  deadline : Int

structure GateArtifact where
  mandate : TextMandate
  candidate : TextCandidate
  terms : GateTerms
  mandateDigest : Digest32
  candidateDigest : Digest32
  commitment : Digest32
  domain : Eip712Domain

def unsigned (width : Nat) (value : Int) : Option (BitVec width) :=
  if 0 ≤ value ∧ value < 2 ^ width then some (BitVec.ofInt width value) else none

def signed (width : Nat) (value : Int) : Option (BitVec width) :=
  if -(2 ^ width : Int) ≤ 2 * value ∧ 2 * value < 2 ^ width then some (BitVec.ofInt width value) else none

def slotScope (chainId : Int) (gate principal : String) : String :=
  "evm:" ++ toString chainId ++ ":gate:" ++ gate ++ ":principal:" ++ principal

variable [Keccak]

/-- The principal-signed name of one reservation generation, issued through one adapter. -/
def gateMandateId (s : ArtifactSource) : Option Digest32 :=
  (writeStr "mandate/evm-robinhood/gate-mandate-id" ++ (writeU16 1 ++ (writeDigest s.executionId ++
    (writeDigest s.reservation ++ (writeU64 s.generation.1 ++ writeDigest s.adapter.adapterDigest))))).map keccakDigest

def reviewedMarketDigest (gate : ReviewedGate) (market : ReviewedMarket) : Option Digest32 :=
  (encodeReviewedSnapshot gate.chainId gate.gate market).map keccakDigest

def settle (m : ReviewedMarket) (atoms : Int) : Option (GateAmount String) := do
  some ⟨m.settlementUnit, ← unsigned 8 m.fundingDecimals, ← unsigned 256 atoms⟩

/-- MAX_TOTAL_DEBIT is the venue's quote, its fee included; the notional is the true product. -/
def gateMandate (src : ArtifactSource) (t : ArtifactTerms) : Option TextMandate := do
  let m := t.market
  let mandateId ← gateMandateId src
  let nonce ← unsigned 64 t.nonce
  let maxNotional ← settle m (← grossCost m t.quantity)
  let economicLimit ← settle m (← buyCost m t.quantity)
  let created ← signed 64 src.evaluatedAt
  let expires ← signed 64 src.validUntil
  some {
    version := 2
    mandateId
    nonce
    principal := t.principal
    agent := t.agent
    canonicalAsset := m.canonicalAsset
    side := SIDE_BUY
    maxNotional
    economicLimit
    maxDeviationBps := 0
    syntheticPolicy := if m.synthetic then SYNTHETIC_ALLOWED else SYNTHETIC_FORBIDDEN
    allowedIssuers := [m.issuer]
    allowedChains := [caip2 t.gate.chainId]
    allowedVenues := [m.venueId]
    requiredCorporateActionEpoch := 1
    maxPriceAgeSeconds := 60
    maxCorporateActionAgeSeconds := 3600
    haltPolicy := HALT_FORBID_WHEN_HALTED
    createdAtUnixSeconds := created
    notBeforeUnixSeconds := created
    expiresAtUnixSeconds := expires }

def gateCandidate (src : ArtifactSource) (t : ArtifactTerms) : Option TextCandidate := do
  let m := t.market
  let gross ← grossCost m t.quantity
  let quantity := ⟨m.quantityUnit, ← unsigned 8 m.representationDecimals, ← unsigned 256 t.quantity⟩
  let executionPrice :=
    ⟨m.settlementUnit, m.quantityUnit, ← unsigned 8 m.fixturePriceDecimals, ← unsigned 256 m.fixturePriceAtoms⟩
  let notional ← settle m gross
  let feeTotal ← settle m (feeOn m gross)
  let registrySnapshotDigest ← reviewedMarketDigest t.gate m
  some {
    version := 3
    representationId := representationIdOf t.gate.chainId m.representation
    canonicalAsset := m.canonicalAsset
    issuer := m.issuer
    chain := caip2 t.gate.chainId
    venue := m.venueId
    side := SIDE_BUY
    agent := t.agent
    quantity
    executionPrice
    notional
    feeTotal
    evaluationStateId := EVALUATION_STATE_ID
    evaluationStateDigest := src.authorizationId
    registrySnapshotDigest
    corporateActionEpoch := 1 }

/-- Every field, from the authorization's facts and the terms; `none` where the building throws. -/
def buildGateArtifact (src : ArtifactSource) (t : ArtifactTerms) : Option GateArtifact := do
  let mandate ← gateMandate src t
  let candidate ← gateCandidate src t
  let terms : GateTerms := ⟨t.principal, ← buyCost t.market t.quantity, t.deadline, "0x"⟩
  let mandateDigest := keccakDigest (← encodeGateMandate mandate)
  let candidateDigest := keccakDigest (← encodeGateCandidate candidate)
  let commitment ← executionCommitment mandateDigest candidateDigest terms
  some ⟨mandate, candidate, terms, mandateDigest, candidateDigest, commitment, gateDomain t.gate.chainId t.gate.gate⟩

abbrev Checked := Option (Option String)

def passed : Checked := some none
def because (reason : String) : Checked := some (some reason)

def checkGateArtifact (a : GateArtifact) (src : ArtifactSource) (t : ArtifactTerms) : Checked := do
  let expected ← buildGateArtifact src t
  let cost ← buyCost t.market t.quantity
  let mandateId ← gateMandateId src
  if src.validUntil ≤ t.deadline then because "DEADLINE_NOT_BEFORE_CEILING"
  else if a.mandate.principal ≠ t.principal ∨ a.terms.recipient ≠ t.principal then
    because "PRINCIPAL_OR_RECIPIENT_MISMATCH"
  else if a.mandate.agent ≠ t.agent ∨ a.candidate.agent ≠ t.agent then because "AGENT_MISMATCH"
  else if (a.candidate.quantity.atoms.toNat : Int) ≠ t.quantity then because "QUANTITY_MISMATCH"
  else if a.terms.fundingLimit ≠ cost ∨ (a.mandate.economicLimit.atoms.toNat : Int) ≠ a.terms.fundingLimit then
    because "DEBIT_MISMATCH"
  else if a.terms.executionData ≠ "0x" then because "EXECUTION_DATA_NOT_EMPTY"
  else if a.mandate.mandateId ≠ mandateId ∨ (a.mandate.nonce.toNat : Int) ≠ t.nonce then
    because "MANDATE_IDENTITY_MISMATCH"
  else if a.mandate.expiresAtUnixSeconds.toInt ≠ src.validUntil then because "EXPIRY_MISMATCH"
  else do
    let mandate ← encodeGateMandate a.mandate
    let candidate ← encodeGateCandidate a.candidate
    let commitment ← executionCommitment a.mandateDigest a.candidateDigest a.terms
    if a.mandateDigest ≠ keccakDigest mandate ∨ a.candidateDigest ≠ keccakDigest candidate then
      because "DIGEST_MISMATCH"
    else if a.commitment ≠ commitment then because "COMMITMENT_MISMATCH"
    else if a.mandateDigest ≠ expected.mandateDigest ∨ a.candidateDigest ≠ expected.candidateDigest ∨
        a.commitment ≠ expected.commitment then because "ARTIFACT_NOT_DERIVED"
    else if a.domain.chainId ≠ t.gate.chainId ∨ a.domain.verifyingContract ≠ t.gate.gate then
      because "DOMAIN_MISMATCH"
    else passed

def principalSigningHash (a : GateArtifact) : Option Digest32 := eip712SigningHash a.domain a.mandateDigest

def agentSigningHash (a : GateArtifact) : Option Digest32 := eip712Hash a.domain a.commitment

end Artifact

section Built
variable [Keccak] {a : GateArtifact} {src : ArtifactSource} {t : ArtifactTerms} {width : Nat} {value : Int}

omit [Keccak] in
theorem unsigned_ok {bits : BitVec width} (fits : unsigned width value = some bits) :
    (bits.toNat : Int) = value := by
  unfold unsigned at fits
  split at fits
  next bound =>
    obtain rfl := some.inj fits
    rw [BitVec.toNat_ofInt, Int.toNat_of_nonneg (Int.emod_nonneg _ (by positivity))]
    exact Int.emod_eq_of_lt bound.1 (by exact_mod_cast bound.2)
  · cases fits

omit [Keccak] in
theorem signed_ok {bits : BitVec width} (fits : signed width value = some bits) : bits.toInt = value := by
  unfold signed at fits
  split at fits
  next bound =>
    obtain rfl := some.inj fits
    rw [BitVec.toInt_ofInt, Int.bmod_eq_of_le_mul_two]
    · push_cast; omega
    · push_cast; omega
  · cases fits

structure MandateFields (src : ArtifactSource) (t : ArtifactTerms) (m : TextMandate) : Prop where
  mandateId : gateMandateId src = some m.mandateId
  nonce : (m.nonce.toNat : Int) = t.nonce
  principal : m.principal = t.principal
  agent : m.agent = t.agent
  limit : ∃ cost, buyCost t.market t.quantity = some cost ∧ (m.economicLimit.atoms.toNat : Int) = cost
  created : m.createdAtUnixSeconds.toInt = src.evaluatedAt
  expires : m.expiresAtUnixSeconds.toInt = src.validUntil

theorem gateMandate_ok {m : TextMandate} (made : gateMandate src t = some m) : MandateFields src t m := by
  unfold gateMandate at made
  obtain ⟨mandateId, named, made⟩ := bind_eq_some_iff.mp made
  obtain ⟨nonce, numbered, made⟩ := bind_eq_some_iff.mp made
  obtain ⟨gross, _, made⟩ := bind_eq_some_iff.mp made
  obtain ⟨maxNotional, _, made⟩ := bind_eq_some_iff.mp made
  obtain ⟨cost, costs, made⟩ := bind_eq_some_iff.mp made
  obtain ⟨limit, limited, made⟩ := bind_eq_some_iff.mp made
  obtain ⟨created, begins, made⟩ := bind_eq_some_iff.mp made
  obtain ⟨expires, ends, made⟩ := bind_eq_some_iff.mp made
  unfold settle at limited
  obtain ⟨decimals, _, limited⟩ := bind_eq_some_iff.mp limited
  obtain ⟨atoms, held, limited⟩ := bind_eq_some_iff.mp limited
  rw [← some.inj made]
  refine ⟨named, unsigned_ok numbered, rfl, rfl, ⟨cost, costs, ?_⟩, signed_ok begins, signed_ok ends⟩
  rw [← some.inj limited]
  exact unsigned_ok held

structure CandidateFields (src : ArtifactSource) (t : ArtifactTerms) (c : TextCandidate) : Prop where
  agent : c.agent = t.agent
  quantity : (c.quantity.atoms.toNat : Int) = t.quantity
  evaluation : c.evaluationStateDigest = src.authorizationId

theorem gateCandidate_ok {c : TextCandidate} (made : gateCandidate src t = some c) : CandidateFields src t c := by
  unfold gateCandidate at made
  obtain ⟨gross, _, made⟩ := bind_eq_some_iff.mp made
  obtain ⟨decimals, _, made⟩ := bind_eq_some_iff.mp made
  obtain ⟨atoms, held, made⟩ := bind_eq_some_iff.mp made
  obtain ⟨priceDecimals, _, made⟩ := bind_eq_some_iff.mp made
  obtain ⟨price, _, made⟩ := bind_eq_some_iff.mp made
  obtain ⟨notional, _, made⟩ := bind_eq_some_iff.mp made
  obtain ⟨fees, _, made⟩ := bind_eq_some_iff.mp made
  obtain ⟨snapshot, _, made⟩ := bind_eq_some_iff.mp made
  rw [← some.inj made]
  exact ⟨rfl, unsigned_ok held, rfl⟩

structure BuiltFrom (src : ArtifactSource) (t : ArtifactTerms) (a : GateArtifact) : Prop where
  mandate : gateMandate src t = some a.mandate
  candidate : gateCandidate src t = some a.candidate
  cost : buyCost t.market t.quantity = some a.terms.fundingLimit
  recipient : a.terms.recipient = t.principal
  deadline : a.terms.deadline = t.deadline
  data : a.terms.executionData = "0x"
  mandateDigest : (encodeGateMandate a.mandate).map keccakDigest = some a.mandateDigest
  candidateDigest : (encodeGateCandidate a.candidate).map keccakDigest = some a.candidateDigest
  committed : executionCommitment a.mandateDigest a.candidateDigest a.terms = some a.commitment
  domain : a.domain = gateDomain t.gate.chainId t.gate.gate

theorem buildGateArtifact_ok (built : buildGateArtifact src t = some a) : BuiltFrom src t a := by
  unfold buildGateArtifact at built
  obtain ⟨mandate, mandated, built⟩ := bind_eq_some_iff.mp built
  obtain ⟨candidate, proposed, built⟩ := bind_eq_some_iff.mp built
  obtain ⟨cost, costs, built⟩ := bind_eq_some_iff.mp built
  obtain ⟨mandateBytes, encoded, built⟩ := bind_eq_some_iff.mp built
  obtain ⟨candidateBytes, encoded', built⟩ := bind_eq_some_iff.mp built
  obtain ⟨commitment, committed, built⟩ := bind_eq_some_iff.mp built
  rw [← some.inj built]
  exact ⟨mandated, proposed, costs, rfl, rfl, rfl, by rw [encoded]; rfl, by rw [encoded']; rfl, committed, rfl⟩

theorem checkGateArtifact_built (built : buildGateArtifact src t = some a) (before : t.deadline < src.validUntil) :
    checkGateArtifact a src t = passed := by
  have parts := buildGateArtifact_ok built
  have mandate := gateMandate_ok parts.mandate
  have candidate := gateCandidate_ok parts.candidate
  obtain ⟨mandateBytes, encoded, hashed⟩ := Option.map_eq_some_iff.mp parts.mandateDigest
  obtain ⟨candidateBytes, encoded', hashed'⟩ := Option.map_eq_some_iff.mp parts.candidateDigest
  obtain ⟨cost, costs, limit⟩ := mandate.limit
  obtain rfl := some.inj (costs.symm.trans parts.cost)
  unfold checkGateArtifact
  simp [built, parts.cost, mandate.mandateId, Int.not_le.mpr before, mandate.principal, parts.recipient, mandate.agent,
    candidate.agent, candidate.quantity, limit, parts.data, mandate.nonce, mandate.expires, encoded, encoded',
    parts.committed, hashed, hashed', parts.domain, gateDomain]

theorem checkGateArtifact_domain (name version : String) :
    checkGateArtifact { a with domain := { a.domain with name, version } } src t = checkGateArtifact a src t := rfl

end Built
section Derived
variable [Keccak] {a : GateArtifact} {src : ArtifactSource} {t : ArtifactTerms}

/-- What a checked artifact has in common with the one `src` and `t` determine: all that is signed
but the name and version of the domain. -/
structure DerivedFrom (src : ArtifactSource) (t : ArtifactTerms) (a expected : GateArtifact) : Prop where
  built : buildGateArtifact src t = some expected
  mandateDigest : a.mandateDigest = expected.mandateDigest
  candidateDigest : a.candidateDigest = expected.candidateDigest
  commitment : a.commitment = expected.commitment
  chain : a.domain.chainId = expected.domain.chainId
  contract : a.domain.verifyingContract = expected.domain.verifyingContract
  committed : executionCommitment a.mandateDigest a.candidateDigest a.terms = some a.commitment

omit [Keccak] in
theorem ite_because {p : Prop} [Decidable p] {reason : String} {rest : Checked} :
    (if p then because reason else rest) = some none ↔ ¬p ∧ rest = some none := by
  split
  next holds => simp [because, holds]
  next fails => simp [fails]

theorem checkGateArtifact_passed (checked : checkGateArtifact a src t = passed) :
    ∃ expected, DerivedFrom src t a expected := by
  unfold checkGateArtifact at checked
  obtain ⟨expected, built, checked⟩ := bind_eq_some_iff.mp checked
  obtain ⟨cost, _, checked⟩ := bind_eq_some_iff.mp checked
  obtain ⟨mandateId, _, checked⟩ := bind_eq_some_iff.mp checked
  simp only [ite_because] at checked
  obtain ⟨_, _, _, _, _, _, _, _, checked⟩ := checked
  obtain ⟨mandate, _, checked⟩ := bind_eq_some_iff.mp checked
  obtain ⟨candidate, _, checked⟩ := bind_eq_some_iff.mp checked
  obtain ⟨commitment, committed, checked⟩ := bind_eq_some_iff.mp checked
  simp only [ite_because, not_or, not_not] at checked
  obtain ⟨_, rfl, ⟨mandateSame, candidateSame, commitmentSame⟩, ⟨chain, contract⟩, _⟩ := checked
  have domain := (buildGateArtifact_ok built).domain
  exact ⟨expected, built, mandateSame, candidateSame, commitmentSame, by rw [domain]; exact chain,
    by rw [domain]; exact contract, committed⟩

theorem DerivedFrom.signed {expected : GateArtifact} (derived : DerivedFrom src t a expected)
    (named : a.domain.name = "Mandate") (versioned : a.domain.version = "1") :
    principalSigningHash a = principalSigningHash expected := by
  have domain := (buildGateArtifact_ok derived.built).domain
  have same : a.domain = expected.domain := by
    have chain := derived.chain
    have contract := derived.contract
    rw [domain] at chain contract ⊢
    cases told : a.domain
    simp_all [gateDomain]
  rw [principalSigningHash, principalSigningHash, same, derived.mandateDigest]

omit [Keccak] in
theorem digest_width (d : Digest32) : (Digest32.bytes d).length = 32 := by
  simp [Digest32.bytes]

theorem commitmentMessage_digest {m m' c c' : Digest32} {terms terms' : GateTerms} {message : Bytes}
    (here : commitmentMessage m c terms = some message) (there : commitmentMessage m' c' terms' = some message) :
    m = m' := by
  unfold commitmentMessage at here there
  obtain ⟨recipient, _, here⟩ := bind_eq_some_iff.mp here
  obtain ⟨data, _, here⟩ := bind_eq_some_iff.mp here
  obtain ⟨recipient', _, there⟩ := bind_eq_some_iff.mp there
  obtain ⟨data', _, there⟩ := bind_eq_some_iff.mp there
  have same := (some.inj here).trans (some.inj there).symm
  obtain ⟨_, same⟩ := List.append_inj same rfl
  obtain ⟨digest, _⟩ := List.append_inj same (by rw [digest_width, digest_width])
  rw [← Digest32.ofBytes_bytes m, digest, Digest32.ofBytes_bytes]

end Derived

end Mandate.Evm
