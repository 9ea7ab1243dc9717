import Mandate.Gate.Meaning
import Mandate.Kernel.Canonical

/-! The wire form of a kernel object: the one struct it is spelled by. The decoder accepts the
spellings that become an object's wire form once the marks are dropped from their strings. -/
set_option linter.dupNamespace false
namespace Mandate.Gate
open Core Kernel Lib.Wire Lib.Text List
open BitVec (ofInt ofNat)

def wireText (id : Identifier) : Bytes := encodeText id.1

def wireAsset (k : CanonicalAssetId) : GateAsset Bytes :=
  ⟨wireText k.assetClass, wireText k.idScheme, wireText k.value⟩

def wireAmount (k : ParsedAmount) : GateAmount Bytes :=
  ⟨wireText k.1.unit, ofNat 8 k.1.decimals, ofInt 256 k.1.atoms⟩

def wirePrice (k : Kernel.Price) : GatePrice Bytes :=
  ⟨wireText k.numeratorUnit, wireText k.denominatorUnit, ofNat 8 k.decimals.1,
    ofInt 256 k.atoms.1⟩

def wireParty (k : PartyId) : PartyText := (wireText k.kind, wireText k.value)

def wireSet (k : IdentifierSet) : List Bytes := k.members.map wireText

def wireCode {α : Type} (codes : WireCodes α) (key : α) : BitVec 8 := ofNat 8 (codes.code key)

def wireMandate (k : CanonicalMandate) : WireMandate where
  version := ofNat 16 k.version
  mandateId := k.mandateId
  nonce := ofInt 64 k.nonce.1
  principal := wireParty k.principal
  agent := wireParty k.agent
  canonicalAsset := wireAsset k.canonicalAsset
  side := wireCode SIDE_CODE k.side
  maxNotional := wireAmount k.maxNotional
  economicLimit := wireAmount k.economicLimit
  maxDeviationBps := ofInt 16 k.maxDeviationBps.1
  syntheticPolicy := wireCode SYNTHETIC_POLICY_CODE k.syntheticPolicy
  allowedIssuers := wireSet k.allowedIssuers
  allowedChains := wireSet k.allowedChains
  allowedVenues := wireSet k.allowedVenues
  requiredCorporateActionEpoch := ofInt 64 k.requiredCorporateActionEpoch.1
  maxPriceAgeSeconds := ofInt 32 k.maxPriceAgeSeconds.1
  maxCorporateActionAgeSeconds := ofInt 32 k.maxCorporateActionAgeSeconds.1
  haltPolicy := wireCode HALT_POLICY_CODE k.haltPolicy
  createdAtUnixSeconds := ofInt 64 k.createdAt.1
  notBeforeUnixSeconds := ofInt 64 k.notBefore.1
  expiresAtUnixSeconds := ofInt 64 k.expiresAt.1

def wireCandidate (k : ExecutionCandidate) : WireCandidate where
  version := ofNat 16 k.version
  representationId := wireText k.representationId
  canonicalAsset := wireAsset k.canonicalAsset
  issuer := wireText k.issuer
  chain := wireText k.chain
  venue := wireText k.venue
  side := wireCode SIDE_CODE k.side
  agent := wireParty k.agent
  quantity := wireAmount k.quantity
  executionPrice := wirePrice k.executionPrice
  notional := wireAmount k.notional
  feeTotal := wireAmount k.feeTotal
  evaluationStateId := wireText k.evaluationStateId
  evaluationStateDigest := k.evaluationStateDigest
  registrySnapshotDigest := k.registrySnapshotDigest
  corporateActionEpoch := ofInt 64 k.corporateActionEpoch.1

/-- The strings as the decoder hands them on: a mark in front is dropped. -/
def GateMandate.unmarked (w : WireMandate) : WireMandate := w.map stripMark (Prod.map stripMark stripMark)
def GateCandidate.unmarked (w : WireCandidate) : WireCandidate := w.map stripMark (Prod.map stripMark stripMark)

section Numbers

variable {width : Nat}

theorem ofInt_iff {bits : BitVec width} {value : Int} (low : 0 ≤ value)
    (high : value < 2 ^ width) : (bits.toNat : Int) = value ↔ bits = ofInt width value := by
  constructor
  · rintro rfl
    rw [BitVec.ofInt_natCast, BitVec.ofNat_toNat, BitVec.setWidth_eq]
  · rintro rfl
    have whole : value % ((2 ^ width : Nat) : Int) = value := Int.emod_eq_of_lt low (by exact_mod_cast high)
    rw [BitVec.toNat_ofInt, whole, Int.toNat_of_nonneg low]

theorem ofInt_signed_iff {bits : BitVec 64} (value : UnixSeconds) :
    bits.toInt = value.1 ↔ bits = ofInt 64 value.1 := by
  have bound := value.2
  simp only [INT64_MIN, INT64_MAX] at bound
  constructor
  · intro same
    rw [← same, BitVec.ofInt_toInt]
  · rintro rfl
    rw [BitVec.toInt_ofInt, Int.bmod_eq_of_le_mul_two (by norm_num; omega) (by norm_num; omega)]

theorem ofNat_iff {bits : BitVec width} {value : Nat} (small : value < 2 ^ width) :
    bits.toNat = value ↔ bits = ofNat width value := by
  constructor
  · rintro rfl
    rw [BitVec.ofNat_toNat, BitVec.setWidth_eq]
  · rintro rfl
    rw [BitVec.toNat_ofNat, Nat.mod_eq_of_lt small]

end Numbers

section Fields

theorem wireText_inj {a b : Identifier} (same : wireText a = wireText b) : a = b := by
  have first := decodeText_encodeText (identifier_ascii a)
  have second := decodeText_encodeText (identifier_ascii b)
  rw [wireText, wireText] at same
  rw [same, second] at first
  exact Subtype.ext (Option.some.inj first).symm

theorem stripMark_length (raw : Bytes) : raw.length ≤ (stripMark raw).length + 3 := by
  unfold stripMark
  split
  · simp
  · omega

theorem wireText_length (id : Identifier) : (wireText id).length ≤ IDENTIFIER_MAX_LENGTH := by
  rw [wireText, encodeText_length (identifier_ascii id)]
  exact identifier_length id

theorem textMeans_iff {raw : Bytes} {id : Identifier} : textMeans raw id ↔ stripMark raw = wireText id := by
  constructor
  · rintro ⟨_, decoded⟩
    exact (encodeText_of_decoded decoded (identifier_ascii id)).symm
  · intro spelled
    have valid : identifierBytes (stripMark raw) = true := by
      rw [spelled]
      exact identifier_spelled id
    obtain ⟨other, decoded⟩ := decoded_identifier.mpr valid
    have same := encodeText_of_decoded decoded (identifier_ascii other)
    rw [spelled] at same
    rw [wireText_inj same] at decoded
    have short := wireText_length id
    have marked := stripMark_length raw
    rw [spelled] at marked
    simp only [IDENTIFIER_MAX_LENGTH] at short
    exact ⟨by omega, decoded⟩

theorem assetMeans_iff {a : GateAsset Bytes} {k : CanonicalAssetId} :
    AssetMeans a k ↔ a.map stripMark = wireAsset k := by
  simp only [GateAsset.map, wireAsset, GateAsset.mk.injEq, ← textMeans_iff]
  constructor
  · rintro ⟨assetClass, idScheme, value⟩
    exact ⟨assetClass, idScheme, value⟩
  · rintro ⟨assetClass, idScheme, value⟩
    exact ⟨assetClass, idScheme, value⟩

theorem decimals_iff {bits : BitVec 8} {decimals : Nat} (small : decimals ≤ MAX_DECIMALS) :
    bits.toNat = decimals ↔ bits = ofNat 8 decimals := by
  simp only [MAX_DECIMALS] at small
  exact ofNat_iff (by omega)

theorem atoms_iff {bits : BitVec 256} (atoms : Atoms) :
    (bits.toNat : Int) = atoms.1 ↔ bits = ofInt 256 atoms.1 := by
  have bound := atoms.2
  simp only [UINT256_MAX] at bound
  exact ofInt_iff bound.1 (by norm_num at bound ⊢; omega)

theorem uint64_iff {bits : BitVec 64} (value : Uint64) :
    (bits.toNat : Int) = value.1 ↔ bits = ofInt 64 value.1 := by
  have bound := value.2
  simp only [UINT64_MAX] at bound
  exact ofInt_iff bound.1 (by norm_num at bound ⊢; omega)

theorem seconds32_iff {bits : BitVec 32} (value : Seconds32) :
    (bits.toNat : Int) = value.1 ↔ bits = ofInt 32 value.1 := by
  have bound := value.2
  simp only [UINT32_MAX] at bound
  exact ofInt_iff bound.1 (by norm_num at bound ⊢; omega)

theorem uint16_iff {bits : BitVec 16} (value : IntegerInRange 0 UINT16_MAX) :
    (bits.toNat : Int) = value.1 ↔ bits = ofInt 16 value.1 := by
  have bound := value.2
  simp only [UINT16_MAX] at bound
  exact ofInt_iff bound.1 (by norm_num at bound ⊢; omega)

theorem amountMeans_iff {a : GateAmount Bytes} {k : ParsedAmount} :
    AmountMeans a k ↔ a.map stripMark = wireAmount k := by
  simp only [GateAmount.map, wireAmount, GateAmount.mk.injEq, ← textMeans_iff,
    ← decimals_iff k.2.1, ← atoms_iff ⟨k.1.atoms, k.2.2⟩]
  constructor
  · rintro ⟨unit, decimals, atoms⟩
    exact ⟨unit, decimals, atoms⟩
  · rintro ⟨unit, decimals, atoms⟩
    exact ⟨unit, decimals, atoms⟩

theorem priceMeans_iff {p : GatePrice Bytes} {k : Kernel.Price} :
    PriceMeans p k ↔ p.map stripMark = wirePrice k := by
  simp only [GatePrice.map, wirePrice, GatePrice.mk.injEq, ← textMeans_iff, ← decimals_iff k.decimals.2,
    ← atoms_iff k.atoms]
  constructor
  · rintro ⟨numerator, denominator, decimals, atoms⟩
    exact ⟨numerator, denominator, decimals, atoms⟩
  · rintro ⟨numerator, denominator, decimals, atoms⟩
    exact ⟨numerator, denominator, decimals, atoms⟩

theorem partyMeans_iff {p : PartyText} {k : PartyId} :
    PartyMeans p k ↔ Prod.map stripMark stripMark p = wireParty k := by
  simp only [Prod.map, wireParty, Prod.mk.injEq, ← textMeans_iff]
  constructor
  · rintro ⟨kind, value⟩
    exact ⟨kind, value⟩
  · rintro ⟨kind, value⟩
    exact ⟨kind, value⟩

theorem setMeans_iff {values : List Bytes} {k : IdentifierSet} :
    setMeans values k ↔ values.map stripMark = wireSet k := by
  simp only [setMeans, wireSet]
  generalize k.members = ids
  constructor
  · intro means
    induction means with
    | nil => rfl
    | cons first rest ih => rw [map_cons, map_cons, textMeans_iff.mp first, ih]
  · intro same
    induction values generalizing ids with
    | nil =>
      rw [map_nil] at same
      rw [map_eq_nil_iff.mp same.symm]
      exact .nil
    | cons value values ih =>
      cases ids with
      | nil => cases same
      | cons id ids =>
        obtain ⟨first, rest⟩ := List.cons.inj same
        exact .cons (textMeans_iff.mpr first) (ih ids rest)

theorem codeMeans_iff {α : Type} {codes : WireCodes α} {code : BitVec 8} {key : α} :
    codeMeans codes code key ↔ code = wireCode codes key := by
  rw [codeMeans, eq_comm, wireCode]
  exact ofNat_iff (codes.width key)

end Fields

theorem mandateMeans_iff {w : WireMandate} {k : CanonicalMandate} :
    MandateMeans w k ↔ w.unmarked = wireMandate k := by
  have version : w.version.toNat = MANDATE_SCHEMA_VERSION ↔ w.version = ofNat 16 k.version := by
    rw [k.supported]
    exact ofNat_iff (by decide)
  simp only [GateMandate.unmarked, GateMandate.map, wireMandate, GateMandate.mk.injEq, ← partyMeans_iff,
    ← assetMeans_iff, ← amountMeans_iff, ← setMeans_iff, ← codeMeans_iff, ← uint64_iff, ← seconds32_iff,
    ← uint16_iff, ← ofInt_signed_iff, ← version]
  constructor
  · intro m
    exact ⟨m.version, m.mandateId, m.nonce, m.principal, m.agent, m.canonicalAsset, m.side, m.maxNotional,
      m.economicLimit, m.maxDeviationBps, m.syntheticPolicy, m.allowedIssuers, m.allowedChains, m.allowedVenues,
      m.epoch, m.maxPriceAge, m.maxActionAge, m.haltPolicy, m.createdAt, m.notBefore, m.expiresAt⟩
  · rintro ⟨version, mandateId, nonce, principal, agent, asset, side, maxNotional, economicLimit, deviation,
      synthetic, issuers, chains, venues, epoch, priceAge, actionAge, halt, createdAt, notBefore, expiresAt⟩
    exact ⟨version, mandateId, nonce, principal, agent, asset, side, maxNotional, economicLimit, deviation,
      synthetic, issuers, chains, venues, epoch, priceAge, actionAge, halt, createdAt, notBefore, expiresAt⟩

theorem candidateMeans_iff {w : WireCandidate} {k : ExecutionCandidate} :
    CandidateMeans w k ↔ w.unmarked = wireCandidate k := by
  have version : w.version.toNat = CANDIDATE_SCHEMA_VERSION ↔ w.version = ofNat 16 k.version := by
    rw [k.supported]
    exact ofNat_iff (by decide)
  simp only [GateCandidate.unmarked, GateCandidate.map, wireCandidate, GateCandidate.mk.injEq, ← partyMeans_iff,
    ← assetMeans_iff, ← amountMeans_iff, ← priceMeans_iff, ← textMeans_iff, ← codeMeans_iff, ← uint64_iff,
    ← version]
  constructor
  · intro c
    exact ⟨c.version, c.representationId, c.canonicalAsset, c.issuer, c.chain, c.venue, c.side, c.agent,
      c.quantity, c.executionPrice, c.notional, c.feeTotal, c.evaluationStateId, c.evaluationStateDigest,
      c.registrySnapshotDigest, c.epoch⟩
  · rintro ⟨version, representationId, asset, issuer, chain, venue, side, agent, quantity, price, notional,
      feeTotal, stateId, stateDigest, registry, epoch⟩
    exact ⟨version, representationId, asset, issuer, chain, venue, side, agent, quantity, price, notional,
      feeTotal, stateId, stateDigest, registry, epoch⟩

section Own

theorem stripMark_wireText (id : Identifier) : stripMark (wireText id) = wireText id :=
  stripMark_of_unmarked (encodeText_unmarked (identifier_ascii id))

theorem stripMark_set (k : IdentifierSet) : (wireSet k).map stripMark = wireSet k := by
  rw [wireSet, map_map]
  exact map_congr_left fun id _ => stripMark_wireText id

theorem wireMandate_unmarked (k : CanonicalMandate) : (wireMandate k).unmarked = wireMandate k := by
  simp only [GateMandate.unmarked, GateMandate.map, wireMandate, wireParty, Prod.map, wireAsset, GateAsset.map,
    wireAmount, GateAmount.map, stripMark_wireText, stripMark_set]

theorem wireCandidate_unmarked (k : ExecutionCandidate) : (wireCandidate k).unmarked = wireCandidate k := by
  simp only [GateCandidate.unmarked, GateCandidate.map, wireCandidate, wireParty, Prod.map, wireAsset,
    GateAsset.map, wireAmount, GateAmount.map, wirePrice, GatePrice.map, stripMark_wireText]

theorem wireMandate_means (k : CanonicalMandate) : MandateMeans (wireMandate k) k :=
  mandateMeans_iff.mpr (wireMandate_unmarked k)

theorem wireCandidate_means (k : ExecutionCandidate) : CandidateMeans (wireCandidate k) k :=
  candidateMeans_iff.mpr (wireCandidate_unmarked k)

end Own

section Decoding

theorem gives_header (tag : String) {version : Nat} (small : version < 65536) :
    Gives (readHeader tag version) (encodeText tag ++ beBytes 2 version) () := by
  have tagged : Gives (readRawTag tag) (encodeText tag) () := by
    refine (Gives.raw _ (encodeText tag)).check ?_
    rw [if_pos rfl]
    exact Gives.pure ()
  have versioned : Gives (readVersion version) (beBytes 2 version) () := by
    refine (gives_u16 small).check ?_
    rw [if_pos rfl]
    exact Gives.pure ()
  exact tagged.bind versioned

theorem takes_matched {same : Prop} [Decidable same] (code : CoreErrorCode) :
    Takes (if same then pure () else Reader.fail code : CoreReader Unit) fun used _ => same ∧ used = [] := by
  split
  · rename_i matched
    refine (Takes.pure ()).mono ?_
    rintro _ _ ⟨rfl, _⟩
    exact ⟨matched, rfl⟩
  · exact (Takes.fail _).mono fun _ _ impossible => impossible.elim

theorem takes_header (tag : String) (version : Nat) :
    Takes (readHeader tag version) fun used _ => used = encodeText tag ++ beBytes 2 version := by
  have tagged : Takes (readRawTag tag) fun used _ => used = encodeText tag := by
    refine ((Takes.raw _ _).bind fun bytes => takes_matched _).mono ?_
    rintro _ _ ⟨⟨rfl, _⟩, same, rfl⟩
    rw [append_nil, same]
  have versioned : Takes (readVersion version) fun used _ => used = beBytes 2 version := by
    refine (takes_u16.bind fun found => takes_matched _).mono ?_
    rintro _ _ ⟨⟨_, rfl⟩, same, rfl⟩
    rw [append_nil, same]
  refine (tagged.bind fun _ => versioned).mono ?_
  rintro _ _ ⟨first, second⟩
  rw [first, second]

variable {bytes : Bytes}

theorem decodeMandate_ok {k : CanonicalMandate} :
    decodeMandate bytes = .ok k ↔ ∃ w : WireMandate, bytes = mandateSpelling w ∧ w.unmarked = wireMandate k := by
  rw [decodeMandate, @decodeWith_ok _ _ _ _ writeMandate]
  constructor
  · rintro ⟨input, stop, run, valid⟩
    obtain ⟨_, _, split, tagged, body⟩ := whole_takes (takes_header _ _) takes_mandate run
    obtain ⟨w, spelled, means⟩ := body k valid
    refine ⟨w, ?_, mandateMeans_iff.mp means⟩
    rw [split, tagged, spelled, mandateSpelling, means.version, List.append_assoc]
  · rintro ⟨w, spelled, same⟩
    have means := mandateMeans_iff.mpr same
    rw [mandateSpelling, means.version, ← List.append_assoc] at spelled
    obtain ⟨stop, run⟩ := whole_gives (t := CoreErrorCode.encodingTrailingBytes)
      (gives_header MANDATE_TAG (by decide : MANDATE_SCHEMA_VERSION < 65536)) (gives_mandate means)
    rw [← spelled] at run
    exact ⟨_, stop, run, parseMandate_self k⟩

theorem decodeCandidate_ok {k : ExecutionCandidate} : decodeCandidate bytes = .ok k ↔
    ∃ w : WireCandidate, bytes = candidateSpelling w ∧ w.unmarked = wireCandidate k := by
  rw [decodeCandidate, @decodeWith_ok _ _ _ _ writeCandidate]
  constructor
  · rintro ⟨input, stop, run, valid⟩
    obtain ⟨_, _, split, tagged, body⟩ := whole_takes (takes_header _ _) takes_candidate run
    obtain ⟨w, spelled, means⟩ := body k valid
    refine ⟨w, ?_, candidateMeans_iff.mp means⟩
    rw [split, tagged, spelled, candidateSpelling, means.version, List.append_assoc]
  · rintro ⟨w, spelled, same⟩
    have means := candidateMeans_iff.mpr same
    rw [candidateSpelling, means.version, ← List.append_assoc] at spelled
    obtain ⟨stop, run⟩ := whole_gives (t := CoreErrorCode.encodingTrailingBytes)
      (gives_header CANDIDATE_TAG (by decide : CANDIDATE_SCHEMA_VERSION < 65536)) (gives_candidate means)
    rw [← spelled] at run
    exact ⟨_, stop, run, parseCandidate_self k⟩

end Decoding

end Mandate.Gate
