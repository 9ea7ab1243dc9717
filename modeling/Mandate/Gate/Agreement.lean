import Mandate.Gate.Unambiguous
import Mandate.Gate.Validity

/-! The two codecs compared. The gate and the kernel accept the same structs, but for what the
kernel's text decoding loses (a mark in front) and what the gate's lengths lose (their high bits). -/
set_option linter.dupNamespace false
namespace Mandate.Gate
open Core Kernel Lib.Wire Lib.Text Lib.Prefix List
open Option (some.inj)

def Located.unmarked (s : Located) : Located := ⟨stripMark s.bytes, s.following⟩

def droppedMandate (m : GateMandate Located Address) : GateMandate Located Address := m.map Located.unmarked id
def droppedCandidate (c : GateCandidate Located Address) : GateCandidate Located Address :=
  c.map Located.unmarked id

/-- Every length and count of the struct is one its encoding can tell. -/
structure Untruncated (m : GateMandate Located Address) : Prop where
  texts : ∀ s ∈ m.texts, s.bytes.length < 65536
  issuers : m.allowedIssuers.length < 65536
  chains : m.allowedChains.length < 65536
  venues : m.allowedVenues.length < 65536

/-- The bytes of the struct are also those of one without cut lengths, in one unit, that is
valid once its marks are dropped. -/
def HidesAnother [Keccak] (m : GateMandate Located Address) : Prop :=
  ∃ other, Untruncated other ∧ encodeMandate other = encodeMandate m ∧
    (droppedMandate other).maxNotional.unit.bytes = (droppedMandate other).economicLimit.unit.bytes ∧
    validateMandate (droppedMandate other) = .valid

structure MandateAgrees [Keccak] (m : GateMandate Located Address) : Prop where
  accepts : validateMandate m = .valid ↔
    ∃ bytes k, encodeMandate m = some bytes ∧ Kernel.decodeMandate bytes = .ok k
  same : validateMandate m = .valid → ∃ k g, toGateMandate k = some g ∧ g.spelled = m.wire ∧
    encodeMandate m = some (Kernel.encodeMandate k) ∧ encodeGateMandate g = some (Kernel.encodeMandate k) ∧
    Kernel.decodeMandate (Kernel.encodeMandate k) = .ok k ∧ mandateDigest m = some (Kernel.mandateDigest k)
  injective : ∀ other, validateMandate m = .valid → validateMandate other = .valid →
    encodeMandate other = encodeMandate m → other.map Located.bytes id = m.map Located.bytes id

structure CandidateAgrees [Keccak] (c : GateCandidate Located Address) : Prop where
  accepts : isValidCandidate c = true ↔
    ∃ bytes k, encodeCandidate c = some bytes ∧ Kernel.decodeCandidate bytes = .ok k
  same : isValidCandidate c = true → ∃ k g, toGateCandidate k = some g ∧ g.spelled = c.wire ∧
    encodeCandidate c = some (Kernel.encodeCandidate k) ∧
    encodeGateCandidate g = some (Kernel.encodeCandidate k) ∧
    Kernel.decodeCandidate (Kernel.encodeCandidate k) = .ok k ∧
    candidateDigest c = some (Kernel.candidateDigest k)
  injective : ∀ other, isValidCandidate c = true → isValidCandidate other = true →
    encodeCandidate other = encodeCandidate c → other.map Located.bytes id = c.map Located.bytes id

section Wires

theorem partyText_unmarked (a : Address) : Prod.map stripMark stripMark (partyText a) = partyText a := by
  rw [← addressParty_wire, wireParty, Prod.map, stripMark_wireText, stripMark_wireText]

theorem map_unmarked (values : List Located) :
    (values.map Located.unmarked).map Located.bytes = (values.map Located.bytes).map stripMark := by
  rw [map_map, map_map]
  rfl

theorem droppedMandate_wire (m : GateMandate Located Address) :
    (droppedMandate m).wire = m.wire.unmarked := by
  simp only [droppedMandate, GateMandate.wire, GateMandate.unmarked, GateMandate.map, partyText_unmarked,
    map_unmarked, id]
  rfl

theorem droppedCandidate_wire (c : GateCandidate Located Address) :
    (droppedCandidate c).wire = c.wire.unmarked := by
  simp only [droppedCandidate, GateCandidate.wire, GateCandidate.unmarked, GateCandidate.map, partyText_unmarked,
    id]
  rfl

theorem addressText_short (a : Address) : Fits (partyText a).1 ∧ Fits (partyText a).2 := by
  have kind := wireText_length (addressParty a).kind
  have value := wireText_length (addressParty a).value
  simp only [IDENTIFIER_MAX_LENGTH] at kind value
  rw [← addressParty_wire, wireParty, Fits, Fits]
  dsimp only
  omega

theorem partyText_inj {a b : Address} (same : partyText a = partyText b) : a = b := by
  rw [← addressParty_wire, ← addressParty_wire, wireParty, wireParty] at same
  have ids : (addressParty a).value = (addressParty b).value := wireText_inj (Prod.mk.inj same).2
  have value : ∀ address, (addressParty address).value.1 = Address.toHex address := fun _ => rfl
  have texts : Address.toHex a = Address.toHex b := by rw [← value, ← value, ids]
  have first : hexToBytes (Address.toHex a) = some (Address.bytes a) := hexToBytes_bytesToHex _
  have second : hexToBytes (Address.toHex b) = some (Address.bytes b) := hexToBytes_bytesToHex _
  rw [texts, second] at first
  have spelled : beBytes 20 b.toNat ++ [] = beBytes 20 a.toNat ++ [] := by
    rw [append_nil, append_nil]
    exact some.inj first
  exact ((prefixFree_bits 20 rfl).next trivial trivial spelled).1.symm

variable {m : GateMandate Located Address}

theorem texts_wire : m.wire.texts = m.texts.map Located.bytes := by
  simp only [GateMandate.texts, GateMandate.wire, GateMandate.map, map_append, map_cons, map_nil]
  rfl

theorem fits_iff : m.wire.Fits ↔ Untruncated m := by
  constructor
  · intro fits
    refine ⟨?_, (length_map _).symm.trans_lt fits.issuers,
      (length_map _).symm.trans_lt fits.chains, (length_map _).symm.trans_lt fits.venues⟩
    intro s member
    refine fits.texts s.bytes ?_
    rw [texts_wire]
    exact mem_map.mpr ⟨s, member, rfl⟩
  · intro whole
    refine ⟨?_, addressText_short m.principal, addressText_short m.agent, ?_, ?_, ?_⟩
    · intro raw member
      rw [texts_wire] at member
      obtain ⟨s, inside, rfl⟩ := mem_map.mp member
      exact whole.texts s inside
    · exact (length_map _).trans_lt whole.issuers
    · exact (length_map _).trans_lt whole.chains
    · exact (length_map _).trans_lt whole.venues

theorem same_strings {other : GateMandate Located Address} (same : other.wire = m.wire) :
    other.map Located.bytes id = m.map Located.bytes id := by
  have fields := same
  simp only [GateMandate.wire, GateMandate.map, GateMandate.mk.injEq] at fields ⊢
  obtain ⟨e1, e2, e3, e4, e5, rest⟩ := fields
  exact ⟨e1, e2, e3, partyText_inj e4, partyText_inj e5, rest⟩

theorem same_candidate_strings {c other : GateCandidate Located Address} (same : other.wire = c.wire) :
    other.map Located.bytes id = c.map Located.bytes id := by
  have fields := same
  simp only [GateCandidate.wire, GateCandidate.map, GateCandidate.mk.injEq] at fields ⊢
  obtain ⟨e1, e2, e3, e4, e5, e6, e7, e8, rest⟩ := fields
  exact ⟨e1, e2, e3, e4, e5, e6, e7, partyText_inj e8, rest⟩

theorem located {w : WireMandate} {principal agent : Address} (first : w.principal = partyText principal)
    (second : w.agent = partyText agent) : ∃ m : GateMandate Located Address, m.wire = w := by
  have strings (values : List Bytes) : (values.map fun raw => (⟨raw, []⟩ : Located)).map Located.bytes = values := by
    rw [map_map]
    exact map_id _
  refine ⟨{ w.map (fun raw => (⟨raw, []⟩ : Located)) (fun _ => principal) with agent := agent }, ?_⟩
  simp only [GateMandate.wire, GateMandate.map, strings, ← first, ← second]
  rfl

end Wires

section Accepting

variable {m : GateMandate Located Address}

theorem reads_iff : (∃ bytes k, encodeMandate m = some bytes ∧ Kernel.decodeMandate bytes = .ok k) ↔
      ∃ w k, mandateSpelling m.wire = mandateSpelling w ∧ w.unmarked = wireMandate k := by
  constructor
  · rintro ⟨bytes, k, spelled, decoded⟩
    obtain ⟨w, split, same⟩ := decodeMandate_ok.mp decoded
    rw [encodeMandate_spells] at spelled
    exact ⟨w, k, (some.inj spelled).trans split, same⟩
  · rintro ⟨w, k, split, same⟩
    exact ⟨_, k, encodeMandate_spells m, decodeMandate_ok.mpr ⟨w, split, same⟩⟩

variable {c : GateCandidate Located Address}

theorem reads_candidate_iff :
    (∃ bytes k, encodeCandidate c = some bytes ∧ Kernel.decodeCandidate bytes = .ok k) ↔
      ∃ w k, candidateSpelling c.wire = candidateSpelling w ∧ w.unmarked = wireCandidate k := by
  constructor
  · rintro ⟨bytes, k, spelled, decoded⟩
    obtain ⟨w, split, same⟩ := decodeCandidate_ok.mp decoded
    rw [encodeCandidate_spells] at spelled
    exact ⟨w, k, (some.inj spelled).trans split, same⟩
  · rintro ⟨w, k, split, same⟩
    exact ⟨_, k, encodeCandidate_spells c, decodeCandidate_ok.mpr ⟨w, split, same⟩⟩

variable [Keccak]

theorem reads_hidden {m : GateMandate Located Address} :
    (∃ bytes k, encodeMandate m = some bytes ∧ Kernel.decodeMandate bytes = .ok k) ↔ HidesAnother m := by
  rw [reads_iff]
  constructor
  · rintro ⟨w, k, split, same⟩
    have fits := (mandateMeans_iff.mpr same).fits
    obtain ⟨first, second⟩ := mandateSpelling_front fits.principal (addressText_short m.principal) fits.agent
      (addressText_short m.agent) split.symm
    obtain ⟨other, rfl⟩ := located first second
    rw [← droppedMandate_wire] at same
    have maxUnit := congrArg (fun w : WireMandate => w.maxNotional.unit) same
    have limitUnit := congrArg (fun w : WireMandate => w.economicLimit.unit) same
    have unit := congrArg wireText k.oneUnit
    refine ⟨other, fits_iff.mp fits, ?_, maxUnit.trans (unit.trans limitUnit.symm), validateMandate_of_wire same⟩
    rw [encodeMandate_spells, encodeMandate_spells, split]
  · rintro ⟨other, _, split, unit, valid⟩
    have free : CollisionFree [(droppedMandate other).maxNotional.unit.bytes,
        (droppedMandate other).economicLimit.unit.bytes] := by
      rw [unit]
      intro a first b second _
      simp only [mem_cons, not_mem_nil, or_false, or_self] at first second
      rw [first, second]
    obtain ⟨k, same⟩ := (validateMandate_iff free).mp valid
    rw [droppedMandate_wire] at same
    rw [encodeMandate_spells, encodeMandate_spells] at split
    exact ⟨other.wire, k, (some.inj split).symm, same⟩

theorem valid_untruncated (valid : validateMandate m = .valid) : m.wire.Fits := by
  obtain ⟨_, ⟨asset, first⟩, _, ⟨⟨maxNotional, second⟩, economicLimit, third⟩, _, ⟨issuers, fourth⟩,
    ⟨chains, fifth⟩, ⟨venues, sixth⟩, _⟩ := validateMandate_valid.mp valid
  have text (id : Identifier) : Fits (wireText id) := by
    have short := wireText_length id
    simp only [IDENTIFIER_MAX_LENGTH] at short
    rw [Fits]
    omega
  have few (set : IdentifierSet) : (wireSet set).length < 65536 := by
    have bound := set.bounded
    simp only [MAX_SET_SIZE] at bound
    rw [wireSet, length_map]
    omega
  have members (set : IdentifierSet) : ∀ raw ∈ wireSet set, Fits raw := by
    intro raw member
    obtain ⟨id, _, rfl⟩ := mem_map.mp member
    exact text id
  refine ⟨?_, addressText_short m.principal, addressText_short m.agent, ?_, ?_, ?_⟩
  · simp only [GateMandate.texts, GateMandate.wire, GateMandate.map, cons_append, nil_append,
      forall_mem_cons, forall_mem_append, first, second, third, fourth, fifth, sixth]
    exact ⟨text _, text _, text _, text _, text _, members issuers, members chains, members venues⟩
  · simp only [GateMandate.wire, GateMandate.map, fourth]
    exact few issuers
  · simp only [GateMandate.wire, GateMandate.map, fifth]
    exact few chains
  · simp only [GateMandate.wire, GateMandate.map, sixth]
    exact few venues

theorem valid_same (free : CollisionFree [m.maxNotional.unit.bytes, m.economicLimit.unit.bytes])
    (valid : validateMandate m = .valid) : ∃ k g, toGateMandate k = some g ∧ g.spelled = m.wire ∧
      encodeMandate m = some (Kernel.encodeMandate k) ∧ encodeGateMandate g = some (Kernel.encodeMandate k) ∧
      Kernel.decodeMandate (Kernel.encodeMandate k) = .ok k ∧ mandateDigest m = some (Kernel.mandateDigest k) := by
  obtain ⟨k, same⟩ := (validateMandate_iff free).mp valid
  have kinds (a : Address) (party : PartyId) (spelled : partyText a = wireParty party) :
      party.kind.1 = PARTY_KIND_EIP155_ADDRESS := by
    rw [← addressParty_wire, wireParty, wireParty] at spelled
    exact (congrArg Subtype.val (wireText_inj (Prod.mk.inj spelled).1)).symm
  have principal := kinds _ _ (congrArg GateMandate.principal same)
  have agent := kinds _ _ (congrArg GateMandate.agent same)
  obtain ⟨g, formed⟩ : ∃ g, toGateMandate k = some g := by
    rw [toGateMandate, if_neg (by simp only [principal, agent, ne_eq, not_true, or_self, not_false_eq_true])]
    exact ⟨_, rfl⟩
  have spelled := toGateMandate_spelled formed
  have encoded : encodeMandate m = some (Kernel.encodeMandate k) := by
    rw [encodeMandate_spells, same, encodeMandate_wire]
  refine ⟨k, g, formed, spelled.trans same.symm, encoded, ?_, ?_, ?_⟩
  · rw [encodeMandate_wire, ← spelled]
    exact toGateMandate_encodes formed
  · exact decodeMandate_ok.mpr ⟨wireMandate k, encodeMandate_wire k, wireMandate_unmarked k⟩
  · rw [mandateDigest, encoded]
    rfl

theorem valid_candidate_same (valid : isValidCandidate c = true) :
    ∃ k g, toGateCandidate k = some g ∧ g.spelled = c.wire ∧
      encodeCandidate c = some (Kernel.encodeCandidate k) ∧
      encodeGateCandidate g = some (Kernel.encodeCandidate k) ∧
      Kernel.decodeCandidate (Kernel.encodeCandidate k) = .ok k ∧
      candidateDigest c = some (Kernel.candidateDigest k) := by
  obtain ⟨k, same⟩ := isValidCandidate_iff.mp valid
  have agent : k.agent.kind.1 = PARTY_KIND_EIP155_ADDRESS := by
    have spelled : partyText c.agent = wireParty k.agent := congrArg GateCandidate.agent same
    rw [← addressParty_wire, wireParty, wireParty] at spelled
    exact (congrArg Subtype.val (wireText_inj (Prod.mk.inj spelled).1)).symm
  obtain ⟨g, formed⟩ : ∃ g, toGateCandidate k = some g := by
    rw [toGateCandidate, if_neg (not_not.mpr agent)]
    exact ⟨_, rfl⟩
  have spelled := toGateCandidate_spelled formed
  have encoded : encodeCandidate c = some (Kernel.encodeCandidate k) := by
    rw [encodeCandidate_spells, same, encodeCandidate_wire]
  refine ⟨k, g, formed, spelled.trans same.symm, encoded, ?_, ?_, ?_⟩
  · rw [encodeCandidate_wire, ← spelled]
    exact toGateCandidate_encodes formed
  · exact decodeCandidate_ok.mpr ⟨wireCandidate k, encodeCandidate_wire k, wireCandidate_unmarked k⟩
  · rw [candidateDigest, encoded]
    rfl

theorem mandateAgrees_iff (free : CollisionFree [m.maxNotional.unit.bytes, m.economicLimit.unit.bytes]) :
    MandateAgrees m ↔ (HidesAnother m → validateMandate m = .valid) := by
  constructor
  · intro agrees hidden
    exact agrees.accepts.mpr (reads_hidden.mpr hidden)
  · intro shown
    refine ⟨?_, valid_same free, ?_⟩
    · rw [reads_hidden]
      refine ⟨?_, shown⟩
      intro valid
      obtain ⟨k, _, _, _, encoded, _, decoded, _⟩ := valid_same free valid
      exact reads_hidden.mp ⟨_, k, encoded, decoded⟩
    · intro other valid valid' encoded
      rw [encodeMandate_spells, encodeMandate_spells] at encoded
      exact same_strings (mandateSpelling_inj (valid_untruncated valid') (valid_untruncated valid)
        (some.inj encoded))

theorem hidden_iff (whole : Untruncated m)
    (free : CollisionFree [(droppedMandate m).maxNotional.unit.bytes, (droppedMandate m).economicLimit.unit.bytes]) :
    HidesAnother m ↔ validateMandate (droppedMandate m) = .valid := by
  constructor
  · rintro ⟨other, whole', encoded, unit, valid⟩
    rw [encodeMandate_spells, encodeMandate_spells] at encoded
    have wires := mandateSpelling_inj (fits_iff.mpr whole') (fits_iff.mpr whole) (some.inj encoded)
    have free' : CollisionFree [(droppedMandate other).maxNotional.unit.bytes,
        (droppedMandate other).economicLimit.unit.bytes] := by
      intro a first b second hashed
      simp only [mem_cons, not_mem_nil, or_false, unit, or_self] at first second
      rw [first, second]
    obtain ⟨k, same⟩ := (validateMandate_iff free').mp valid
    rw [droppedMandate_wire, wires, ← droppedMandate_wire] at same
    exact validateMandate_of_wire same
  · intro valid
    obtain ⟨k, same⟩ := (validateMandate_iff free).mp valid
    have maxUnit := congrArg (fun w : WireMandate => w.maxNotional.unit) same
    have limitUnit := congrArg (fun w : WireMandate => w.economicLimit.unit) same
    exact ⟨m, whole, rfl, maxUnit.trans ((congrArg wireText k.oneUnit).trans limitUnit.symm), valid⟩

omit [Keccak] in
theorem reads_dropped : (∃ bytes k, encodeCandidate c = some bytes ∧ Kernel.decodeCandidate bytes = .ok k) ↔
      isValidCandidate (droppedCandidate c) = true := by
  rw [reads_candidate_iff, isValidCandidate_iff, droppedCandidate_wire]
  constructor
  · rintro ⟨w, k, split, same⟩
    have means := candidateMeans_iff.mpr same
    have fits := means.fits_of_same (addressText_short c.agent) split
    rw [← candidateSpelling_inj fits means.fits split] at same
    exact ⟨k, same⟩
  · rintro ⟨k, same⟩
    exact ⟨c.wire, k, rfl, same⟩

theorem candidateAgrees_iff :
    CandidateAgrees c ↔ (isValidCandidate (droppedCandidate c) = true → isValidCandidate c = true) := by
  constructor
  · intro agrees valid
    exact agrees.accepts.mpr (reads_dropped.mpr valid)
  · intro shown
    have fits {c : GateCandidate Located Address} (valid : isValidCandidate c = true) : c.wire.Fits := by
      obtain ⟨k, same⟩ := isValidCandidate_iff.mp valid
      have means := wireCandidate_means k
      rw [← same] at means
      exact means.fits
    refine ⟨?_, valid_candidate_same, ?_⟩
    · rw [reads_dropped]
      refine ⟨?_, shown⟩
      intro valid
      obtain ⟨k, _, _, _, encoded, _, decoded, _⟩ := valid_candidate_same valid
      exact reads_dropped.mp ⟨_, k, encoded, decoded⟩
    · intro other valid valid' encoded
      rw [encodeCandidate_spells, encodeCandidate_spells] at encoded
      exact same_candidate_strings (candidateSpelling_inj (fits valid') (fits valid) (some.inj encoded))

/-- The two codecs agree on a candidate, and on a mandate whose lengths are told, exactly when
it is not valid only without its marks; on any other mandate, when its bytes hide no valid one. -/
theorem codecs_agree (m : GateMandate Located Address) (c : GateCandidate Located Address)
    (free : CollisionFree [m.maxNotional.unit.bytes, m.economicLimit.unit.bytes,
      stripMark m.maxNotional.unit.bytes, stripMark m.economicLimit.unit.bytes]) :
    (Untruncated m → (MandateAgrees m ↔
      (validateMandate (droppedMandate m) = .valid → validateMandate m = .valid))) ∧
    (¬Untruncated m → (MandateAgrees m ↔ ¬HidesAnother m)) ∧
    (CandidateAgrees c ↔ (isValidCandidate (droppedCandidate c) = true → isValidCandidate c = true)) := by
  have own : CollisionFree [m.maxNotional.unit.bytes, m.economicLimit.unit.bytes] := fun a first b second =>
    free a (mem_of_mem_take (i := 2) first) b (mem_of_mem_take (i := 2) second)
  have dropped : CollisionFree [(droppedMandate m).maxNotional.unit.bytes,
      (droppedMandate m).economicLimit.unit.bytes] := fun a first b second =>
    free a (mem_of_mem_drop (i := 2) first) b (mem_of_mem_drop (i := 2) second)
  refine ⟨?_, ?_, ?_⟩
  · intro whole
    rw [mandateAgrees_iff own, hidden_iff whole dropped]
  · intro cut
    rw [mandateAgrees_iff own]
    refine imp_congr_right fun _ => ?_
    refine iff_of_false ?_ id
    intro valid
    exact cut (fits_iff.mp (valid_untruncated valid))
  · exact candidateAgrees_iff

end Accepting

section Samples

private def sampleText (text : String) : Located := ⟨encodeText text, []⟩

private def sampleMandate (assetClass : Located) : GateMandate Located Address where
  version := 2
  mandateId := 7
  nonce := 1
  principal := 0x7e5f4552091a69125d5dfcb7b8c2659029395bdf
  agent := 0x2b5ad5c4795c026514f8317c7a215e218dccd6cf
  canonicalAsset := ⟨assetClass, sampleText "isin", sampleText "US0378331005"⟩
  side := SIDE_BUY
  maxNotional := ⟨sampleText "USD", 2, 100000⟩
  economicLimit := ⟨sampleText "USD", 2, 90000⟩
  maxDeviationBps := 50
  syntheticPolicy := SYNTHETIC_FORBIDDEN
  allowedIssuers := [sampleText "acme"]
  allowedChains := [sampleText "eip155:1", sampleText "eip155:10"]
  allowedVenues := []
  requiredCorporateActionEpoch := 3
  maxPriceAgeSeconds := 60
  maxCorporateActionAgeSeconds := 3600
  haltPolicy := HALT_FORBID_WHEN_HALTED
  createdAtUnixSeconds := 1000
  notBeforeUnixSeconds := 1000
  expiresAtUnixSeconds := 2000

private def sampleCandidate : GateCandidate Located Address where
  version := 3
  representationId := sampleText "eip155:1/erc20:0x00"
  canonicalAsset := ⟨sampleText "equity", sampleText "isin", sampleText "US0378331005"⟩
  issuer := sampleText "acme"
  chain := sampleText "eip155:1"
  venue := sampleText "venue"
  side := SIDE_BUY
  agent := 0x2b5ad5c4795c026514f8317c7a215e218dccd6cf
  quantity := ⟨sampleText "token", 18, 1000⟩
  executionPrice := ⟨sampleText "USD", sampleText "token", 2, 19000⟩
  notional := ⟨sampleText "USD", 2, 1⟩
  feeTotal := ⟨sampleText "USD", 2, 0⟩
  evaluationStateId := sampleText "state"
  evaluationStateDigest := 1
  registrySnapshotDigest := 2
  corporateActionEpoch := 3

theorem sample_free [Keccak] (assetClass : Located) :
    CollisionFree [(sampleMandate assetClass).maxNotional.unit.bytes,
      (sampleMandate assetClass).economicLimit.unit.bytes,
      stripMark (sampleMandate assetClass).maxNotional.unit.bytes,
      stripMark (sampleMandate assetClass).economicLimit.unit.bytes] := by
  have one : stripMark (sampleText "USD").bytes = (sampleText "USD").bytes := by decide
  intro a first b second _
  simp only [sampleMandate, one, mem_cons, not_mem_nil, or_false, or_self] at first second
  rw [first, second]

theorem sample_untruncated (assetClass : Located) (short : assetClass.bytes.length < 65536) :
    Untruncated (sampleMandate assetClass) where
  texts := by
    simp only [sampleMandate, GateMandate.texts, cons_append, nil_append, forall_mem_cons]
    exact ⟨short, by decide⟩
  issuers := by
    simp only [sampleMandate]
    decide
  chains := by
    simp only [sampleMandate]
    decide
  venues := by
    simp only [sampleMandate]
    decide

theorem codecs_agree_sample : @MandateAgrees platformKeccak (sampleMandate (sampleText "equity")) ∧
    @CandidateAgrees platformKeccak sampleCandidate := by
  obtain ⟨mandates, _, candidates⟩ := @codecs_agree platformKeccak (sampleMandate (sampleText "equity"))
    sampleCandidate (@sample_free platformKeccak _)
  refine ⟨(mandates (sample_untruncated _ (by decide))).mpr fun _ => ?_, candidates.mpr fun _ => ?_⟩
  · decide +kernel
  · decide +kernel

/-- A mark in front of the asset class: the gate refuses the mandate, the kernel reads it. -/
theorem marked_mandate_disagrees : ¬∀ (keccak : Keccak) (m : GateMandate Located Address),
    @validateMandate keccak m = .valid ↔
      ∃ bytes k, encodeMandate m = some bytes ∧ Kernel.decodeMandate bytes = .ok k := by
  intro agree
  have marked := agree platformKeccak (sampleMandate ⟨[0xef, 0xbb, 0xbf] ++ encodeText "equity", []⟩)
  have refused : @validateMandate platformKeccak
      (sampleMandate ⟨[0xef, 0xbb, 0xbf] ++ encodeText "equity", []⟩) ≠ .valid := by decide +kernel
  refine refused (marked.mpr ((@reads_hidden platformKeccak _).mpr
    ⟨_, sample_untruncated _ (by decide), rfl, ?_, ?_⟩))
  · decide +kernel
  · decide +kernel

end Samples

end Mandate.Gate
