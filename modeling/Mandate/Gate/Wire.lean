import Mandate.Gate.WireForm

/-! The TypeScript side of the structs: strings are texts, an address is its lowercase hex,
and nothing is sorted. A parsed object has a gate form when its parties are addresses. -/
set_option linter.dupNamespace false
namespace Mandate.Gate
open Core Kernel Lib.Wire Lib.Text List

abbrev TextMandate := GateMandate String String
abbrev TextCandidate := GateCandidate String String

def writeGateAsset (a : GateAsset String) : Writer :=
  writeStr a.assetClass ++ (writeStr a.idScheme ++ writeStr a.value)

def writeGateAmount (a : GateAmount String) : Writer :=
  writeStr a.unit ++ (writeU8 a.decimals.toNat ++ writeU256 a.atoms.toNat)

def writeGateParty (address : String) : Writer :=
  writeStr PARTY_KIND_EIP155_ADDRESS ++ writeStr address

def writeSetAsGiven (values : List String) : Writer := writeList writeStr values

/-- Written as it is given; a writer throws what its width cannot hold. -/
def encodeGateMandate (m : TextMandate) : Option Bytes :=
  Writer.raw (encodeText MANDATE_TAG) ++ (writeU16 m.version.toNat ++ (writeDigest m.mandateId ++
    (writeU64 m.nonce.toNat ++ (writeGateParty m.principal ++ (writeGateParty m.agent ++
      (writeGateAsset m.canonicalAsset ++ (writeU8 m.side.toNat ++ (writeGateAmount m.maxNotional ++
        (writeGateAmount m.economicLimit ++ (writeU16 m.maxDeviationBps.toNat ++
          (writeU8 m.syntheticPolicy.toNat ++ (writeSetAsGiven m.allowedIssuers ++
            (writeSetAsGiven m.allowedChains ++ (writeSetAsGiven m.allowedVenues ++
              (writeU64 m.requiredCorporateActionEpoch.toNat ++ (writeU32 m.maxPriceAgeSeconds.toNat ++
                (writeU32 m.maxCorporateActionAgeSeconds.toNat ++ (writeU8 m.haltPolicy.toNat ++
                  (writeI64 m.createdAtUnixSeconds.toInt ++ (writeI64 m.notBeforeUnixSeconds.toInt ++
                    writeI64 m.expiresAtUnixSeconds.toInt))))))))))))))))))))

def encodeGateCandidate (c : TextCandidate) : Option Bytes :=
  Writer.raw (encodeText CANDIDATE_TAG) ++ (writeU16 c.version.toNat ++ (writeStr c.representationId ++
    (writeGateAsset c.canonicalAsset ++ (writeStr c.issuer ++ (writeStr c.chain ++ (writeStr c.venue ++
      (writeU8 c.side.toNat ++ (writeGateParty c.agent ++ (writeGateAmount c.quantity ++
        ((writeStr c.executionPrice.numeratorUnit ++ (writeStr c.executionPrice.denominatorUnit ++
          (writeU8 c.executionPrice.decimals.toNat ++ writeU256 c.executionPrice.atoms.toNat))) ++
            (writeGateAmount c.notional ++ (writeGateAmount c.feeTotal ++ (writeStr c.evaluationStateId ++
              (writeDigest c.evaluationStateDigest ++ (writeDigest c.registrySnapshotDigest ++
                writeU64 c.corporateActionEpoch.toNat)))))))))))))))

def gateAsset (a : CanonicalAssetId) : GateAsset String := ⟨a.assetClass.1, a.idScheme.1, a.value.1⟩

def gateAmount (a : ParsedAmount) : GateAmount String :=
  ⟨a.1.unit.1, BitVec.ofNat 8 a.1.decimals, BitVec.ofInt 256 a.1.atoms⟩

def gatePrice (p : Kernel.Price) : GatePrice String :=
  ⟨p.numeratorUnit.1, p.denominatorUnit.1, BitVec.ofNat 8 p.decimals.1, BitVec.ofInt 256 p.atoms.1⟩

def gateSet (set : IdentifierSet) : List String := set.members.map (·.1)

def toGateMandate (m : CanonicalMandate) : Option TextMandate :=
  if m.principal.kind.1 ≠ PARTY_KIND_EIP155_ADDRESS ∨ m.agent.kind.1 ≠ PARTY_KIND_EIP155_ADDRESS then none
  else some
    { version := BitVec.ofNat 16 m.version
      mandateId := m.mandateId
      nonce := BitVec.ofInt 64 m.nonce.1
      principal := m.principal.value.1
      agent := m.agent.value.1
      canonicalAsset := gateAsset m.canonicalAsset
      side := wireCode SIDE_CODE m.side
      maxNotional := gateAmount m.maxNotional
      economicLimit := gateAmount m.economicLimit
      maxDeviationBps := BitVec.ofInt 16 m.maxDeviationBps.1
      syntheticPolicy := wireCode SYNTHETIC_POLICY_CODE m.syntheticPolicy
      allowedIssuers := gateSet m.allowedIssuers
      allowedChains := gateSet m.allowedChains
      allowedVenues := gateSet m.allowedVenues
      requiredCorporateActionEpoch := BitVec.ofInt 64 m.requiredCorporateActionEpoch.1
      maxPriceAgeSeconds := BitVec.ofInt 32 m.maxPriceAgeSeconds.1
      maxCorporateActionAgeSeconds := BitVec.ofInt 32 m.maxCorporateActionAgeSeconds.1
      haltPolicy := wireCode HALT_POLICY_CODE m.haltPolicy
      createdAtUnixSeconds := BitVec.ofInt 64 m.createdAt.1
      notBeforeUnixSeconds := BitVec.ofInt 64 m.notBefore.1
      expiresAtUnixSeconds := BitVec.ofInt 64 m.expiresAt.1 }

def toGateCandidate (c : ExecutionCandidate) : Option TextCandidate :=
  if c.agent.kind.1 ≠ PARTY_KIND_EIP155_ADDRESS then none
  else some
    { version := BitVec.ofNat 16 c.version
      representationId := c.representationId.1
      canonicalAsset := gateAsset c.canonicalAsset
      issuer := c.issuer.1
      chain := c.chain.1
      venue := c.venue.1
      side := wireCode SIDE_CODE c.side
      agent := c.agent.value.1
      quantity := gateAmount c.quantity
      executionPrice := gatePrice c.executionPrice
      notional := gateAmount c.notional
      feeTotal := gateAmount c.feeTotal
      evaluationStateId := c.evaluationStateId.1
      evaluationStateDigest := c.evaluationStateDigest
      registrySnapshotDigest := c.registrySnapshotDigest
      corporateActionEpoch := BitVec.ofInt 64 c.corporateActionEpoch.1 }

/-- The strings and parties of a struct as the bytes they are spelled by. -/
def addressText (address : String) : PartyText := (encodeText PARTY_KIND_EIP155_ADDRESS, encodeText address)

def GateMandate.spelled (m : TextMandate) : WireMandate := m.map encodeText addressText
def GateCandidate.spelled (c : TextCandidate) : WireCandidate := c.map encodeText addressText

def GateMandate.texts {σ π : Type} (m : GateMandate σ π) : List σ :=
  [m.canonicalAsset.assetClass, m.canonicalAsset.idScheme, m.canonicalAsset.value, m.maxNotional.unit,
    m.economicLimit.unit] ++ (m.allowedIssuers ++ (m.allowedChains ++ m.allowedVenues))

def GateCandidate.texts {σ π : Type} (c : GateCandidate σ π) : List σ :=
  [c.representationId, c.canonicalAsset.assetClass, c.canonicalAsset.idScheme, c.canonicalAsset.value, c.issuer,
    c.chain, c.venue, c.quantity.unit, c.executionPrice.numeratorUnit, c.executionPrice.denominatorUnit,
    c.notional.unit, c.feeTotal.unit, c.evaluationStateId]

section Written

theorem written_next {first second : Writer} {front rest : Bytes} (head : first = some front)
    (tail : second = some rest) : first ++ second = some (front ++ rest) := by
  rw [head, tail]
  rfl

variable {width : Nat}

theorem written_number (size : Nat) (same : width = 8 * size) (bits : BitVec width) :
    Writer.uint size bits.toNat = some (beBytes size bits.toNat) := by
  have total : 2 ^ width = 256 ^ size := by
    rw [same, pow_mul]
    norm_num
  have inside := bits.isLt
  rw [total] at inside
  exact Writer.uint_some.mpr ⟨Int.natCast_nonneg _, by exact_mod_cast inside, rfl⟩

theorem written_count {n : Nat} (small : n < 65536) : writeU16 n = some (beBytes 2 n) :=
  Writer.uint_some.mpr ⟨Int.natCast_nonneg _, by exact_mod_cast small, rfl⟩

theorem written_seconds (bits : BitVec 64) : writeI64 bits.toInt = some (beBytes 8 bits.toNat) := by
  have value := BitVec.toInt_eq_toNat_cond bits
  have inside := bits.isLt
  norm_num at value inside
  unfold writeI64 writeSigned
  by_cases negative : 2 * bits.toNat < 18446744073709551616
  · rw [if_pos negative] at value
    rw [value, if_pos (by norm_num; omega), if_neg (by omega)]
    exact written_number 8 rfl bits
  · rw [if_neg negative] at value
    have back : bits.toInt + 256 ^ 8 = bits.toNat := by
      rw [value]
      norm_num
    rw [if_pos (by norm_num; omega), if_pos (by omega), back]
    exact written_number 8 rfl bits

theorem written_text {text : String} (short : (encodeText text).length ≤ 1024) :
    writeStr text = some (stringBytes (encodeText text)) := by
  rw [writeStr, if_neg (by omega)]
  exact written_next (written_count (by omega)) rfl

theorem written_kind :
    writeStr PARTY_KIND_EIP155_ADDRESS = some (stringBytes (encodeText PARTY_KIND_EIP155_ADDRESS)) := by
  decide

theorem written_each {α : Type} {write : α → Writer} {spell : α → Bytes} {items : List α}
    (all : ∀ item ∈ items, write item = some (spell item)) :
    Writer.each write items = some (items.flatMap spell) := by
  induction items with
  | nil => rfl
  | cons item items ih =>
    exact written_next (all item (by simp)) (ih fun other member => all other (by simp [member]))

theorem written_list {α : Type} {write : α → Writer} {raw : α → Bytes} {items : List α}
    (few : items.length < 65536) (all : ∀ item ∈ items, write item = some (stringBytes (raw item))) :
    writeList write items = some (setSpelling (items.map raw)) := by
  have each := written_each all
  have flat : items.flatMap (fun item => stringBytes (raw item)) = (items.map raw).flatMap stringBytes := by
    rw [flatMap_map]
  rw [setSpelling, length_map, ← flat]
  exact written_next (written_count few) each

theorem written_asset {a : GateAsset String} (assetClass : (encodeText a.assetClass).length ≤ 1024)
    (idScheme : (encodeText a.idScheme).length ≤ 1024) (value : (encodeText a.value).length ≤ 1024) :
    writeGateAsset a = some (assetSpelling (a.map encodeText)) :=
  written_next (written_text assetClass) (written_next (written_text idScheme) (written_text value))

theorem written_amount {a : GateAmount String} (unit : (encodeText a.unit).length ≤ 1024) :
    writeGateAmount a = some (amountSpelling (a.map encodeText)) :=
  written_next (written_text unit) (written_next (written_number 1 rfl a.decimals) (written_number 32 rfl a.atoms))

theorem written_party {address : String} (short : (encodeText address).length ≤ 1024) :
    writeGateParty address = some (partySpelling (addressText address)) :=
  written_next written_kind (written_text short)

theorem written_digest (digest : Digest32) : writeDigest digest = some (beBytes 32 digest.toNat) := rfl

theorem encodeGateMandate_spells {m : TextMandate} (short : ∀ text ∈ m.texts, (encodeText text).length ≤ 1024)
    (principal : (encodeText m.principal).length ≤ 1024) (agent : (encodeText m.agent).length ≤ 1024)
    (issuers : m.allowedIssuers.length < 65536) (chains : m.allowedChains.length < 65536)
    (venues : m.allowedVenues.length < 65536) : encodeGateMandate m = some (mandateSpelling m.spelled) := by
  simp only [GateMandate.texts, cons_append, nil_append, forall_mem_cons, forall_mem_append] at short
  obtain ⟨assetClass, idScheme, value, maxUnit, limitUnit, issuer, chain, venue⟩ := short
  have issuerSet := written_list issuers fun text member => written_text (issuer text member)
  have chainSet := written_list chains fun text member => written_text (chain text member)
  have venueSet := written_list venues fun text member => written_text (venue text member)
  have tail := written_next (written_number 8 rfl m.requiredCorporateActionEpoch)
    (written_next (written_number 4 rfl m.maxPriceAgeSeconds)
      (written_next (written_number 4 rfl m.maxCorporateActionAgeSeconds)
        (written_next (written_number 1 rfl m.haltPolicy) (written_next (written_seconds m.createdAtUnixSeconds)
          (written_next (written_seconds m.notBeforeUnixSeconds) (written_seconds m.expiresAtUnixSeconds))))))
  have bounds := written_next (written_amount maxUnit) (written_next (written_amount limitUnit)
    (written_next (written_number 2 rfl m.maxDeviationBps) (written_next (written_number 1 rfl m.syntheticPolicy)
      (written_next issuerSet (written_next chainSet (written_next venueSet tail))))))
  exact written_next rfl (written_next (written_number 2 rfl m.version)
    (written_next (written_digest m.mandateId) (written_next (written_number 8 rfl m.nonce)
      (written_next (written_party principal) (written_next (written_party agent)
        (written_next (written_asset assetClass idScheme value) (written_next (written_number 1 rfl m.side)
          bounds)))))))

theorem encodeGateCandidate_spells {c : TextCandidate}
    (short : ∀ text ∈ c.texts, (encodeText text).length ≤ 1024) (agent : (encodeText c.agent).length ≤ 1024) :
    encodeGateCandidate c = some (candidateSpelling c.spelled) := by
  simp only [GateCandidate.texts, forall_mem_cons] at short
  obtain ⟨representation, assetClass, idScheme, value, issuer, chain, venue, quantity, numerator, denominator,
    notional, feeTotal, stateId, _⟩ := short
  have price := written_next (written_text numerator) (written_next (written_text denominator)
    (written_next (written_number 1 rfl c.executionPrice.decimals) (written_number 32 rfl c.executionPrice.atoms)))
  have tail := written_next (written_amount notional) (written_next (written_amount feeTotal)
    (written_next (written_text stateId) (written_next (written_digest c.evaluationStateDigest)
      (written_next (written_digest c.registrySnapshotDigest) (written_number 8 rfl c.corporateActionEpoch)))))
  have order := written_next (written_number 1 rfl c.side) (written_next (written_party agent)
    (written_next (written_amount quantity) (written_next price tail)))
  exact written_next rfl (written_next (written_number 2 rfl c.version) (written_next (written_text representation)
    (written_next (written_asset assetClass idScheme value) (written_next (written_text issuer)
      (written_next (written_text chain) (written_next (written_text venue) order))))))

theorem written_identifier (id : Identifier) : writeStr id.1 = some (stringBytes (wireText id)) := by
  have short := wireText_length id
  simp only [IDENTIFIER_MAX_LENGTH, wireText] at short
  exact written_text (by omega)

theorem written_assetId (k : CanonicalAssetId) : writeAsset k = some (assetSpelling (wireAsset k)) :=
  written_next (written_identifier k.assetClass)
    (written_next (written_identifier k.idScheme) (written_identifier k.value))

theorem written_partyId (k : PartyId) : writeParty k = some (partySpelling (wireParty k)) :=
  written_next (written_identifier k.kind) (written_identifier k.value)

theorem written_identifiers (k : IdentifierSet) : writeIdentifierSet k = some (setSpelling (wireSet k)) := by
  have few := k.bounded
  simp only [MAX_SET_SIZE] at few
  exact written_list (by omega) fun id _ => written_identifier id

variable {value : Int}

theorem written_kept (size : Nat) (same : width = 8 * size) {bits : BitVec width} (kept : (bits.toNat : Int) = value) :
    Writer.uint size value = some (beBytes size bits.toNat) := by
  rw [← kept]
  exact written_number size same bits

theorem written_time {bits : BitVec 64} (kept : bits.toInt = value) :
    writeI64 value = some (beBytes 8 bits.toNat) := by
  rw [← kept]
  exact written_seconds bits

theorem written_code {α : Type} {codes : WireCodes α} {code : BitVec 8} {key : α}
    (means : codeMeans codes code key) : writeCode codes key = some (beBytes 1 code.toNat) := by
  rw [writeCode, means]
  exact written_number 1 rfl code

theorem written_parsed {k : ParsedAmount} (means : AmountMeans (wireAmount k) k) :
    writeAmount k = some (amountSpelling (wireAmount k)) := by
  rw [writeAmount, ← means.decimals]
  exact written_next (written_identifier k.1.unit)
    (written_next (written_number 1 rfl _) (written_kept 32 rfl means.atoms))

theorem written_price {k : Kernel.Price} (means : PriceMeans (wirePrice k) k) :
    Kernel.writePrice k = some (priceSpelling (wirePrice k)) := by
  rw [Kernel.writePrice, ← means.decimals]
  exact written_next (written_identifier k.numeratorUnit) (written_next (written_identifier k.denominatorUnit)
    (written_next (written_number 1 rfl _) (written_kept 32 rfl means.atoms)))

theorem written_header (tag : String) (version : BitVec 16) :
    writeHeader tag version.toNat = some (encodeText tag ++ beBytes 2 version.toNat) :=
  written_next rfl (written_number 2 rfl version)

theorem encodeMandate_wire (k : CanonicalMandate) :
    Kernel.encodeMandate k = mandateSpelling (wireMandate k) := by
  have means := wireMandate_means k
  have tail := written_next (written_kept 8 rfl means.epoch) (written_next (written_kept 4 rfl means.maxPriceAge)
    (written_next (written_kept 4 rfl means.maxActionAge) (written_next (written_code means.haltPolicy)
      (written_next (written_time means.createdAt) (written_next (written_time means.notBefore)
        (written_time means.expiresAt))))))
  have bounds := written_next (written_parsed means.maxNotional) (written_next (written_parsed means.economicLimit)
    (written_next (written_kept 2 rfl means.maxDeviationBps) (written_next (written_code means.syntheticPolicy)
      (written_next (written_identifiers k.allowedIssuers) (written_next (written_identifiers k.allowedChains)
        (written_next (written_identifiers k.allowedVenues) tail))))))
  have fields := written_next (written_digest k.mandateId) (written_next (written_kept 8 rfl means.nonce)
    (written_next (written_partyId k.principal) (written_next (written_partyId k.agent)
      (written_next (written_assetId k.canonicalAsset) (written_next (written_code means.side) bounds)))))
  have version : (wireMandate k).version.toNat = k.version := means.version.trans k.supported.symm
  have header := written_header MANDATE_TAG (wireMandate k).version
  rw [version] at header
  have whole := written_next header fields
  rw [Kernel.encodeMandate, encodeWith, mandateSpelling, version, ← List.append_assoc]
  exact congrArg (·.getD []) whole

theorem encodeCandidate_wire (k : ExecutionCandidate) :
    Kernel.encodeCandidate k = candidateSpelling (wireCandidate k) := by
  have means := wireCandidate_means k
  have tail := written_next (written_parsed means.notional) (written_next (written_parsed means.feeTotal)
    (written_next (written_identifier k.evaluationStateId) (written_next (written_digest k.evaluationStateDigest)
      (written_next (written_digest k.registrySnapshotDigest) (written_kept 8 rfl means.epoch)))))
  have order := written_next (written_code means.side) (written_next (written_partyId k.agent)
    (written_next (written_parsed means.quantity) (written_next (written_price means.executionPrice) tail)))
  have fields := written_next (written_identifier k.representationId)
    (written_next (written_assetId k.canonicalAsset) (written_next (written_identifier k.issuer)
      (written_next (written_identifier k.chain) (written_next (written_identifier k.venue) order))))
  have version : (wireCandidate k).version.toNat = k.version := means.version.trans k.supported.symm
  have header := written_header CANDIDATE_TAG (wireCandidate k).version
  rw [version] at header
  have whole := written_next header fields
  rw [Kernel.encodeCandidate, encodeWith, candidateSpelling, version, ← List.append_assoc]
  exact congrArg (·.getD []) whole

end Written

section Projection

theorem gateSet_spelled (k : IdentifierSet) : (gateSet k).map encodeText = wireSet k := by
  rw [gateSet, wireSet, map_map]
  rfl

theorem addressText_wire {k : PartyId} (kind : k.kind.1 = PARTY_KIND_EIP155_ADDRESS) :
    addressText k.value.1 = wireParty k := by
  rw [addressText, wireParty, wireText, wireText, kind]

variable {k : CanonicalMandate} {m : TextMandate}

theorem toGateMandate_spelled (formed : toGateMandate k = some m) : m.spelled = wireMandate k := by
  unfold toGateMandate at formed
  split at formed
  · cases formed
  · rename_i addresses
    simp only [ne_eq, not_or, not_not] at addresses
    cases formed
    simp only [GateMandate.spelled, GateMandate.map, wireMandate, gateSet_spelled, addressText_wire addresses.1,
      addressText_wire addresses.2]
    rfl

variable {c : TextCandidate}

theorem toGateCandidate_spelled {k : ExecutionCandidate}
    (formed : toGateCandidate k = some c) : c.spelled = wireCandidate k := by
  unfold toGateCandidate at formed
  split at formed
  · cases formed
  · rename_i address
    rw [not_not] at address
    cases formed
    simp only [GateCandidate.spelled, GateCandidate.map, wireCandidate, addressText_wire address]
    rfl

theorem identifier_short (id : Identifier) : (encodeText id.1).length ≤ 1024 := by
  have short := wireText_length id
  simp only [IDENTIFIER_MAX_LENGTH, wireText] at short
  omega

theorem gateSet_few (k : IdentifierSet) : (gateSet k).length < 65536 := by
  have few := k.bounded
  simp only [MAX_SET_SIZE] at few
  rw [gateSet, length_map]
  omega

theorem gateSet_short (k : IdentifierSet) : ∀ text ∈ gateSet k, (encodeText text).length ≤ 1024 := by
  intro text member
  obtain ⟨id, _, rfl⟩ := mem_map.mp member
  exact identifier_short id

theorem toGateMandate_encodes (formed : toGateMandate k = some m) :
    encodeGateMandate m = some (mandateSpelling m.spelled) := by
  unfold toGateMandate at formed
  split at formed
  · cases formed
  · cases formed
    refine encodeGateMandate_spells ?_ (identifier_short _) (identifier_short _) (gateSet_few _) (gateSet_few _)
      (gateSet_few _)
    simp only [GateMandate.texts, cons_append, nil_append, forall_mem_cons,
      forall_mem_append]
    exact ⟨identifier_short _, identifier_short _, identifier_short _, identifier_short _, identifier_short _,
      gateSet_short _, gateSet_short _, gateSet_short _⟩

theorem toGateCandidate_encodes {k : ExecutionCandidate}
    (formed : toGateCandidate k = some c) : encodeGateCandidate c = some (candidateSpelling c.spelled) := by
  unfold toGateCandidate at formed
  split at formed
  · cases formed
  · cases formed
    refine encodeGateCandidate_spells ?_ (identifier_short _)
    simp only [GateCandidate.texts, forall_mem_cons]
    repeat' apply And.intro
    all_goals first | exact identifier_short _ | simp

end Projection

end Mandate.Gate
