import Mandate.Gate.WireForm

/-! What the gate's validation accepts: the structs that are the wire form of a kernel object.
Units are compared by their hashes, so the two units of a mandate must not collide. -/
namespace Mandate.Gate
open Core Kernel Lib.Wire Lib.Text Lib.Lanes List

def CollisionFree [Keccak] (texts : List Bytes) : Prop :=
  ∀ a ∈ texts, ∀ b ∈ texts, keccakDigest a = keccakDigest b → a = b

instance [Keccak] (texts : List Bytes) : Decidable (CollisionFree texts) :=
  inferInstanceAs (Decidable (∀ a ∈ texts, ∀ b ∈ texts, keccakDigest a = keccakDigest b → a = b))

theorem CollisionFree.same [Keccak] {texts : List Bytes} (free : CollisionFree texts) {a b : Bytes}
    (first : a ∈ texts) (second : b ∈ texts) (hashed : keccakDigest a = keccakDigest b) : a = b :=
  free a first b second hashed

section Texts

theorem identifierBytes_iff {bytes : Bytes} : identifierBytes bytes = true ↔ ∃ id, bytes = wireText id := by
  constructor
  · intro valid
    have unmarked : stripMark bytes = bytes := by
      cases bytes with
      | nil => rfl
      | cons byte rest =>
        simp only [identifierBytes, Bool.and_eq_true, all_cons] at valid
        have small := charset_small byte valid.1.2.1
        apply stripMark_of_unmarked
        rw [hasMark]
        intro tail same
        rw [(List.cons.inj same).1] at small
        exact absurd small (by decide)
    have read := valid
    rw [← unmarked] at read
    obtain ⟨id, decoded⟩ := decoded_identifier.mpr read
    have spelled := encodeText_of_decoded decoded (identifier_ascii id)
    rw [unmarked] at spelled
    exact ⟨id, spelled.symm⟩
  · rintro ⟨id, rfl⟩
    exact identifier_spelled id

theorem isIdentifier_iff {s : Located} : isIdentifier s = true ↔ ∃ id, s.bytes = wireText id := by
  rw [isIdentifier_eq, identifierBytes_iff]

private theorem compare_byte {c d : Char} (first : c.toNat < 128) (second : d.toNat < 128) :
    compare (UInt8.ofNat c.toNat) (UInt8.ofNat d.toNat) = compare c d := by
  have value : ∀ e : Char, e.toNat < 128 → (UInt8.ofNat e.toNat).toNat = e.toNat := by
    intro e small
    rw [UInt8.toNat_ofNat', Nat.mod_eq_of_lt (by omega)]
  have order : UInt8.ofNat c.toNat < UInt8.ofNat d.toNat ↔ c < d := by
    rw [UInt8.lt_iff_toNat_lt, value c first, value d second]
    exact Iff.rfl
  have same : UInt8.ofNat c.toNat = UInt8.ofNat d.toNat ↔ c = d := by
    rw [← UInt8.toNat_inj, value c first, value d second, Char.toNat_inj]
  change compareOfLessAndEq _ _ = compareOfLessAndEq _ _
  simp only [compareOfLessAndEq, order, same]

theorem compare_bytes {cs ds : List Char} (first : ∀ c ∈ cs, c.toNat < 128)
    (second : ∀ d ∈ ds, d.toNat < 128) :
    compare (cs.map fun c => UInt8.ofNat c.toNat) (ds.map fun d => UInt8.ofNat d.toNat) = compare cs ds := by
  induction cs generalizing ds with
  | nil =>
    cases ds with
    | nil => rfl
    | cons d ds => rfl
  | cons c cs ih =>
    cases ds with
    | nil => rfl
    | cons d ds =>
      rw [map_cons, map_cons, List.compare_cons_cons, List.compare_cons_cons,
        compare_byte (first c (by simp)) (second d (by simp)),
        ih (fun c member => first c (by simp [member])) fun d member => second d (by simp [member])]

theorem compareEncoded_wire {a b : Located} {x y : Identifier} (first : a.bytes = wireText x)
    (second : b.bytes = wireText y) : compareEncoded a b = compareIdentifierBytes x y := by
  rw [compareEncoded_eq, first, second, wireText, wireText, encodeText_map (identifier_ascii x),
    encodeText_map (identifier_ascii y), length_map, length_map,
    compare_bytes (identifier_ascii x) (identifier_ascii y)]
  rfl

/-- Whatever follows a string in memory, the gate's word-parallel test accepts it exactly when it
spells what the kernel parses as an identifier; strings of identifiers compare as the kernel compares
them, and a word's digits are the lowercase hex of its low half. -/
theorem words_agree (s : Located) :
    (isIdentifier s = true ↔ ∃ text id, Kernel.parseIdentifier text = .ok id ∧ s.bytes = encodeText text) ∧
    (∀ text, s.bytes = encodeText text → (isIdentifier s = true ↔ ∃ id, Kernel.parseIdentifier text = .ok id)) ∧
    (∀ other x y, s.bytes = encodeText x.1 → other.bytes = encodeText y.1 →
      compareEncoded s other = compareIdentifierBytes x y) ∧
    ∀ value : Word, [0x30, 0x78] ++ (List.range 32).map (laneOf (hexDigits value)) =
      encodeText (bytesToHex (beBytes 16 value.toNat)) := by
  refine ⟨?_, fun text spelled => ?_, fun other x y first second => compareEncoded_wire first second,
    hexDigits_text⟩
  · rw [isIdentifier_iff]
    constructor
    · rintro ⟨id, spelled⟩
      exact ⟨id.1, id, parseIdentifier_ok.mpr rfl, spelled⟩
    · rintro ⟨text, id, parsed, spelled⟩
      rw [← parseIdentifier_ok.mp parsed] at spelled
      exact ⟨id, spelled⟩
  · rw [isIdentifier_eq, spelled, ← identifierText_eq]
    constructor
    · intro valid
      exact ⟨⟨text, valid⟩, parseIdentifier_ok.mpr rfl⟩
    · rintro ⟨id, parsed⟩
      rw [← parseIdentifier_ok.mp parsed]
      exact id.2

/-- Two identifiers, with other bytes of the charset right behind them. -/
theorem words_agree_sample : compareEncoded ⟨encodeText "a", encodeText "zz"⟩ ⟨encodeText "bc", encodeText "-"⟩ =
    compareIdentifierBytes ⟨"a", by decide⟩ ⟨"bc", by decide⟩ :=
  (words_agree ⟨encodeText "a", encodeText "zz"⟩).2.2.1 ⟨encodeText "bc", encodeText "-"⟩ ⟨"a", by decide⟩
    ⟨"bc", by decide⟩ rfl rfl

end Texts

section Fields

theorem members_above {p : Located} {x : Identifier} (spelled : p.bytes = wireText x)
    (values : List Located) : membersAscend (some p) values = true ↔
      ∃ ids : List Identifier, values.map Located.bytes = ids.map wireText ∧ Ascends (x :: ids) := by
  induction values generalizing p x with
  | nil =>
    refine iff_of_true rfl ⟨[], rfl, ?_⟩
    exact pairwise_singleton _ _
  | cons value rest ih =>
    simp only [membersAscend, Bool.and_eq_true, Option.all_some, beq_iff_eq, isIdentifier_iff]
    constructor
    · rintro ⟨⟨⟨y, here⟩, below⟩, tail⟩
      obtain ⟨ids, same, ascends⟩ := (ih here).mp tail
      rw [compareEncoded_wire spelled here] at below
      refine ⟨y :: ids, by rw [map_cons, map_cons, here, same], ?_⟩
      refine pairwise_cons.mpr ⟨?_, ascends⟩
      intro z member
      rcases mem_cons.mp member with rfl | later
      · exact below
      · exact compareIdentifier_trans below ((pairwise_cons.mp ascends).1 z later)
    · rintro ⟨ids, same, ascends⟩
      cases ids with
      | nil => cases same
      | cons y ids =>
        obtain ⟨here, same⟩ := List.cons.inj same
        obtain ⟨below, ascends⟩ := pairwise_cons.mp ascends
        refine ⟨⟨⟨y, here⟩, ?_⟩, (ih here).mpr ⟨ids, same, ascends⟩⟩
        rw [compareEncoded_wire spelled here]
        exact below y (by simp)

theorem isIdentifierSet_iff {values : List Located} :
    isIdentifierSet values = true ↔ ∃ k, values.map Located.bytes = wireSet k := by
  have members : membersAscend none values = true ↔
      ∃ ids : List Identifier, values.map Located.bytes = ids.map wireText ∧ Ascends ids := by
    cases values with
    | nil => exact iff_of_true rfl ⟨[], rfl, List.Pairwise.nil⟩
    | cons value rest =>
      simp only [membersAscend, Bool.and_eq_true, Option.all_none, and_true, isIdentifier_iff]
      constructor
      · rintro ⟨⟨x, here⟩, tail⟩
        obtain ⟨ids, same, ascends⟩ := (members_above here rest).mp tail
        exact ⟨x :: ids, by rw [map_cons, map_cons, here, same], ascends⟩
      · rintro ⟨ids, same, ascends⟩
        cases ids with
        | nil => cases same
        | cons x ids =>
          obtain ⟨here, same⟩ := List.cons.inj same
          exact ⟨⟨x, here⟩, (members_above here rest).mpr ⟨ids, same, ascends⟩⟩
  rw [isIdentifierSet, Bool.and_eq_true, decide_eq_true_eq, members]
  constructor
  · rintro ⟨few, ids, same, ascends⟩
    have sized := congrArg List.length same
    rw [length_map, length_map] at sized
    exact ⟨⟨ids, by omega, ascends⟩, same⟩
  · rintro ⟨k, same⟩
    have sized := congrArg List.length same
    rw [length_map, wireSet, length_map] at sized
    exact ⟨by rw [sized]; exact k.bounded, k.members, same, k.ascending⟩

theorem isCanonicalAsset_iff {a : GateAsset Located} :
    isCanonicalAsset a = true ↔ ∃ k, a.map Located.bytes = wireAsset k := by
  simp only [isCanonicalAsset, Bool.and_eq_true, isIdentifier_iff, GateAsset.map, wireAsset, GateAsset.mk.injEq]
  constructor
  · rintro ⟨⟨⟨x, first⟩, y, second⟩, z, third⟩
    exact ⟨⟨x, y, z⟩, first, second, third⟩
  · rintro ⟨k, first, second, third⟩
    exact ⟨⟨⟨_, first⟩, _, second⟩, _, third⟩

variable {width : Nat}

theorem unsigned_bound (bits : BitVec width) {max : Int} (top : max = 2 ^ width - 1) :
    0 ≤ (bits.toNat : Int) ∧ (bits.toNat : Int) ≤ max := by
  have inside : (bits.toNat : Int) < 2 ^ width := by exact_mod_cast bits.isLt
  omega

theorem kept_bits (bits : BitVec width) : bits = BitVec.ofInt width bits.toNat := by
  rw [BitVec.ofInt_natCast, BitVec.ofNat_toNat, BitVec.setWidth_eq]

theorem toInt_inside (bits : BitVec 64) : INT64_MIN ≤ bits.toInt ∧ bits.toInt ≤ INT64_MAX := by
  have low := BitVec.le_toInt bits
  have high := @BitVec.toInt_lt 64 bits
  norm_num [INT64_MIN, INT64_MAX] at low high ⊢
  omega

private def signedSeconds (bits : BitVec 64) : UnixSeconds := ⟨bits.toInt, toInt_inside bits⟩

theorem isAmount_iff {a : GateAmount Located} :
    isAmount a = true ↔ ∃ k, a.map Located.bytes = wireAmount k := by
  simp only [isAmount, Bool.and_eq_true, isIdentifier_iff, decide_eq_true_eq, GateAmount.map, wireAmount,
    GateAmount.mk.injEq]
  constructor
  · rintro ⟨⟨unit, spelled⟩, small⟩
    refine ⟨⟨⟨unit, a.decimals.toNat, a.atoms.toNat⟩, small, unsigned_bound a.atoms (by norm_num [UINT256_MAX])⟩,
      spelled, ?_, kept_bits a.atoms⟩
    rw [BitVec.ofNat_toNat, BitVec.setWidth_eq]
  · rintro ⟨k, spelled, decimals, _⟩
    have small := k.2.1
    refine ⟨⟨_, spelled⟩, ?_⟩
    simp only [MAX_DECIMALS] at small ⊢
    rw [decimals, BitVec.toNat_ofNat]
    omega

theorem isPrice_iff {p : GatePrice Located} : isPrice p = true ↔ ∃ k, p.map Located.bytes = wirePrice k := by
  simp only [isPrice, Bool.and_eq_true, isIdentifier_iff, decide_eq_true_eq, GatePrice.map, wirePrice,
    GatePrice.mk.injEq]
  constructor
  · rintro ⟨⟨⟨numerator, first⟩, denominator, second⟩, small⟩
    refine ⟨⟨numerator, denominator, ⟨p.decimals.toNat, small⟩,
      ⟨p.atoms.toNat, unsigned_bound p.atoms (by norm_num [UINT256_MAX])⟩⟩, first, second, ?_, kept_bits p.atoms⟩
    rw [BitVec.ofNat_toNat, BitVec.setWidth_eq]
  · rintro ⟨k, first, second, decimals, _⟩
    have small := k.decimals.2
    refine ⟨⟨⟨_, first⟩, _, second⟩, ?_⟩
    simp only [MAX_DECIMALS] at small ⊢
    rw [decimals, BitVec.toNat_ofNat]
    omega

theorem digit_charset : ∀ digit < 16, charsetByte (digitByte digit) = true ∧
    separatorByte (digitByte digit) = false := by decide

theorem address_identifier (a : Address) : identifierText (Address.toHex a) = true := by
  have digits : ∀ byte ∈ addressDigits a.toNat, charsetByte byte = true ∧ separatorByte byte = false := by
    intro byte member
    obtain ⟨place, _, rfl⟩ := mem_map.mp member
    exact digit_charset _ (Nat.mod_lt _ (by decide))
  have sized : (addressDigits a.toNat).length = 40 := by rw [addressDigits, length_map, length_range]
  obtain ⟨last, ends⟩ : ∃ last, (addressDigits a.toNat).getLast? = some last := by
    have some_ : addressDigits a.toNat ≠ [] := by
      intro empty
      rw [empty] at sized
      cases sized
    exact ⟨_, getLast?_eq_some_getLast some_⟩
  have member := mem_of_getLast? ends
  have all : ([0x30, 0x78] ++ addressDigits a.toNat).all charsetByte = true := by
    rw [all_append, all_eq_true.mpr fun byte inside => (digits byte inside).1]
    rfl
  have tail : ([0x30, 0x78] ++ addressDigits a.toNat).getLast? = some last := by
    rw [getLast?_append, ends]
    rfl
  rw [identifierText_eq, encodeText_toHex, identifierBytes, all, tail, length_append, sized]
  simp only [cons_append, head?_cons, (digits last member).2]
  decide

def addressParty (a : Address) : PartyId where
  kind := ⟨PARTY_KIND_EIP155_ADDRESS, by decide⟩
  value := ⟨Address.toHex a, address_identifier a⟩
  shaped := by
    have read : hexToBytes (Address.toHex a) = some (Address.bytes a) := hexToBytes_bytesToHex _
    rw [partyShape, read, Option.any_some, Address.bytes, beBytes_length]
    exact Bool.or_true _

theorem addressParty_wire (a : Address) : wireParty (addressParty a) = partyText a := rfl

theorem wireCode_iff {α : Type} {codes : WireCodes α} {first second : α}
    (only : ∀ key, key = first ∨ key = second) {code : BitVec 8} :
    (∃ key, code = wireCode codes key) ↔ code = wireCode codes first ∨ code = wireCode codes second := by
  constructor
  · rintro ⟨key, same⟩
    rcases only key with rfl | rfl
    · exact .inl same
    · exact .inr same
  · rintro (same | same)
    · exact ⟨first, same⟩
    · exact ⟨second, same⟩

end Fields

section Structs

theorem guarded {refused : Prop} [Decidable refused] {verdict rest : Validity} (bad : verdict ≠ .valid) :
    (if refused then verdict else rest) = .valid ↔ ¬refused ∧ rest = .valid := by
  split
  · rename_i holds
    exact iff_of_false bad fun other => other.1 holds
  · rename_i passed
    exact (and_iff_right passed).symm

private theorem checked {refused : Prop} [Decidable refused] {rest : Bool} :
    (if refused then false else rest) = true ↔ ¬refused ∧ rest = true := by
  split
  · rename_i holds
    exact iff_of_false Bool.false_ne_true fun other => other.1 holds
  · rename_i passed
    exact (and_iff_right passed).symm

variable {code : BitVec 8}

theorem side_iff : (∃ key, code = wireCode SIDE_CODE key) ↔ ¬(code ≠ SIDE_BUY ∧ code ≠ SIDE_SELL) := by
  have only : ∀ key : Side, key = .buy ∨ key = .sell := by
    intro key
    cases key <;> simp
  rw [@wireCode_iff _ SIDE_CODE _ _ only, or_iff_not_and_not]
  exact Iff.rfl

theorem synthetic_iff : (∃ key, code = wireCode SYNTHETIC_POLICY_CODE key) ↔
    ¬(code ≠ SYNTHETIC_FORBIDDEN ∧ code ≠ SYNTHETIC_ALLOWED) := by
  have only : ∀ key : SyntheticPolicy, key = .forbidden ∨ key = .allowed := by
    intro key
    cases key <;> simp
  rw [@wireCode_iff _ SYNTHETIC_POLICY_CODE _ _ only, or_iff_not_and_not]
  exact Iff.rfl

theorem halt_iff : (∃ key, code = wireCode HALT_POLICY_CODE key) ↔
    ¬(code ≠ HALT_FORBID_WHEN_HALTED ∧ code ≠ HALT_ALLOW_WHEN_HALTED) := by
  have only : ∀ key : HaltPolicy, key = .forbidWhenHalted ∨ key = .allowWhenHalted := by
    intro key
    cases key <;> simp
  rw [@wireCode_iff _ HALT_POLICY_CODE _ _ only, or_iff_not_and_not]
  exact Iff.rfl

variable {c : GateCandidate Located Address}

theorem isValidCandidate_valid : isValidCandidate c = true ↔
    c.version.toNat = CANDIDATE_SCHEMA_VERSION ∧ (∃ k, c.representationId.bytes = wireText k) ∧
    (∃ k, c.canonicalAsset.map Located.bytes = wireAsset k) ∧
    (((∃ k, c.issuer.bytes = wireText k) ∧ ∃ k, c.chain.bytes = wireText k) ∧ ∃ k, c.venue.bytes = wireText k) ∧
    (∃ k, c.side = wireCode SIDE_CODE k) ∧ ((∃ k, c.quantity.map Located.bytes = wireAmount k) ∧
      ∃ k, c.executionPrice.map Located.bytes = wirePrice k) ∧
    ((∃ k, c.notional.map Located.bytes = wireAmount k) ∧ ∃ k, c.feeTotal.map Located.bytes = wireAmount k) ∧
    ∃ k, c.evaluationStateId.bytes = wireText k := by
  simp only [isValidCandidate, checked, Bool.not_eq_true', Bool.or_eq_true, not_or, Bool.not_eq_false,
    isIdentifier_iff, isCanonicalAsset_iff, isAmount_iff, isPrice_iff, ← side_iff, not_not, ne_eq, and_true]

theorem isValidCandidate_iff : isValidCandidate c = true ↔ ∃ k, c.wire = wireCandidate k := by
  rw [isValidCandidate_valid]
  constructor
  · rintro ⟨version, ⟨representation, first⟩, ⟨asset, second⟩, ⟨⟨⟨issuer, third⟩, chain, fourth⟩, venue, fifth⟩,
      ⟨side, sixth⟩, ⟨⟨quantity, seventh⟩, price, eighth⟩, ⟨⟨notional, ninth⟩, feeTotal, tenth⟩, stateId, last⟩
    refine ⟨⟨c.version.toNat, representation, asset, issuer, chain, venue, side, addressParty c.agent, quantity,
      price, notional, feeTotal, stateId, c.evaluationStateDigest, c.registrySnapshotDigest,
      ⟨c.corporateActionEpoch.toNat, unsigned_bound _ (by norm_num [UINT64_MAX])⟩, version⟩, ?_⟩
    simp only [GateCandidate.wire, GateCandidate.map, wireCandidate, GateCandidate.mk.injEq, addressParty_wire,
      ← kept_bits, BitVec.ofNat_toNat, BitVec.setWidth_eq, true_and, and_true]
    exact ⟨first, second, third, fourth, fifth, sixth, seventh, eighth, ninth, tenth, last⟩
  · rintro ⟨k, same⟩
    have means := wireCandidate_means k
    rw [← same] at means
    exact ⟨means.version, ⟨_, congrArg GateCandidate.representationId same⟩,
      ⟨_, congrArg GateCandidate.canonicalAsset same⟩, ⟨⟨⟨_, congrArg GateCandidate.issuer same⟩,
        _, congrArg GateCandidate.chain same⟩, _, congrArg GateCandidate.venue same⟩,
      ⟨_, congrArg GateCandidate.side same⟩, ⟨⟨_, congrArg GateCandidate.quantity same⟩,
        _, congrArg GateCandidate.executionPrice same⟩, ⟨⟨_, congrArg GateCandidate.notional same⟩,
        _, congrArg GateCandidate.feeTotal same⟩, _, congrArg GateCandidate.evaluationStateId same⟩

variable [Keccak] {m : GateMandate Located Address}

theorem validateMandate_valid : validateMandate m = .valid ↔
    m.version.toNat = MANDATE_SCHEMA_VERSION ∧ (∃ k, m.canonicalAsset.map Located.bytes = wireAsset k) ∧
    (∃ k, m.side = wireCode SIDE_CODE k) ∧ ((∃ k, m.maxNotional.map Located.bytes = wireAmount k) ∧
      ∃ k, m.economicLimit.map Located.bytes = wireAmount k) ∧
    (∃ k, m.syntheticPolicy = wireCode SYNTHETIC_POLICY_CODE k) ∧
    (∃ k, m.allowedIssuers.map Located.bytes = wireSet k) ∧
    (∃ k, m.allowedChains.map Located.bytes = wireSet k) ∧
    (∃ k, m.allowedVenues.map Located.bytes = wireSet k) ∧ (∃ k, m.haltPolicy = wireCode HALT_POLICY_CODE k) ∧
    m.notBeforeUnixSeconds.toInt < m.expiresAtUnixSeconds.toInt ∧
    keccakDigest m.maxNotional.unit.bytes = keccakDigest m.economicLimit.unit.bytes := by
  simp only [validateMandate, guarded (by decide : Validity.unsupportedVersion ≠ .valid),
    guarded (by decide : Validity.malformed ≠ .valid), Bool.not_eq_true', Bool.or_eq_true, not_or,
    Bool.not_eq_false, isCanonicalAsset_iff, isAmount_iff, isIdentifierSet_iff, ← side_iff, ← synthetic_iff,
    ← halt_iff, equal, beq_iff_eq, not_not, not_le, ne_eq, and_true]

theorem validateMandate_of_wire {k : CanonicalMandate}
    (same : m.wire = wireMandate k) : validateMandate m = .valid := by
  have means := wireMandate_means k
  rw [← same] at means
  have window : m.wire.notBeforeUnixSeconds.toInt < m.wire.expiresAtUnixSeconds.toInt := by
    rw [means.notBefore, means.expiresAt]
    exact k.window
  have maxUnit : m.maxNotional.unit.bytes = wireText k.maxNotional.1.unit :=
    congrArg (fun w : WireMandate => w.maxNotional.unit) same
  have limitUnit : m.economicLimit.unit.bytes = wireText k.economicLimit.1.unit :=
    congrArg (fun w : WireMandate => w.economicLimit.unit) same
  have units : keccakDigest m.maxNotional.unit.bytes = keccakDigest m.economicLimit.unit.bytes := by
    rw [maxUnit, limitUnit, k.oneUnit]
  exact validateMandate_valid.mpr ⟨means.version, ⟨_, congrArg GateMandate.canonicalAsset same⟩,
    ⟨_, congrArg GateMandate.side same⟩, ⟨⟨_, congrArg GateMandate.maxNotional same⟩,
      _, congrArg GateMandate.economicLimit same⟩, ⟨_, congrArg GateMandate.syntheticPolicy same⟩,
    ⟨_, congrArg GateMandate.allowedIssuers same⟩, ⟨_, congrArg GateMandate.allowedChains same⟩,
    ⟨_, congrArg GateMandate.allowedVenues same⟩, ⟨_, congrArg GateMandate.haltPolicy same⟩, window, units⟩

theorem validateMandate_iff (free : CollisionFree [m.maxNotional.unit.bytes, m.economicLimit.unit.bytes]) :
    validateMandate m = .valid ↔ ∃ k, m.wire = wireMandate k := by
  constructor
  · intro valid
    obtain ⟨version, ⟨asset, first⟩, ⟨side, second⟩, ⟨⟨maxNotional, third⟩, economicLimit, fourth⟩,
      ⟨synthetic, fifth⟩, ⟨issuers, sixth⟩, ⟨chains, seventh⟩, ⟨venues, eighth⟩, ⟨halt, ninth⟩, window,
      units⟩ := validateMandate_valid.mp valid
    have unit : wireText maxNotional.1.unit = wireText economicLimit.1.unit := by
      have one := free.same (by simp) (by simp) units
      have left := congrArg GateAmount.unit third
      have right := congrArg GateAmount.unit fourth
      exact left.symm.trans (one.trans right)
    refine ⟨⟨m.version.toNat, m.mandateId,
      ⟨m.nonce.toNat, unsigned_bound _ (by norm_num [UINT64_MAX])⟩, addressParty m.principal,
      addressParty m.agent, asset, side, maxNotional, economicLimit,
      ⟨m.maxDeviationBps.toNat, unsigned_bound _ (by norm_num [UINT16_MAX])⟩, synthetic, issuers, chains,
      venues, ⟨m.requiredCorporateActionEpoch.toNat, unsigned_bound _ (by norm_num [UINT64_MAX])⟩,
      ⟨m.maxPriceAgeSeconds.toNat, unsigned_bound _ (by norm_num [UINT32_MAX])⟩,
      ⟨m.maxCorporateActionAgeSeconds.toNat, unsigned_bound _ (by norm_num [UINT32_MAX])⟩, halt,
      signedSeconds m.createdAtUnixSeconds, signedSeconds m.notBeforeUnixSeconds,
      signedSeconds m.expiresAtUnixSeconds, version, window, wireText_inj unit⟩, ?_⟩
    simp only [GateMandate.wire, GateMandate.map, wireMandate, GateMandate.mk.injEq, addressParty_wire,
      ← kept_bits, BitVec.ofNat_toNat, BitVec.setWidth_eq, true_and, and_true, signedSeconds, BitVec.ofInt_toInt]
    exact ⟨first, second, third, fourth, fifth, sixth, seventh, eighth, ninth⟩
  · rintro ⟨k, same⟩
    exact validateMandate_of_wire same

end Structs

end Mandate.Gate
