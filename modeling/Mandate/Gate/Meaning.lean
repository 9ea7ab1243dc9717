import Mandate.Gate.Encoding
import Mandate.Kernel.Framing
import Mandate.Lib.Grammar

/-! What the bytes of a struct mean to the kernel's decoder, field by field. A text means the
identifier it decodes to, which is where a mark in front of it is lost. -/
set_option linter.dupNamespace false
namespace Mandate.Gate
open Core Kernel Lib.Wire Lib.Text List

/-- A string that fits its `u16` length, and decodes to the identifier. -/
def textMeans (raw : Bytes) (id : Identifier) : Prop := raw.length < 65536 ∧ decodeText raw = some id.1

structure AssetMeans (a : GateAsset Bytes) (k : CanonicalAssetId) : Prop where
  assetClass : textMeans a.assetClass k.assetClass
  idScheme : textMeans a.idScheme k.idScheme
  value : textMeans a.value k.value

structure AmountMeans (a : GateAmount Bytes) (k : ParsedAmount) : Prop where
  unit : textMeans a.unit k.1.unit
  decimals : a.decimals.toNat = k.1.decimals
  atoms : (a.atoms.toNat : Int) = k.1.atoms

structure PriceMeans (p : GatePrice Bytes) (k : Kernel.Price) : Prop where
  numeratorUnit : textMeans p.numeratorUnit k.numeratorUnit
  denominatorUnit : textMeans p.denominatorUnit k.denominatorUnit
  decimals : p.decimals.toNat = k.decimals.1
  atoms : (p.atoms.toNat : Int) = k.atoms.1

structure PartyMeans (p : PartyText) (k : PartyId) : Prop where
  kind : textMeans p.1 k.kind
  value : textMeans p.2 k.value

def setMeans (values : List Bytes) (set : IdentifierSet) : Prop := List.Forall₂ textMeans values set.members

def codeMeans {α : Type} (codes : WireCodes α) (code : BitVec 8) (key : α) : Prop := codes.code key = code.toNat

structure MandateMeans (m : WireMandate) (k : CanonicalMandate) : Prop where
  version : m.version.toNat = MANDATE_SCHEMA_VERSION
  mandateId : m.mandateId = k.mandateId
  nonce : (m.nonce.toNat : Int) = k.nonce.1
  principal : PartyMeans m.principal k.principal
  agent : PartyMeans m.agent k.agent
  canonicalAsset : AssetMeans m.canonicalAsset k.canonicalAsset
  side : codeMeans SIDE_CODE m.side k.side
  maxNotional : AmountMeans m.maxNotional k.maxNotional
  economicLimit : AmountMeans m.economicLimit k.economicLimit
  maxDeviationBps : (m.maxDeviationBps.toNat : Int) = k.maxDeviationBps.1
  syntheticPolicy : codeMeans SYNTHETIC_POLICY_CODE m.syntheticPolicy k.syntheticPolicy
  allowedIssuers : setMeans m.allowedIssuers k.allowedIssuers
  allowedChains : setMeans m.allowedChains k.allowedChains
  allowedVenues : setMeans m.allowedVenues k.allowedVenues
  epoch : (m.requiredCorporateActionEpoch.toNat : Int) = k.requiredCorporateActionEpoch.1
  maxPriceAge : (m.maxPriceAgeSeconds.toNat : Int) = k.maxPriceAgeSeconds.1
  maxActionAge : (m.maxCorporateActionAgeSeconds.toNat : Int) = k.maxCorporateActionAgeSeconds.1
  haltPolicy : codeMeans HALT_POLICY_CODE m.haltPolicy k.haltPolicy
  createdAt : m.createdAtUnixSeconds.toInt = k.createdAt.1
  notBefore : m.notBeforeUnixSeconds.toInt = k.notBefore.1
  expiresAt : m.expiresAtUnixSeconds.toInt = k.expiresAt.1

structure CandidateMeans (c : WireCandidate) (k : ExecutionCandidate) : Prop where
  version : c.version.toNat = CANDIDATE_SCHEMA_VERSION
  representationId : textMeans c.representationId k.representationId
  canonicalAsset : AssetMeans c.canonicalAsset k.canonicalAsset
  issuer : textMeans c.issuer k.issuer
  chain : textMeans c.chain k.chain
  venue : textMeans c.venue k.venue
  side : codeMeans SIDE_CODE c.side k.side
  agent : PartyMeans c.agent k.agent
  quantity : AmountMeans c.quantity k.quantity
  executionPrice : PriceMeans c.executionPrice k.executionPrice
  notional : AmountMeans c.notional k.notional
  feeTotal : AmountMeans c.feeTotal k.feeTotal
  evaluationStateId : textMeans c.evaluationStateId k.evaluationStateId
  evaluationStateDigest : c.evaluationStateDigest = k.evaluationStateDigest
  registrySnapshotDigest : c.registrySnapshotDigest = k.registrySnapshotDigest
  epoch : (c.corporateActionEpoch.toNat : Int) = k.corporateActionEpoch.1

section Words

theorem gives_u8 (value : BitVec 8) : Gives readU8 (beBytes 1 value.toNat) value.toNat :=
  Gives.uint _ value.isLt

theorem gives_u16 {value : Nat} (small : value < 65536) : Gives readU16 (beBytes 2 value) value :=
  Gives.uint _ small

theorem gives_uint16 (value : BitVec 16) : Gives readUint16 (beBytes 2 value.toNat) (value.toNat : Int) :=
  (gives_u16 value.isLt).map

theorem gives_uint64 (value : BitVec 64) : Gives readUint64 (beBytes 8 value.toNat) (value.toNat : Int) :=
  (Gives.uint _ value.isLt).map

theorem gives_seconds32 (value : BitVec 32) : Gives readSeconds32 (beBytes 4 value.toNat) (value.toNat : Int) :=
  (Gives.uint _ value.isLt).map

theorem gives_atoms (value : BitVec 256) : Gives readAtoms (beBytes 32 value.toNat) (value.toNat : Int) :=
  (Gives.uint _ value.isLt).map

theorem signed_toInt (value : BitVec 64) :
    (if 256 ^ 8 ≤ 2 * value.toNat then (value.toNat : Int) - 256 ^ 8 else (value.toNat : Int)) = value.toInt := by
  rw [BitVec.toInt_eq_toNat_cond]
  norm_num
  split <;> split <;> omega

theorem gives_i64 (value : BitVec 64) : Gives readI64 (beBytes 8 value.toNat) value.toInt := by
  have raw := (Gives.uint CoreErrorCode.encodingMalformed value.isLt : Gives _ (beBytes 8 value.toNat) _)
  have signed := raw.last (f := fun raw : Nat => if 256 ^ 8 ≤ 2 * raw then (raw : Int) - 256 ^ 8
    else (raw : Int))
  rw [signed_toInt] at signed
  exact signed

theorem gives_digest (digest : Digest32) : Gives readDigest (beBytes 32 digest.toNat) digest.toHex := by
  have bytes := Gives.raw CoreErrorCode.encodingMalformed (Digest32.bytes digest)
  rw [Digest32.bytes, beBytes_length] at bytes
  exact bytes.last

theorem gives_code {α : Type} (codes : WireCodes α) {code : BitVec 8} {key : α}
    (means : codeMeans codes code key) : Gives (readCode codes) (beBytes 1 code.toNat) key := by
  refine (gives_u8 code).check (Gives.ofExcept ?_)
  rw [← means, codes.unique key]
  rfl

variable {width : Nat}

theorem takes_bits (short : CoreErrorCode) (size : Nat) (same : width = 8 * size) :
    Takes (Reader.uint short size) fun used value => ∃ bits : BitVec width,
      used = beBytes size bits.toNat ∧ value = bits.toNat := by
  refine (Takes.uint short size).mono ?_
  rintro used value ⟨bound, rfl⟩
  have inside : value < 2 ^ width := by
    rw [same, pow_mul]
    exact bound
  have whole : (BitVec.ofNat width value).toNat = value := by rw [BitVec.toNat_ofNat, Nat.mod_eq_of_lt inside]
  exact ⟨BitVec.ofNat width value, by rw [whole], whole.symm⟩

theorem takes_u8 : Takes readU8 fun used value => ∃ bits : BitVec 8,
    used = beBytes 1 bits.toNat ∧ value = bits.toNat := takes_bits _ 1 rfl

theorem takes_u16 : Takes readU16 fun used value => value < 65536 ∧ used = beBytes 2 value := Takes.uint _ 2

theorem takes_integer {read : CoreReader Nat} {size : Nat}
    (takes : Takes read fun used value => ∃ bits : BitVec width,
      used = beBytes size bits.toNat ∧ value = bits.toNat) :
    Takes ((fun n : Nat => (n : Int)) <$> read) fun used value => ∃ bits : BitVec width,
      used = beBytes size bits.toNat ∧ value = bits.toNat := by
  refine takes.map.mono ?_
  rintro used _ ⟨bits, rfl, rfl⟩
  exact ⟨bits, rfl, rfl⟩

theorem takes_uint16 : Takes readUint16 fun used value => ∃ bits : BitVec 16,
    used = beBytes 2 bits.toNat ∧ value = bits.toNat := takes_integer (takes_bits _ 2 rfl)

theorem takes_uint64 : Takes readUint64 fun used value => ∃ bits : BitVec 64,
    used = beBytes 8 bits.toNat ∧ value = bits.toNat := takes_integer (takes_bits _ 8 rfl)

theorem takes_seconds32 : Takes readSeconds32 fun used value => ∃ bits : BitVec 32,
    used = beBytes 4 bits.toNat ∧ value = bits.toNat := takes_integer (takes_bits _ 4 rfl)

theorem takes_atoms : Takes readAtoms fun used value => ∃ bits : BitVec 256,
    used = beBytes 32 bits.toNat ∧ value = bits.toNat := takes_integer (takes_bits _ 32 rfl)

theorem takes_i64 : Takes readI64 fun used value => ∃ bits : BitVec 64,
    used = beBytes 8 bits.toNat ∧ value = bits.toInt := by
  refine (takes_bits CoreErrorCode.encodingMalformed 8 (rfl : 64 = 8 * 8)).last.mono ?_
  rintro used _ ⟨bits, rfl, rfl⟩
  refine ⟨bits, rfl, ?_⟩
  rw [signed_toInt]

theorem takes_digest : Takes readDigest fun used text => ∃ digest : Digest32,
    used = beBytes 32 digest.toNat ∧ text = digest.toHex := by
  refine (Takes.raw _ 32).last.mono ?_
  rintro used _ @⟨bytes, _, rfl, sized⟩
  have back : beBytes 32 (Digest32.ofBytes bytes).toNat = bytes := by
    have bound := beNat_lt bytes
    rw [sized] at bound
    rw [Digest32.ofBytes, BitVec.toNat_ofNat, Nat.mod_eq_of_lt (by exact bound), ← sized, beBytes_beNat]
  exact ⟨Digest32.ofBytes bytes, back.symm, by rw [Digest32.toHex, Digest32.bytes, back]⟩

theorem takes_code {α : Type} (codes : WireCodes α) : Takes (readCode codes) fun used key =>
    ∃ code : BitVec 8, used = beBytes 1 code.toNat ∧ codeMeans codes code key := by
  refine takes_u8.checked.mono ?_
  rintro _ key ⟨_, found, code, rfl, rfl⟩
  refine ⟨code, rfl, ?_⟩
  cases known : codes.keys.find? fun key => codes.code key == code.toNat with
  | none =>
    rw [known] at found
    cases found
  | some other =>
    rw [known] at found
    cases found
    have matched := find?_some known
    exact beq_iff_eq.mp matched

end Words

section Texts

variable {raw : Bytes}

theorem gives_str {text : String} (short : raw.length < 65536)
    (decoded : decodeText raw = some text) : Gives readStr (stringBytes raw) text := by
  refine (gives_u16 short).bind ?_
  refine (Gives.raw _ raw).check ((Gives.note _).check (Gives.ofExcept ?_))
  rw [decodeStr, decoded]
  rfl

theorem takes_str : Takes readStr fun used text => ∃ raw, used = stringBytes raw ∧
    raw.length < 65536 ∧ decodeText raw = some text := by
  have chars (length : Nat) : Takes (readChars length) fun used text =>
      used.length = length ∧ decodeText used = some text := by
    refine ((Takes.raw _ length).bind fun bytes => (Takes.note _).bind fun _ => Takes.ofExcept _).mono ?_
    rintro _ text @⟨bytes, _, _, _, ⟨rfl, sized⟩, ⟨rfl, rfl, found⟩⟩
    rw [append_nil, append_nil]
    refine ⟨sized, ?_⟩
    cases decoded : decodeText bytes with
    | none =>
      rw [decodeStr, decoded] at found
      cases found
    | some other =>
      rw [decodeStr, decoded] at found
      cases found
      rfl
  refine (takes_u16.bind chars).mono ?_
  rintro _ text ⟨⟨small, rfl⟩, rfl, decoded⟩
  exact ⟨_, rfl, small, decoded⟩

theorem gives_text {id : Identifier} (means : textMeans raw id) :
    Gives readStr (stringBytes raw) id.1 := gives_str means.1 means.2

theorem takes_text : Takes readStr fun used text => ∀ id, parseIdentifier text = .ok id →
    ∃ raw, used = stringBytes raw ∧ textMeans raw id := by
  refine takes_str.mono ?_
  rintro _ text ⟨raw, rfl, short, decoded⟩ id parsed
  refine ⟨raw, rfl, short, ?_⟩
  rw [decoded, parseIdentifier_ok.mp parsed]

end Texts

section Fields

theorem gives_asset {a : GateAsset Bytes} {k : CanonicalAssetId} (means : AssetMeans a k) :
    Gives readAssetInput (assetSpelling a) (assetIdInputOf k) :=
  (gives_text means.assetClass).bind ((gives_text means.idScheme).bind (gives_text means.value).last)

theorem takes_asset : Takes readAssetInput fun used input => ∀ k, parseCanonicalAssetId input = .ok k →
    ∃ a, used = assetSpelling a ∧ AssetMeans a k := by
  refine (takes_text.bind fun _ => takes_text.bind fun _ => takes_text.last).mono ?_
  rintro _ _ ⟨first, second, ⟨third⟩⟩ k parsed
  simp only [parseCanonicalAssetId, except_bind_ok] at parsed
  obtain ⟨_, classParsed, _, schemeParsed, _, valueParsed, same⟩ := parsed
  cases same
  obtain ⟨assetClass, rfl, classMeans⟩ := first _ classParsed
  obtain ⟨idScheme, rfl, schemeMeans⟩ := second _ schemeParsed
  obtain ⟨value, rfl, valueMeans⟩ := third _ valueParsed
  exact ⟨⟨assetClass, idScheme, value⟩, rfl, classMeans, schemeMeans, valueMeans⟩

theorem gives_amount {a : GateAmount Bytes} {k : ParsedAmount} (means : AmountMeans a k) :
    Gives readAmountInput (amountSpelling a) (amountInputOf k) := by
  have given : Gives readAmountInput (amountSpelling a)
      ⟨k.1.unit.1, .integer a.decimals.toNat, .bigint (a.atoms.toNat : Int)⟩ :=
    (gives_text means.unit).bind ((gives_u8 a.decimals).bind (gives_atoms a.atoms).last)
  rwa [means.decimals, means.atoms] at given

theorem takes_amount : Takes readAmountInput fun used input => ∀ k, parseAmount input = .ok k →
    ∃ a, used = amountSpelling a ∧ AmountMeans a k := by
  refine (takes_text.bind fun _ => takes_u8.bind fun _ => takes_atoms.last).mono ?_
  rintro _ _ ⟨first, ⟨decimals, spelled, value⟩, ⟨atoms, spelled', value'⟩⟩ k parsed
  rw [value, value'] at parsed
  simp only [parseAmount, except_bind_ok] at parsed
  obtain ⟨_, unitParsed, _, decimalsParsed, _, atomsParsed, made⟩ := parsed
  obtain ⟨unit, written, unitMeans⟩ := first _ unitParsed
  refine ⟨⟨unit, decimals, atoms⟩, ?_, ?_⟩
  · rw [written, spelled, spelled', amountSpelling]
  · rw [← Except.ok.inj made]
    exact ⟨unitMeans, (parseDecimals_ok.mp decimalsParsed).symm, (parseBounded_ok.mp atomsParsed).symm⟩

theorem gives_price {p : GatePrice Bytes} {k : Kernel.Price} (means : PriceMeans p k) :
    Gives Kernel.readPriceInput (priceSpelling p) (Kernel.priceInputOf k) := by
  have given : Gives Kernel.readPriceInput (priceSpelling p) ⟨k.numeratorUnit.1, k.denominatorUnit.1,
      .integer p.decimals.toNat, .bigint (p.atoms.toNat : Int)⟩ :=
    (gives_text means.numeratorUnit).bind ((gives_text means.denominatorUnit).bind
      ((gives_u8 p.decimals).bind (gives_atoms p.atoms).last))
  rwa [means.decimals, means.atoms] at given

theorem takes_price : Takes Kernel.readPriceInput fun used input => ∀ k, parsePrice input = .ok k →
    ∃ p, used = priceSpelling p ∧ PriceMeans p k := by
  refine (takes_text.bind fun _ => takes_text.bind fun _ => takes_u8.bind fun _ => takes_atoms.last).mono ?_
  rintro _ _ ⟨first, second, ⟨decimals, spelled, value⟩, ⟨atoms, spelled', value'⟩⟩ k parsed
  rw [value, value'] at parsed
  simp only [parsePrice, except_bind_ok] at parsed
  obtain ⟨_, numeratorParsed, _, denominatorParsed, _, decimalsParsed, _, atomsParsed, made⟩ := parsed
  obtain ⟨numerator, written, numeratorMeans⟩ := first _ numeratorParsed
  obtain ⟨denominator, written', denominatorMeans⟩ := second _ denominatorParsed
  refine ⟨⟨numerator, denominator, decimals, atoms⟩, ?_, ?_⟩
  · rw [written, written', spelled, spelled', priceSpelling]
  · rw [← Except.ok.inj made]
    exact ⟨numeratorMeans, denominatorMeans, (parseDecimals_ok.mp decimalsParsed).symm,
      (parseBounded_ok.mp atomsParsed).symm⟩

theorem gives_party {p : PartyText} {k : PartyId} (means : PartyMeans p k) :
    Gives readPartyInput (partySpelling p) (partyIdInputOf k) :=
  (gives_text means.kind).bind (gives_text means.value).last

theorem takes_party : Takes readPartyInput fun used input => ∀ k, parsePartyId input = .ok k →
    ∃ p, used = partySpelling p ∧ PartyMeans p k := by
  refine (takes_text.bind fun _ => takes_text.last).mono ?_
  rintro _ _ ⟨first, ⟨second⟩⟩ k parsed
  simp only [parsePartyId, except_bind_ok, require_ok] at parsed
  obtain ⟨_, kindParsed, _, valueParsed, _, same⟩ := parsed
  cases same
  obtain ⟨kind, rfl, kindMeans⟩ := first _ kindParsed
  obtain ⟨value, rfl, valueMeans⟩ := second _ valueParsed
  exact ⟨(kind, value), rfl, kindMeans, valueMeans⟩

end Fields

section Sets

theorem gives_members {raws : List Bytes} {ids : List Identifier}
    (means : List.Forall₂ textMeans raws ids) (ascends : Ascends ids) {previous : Option Identifier}
    (follows : ∀ before ∈ previous, ∀ id ∈ ids, compareIdentifierBytes before id = .lt) :
    Gives (readMembers ids.length previous) (raws.flatMap stringBytes) (ids.map (·.1)) := by
  induction means generalizing previous with
  | nil => exact Gives.pure []
  | @cons raw id raws ids first rest ih =>
    obtain ⟨above, ascends⟩ := pairwise_cons.mp ascends
    have ordered : (previous.all fun before => compareIdentifierBytes before id == .lt) = true := by
      cases previous with
      | none => rfl
      | some before => simp [follows before rfl id (by simp)]
    have found : Gives (do
        let text ← readStr
        Reader.ofExcept ((parseIdentifier text).mapError fun _ => CoreErrorCode.encodingMalformed) :
          CoreReader Identifier) (stringBytes raw) id := by
      refine (gives_text first).check (Gives.ofExcept ?_)
      rw [parseIdentifier_self]
      rfl
    have tail := @ih ascends (some id) (by rintro _ ⟨⟩ other member; exact above other member)
    refine found.bind ?_
    simp only [ordered, if_true]
    exact tail.last

theorem gives_set {raws : List Bytes} {set : IdentifierSet} (means : setMeans raws set) :
    Gives readIdentifierSet (setSpelling raws) (identifierSetInputOf set) := by
  have sized : raws.length = set.members.length := means.length_eq
  have bounded := set.bounded
  simp only [MAX_SET_SIZE] at bounded
  have members := @gives_members _ _ means set.ascending none (by simp)
  rw [← sized] at members
  exact (gives_u16 (by omega)).bind members

theorem takes_members (count : Nat) (previous : Option Identifier) :
    Takes (readMembers count previous) fun used texts => ∃ raws ids, used = raws.flatMap stringBytes ∧
      texts = ids.map (·.1) ∧ raws.length = count ∧ List.Forall₂ textMeans raws ids ∧ Ascends ids ∧
      (∀ before ∈ previous, ∀ id ∈ ids, compareIdentifierBytes before id = .lt) := by
  induction count generalizing previous with
  | zero =>
    refine (Takes.pure []).mono ?_
    rintro _ _ ⟨rfl, rfl⟩
    exact ⟨[], [], rfl, rfl, rfl, .nil, List.Pairwise.nil, by simp⟩
  | succ count ih =>
    have here : Takes (do
        let text ← readStr
        Reader.ofExcept ((parseIdentifier text).mapError fun _ => CoreErrorCode.encodingMalformed) :
          CoreReader Identifier) fun used id => ∃ raw, used = stringBytes raw ∧ textMeans raw id := by
      refine takes_text.checked.mono ?_
      rintro used id ⟨text, parsed, spelled⟩
      cases found : parseIdentifier text with
      | error code =>
        rw [found] at parsed
        cases parsed
      | ok other =>
        rw [found] at parsed
        cases parsed
        exact spelled id found
    have after : ∀ id : Identifier, Takes
        (if previous.all fun before => compareIdentifierBytes before id == .lt then do
          let rest ← readMembers count (some id)
          pure (id.1 :: rest)
        else Reader.fail .encodingNonCanonical : CoreReader (List String)) fun used texts =>
          (∀ before ∈ previous, compareIdentifierBytes before id = .lt) ∧ ∃ raws ids,
            used = raws.flatMap stringBytes ∧ texts = id.1 :: ids.map (·.1) ∧ raws.length = count ∧
            List.Forall₂ textMeans raws ids ∧ Ascends (id :: ids) := by
      intro id
      split
      · rename_i ordered
        refine (ih (some id)).last.mono ?_
        rintro _ _ ⟨raws, ids, rfl, rfl, sized, means, ascends, above⟩
        refine ⟨?_, raws, ids, rfl, rfl, sized, means, pairwise_cons.mpr ⟨above id rfl, ascends⟩⟩
        rintro before ⟨⟩
        simpa using ordered
      · exact (Takes.fail _).mono fun _ _ impossible => impossible.elim
    refine (here.bind after).mono ?_
    rintro _ _ @⟨id, _, _, _, ⟨raw, rfl, first⟩, ordered, raws, ids, rfl, rfl, sized, means, ascends⟩
    refine ⟨raw :: raws, id :: ids, rfl, rfl, congrArg (· + 1) sized, .cons first means, ascends, ?_⟩
    intro before known other member
    have below := ordered before known
    rcases mem_cons.mp member with rfl | later
    · exact below
    · exact compareIdentifier_trans below ((pairwise_cons.mp ascends).1 other later)

theorem takes_set (code : ReasonCode) : Takes readIdentifierSet fun used texts =>
    ∀ set, parseIdentifierSet texts code = .ok set → ∃ raws, used = setSpelling raws ∧ setMeans raws set := by
  refine (takes_u16.bind fun count => takes_members count none).mono ?_
  rintro _ _ ⟨⟨_, rfl⟩, raws, ids, rfl, rfl, rfl, means, ascends, _⟩ set parsed
  refine ⟨raws, rfl, ?_⟩
  rw [setMeans, parseIdentifierSet_ascending ascends parsed]
  exact means

end Sets

section Records

theorem gives_mandate {m : WireMandate} {k : CanonicalMandate} (means : MandateMeans m k) :
    Gives readMandateInput (mandateFields m) (mandateInputOf k) := by
  have supported : mandateInputOf k = { mandateInputOf k with version := .integer MANDATE_SCHEMA_VERSION } := by
    rw [mandateInputOf, k.supported]
  have mandateId := gives_digest m.mandateId
  have nonce := gives_uint64 m.nonce
  have maxDeviationBps := gives_uint16 m.maxDeviationBps
  have epoch := gives_uint64 m.requiredCorporateActionEpoch
  have maxPriceAge := gives_seconds32 m.maxPriceAgeSeconds
  have maxActionAge := gives_seconds32 m.maxCorporateActionAgeSeconds
  have createdAt := gives_i64 m.createdAtUnixSeconds
  have notBefore := gives_i64 m.notBeforeUnixSeconds
  have expiresAt := gives_i64 m.expiresAtUnixSeconds
  rw [means.nonce] at nonce
  rw [means.maxDeviationBps] at maxDeviationBps
  rw [means.epoch] at epoch
  rw [means.maxPriceAge] at maxPriceAge
  rw [means.maxActionAge] at maxActionAge
  rw [means.createdAt] at createdAt
  rw [means.notBefore] at notBefore
  rw [means.expiresAt] at expiresAt
  rw [supported, mandateInputOf, ← means.mandateId]
  exact mandateId.bind (nonce.bind ((gives_party means.principal).bind ((gives_party means.agent).bind
    ((gives_asset means.canonicalAsset).bind ((gives_code _ means.side).bind
      ((gives_amount means.maxNotional).bind ((gives_amount means.economicLimit).bind
        (maxDeviationBps.bind ((gives_code _ means.syntheticPolicy).bind
          ((gives_set means.allowedIssuers).bind ((gives_set means.allowedChains).bind
            ((gives_set means.allowedVenues).bind (epoch.bind (maxPriceAge.bind (maxActionAge.bind
              ((gives_code _ means.haltPolicy).bind (createdAt.bind (notBefore.bind
                expiresAt.last))))))))))))))))))

theorem takes_bounded {min max : Int} {read : CoreReader Int} {width size : Nat}
    {value : BitVec width → Int} (takes : Takes read fun used input => ∃ bits : BitVec width,
      used = beBytes size bits.toNat ∧ input = value bits) (code : ReasonCode) :
    Takes read fun used input => ∀ k : IntegerInRange min max,
      parseBounded (.bigint input) min max code = .ok k → ∃ bits : BitVec width,
        used = beBytes size bits.toNat ∧ value bits = k.1 := by
  refine takes.mono ?_
  rintro used _ ⟨bits, rfl, rfl⟩ k parsed
  exact ⟨bits, rfl, (parseBounded_ok.mp parsed).symm⟩

theorem takes_digestAs (code : ReasonCode) : Takes readDigest fun used text => ∀ k,
    parseBytes32 text code = .ok k → used = beBytes 32 k.toNat := by
  refine takes_digest.mono ?_
  intro used text taken k parsed
  obtain ⟨digest, spelled, shown⟩ := taken
  rw [shown, parseBytes32_self] at parsed
  rw [spelled, Except.ok.inj parsed]

theorem takes_mandate : Takes readMandateInput fun used input => ∀ k, parseMandate input = .ok k →
    ∃ m, used = mandateFields m ∧ MandateMeans m k := by
  have epoch := @takes_bounded 0 UINT64_MAX _ _ _ _ takes_uint64 .malformedMandate
  have duration := @takes_bounded 0 UINT32_MAX _ _ _ _ takes_seconds32 .malformedMandate
  have seconds := @takes_bounded INT64_MIN INT64_MAX _ _ _ _ takes_i64 .malformedMandate
  have bps := @takes_bounded 0 UINT16_MAX _ _ _ _ takes_uint16 .malformedMandate
  have set := takes_set .malformedMandate
  refine ((takes_digestAs .malformedMandate).bind fun _ => epoch.bind fun _ => takes_party.bind fun _ =>
    takes_party.bind fun _ => takes_asset.bind fun _ => (takes_code _).bind fun _ =>
      takes_amount.bind fun _ => takes_amount.bind fun _ => bps.bind fun _ =>
        (takes_code _).bind fun _ => set.bind fun _ => set.bind fun _ => set.bind fun _ =>
          epoch.bind fun _ => duration.bind fun _ => duration.bind fun _ => (takes_code _).bind fun _ =>
            seconds.bind fun _ => seconds.bind fun _ => seconds.last).mono ?_
  rintro _ _ ⟨id, nonce, principal, agent, asset, ⟨side, side', sideMeans⟩, notional, limit, deviation,
    ⟨synthetic, synthetic', syntheticMeans⟩, issuers, chains, venues, action, priceAge, actionAge,
    ⟨halt, halt', haltMeans⟩, created, start, ⟨stop⟩⟩ k parsed
  simp only [parseMandate, except_bind_ok, require_ok] at parsed
  obtain ⟨_, _, _, idParsed, _, nonceParsed, _, principalParsed, _, agentParsed, _, assetParsed,
    _, notionalParsed, _, limitParsed, _, deviationParsed, _, issuersParsed, _, chainsParsed,
    _, venuesParsed, _, actionParsed, _, priceAgeParsed, _, actionAgeParsed, _, createdParsed,
    _, startParsed, _, stopParsed, _, _, made⟩ := parsed
  have id' := id _ idParsed
  obtain ⟨nonce, nonce', nonceMeans⟩ := nonce _ nonceParsed
  obtain ⟨principal, principal', principalMeans⟩ := principal _ principalParsed
  obtain ⟨agent, agent', agentMeans⟩ := agent _ agentParsed
  obtain ⟨asset, asset', assetMeans⟩ := asset _ assetParsed
  obtain ⟨notional, notional', notionalMeans⟩ := notional _ notionalParsed
  obtain ⟨limit, limit', limitMeans⟩ := limit _ limitParsed
  obtain ⟨deviation, deviation', deviationMeans⟩ := deviation _ deviationParsed
  obtain ⟨issuers, issuers', issuersMeans⟩ := issuers _ issuersParsed
  obtain ⟨chains, chains', chainsMeans⟩ := chains _ chainsParsed
  obtain ⟨venues, venues', venuesMeans⟩ := venues _ venuesParsed
  obtain ⟨action, action', actionMeans⟩ := action _ actionParsed
  obtain ⟨priceAge, priceAge', priceAgeMeans⟩ := priceAge _ priceAgeParsed
  obtain ⟨actionAge, actionAge', actionAgeMeans⟩ := actionAge _ actionAgeParsed
  obtain ⟨created, created', createdMeans⟩ := created _ createdParsed
  obtain ⟨start, start', startMeans⟩ := start _ startParsed
  obtain ⟨stop, stop', stopMeans⟩ := stop _ stopParsed
  refine ⟨⟨MANDATE_SCHEMA_VERSION, k.mandateId, nonce, principal, agent, asset, side, notional, limit, deviation,
    synthetic, issuers, chains, venues, action, priceAge, actionAge, halt, created, start, stop⟩, ?_, ?_⟩
  · rw [id', nonce', principal', agent', asset', side', notional', limit', deviation', synthetic', issuers', chains',
      venues', action', priceAge', actionAge', halt', created', start', stop', ← Except.ok.inj made, mandateFields]
  · rw [← Except.ok.inj made]
    exact ⟨rfl, rfl, nonceMeans, principalMeans, agentMeans, assetMeans, sideMeans, notionalMeans, limitMeans,
      deviationMeans, syntheticMeans, issuersMeans, chainsMeans, venuesMeans, actionMeans, priceAgeMeans,
      actionAgeMeans, haltMeans, createdMeans, startMeans, stopMeans⟩

theorem gives_candidate {c : WireCandidate} {k : ExecutionCandidate} (means : CandidateMeans c k) :
    Gives readCandidateInput (candidateFields c) (candidateInputOf k) := by
  have supported : candidateInputOf k =
      { candidateInputOf k with version := .integer CANDIDATE_SCHEMA_VERSION } := by
    rw [candidateInputOf, k.supported]
  have evaluationStateDigest := gives_digest c.evaluationStateDigest
  have registrySnapshotDigest := gives_digest c.registrySnapshotDigest
  have epoch := gives_uint64 c.corporateActionEpoch
  rw [means.epoch] at epoch
  rw [supported, candidateInputOf, ← means.evaluationStateDigest, ← means.registrySnapshotDigest]
  exact (gives_text means.representationId).bind ((gives_asset means.canonicalAsset).bind
    ((gives_text means.issuer).bind ((gives_text means.chain).bind ((gives_text means.venue).bind
      ((gives_code _ means.side).bind ((gives_party means.agent).bind ((gives_amount means.quantity).bind
        ((gives_price means.executionPrice).bind ((gives_amount means.notional).bind
          ((gives_amount means.feeTotal).bind ((gives_text means.evaluationStateId).bind
            (evaluationStateDigest.bind (registrySnapshotDigest.bind epoch.last)))))))))))))

theorem takes_candidate : Takes readCandidateInput fun used input => ∀ k, parseCandidate input = .ok k →
    ∃ c, used = candidateFields c ∧ CandidateMeans c k := by
  have epoch := @takes_bounded 0 UINT64_MAX _ _ _ _ takes_uint64 .malformedCandidate
  have digest := takes_digestAs .malformedCandidate
  refine (takes_text.bind fun _ => takes_asset.bind fun _ => takes_text.bind fun _ =>
    takes_text.bind fun _ => takes_text.bind fun _ => (takes_code _).bind fun _ =>
      takes_party.bind fun _ => takes_amount.bind fun _ => takes_price.bind fun _ =>
        takes_amount.bind fun _ => takes_amount.bind fun _ => takes_text.bind fun _ =>
          digest.bind fun _ => digest.bind fun _ => epoch.last).mono ?_
  rintro _ _ ⟨representation, asset, issuer, chain, venue, ⟨side, side', sideMeans⟩, agent, quantity, price, notional,
    fee, stateId, stateDigest, registry, ⟨action⟩⟩ k parsed
  simp only [parseCandidate, except_bind_ok] at parsed
  obtain ⟨_, _, _, representationParsed, _, assetParsed, _, issuerParsed, _, chainParsed,
    _, venueParsed, _, agentParsed, _, quantityParsed, _, priceParsed, _, notionalParsed,
    _, feeParsed, _, stateIdParsed, _, stateDigestParsed, _, registryParsed, _, actionParsed, made⟩ := parsed
  have stateDigest' := stateDigest _ stateDigestParsed
  have registry' := registry _ registryParsed
  obtain ⟨representation, representation', representationMeans⟩ := representation _ representationParsed
  obtain ⟨asset, asset', assetMeans⟩ := asset _ assetParsed
  obtain ⟨issuer, issuer', issuerMeans⟩ := issuer _ issuerParsed
  obtain ⟨chain, chain', chainMeans⟩ := chain _ chainParsed
  obtain ⟨venue, venue', venueMeans⟩ := venue _ venueParsed
  obtain ⟨agent, agent', agentMeans⟩ := agent _ agentParsed
  obtain ⟨quantity, quantity', quantityMeans⟩ := quantity _ quantityParsed
  obtain ⟨price, price', priceMeans⟩ := price _ priceParsed
  obtain ⟨notional, notional', notionalMeans⟩ := notional _ notionalParsed
  obtain ⟨fee, fee', feeMeans⟩ := fee _ feeParsed
  obtain ⟨stateId, stateId', stateIdMeans⟩ := stateId _ stateIdParsed
  obtain ⟨action, action', actionMeans⟩ := action _ actionParsed
  refine ⟨⟨CANDIDATE_SCHEMA_VERSION, representation, asset, issuer, chain, venue, side, agent, quantity, price,
    notional, fee, stateId, k.evaluationStateDigest, k.registrySnapshotDigest, action⟩, ?_, ?_⟩
  · rw [representation', asset', issuer', chain', venue', side', agent', quantity', price', notional', fee', stateId',
      stateDigest', registry', action', ← Except.ok.inj made, candidateFields]
  · rw [← Except.ok.inj made]
    exact ⟨rfl, representationMeans, assetMeans, issuerMeans, chainMeans, venueMeans, sideMeans, agentMeans,
      quantityMeans, priceMeans, notionalMeans, feeMeans, stateIdMeans, rfl, rfl, actionMeans⟩

end Records

end Mandate.Gate
