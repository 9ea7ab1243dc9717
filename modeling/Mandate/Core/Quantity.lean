import Mandate.Core.Identifiers

/-! Typed economic quantities: kind, unit, scale, exact atoms, and the asset and valuation
the kind requires. Limits carry no asset and no price. -/
namespace Mandate.Core
open Lib.Wire Lib.Text

def MAX_DECIMALS : Nat := 38

def unitLetter (c : Char) : Bool := ('A' ≤ c && c ≤ 'Z') || ('0' ≤ c && c ≤ '9')

/-- 1 to 32 characters of `A-Z 0-9 . _ -`, a letter or digit at both ends. -/
def unitText (text : String) : Bool :=
  text.toList.length ≤ 32 && text.toList.all (fun c => unitLetter c || "._-".toList.contains c) &&
  match text.toList.head?, text.toList.getLast? with
  | some first, some last => unitLetter first && unitLetter last
  | _, _ => false

abbrev UnitCode := {text : String // unitText text = true}

def COUNT_UNIT : String := "COUNT"

def parseUnitCode (raw path : String) : CoreResult UnitCode :=
  if valid : unitText raw = true then .ok ⟨raw, valid⟩ else fail .malformedUnit path

abbrev Decimals := SmallUint MAX_DECIMALS

def parseDecimals (raw : NumberInput) (path : String) : CoreResult Decimals := do
  let decimals ← parseSmallUint raw MAX_SAFE_INTEGER path
  if small : decimals.1 ≤ MAX_DECIMALS then .ok ⟨decimals.1, small⟩ else fail .invalidDecimals path

inductive QuantityKind
  | tokenAmount | capital | positionSize | notional | grossExposure | netExposure | margin
  | collateral | debt | pnl | count
deriving DecidableEq

inductive ValuationBasis | execution | limit | mark
deriving DecidableEq

inductive AssetRequirement | representation | canonical | optionalCanonical | any | none
deriving DecidableEq

structure QuantityKindRule where
  signed : Bool
  asset : AssetRequirement
  valuationBases : List ValuationBasis
  valuationRequired : Bool
  ledgerTrackable : Bool

def QUANTITY_KIND_RULES : QuantityKind → QuantityKindRule
  | .tokenAmount => ⟨false, .representation, [], false, true⟩
  | .capital => ⟨false, .any, [], false, true⟩
  | .positionSize => ⟨true, .canonical, [], false, true⟩
  | .notional => ⟨false, .canonical, [.execution, .limit], true, true⟩
  | .grossExposure => ⟨false, .optionalCanonical, [.mark], true, false⟩
  | .netExposure => ⟨true, .canonical, [.mark], true, false⟩
  | .margin => ⟨false, .any, [], false, true⟩
  | .collateral => ⟨false, .any, [], false, true⟩
  | .debt => ⟨false, .any, [], false, true⟩
  | .pnl => ⟨true, .none, [.mark], false, true⟩
  | .count => ⟨false, .none, [], false, true⟩

def QUANTITY_KIND_CODE : WireCodes QuantityKind where
  keys := [.tokenAmount, .capital, .positionSize, .notional, .grossExposure, .netExposure, .margin,
    .collateral, .debt, .pnl, .count]
  code
    | .tokenAmount => 1 | .capital => 2 | .positionSize => 3 | .notional => 4
    | .grossExposure => 5 | .netExposure => 6 | .margin => 7 | .collateral => 8 | .debt => 9
    | .pnl => 10 | .count => 11
  width key := by cases key <;> decide
  unique key := by cases key <;> rfl

def VALUATION_BASIS_CODE : WireCodes ValuationBasis where
  keys := [.execution, .limit, .mark]
  code
    | .execution => 1 | .limit => 2 | .mark => 3
  width key := by cases key <;> decide
  unique key := by cases key <;> rfl

def atomsInRange (signed : Bool) (atoms : Int) : Bool :=
  if signed then INT256_MIN ≤ atoms && atoms ≤ INT256_MAX else 0 ≤ atoms && atoms ≤ UINT256_MAX

structure PriceInput where
  numeratorUnit : String
  denominatorUnit : String
  decimals : NumberInput
  atoms : IntegerInput

/-- `numeratorUnit` per `denominatorUnit`, scaled by `10 ^ decimals`. -/
structure Price where
  numeratorUnit : UnitCode
  denominatorUnit : UnitCode
  decimals : Decimals
  atoms : IntegerInRange 0 UINT256_MAX
deriving DecidableEq

def validatePrice (input : PriceInput) (path : String) : CoreResult Price := do
  let numeratorUnit ← parseUnitCode input.numeratorUnit (atField path "numeratorUnit")
  let denominatorUnit ← parseUnitCode input.denominatorUnit (atField path "denominatorUnit")
  let decimals ← parseDecimals input.decimals (atField path "decimals")
  let atoms ← parseInteger input.atoms (atField path "atoms")
  if inside : 0 ≤ atoms ∧ atoms ≤ UINT256_MAX then
    .ok ⟨numeratorUnit, denominatorUnit, decimals, ⟨atoms, inside⟩⟩
  else fail .quantityOutOfRange (atField path "atoms")

inductive PriceSourceKind | state | observation | action
deriving DecidableEq

def PRICE_SOURCE_CODE : WireCodes PriceSourceKind where
  keys := [.state, .observation, .action]
  code
    | .state => 1 | .observation => 2 | .action => 3
  width key := by cases key <;> decide
  unique key := by cases key <;> rfl

structure PriceSourceInput where
  kind : PriceSourceKind
  id : String

structure PriceSource where
  kind : PriceSourceKind
  id : Digest32
deriving DecidableEq

def PriceSourceKind.field : PriceSourceKind → String
  | .state => "stateId"
  | .observation => "observationId"
  | .action => "actionId"

def validatePriceSource (input : PriceSourceInput) (path : String) : CoreResult PriceSource := do
  let id ← parseDigest input.id (atField path input.kind.field)
  .ok ⟨input.kind, id⟩

/-- An execution price is a fill's, a limit price the order's, a mark a snapshot's. -/
def SOURCE_FOR_BASIS : ValuationBasis → PriceSourceKind
  | .execution => .observation
  | .limit => .action
  | .mark => .state

structure ValuationRefInput where
  price : PriceInput
  basis : ValuationBasis
  source : PriceSourceInput
  observedAt : IntegerInput

structure ValuationRef where
  price : Price
  basis : ValuationBasis
  source : PriceSource
  observedAt : UnixSeconds
  sourced : source.kind = SOURCE_FOR_BASIS basis
deriving DecidableEq

def validateValuationRef (input : ValuationRefInput) (path : String) : CoreResult ValuationRef := do
  let price ← validatePrice input.price (atField path "price")
  let source ← validatePriceSource input.source (atField path "source")
  if sourced : source.kind = SOURCE_FOR_BASIS input.basis then
    let observedAt ← parseUnixSeconds input.observedAt (atField path "observedAt")
    .ok ⟨price, input.basis, source, observedAt, sourced⟩
  else fail .valuationSourceInvalid (atField path "source.kind")

def writePrice (p : Price) : Writer :=
  writeStr p.numeratorUnit.1 ++ (writeStr p.denominatorUnit.1 ++ (writeU8 p.decimals.1 ++
    writeU256 p.atoms.1))

def readPriceInput : CoreReader PriceInput := do
  let numeratorUnit ← readStr
  let denominatorUnit ← readStr
  let decimals ← readU8
  let atoms ← (fun n : Nat => (n : Int)) <$> readU256
  pure ⟨numeratorUnit, denominatorUnit, .integer decimals, .bigint atoms⟩

def writeValuation (v : ValuationRef) : Writer :=
  writePrice v.price ++ (writeCode VALUATION_BASIS_CODE v.basis ++
    (writeCode PRICE_SOURCE_CODE v.source.kind ++ (writeDigest v.source.id ++ writeI64 v.observedAt.1)))

def readValuationInput : CoreReader ValuationRefInput := do
  let price ← readPriceInput
  let basis ← readCode VALUATION_BASIS_CODE
  let sourceKind ← readCode PRICE_SOURCE_CODE
  let digest ← readDigest
  let observedAt ← readI64
  pure ⟨price, basis, ⟨sourceKind, digest⟩, .bigint observedAt⟩

def priceInputOf (p : Price) : PriceInput :=
  ⟨p.numeratorUnit.1, p.denominatorUnit.1, .integer p.decimals.1, .bigint p.atoms.1⟩

def valuationInputOf (v : ValuationRef) : ValuationRefInput :=
  ⟨priceInputOf v.price, v.basis, ⟨v.source.kind, v.source.id.toHex⟩, .bigint v.observedAt.1⟩

structure EconomicQuantityInput where
  kind : QuantityKind
  unit : String
  decimals : NumberInput
  atoms : IntegerInput
  asset : Option ResourceIdInput
  valuation : Option ValuationRefInput

def assetFits (required : AssetRequirement) : Option AssetId → Bool
  | none => required = .none || required = .optionalCanonical
  | some asset => match required with
    | .none => false
    | .canonical | .optionalCanonical => asset.1.kind = .canonicalAsset
    | .representation => asset.1.kind = .representationAsset
    | .any => true

/-- Which valuation a kind carries: its basis, and the unit of its price. -/
def valuationFits (rule : QuantityKindRule) (unit : UnitCode) : Option ValuationRef → Bool
  | none => !rule.valuationRequired
  | some valuation => !rule.valuationBases.isEmpty &&
      rule.valuationBases.contains valuation.basis && valuation.price.numeratorUnit == unit

structure EconomicQuantity where
  kind : QuantityKind
  unit : UnitCode
  decimals : Decimals
  atoms : Int
  asset : Option AssetId
  valuation : Option ValuationRef
  counted : kind = .count ↔ unit.1 = COUNT_UNIT
  range : atomsInRange (QUANTITY_KIND_RULES kind).signed atoms = true
  assetForm : assetFits (QUANTITY_KIND_RULES kind).asset asset = true
  valued : valuationFits (QUANTITY_KIND_RULES kind) unit valuation = true
deriving DecidableEq

def validateAsset (required : AssetRequirement) (input : Option ResourceIdInput) (path : String) :
    CoreResult {asset : Option AssetId // assetFits required asset = true} :=
  match input with
  | none =>
    if fits : assetFits required none = true then .ok ⟨none, fits⟩ else fail .assetRequired path
  | some input =>
    if required = .none then fail .assetForbidden path
    else match validateResourceId input ASSET_KINDS path with
      | .error error =>
        if error.code = .resourceKindMismatch then fail .assetFormInvalid error.path else .error error
      | .ok asset =>
        if fits : assetFits required (some asset) = true then .ok ⟨some asset, fits⟩
        else fail .assetFormInvalid path

def validateValuation (rule : QuantityKindRule) (unit : UnitCode) (input : Option ValuationRefInput)
    (path : String) :
    CoreResult {valuation : Option ValuationRef // valuationFits rule unit valuation = true} :=
  match input with
  | none =>
    if fits : valuationFits rule unit none = true then .ok ⟨none, fits⟩ else fail .valuationRequired path
  | some input =>
    if rule.valuationBases.isEmpty then fail .valuationForbidden path
    else do
      let valuation ← validateValuationRef input path
      if !rule.valuationBases.contains valuation.basis then
        fail .valuationBasisInvalid (atField path "basis")
      else if fits : valuationFits rule unit (some valuation) = true then .ok ⟨some valuation, fits⟩
      else fail .valuationUnitMismatch (atField path "price.numeratorUnit")

def validateQuantity (input : EconomicQuantityInput) (path : String) : CoreResult EconomicQuantity := do
  let rule := QUANTITY_KIND_RULES input.kind
  let unit ← parseUnitCode input.unit (atField path "unit")
  if counted : input.kind = .count ↔ unit.1 = COUNT_UNIT then
    let decimals ← parseDecimals input.decimals (atField path "decimals")
    let atoms ← parseInteger input.atoms (atField path "atoms")
    if !rule.signed ∧ atoms < 0 then fail .quantityNegativeUnsigned (atField path "atoms")
    else if range : atomsInRange rule.signed atoms = true then
      let asset ← validateAsset rule.asset input.asset (atField path "asset")
      let valuation ← validateValuation rule unit input.valuation (atField path "valuation")
      .ok ⟨input.kind, unit, decimals, atoms, asset.1, valuation.1, counted, range, asset.2, valuation.2⟩
    else fail .quantityOutOfRange (atField path "atoms")
  else fail .countUnitRequired (atField path "unit")

def writeAtoms (kind : QuantityKind) (atoms : Int) : Writer :=
  if (QUANTITY_KIND_RULES kind).signed then writeI256 atoms else writeU256 atoms

def readAtoms (kind : QuantityKind) : CoreReader Int :=
  if (QUANTITY_KIND_RULES kind).signed then readI256 else (fun n : Nat => (n : Int)) <$> readU256

def writeQuantityBody (q : EconomicQuantity) : Writer :=
  writeCode QUANTITY_KIND_CODE q.kind ++ (writeStr q.unit.1 ++ (writeU8 q.decimals.1 ++
    (writeAtoms q.kind q.atoms ++ (writeNullable writeResourceOf q.asset ++
      writeNullable writeValuation q.valuation))))

def readQuantityInput : CoreReader EconomicQuantityInput := do
  let kind ← readCode QUANTITY_KIND_CODE
  let unit ← readStr
  let decimals ← readU8
  let atoms ← readAtoms kind
  let asset ← readNullable readResourceIdInput
  let valuation ← readNullable readValuationInput
  pure ⟨kind, unit, .integer decimals, .bigint atoms, asset, valuation⟩

def quantityInputOf (q : EconomicQuantity) : EconomicQuantityInput :=
  ⟨q.kind, q.unit.1, .integer q.decimals.1, .bigint q.atoms,
    q.asset.map resourceOfInputOf, q.valuation.map valuationInputOf⟩

def QUANTITY_TAG : String := "mandate-core/v1/quantity"

def encodeQuantity (q : EconomicQuantity) : Bytes :=
  encodeWith (fun q => taggedWriter QUANTITY_TAG ++ writeQuantityBody q) q

def decodeQuantity (bytes : Bytes) : CoreResult EconomicQuantity :=
  decodeTagged bytes QUANTITY_TAG readQuantityInput fun input => validateQuantity input "quantity"

structure QuantityBoundInput where
  kind : QuantityKind
  unit : String
  decimals : NumberInput
  atoms : IntegerInput

/-- A limit on a measure: a non-negative magnitude with no asset and no valuation. -/
structure QuantityBound where
  kind : QuantityKind
  unit : UnitCode
  decimals : Decimals
  atoms : IntegerInRange 0 UINT256_MAX
  counted : kind = .count ↔ unit.1 = COUNT_UNIT
deriving DecidableEq

def validateQuantityBound (input : QuantityBoundInput) (path : String) : CoreResult QuantityBound := do
  let unit ← parseUnitCode input.unit (atField path "unit")
  if counted : input.kind = .count ↔ unit.1 = COUNT_UNIT then
    let decimals ← parseDecimals input.decimals (atField path "decimals")
    let atoms ← parseInteger input.atoms (atField path "atoms")
    if atoms < 0 then fail .quantityNegativeUnsigned (atField path "atoms")
    else if inside : 0 ≤ atoms ∧ atoms ≤ UINT256_MAX then
      .ok ⟨input.kind, unit, decimals, ⟨atoms, inside⟩, counted⟩
    else fail .quantityOutOfRange (atField path "atoms")
  else fail .countUnitRequired (atField path "unit")

def writeQuantityBound (b : QuantityBound) : Writer :=
  writeCode QUANTITY_KIND_CODE b.kind ++ (writeStr b.unit.1 ++ (writeU8 b.decimals.1 ++ writeU256 b.atoms.1))

def readQuantityBoundInput : CoreReader QuantityBoundInput := do
  let kind ← readCode QUANTITY_KIND_CODE
  let unit ← readStr
  let decimals ← readU8
  let atoms ← (fun n : Nat => (n : Int)) <$> readU256
  pure ⟨kind, unit, .integer decimals, .bigint atoms⟩

def quantityBoundInputOf (b : QuantityBound) : QuantityBoundInput :=
  ⟨b.kind, b.unit.1, .integer b.decimals.1, .bigint b.atoms.1⟩

structure RatioInput where
  numerator : IntegerInput
  scale : NumberInput

structure Ratio where
  numerator : IntegerInRange 0 UINT256_MAX
  scale : Decimals
deriving DecidableEq

def validateRatio (input : RatioInput) (path : String) : CoreResult Ratio := do
  let numerator ← parseIntegerInRange input.numerator 0 UINT256_MAX (atField path "numerator")
  let scale ← parseDecimals input.scale (atField path "scale")
  .ok ⟨numerator, scale⟩

def writeRatio (r : Ratio) : Writer := writeU256 r.numerator.1 ++ writeU8 r.scale.1

def readRatioInput : CoreReader RatioInput := do
  let numerator ← (fun n : Nat => (n : Int)) <$> readU256
  let scale ← readU8
  pure ⟨.bigint numerator, .integer scale⟩

def ratioInputOf (r : Ratio) : RatioInput := ⟨.bigint r.numerator.1, .integer r.scale.1⟩

def compareRatios (a b : Ratio) : Ordering :=
  compare (a.numerator.1 * 10 ^ b.scale.1) (b.numerator.1 * 10 ^ a.scale.1)

theorem unit_ascii (unit : UnitCode) : Ascii unit.1 := by
  have valid := unit.2
  simp only [unitText, Bool.and_eq_true] at valid
  intro c member
  have charset := List.all_eq_true.mp valid.1.2 c member
  simp only [unitLetter, Bool.or_eq_true, Bool.and_eq_true, decide_eq_true_eq,
    List.contains_iff_mem] at charset
  have letters : Ascii "._-" := ascii_of_all (by decide)
  have below : ∀ d : Char, c ≤ d → d.toNat < 128 → c.toNat < 128 := fun d le small =>
    Nat.lt_of_le_of_lt (by exact_mod_cast le) small
  rcases charset with (⟨_, high⟩ | ⟨_, high⟩) | separator
  · exact below _ high (by decide)
  · exact below _ high (by decide)
  · exact letters c separator

theorem unit_length (unit : UnitCode) : unit.1.length ≤ 32 := by
  have valid := unit.2
  simp only [unitText, Bool.and_eq_true, decide_eq_true_eq] at valid
  rw [← String.length_toList]
  exact valid.1.1

theorem frames_unit (unit : UnitCode) : Frames (writeStr unit.1) readStr unit.1 34 :=
  (frames_str (unit_ascii unit)).mono (by have := unit_length unit; omega)

@[simp] theorem total_unit (unit : UnitCode) : (writeStr unit.1).Total :=
  total_str (unit_ascii unit) (by have := unit_length unit; omega)

@[simp] theorem total_decimals (decimals : Decimals) : (writeU8 decimals.1).Total := by
  have bound := decimals.2
  simp only [MAX_DECIMALS] at bound
  exact total_u8 (by omega)

@[simp] theorem total_u256 (value : IntegerInRange 0 UINT256_MAX) : (writeU256 value.1).Total := by
  have bound := value.2
  simp only [UINT256_MAX] at bound
  exact Writer.total_uint bound.1 (by norm_num at bound ⊢; omega)

@[simp] theorem parseUnitCode_self (unit : UnitCode) (path : String) :
    parseUnitCode unit.1 path = .ok unit := by
  simp [parseUnitCode, unit.2]

@[simp] theorem parseDecimals_self (decimals : Decimals) (path : String) :
    parseDecimals (.integer decimals.1) path = .ok decimals := by
  have bound := decimals.2
  have safe : decimals.1 ≤ MAX_SAFE_INTEGER := bound.trans (by decide)
  have parsed := parseSmallUint_self (Nat.le_refl MAX_SAFE_INTEGER) ⟨decimals.1, safe⟩ path
  simp [parseDecimals, parsed, bind, Except.bind, bound]

@[simp] theorem parseInteger_self (value : Int) (path : String) :
    parseInteger (.bigint value) path = .ok value := rfl

@[simp] theorem validatePrice_self (p : Price) (path : String) :
    validatePrice (priceInputOf p) path = .ok p := by
  simp [validatePrice, priceInputOf, bind, Except.bind, p.atoms.2]

@[simp] theorem validateValuationRef_self (v : ValuationRef) (path : String) :
    validateValuationRef (valuationInputOf v) path = .ok v := by
  simp only [validateValuationRef, validatePriceSource, valuationInputOf, bind, Except.bind,
    validatePrice_self, parseDigest_toHex, dif_pos v.sourced, parseUnixSeconds_self]

theorem validateAsset_self {required : AssetRequirement} {asset : Option AssetId}
    (fits : assetFits required asset = true) (path : String) :
    validateAsset required (asset.map resourceOfInputOf) path = .ok ⟨asset, fits⟩ := by
  cases asset with
  | none => simp [validateAsset, fits]
  | some asset =>
    have carried : required ≠ .none := by
      rintro rfl
      cases fits
    simp [validateAsset, carried, fits]

theorem validateValuation_self {rule : QuantityKindRule} {unit : UnitCode}
    {valuation : Option ValuationRef} (fits : valuationFits rule unit valuation = true) (path : String) :
    validateValuation rule unit (valuation.map valuationInputOf) path = .ok ⟨valuation, fits⟩ := by
  cases valuation with
  | none => simp [validateValuation, fits]
  | some valuation =>
    have parts := fits
    simp only [valuationFits, Bool.and_eq_true, Bool.not_eq_true'] at parts
    simp [validateValuation, parts.1.1, parts.1.2, fits, bind, Except.bind, -List.isEmpty_eq_false_iff,
      -List.contains_eq_mem]

@[simp] theorem validateQuantity_self (q : EconomicQuantity) (path : String) :
    validateQuantity (quantityInputOf q) path = .ok q := by
  have unsigned : ¬ ((!(QUANTITY_KIND_RULES q.kind).signed) = true ∧ q.atoms < 0) := by
    rintro ⟨unsigned, negative⟩
    have range := q.range
    simp only [Bool.not_eq_true'] at unsigned
    simp only [atomsInRange, unsigned, Bool.false_eq_true, if_false, Bool.and_eq_true,
      decide_eq_true_eq] at range
    omega
  simp only [validateQuantity, quantityInputOf, parseUnitCode_self, parseDecimals_self,
    parseInteger_self, bind, Except.bind, dif_pos q.counted, if_neg unsigned, dif_pos q.range,
    validateAsset_self q.assetForm, validateValuation_self q.valued]

@[simp] theorem validateQuantityBound_self (b : QuantityBound) (path : String) :
    validateQuantityBound (quantityBoundInputOf b) path = .ok b := by
  have nonneg : ¬ b.atoms.1 < 0 := by have := b.atoms.2; omega
  simp only [validateQuantityBound, quantityBoundInputOf, parseUnitCode_self, parseDecimals_self,
    parseInteger_self, bind, Except.bind, dif_pos b.counted, if_neg nonneg, dif_pos b.atoms.2]

@[simp] theorem validateRatio_self (r : Ratio) (path : String) :
    validateRatio (ratioInputOf r) path = .ok r := by
  simp [validateRatio, ratioInputOf, bind, Except.bind]

theorem frames_price (p : Price) : Frames (writePrice p) readPriceInput (priceInputOf p) 101 := by
  refine Frames.mono (.bind (frames_unit _) (.bind (frames_unit _) (.bind (frames_u8 _)
    (.last (frames_u256_int _))))) ?_
  decide

theorem frames_valuation (v : ValuationRef) :
    Frames (writeValuation v) readValuationInput (valuationInputOf v) 143 := by
  refine Frames.mono (.bind (frames_price _) (.bind (frames_code _ _) (.bind (frames_code _ _)
    (.bind (frames_digest _) (.last (frames_i64 _)))))) ?_
  decide

theorem frames_atoms (kind : QuantityKind) (atoms : Int) :
    Frames (writeAtoms kind atoms) (readAtoms kind) atoms 32 := by
  unfold writeAtoms readAtoms
  cases (QUANTITY_KIND_RULES kind).signed with
  | true => exact frames_i256 atoms
  | false => exact frames_u256_int atoms

theorem frames_quantity (q : EconomicQuantity) :
    Frames (writeQuantityBody q) readQuantityInput (quantityInputOf q) 474 := by
  refine Frames.mono (.bind (frames_code _ _) (.bind (frames_unit _) (.bind (frames_u8 _)
    (.bind (frames_atoms _ _) (.bind (frames_nullable frames_resourceOf _)
      (.last (frames_nullable frames_valuation _))))))) ?_
  decide

theorem frames_quantityBound (b : QuantityBound) :
    Frames (writeQuantityBound b) readQuantityBoundInput (quantityBoundInputOf b) 68 := by
  refine Frames.mono (.bind (frames_code _ _) (.bind (frames_unit _) (.bind (frames_u8 _)
    (.last (frames_u256_int _))))) ?_
  decide

theorem frames_ratio (r : Ratio) : Frames (writeRatio r) readRatioInput (ratioInputOf r) 33 := by
  refine Frames.mono (.bind (frames_u256_int _) (.last (frames_u8 _))) ?_
  decide

@[simp] theorem total_valuation (v : ValuationRef) : (writeValuation v).Total := by
  simp [writeValuation, writePrice]

theorem total_atoms {kind : QuantityKind} {atoms : Int}
    (range : atomsInRange (QUANTITY_KIND_RULES kind).signed atoms = true) :
    (writeAtoms kind atoms).Total := by
  unfold writeAtoms
  cases signed : (QUANTITY_KIND_RULES kind).signed with
  | true =>
    simp only [atomsInRange, signed, if_true, Bool.and_eq_true, INT256_MIN, INT256_MAX] at range
    exact total_signed (by norm_num at range ⊢; omega) (by norm_num at range ⊢; omega)
  | false =>
    simp only [atomsInRange, signed, Bool.false_eq_true, if_false, Bool.and_eq_true,
      decide_eq_true_eq] at range
    exact total_u256 ⟨atoms, range⟩

@[simp] theorem total_quantity (q : EconomicQuantity) : (writeQuantityBody q).Total := by
  simp [writeQuantityBody, total_atoms q.range]

@[simp] theorem total_quantityBound (b : QuantityBound) : (writeQuantityBound b).Total := by
  simp [writeQuantityBound]

@[simp] theorem total_ratio (r : Ratio) : (writeRatio r).Total := by
  simp [writeRatio]

end Mandate.Core
