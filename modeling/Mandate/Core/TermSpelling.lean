import Mandate.Core.Spelling

/-! Every record and term of Core spells the bytes it was read from: its fields do, in the
order they are read. -/
namespace Mandate.Core
open Lib.Wire

variable {path : String}

theorem validatePartyId_ok {input : PartyIdInput} {party : PartyId}
    (valid : validatePartyId input path = .ok party) : parseIdentifierAs input.kind path = .ok party.kind ∧
      parseIdentifierAs input.value path = .ok party.value := by
  unfold validatePartyId at valid
  split at valid
  · rename_i kind value first second
    obtain ⟨_, same⟩ := guard_ok.mp valid
    cases same
    exact ⟨first, second⟩
  · cases valid

theorem spells_party : Spells readPartyInput validatePartyId writeParty := by
  refine (spells_identifier.bind fun _ => spells_identifier.last).mono ?_
  rintro _ _ ⟨first, ⟨second⟩⟩ path party valid
  obtain ⟨kindValid, valueValid⟩ := validatePartyId_ok valid
  exact written_append (first path _ kindValid) (second path _ valueValid)

theorem spells_resourceId (allowed : List ResourceKind) :
    Spells readResourceIdInput (validateResourceIn allowed) writeResourceOf := by
  refine (spells_identifier.bind fun _ => (consumes_code _).bind fun _ => spells_identifier.last).mono ?_
  rintro _ _ ⟨first, second, ⟨third⟩⟩ path resource valid
  simp only [validateResourceIn, validateResourceId, except_bind_ok, guard_ok] at valid
  obtain ⟨_, domainValid, _, _, localValid, same⟩ := valid
  cases same
  exact written_append (first _ _ domainValid) (written_append second (third _ _ localValid))

theorem spells_anyResource : Spells readResourceIdInput validateAnyResource writeResourceId := by
  refine (spells_resourceId RESOURCE_KINDS).mono ?_
  intro used input spelled path resource valid
  simp only [validateAnyResource, except_map_ok] at valid
  obtain ⟨found, validated, rfl⟩ := valid
  exact spelled path found validated

variable {value : Nat}

theorem parseSmallUint_ok {max : Nat} {parsed : SmallUint max}
    (valid : parseSmallUint (.integer value) max path = .ok parsed) : parsed.1 = value := by
  simp only [parseSmallUint, unless_ok, guard_ok] at valid
  obtain ⟨_, _, same⟩ := valid
  cases same
  simp

theorem spells_moduleRef : Spells readModuleRefInput validateModuleRef writeModuleRef := by
  refine (spells_identifier.bind fun _ => spells_identifier.bind fun _ => consumes_u32.bind fun _ =>
    spells_nonZeroDigest.last).mono ?_
  rintro _ _ ⟨first, second, third, ⟨fourth⟩⟩ path ref valid
  simp only [validateModuleRef, except_bind_ok] at valid
  obtain ⟨_, domainValid, _, nameValid, _, versionValid, _, digestValid, same⟩ := valid
  cases same
  refine written_append (first _ _ domainValid) (written_append (second _ _ nameValid)
    (written_append ?_ (fourth _ _ digestValid)))
  rw [parseSmallUint_ok versionValid]
  exact third

theorem spells_adapterRef : Spells readAdapterRefInput validateAdapterRef writeAdapterRef := by
  refine (spells_identifier.bind fun _ => consumes_u32.bind fun _ => spells_nonZeroDigest.last).mono ?_
  rintro _ _ ⟨first, second, ⟨third⟩⟩ path ref valid
  simp only [validateAdapterRef, except_bind_ok] at valid
  obtain ⟨_, nameValid, _, versionValid, _, digestValid, same⟩ := valid
  cases same
  refine written_append (first _ _ nameValid) (written_append ?_ (third _ _ digestValid))
  rw [parseSmallUint_ok versionValid]
  exact second

variable {unit : UnitCode}

theorem parseUnitCode_ok {raw : String} (valid : parseUnitCode raw path = .ok unit) : unit.1 = raw := by
  unfold parseUnitCode at valid
  obtain ⟨_, same⟩ := guard_ok.mp valid
  cases same
  rfl

theorem spells_unit : Spells readStr parseUnitCode fun unit => writeStr unit.1 := by
  refine consumes_str.mono ?_
  intro used text spelled path unit valid
  obtain rfl := parseUnitCode_ok valid
  have length := unit_length unit
  exact spelled (unit_ascii unit) (by omega)

theorem parseDecimals_ok {decimals : Decimals}
    (valid : parseDecimals (.integer value) path = .ok decimals) : decimals.1 = value := by
  simp only [parseDecimals, except_bind_ok, guard_ok] at valid
  obtain ⟨small, parsed, _, same⟩ := valid
  cases same
  have whole := parseSmallUint_ok parsed
  exact whole

theorem parseIntegerInRange_ok {min max value : Int} {parsed : IntegerInRange min max}
    (valid : parseIntegerInRange (.bigint value) min max path = .ok parsed) : parsed.1 = value := by
  simp only [parseIntegerInRange, parseInteger, except_bind_ok, guard_ok] at valid
  obtain ⟨_, found, _, same⟩ := valid
  cases same
  cases found
  rfl

theorem spells_price : Spells readPriceInput validatePrice writePrice := by
  refine (spells_unit.bind fun _ => spells_unit.bind fun _ => consumes_u8.bind fun _ =>
    consumes_u256_int.last).mono ?_
  rintro _ _ ⟨first, second, third, ⟨fourth⟩⟩ path price valid
  simp only [validatePrice, parseInteger_self, except_bind_ok, guard_ok] at valid
  obtain ⟨_, numeratorValid, _, denominatorValid, _, decimalsValid, _, atomsValid, _, same⟩ := valid
  cases same
  cases atomsValid
  refine written_append (first _ _ numeratorValid) (written_append (second _ _ denominatorValid)
    (written_append ?_ fourth))
  rw [parseDecimals_ok decimalsValid]
  exact third

theorem spells_valuation : Spells readValuationInput validateValuationRef writeValuation := by
  refine (spells_price.bind fun _ => (consumes_code _).bind fun _ => (consumes_code _).bind fun _ =>
    spells_digest.bind fun _ => consumes_i64.last).mono ?_
  rintro _ _ ⟨first, second, third, fourth, ⟨fifth⟩⟩ path valuation valid
  simp only [validateValuationRef, validatePriceSource, except_bind_ok, guard_ok] at valid
  obtain ⟨_, priceValid, _, ⟨_, digestValid, source⟩, _, _, observedValid, same⟩ := valid
  cases same
  cases source
  refine written_append (first _ _ priceValid) (written_append second (written_append third
    (written_append (fourth _ _ digestValid) ?_)))
  rw [parseIntegerInRange_ok observedValid]
  exact fifth

theorem consumes_atoms (kind : QuantityKind) :
    Consumes (readAtoms kind) fun used atoms => writeAtoms kind atoms = some used := by
  unfold readAtoms writeAtoms
  cases (QUANTITY_KIND_RULES kind).signed with
  | true => exact consumes_i256
  | false => exact consumes_u256_int

theorem validateAsset_ok {required : AssetRequirement} {input : Option ResourceIdInput}
    {asset : {asset : Option AssetId // assetFits required asset = true}}
    (valid : validateAsset required input path = .ok asset) :
    ∃ path, validateNullable (validateResourceIn ASSET_KINDS) path input = .ok asset.1 := by
  unfold validateAsset at valid
  cases input with
  | none =>
    obtain ⟨_, same⟩ := guard_ok.mp valid
    cases same
    exact ⟨path, rfl⟩
  | some input =>
    obtain ⟨_, valid⟩ := unless_ok.mp valid
    split at valid
    · split at valid
      · cases valid
      · cases valid
    · rename_i found validated
      obtain ⟨_, same⟩ := guard_ok.mp valid
      cases same
      refine ⟨path, ?_⟩
      rw [validateNullable, validateResourceIn, validated]
      rfl

theorem validateValuation_ok {rule : QuantityKindRule} {input : Option ValuationRefInput}
    {valuation : {valuation : Option ValuationRef // valuationFits rule unit valuation = true}}
    (valid : validateValuation rule unit input path = .ok valuation) :
    ∃ path, validateNullable validateValuationRef path input = .ok valuation.1 := by
  unfold validateValuation at valid
  cases input with
  | none =>
    obtain ⟨_, same⟩ := guard_ok.mp valid
    cases same
    exact ⟨path, rfl⟩
  | some input =>
    simp only [unless_ok, except_bind_ok, guard_ok] at valid
    obtain ⟨_, found, validated, _, _, same⟩ := valid
    cases same
    refine ⟨path, ?_⟩
    rw [validateNullable, validated]
    rfl

theorem spells_quantity : Spells readQuantityInput validateQuantity writeQuantityBody := by
  refine ((consumes_code _).bind fun kind => spells_unit.bind fun _ => consumes_u8.bind fun _ =>
    (consumes_atoms kind).bind fun _ => (spells_nullable (spells_resourceId ASSET_KINDS)).bind fun _ =>
      (spells_nullable spells_valuation).last).mono ?_
  rintro _ _ ⟨first, second, third, fourth, fifth, ⟨sixth⟩⟩ path quantity valid
  simp only [validateQuantity, parseInteger_self, except_bind_ok, guard_ok, unless_ok] at valid
  obtain ⟨_, unitValid, _, _, decimalsValid, _, atomsValid, _, _, _, assetValid, _, valuationValid,
    same⟩ := valid
  cases atomsValid
  cases same
  obtain ⟨_, assetValid⟩ := validateAsset_ok assetValid
  obtain ⟨_, valuationValid⟩ := validateValuation_ok valuationValid
  refine written_append first (written_append (second _ _ unitValid) (written_append ?_
    (written_append fourth (written_append (fifth _ _ assetValid) (sixth _ _ valuationValid)))))
  rw [parseDecimals_ok decimalsValid]
  exact third

theorem spells_quantityBound : Spells readQuantityBoundInput validateQuantityBound writeQuantityBound := by
  refine ((consumes_code _).bind fun _ => spells_unit.bind fun _ => consumes_u8.bind fun _ =>
    consumes_u256_int.last).mono ?_
  rintro _ _ ⟨first, second, third, ⟨fourth⟩⟩ path bound valid
  simp only [validateQuantityBound, parseInteger_self, except_bind_ok, guard_ok, unless_ok] at valid
  obtain ⟨_, unitValid, _, _, decimalsValid, _, atomsValid, _, _, same⟩ := valid
  cases atomsValid
  cases same
  refine written_append first (written_append (second _ _ unitValid) (written_append ?_ fourth))
  rw [parseDecimals_ok decimalsValid]
  exact third

theorem spells_ratio : Spells readRatioInput validateRatio writeRatio := by
  refine (consumes_u256_int.bind fun _ => consumes_u8.last).mono ?_
  rintro _ _ ⟨first, ⟨second⟩⟩ path ratio valid
  simp only [validateRatio, except_bind_ok] at valid
  obtain ⟨_, numeratorValid, _, scaleValid, same⟩ := valid
  cases same
  apply written_append
  · rw [parseIntegerInRange_ok numeratorValid]
    exact first
  · rw [parseDecimals_ok scaleValid]
    exact second

theorem spells_seconds32 : Spells ((fun n : Nat => (n : Int)) <$> readU32)
    (fun raw path => parseSeconds32 (.bigint raw) path) fun seconds => writeU32 seconds.1 := by
  refine consumes_u32_int.mono ?_
  intro used raw written path seconds valid
  obtain rfl := parseIntegerInRange_ok valid
  exact written

theorem spells_u64 : Spells ((fun n : Nat => (n : Int)) <$> readU64)
    (fun raw path => parseUint64 (.bigint raw) path) fun value => writeU64 value.1 := by
  refine consumes_u64_int.mono ?_
  intro used raw written path value valid
  obtain rfl := parseIntegerInRange_ok valid
  exact written

theorem spells_i64 : Spells readI64 (fun raw path => parseUnixSeconds (.bigint raw) path)
    fun seconds => writeI64 seconds.1 := by
  refine consumes_i64.mono ?_
  intro used raw written path seconds valid
  obtain rfl := parseIntegerInRange_ok valid
  exact written

theorem spells_finality : Spells readFinalityInput validateFinalityRef writeFinality := by
  refine (spells_identifier.bind fun _ => spells_identifier.last).mono ?_
  rintro _ _ ⟨first, ⟨second⟩⟩ path finality valid
  simp only [validateFinalityRef, except_bind_ok] at valid
  obtain ⟨_, ladderValid, _, levelValid, same⟩ := valid
  cases same
  exact written_append (first _ _ ladderValid) (second _ _ levelValid)

theorem spells_freshnessBody (kind : FreshnessKind) : Consumes (readFreshnessBody kind)
    fun used input => ∀ path policy, validateFreshnessPolicy input path = .ok policy →
      policy.kind = kind ∧ writeFreshnessBody policy = some used := by
  cases kind with
  | age =>
    refine spells_seconds32.last.mono ?_
    rintro used _ ⟨spelled⟩ path policy valid
    simp only [validateFreshnessPolicy, except_bind_ok] at valid
    obtain ⟨_, secondsValid, same⟩ := valid
    cases same
    exact ⟨rfl, spelled _ _ secondsValid⟩
  | blocks =>
    refine spells_u64.last.mono ?_
    rintro used _ ⟨spelled⟩ path policy valid
    simp only [validateFreshnessPolicy, except_bind_ok] at valid
    obtain ⟨_, blocksValid, same⟩ := valid
    cases same
    exact ⟨rfl, spelled _ _ blocksValid⟩
  | sequence =>
    refine (Consumes.pure _).mono ?_
    rintro _ _ ⟨rfl, rfl⟩ path policy valid
    cases valid
    exact ⟨rfl, rfl⟩
  | version =>
    refine (spells_digest.bind fun _ => spells_seconds32.last).mono ?_
    rintro _ _ ⟨first, ⟨second⟩⟩ path policy valid
    simp only [validateFreshnessPolicy, except_bind_ok] at valid
    obtain ⟨_, digestValid, _, secondsValid, same⟩ := valid
    cases same
    exact ⟨rfl, written_append (first _ _ digestValid) (second _ _ secondsValid)⟩

theorem spells_freshness : Spells readFreshnessInput validateFreshnessPolicy writeFreshness := by
  refine ((consumes_code _).bind spells_freshnessBody).mono ?_
  rintro _ input ⟨written, body⟩ path policy valid
  obtain ⟨rfl, spelled⟩ := body path policy valid
  exact written_append written spelled

theorem spells_dependenceBody (kind : DependenceKind) : Consumes (readDependenceBody kind)
    fun used input => ∀ path dependence, validateExecutionDependence input path = .ok dependence →
      dependence.kind = kind ∧ writeDependenceBody dependence = some used := by
  cases kind with
  | enforcedByArtifact =>
    refine spells_identifier.last.mono ?_
    rintro used _ ⟨spelled⟩ path dependence valid
    simp only [validateExecutionDependence, except_bind_ok] at valid
    obtain ⟨_, fieldValid, same⟩ := valid
    cases same
    exact ⟨rfl, spelled _ _ fieldValid⟩
  | notRequired | boundedByFreshness =>
    refine (Consumes.pure _).mono ?_
    rintro _ _ ⟨rfl, rfl⟩ path dependence valid
    cases valid
    exact ⟨rfl, rfl⟩

theorem spells_stateRequirement :
    Spells readStateRequirementInput validateStateRequirement writeStateRequirement := by
  refine (spells_freshness.bind fun _ => (consumes_code _).bind fun _ => spells_finality.bind fun _ =>
    (consumes_code _).bind fun _ => (consumes_code _).bind fun kind =>
      (spells_dependenceBody kind).last).mono ?_
  rintro _ _ ⟨first, second, third, fourth, fifth, ⟨sixth⟩⟩ path requirement valid
  simp only [validateStateRequirement, except_bind_ok, guard_ok] at valid
  obtain ⟨_, freshnessValid, _, _, finalityValid, _, dependenceValid, _, same⟩ := valid
  cases same
  obtain ⟨rfl, spelled⟩ := sixth _ _ dependenceValid
  exact written_append (first _ _ freshnessValid) (written_append second (written_append
    (third _ _ finalityValid) (written_append fourth (written_append fifth spelled))))

theorem spells_actionTypeRef : Spells readActionTypeRefInput validateActionTypeRef writeActionTypeRef := by
  refine (spells_identifier.bind fun _ => spells_identifier.last).mono ?_
  rintro _ _ ⟨first, ⟨second⟩⟩ path ref valid
  simp only [validateActionTypeRef, except_bind_ok] at valid
  obtain ⟨_, domainValid, _, actionTypeValid, same⟩ := valid
  cases same
  exact written_append (first _ _ domainValid) (second _ _ actionTypeValid)

theorem spells_resources (vocabulary : ResourceVocabulary) : Consumes (readResources vocabulary)
    fun used input => ∀ path term, validateSetTerm input path = .ok term →
      term.vocabulary = vocabulary.toSet ∧ writeSetMembers term = some used := by
  refine (spells_members MAX_SET_MEMBERS (spells_resourceId vocabulary.kinds)).map.mono ?_
  rintro used _ ⟨spelled⟩ path term valid
  simp only [validateSetTerm, except_map_ok] at valid
  obtain ⟨set, membersValid, rfl⟩ := valid
  exact ⟨rfl, spelled _ _ membersValid⟩

theorem spells_setMembers (vocabulary : SetVocabulary) : Consumes (readSetMembers vocabulary)
    fun used input => ∀ path term, validateSetTerm input path = .ok term →
      term.vocabulary = vocabulary ∧ writeSetMembers term = some used := by
  cases vocabulary
  case markets => exact spells_resources .markets
  case assets => exact spells_resources .assets
  case venues => exact spells_resources .venues
  case recipients => exact spells_resources .recipients
  case' modules => refine (spells_members MAX_SET_MEMBERS spells_moduleRef).map.mono ?_
  case' adapters => refine (spells_members MAX_SET_MEMBERS spells_adapterRef).map.mono ?_
  case' actionTypes => refine (spells_members MAX_SET_MEMBERS spells_actionTypeRef).map.mono ?_
  all_goals
    rintro used _ ⟨spelled⟩ path term valid
    simp only [validateSetTerm, except_map_ok] at valid
    obtain ⟨set, membersValid, rfl⟩ := valid
    exact ⟨rfl, spelled _ _ membersValid⟩

theorem spells_setTerm : Spells readSetTermInput validateSetTerm writeSetTerm := by
  refine ((consumes_code _).bind spells_setMembers).mono ?_
  rintro _ input ⟨written, members⟩ path term valid
  obtain ⟨rfl, spelled⟩ := members path term valid
  exact written_append written spelled

theorem spells_rightDepth (right : Right) : Consumes (readRightDepth right)
    fun used input => ∀ path term, validateRightTerm input path = .ok term →
      term.right = right ∧ writeRightDepth term = some used := by
  unfold readRightDepth
  split
  · rename_i plain
    refine (Consumes.pure _).mono ?_
    rintro _ _ ⟨rfl, rfl⟩ path term valid
    cases valid
    exact ⟨rfl, rfl⟩
  · rename_i delegate
    refine consumes_u8.last.mono ?_
    rintro used _ ⟨written⟩ path term valid
    simp only [validateRightTerm, except_bind_ok, guard_ok] at valid
    obtain ⟨parsed, depthValid, _, same⟩ := valid
    cases same
    refine ⟨(not_not.mp delegate).symm, ?_⟩
    change writeU8 parsed.1 = _
    rw [parseSmallUint_ok depthValid]
    exact written

theorem spells_rightTerm : Spells readRightTermInput validateRightTerm writeRightTerm := by
  refine ((consumes_code _).bind spells_rightDepth).mono ?_
  rintro _ input ⟨written, depth⟩ path term valid
  obtain ⟨rfl, spelled⟩ := depth path term valid
  exact written_append written spelled

theorem spells_boundValue (type : BoundValueType) : Consumes (readBoundValue type)
    fun used input => ∀ path value, validateBoundValue input path = .ok value →
      value.type = type ∧ writeBoundValue value = some used := by
  cases type with
  | quantity =>
    refine spells_quantityBound.map.mono ?_
    rintro used _ ⟨spelled⟩ path value valid
    simp only [validateBoundValue, except_map_ok] at valid
    obtain ⟨_, boundValid, rfl⟩ := valid
    exact ⟨rfl, spelled _ _ boundValid⟩
  | ratio =>
    refine spells_ratio.map.mono ?_
    rintro used _ ⟨spelled⟩ path value valid
    simp only [validateBoundValue, except_map_ok] at valid
    obtain ⟨_, ratioValid, rfl⟩ := valid
    exact ⟨rfl, spelled _ _ ratioValid⟩

theorem spells_boundTerm : Spells readBoundTermInput validateBoundTerm writeBoundTerm := by
  refine (spells_identifier.bind fun _ => (consumes_code _).bind fun _ => (consumes_code _).bind
    fun type => (spells_boundValue type).last).mono ?_
  rintro _ _ ⟨first, second, third, ⟨fourth⟩⟩ path term valid
  simp only [validateBoundTerm, except_bind_ok] at valid
  obtain ⟨_, idValid, _, valueValid, same⟩ := valid
  cases same
  obtain ⟨rfl, spelled⟩ := fourth _ _ valueValid
  exact written_append (first _ _ idValid) (written_append second (written_append third spelled))

theorem validateWindow_ok {notBefore expiresAt : IntegerInput} {window : Window}
    (valid : validateWindow notBefore expiresAt path = .ok window) :
    (∃ path, parseUnixSeconds notBefore path = .ok window.notBefore) ∧
      ∃ path, parseUnixSeconds expiresAt path = .ok window.expiresAt := by
  simp only [validateWindow, except_bind_ok, guard_ok] at valid
  obtain ⟨_, startValid, _, stopValid, _, same⟩ := valid
  cases same
  exact ⟨⟨_, startValid⟩, ⟨_, stopValid⟩⟩

theorem spells_timeWindowTerm :
    Spells readTimeWindowTermInput validateTimeWindowTerm writeTimeWindowTerm := by
  refine (spells_identifier.bind fun _ => spells_i64.bind fun _ => spells_i64.last).mono ?_
  rintro _ _ ⟨first, second, ⟨third⟩⟩ path term valid
  simp only [validateTimeWindowTerm, except_bind_ok] at valid
  obtain ⟨_, domainValid, _, windowValid, same⟩ := valid
  cases same
  obtain ⟨⟨_, startValid⟩, _, stopValid⟩ := validateWindow_ok windowValid
  exact written_append (first _ _ domainValid) (written_append (second _ _ startValid) (third _ _ stopValid))

theorem spells_epoch : Spells readEpochInput validateEpoch writeEpoch := by
  refine (spells_i64.bind fun _ => consumes_u32_int.last).mono ?_
  rintro _ _ ⟨first, ⟨second⟩⟩ path epoch valid
  simp only [validateEpoch, except_bind_ok, guard_ok] at valid
  obtain ⟨_, anchorValid, found, lengthValid, _, same⟩ := valid
  cases same
  obtain rfl := parseIntegerInRange_ok lengthValid
  exact written_append (first _ _ anchorValid) second

theorem spells_scope : Spells readScopeInput validateScope writeScope := by
  refine ((spells_nullable (spells_resourceId ASSET_KINDS)).bind fun _ =>
    (spells_nullable (spells_resourceId [.market])).bind fun _ =>
      (spells_nullable spells_identifier).bind fun _ =>
        (spells_nullable (spells_resourceId [.account])).last).mono ?_
  rintro _ _ ⟨first, second, third, ⟨fourth⟩⟩ path scope valid
  simp only [validateScope, except_bind_ok] at valid
  obtain ⟨_, assetValid, _, marketValid, _, domainValid, _, accountValid, same⟩ := valid
  cases same
  exact written_append (first _ _ assetValid) (written_append (second _ _ marketValid)
    (written_append (third _ _ domainValid) (fourth _ _ accountValid)))

theorem validateEpochOf_ok {restoration : Restoration} {input : Option EpochInput}
    {epoch : {epoch : Option Epoch // epoch.isSome = true ↔ restoration = .epoch}}
    (valid : validateEpochOf restoration input path = .ok epoch) :
    validateNullable validateEpoch path input = .ok epoch.1 := by
  unfold validateEpochOf at valid
  split at valid
  · cases input with
    | none => cases valid
    | some input =>
      obtain ⟨found, validated, rfl⟩ := except_map_success valid
      rw [validateNullable, validated]
      rfl
  · cases input with
    | none =>
      cases valid
      rfl
    | some input => cases valid

theorem spells_dimensionTerm : Spells readDimensionTermInput validateDimensionTerm writeDimensionTerm := by
  refine (spells_identifier.bind fun _ => spells_quantityBound.bind fun _ => (consumes_code _).bind
    fun _ => (consumes_code _).bind fun _ => (spells_nullable spells_epoch).bind fun _ =>
      (consumes_code _).bind fun _ => spells_scope.last).mono ?_
  rintro _ _ ⟨first, second, third,
    fourth, fifth, sixth, ⟨seventh⟩⟩ path term valid
  simp only [validateDimensionTerm, except_bind_ok, guard_ok] at valid
  obtain ⟨_, idValid, _, limitValid, _, _, _, epochValid, _, _, scopeValid, same⟩ := valid
  cases same
  exact written_append (first _ _ idValid) (written_append (second _ _ limitValid)
    (written_append third (written_append fourth (written_append
      (fifth _ _ (validateEpochOf_ok epochValid)) (written_append sixth (seventh _ _ scopeValid))))))

theorem spells_invariantTerm : Spells readInvariantTermInput validateInvariantTerm writeInvariantTerm := by
  refine (spells_identifier.bind fun _ => consumes_u32.bind fun _ =>
    (spells_members MAX_INVARIANT_SCOPE spells_anyResource).bind fun _ =>
      (spells_opaqueBytes MAX_INVARIANT_PARAMS_BYTES).last).mono ?_
  rintro _ _ ⟨first, second, third, ⟨fourth⟩⟩ path term valid
  simp only [validateInvariantTerm, except_bind_ok] at valid
  obtain ⟨_, idValid, _, versionValid, _, scopeValid, _, paramsValid, same⟩ := valid
  cases same
  refine written_append (first _ _ idValid) (written_append ?_ (written_append
    (third _ _ scopeValid) (fourth _ _ paramsValid)))
  rw [parseSmallUint_ok versionValid]
  exact second

theorem spells_statePolicyTerm :
    Spells readStatePolicyTermInput validateStatePolicyTerm writeStatePolicyTerm := by
  refine (spells_identifier.bind fun _ => spells_identifier.bind fun _ =>
    (spells_members MAX_ADMITTED_SOURCES spells_identifier).bind fun _ =>
      spells_stateRequirement.last).mono ?_
  rintro _ _ ⟨first, second, third, ⟨fourth⟩⟩ path term valid
  simp only [validateStatePolicyTerm, except_bind_ok] at valid
  obtain ⟨_, domainValid, _, kindValid, _, sourcesValid, _, requirementValid, same⟩ := valid
  cases same
  exact written_append (first _ _ domainValid) (written_append (second _ _ kindValid)
    (written_append (third _ _ sourcesValid) (fourth _ _ requirementValid)))

theorem spells_kind {ι α : Type} {read : CoreReader ι} {validate : ι → String → CoreResult α}
    {write : α → Writer} (spells : Spells read validate write) {kind : TermKind}
    {input : ι → AuthorityTermInput} {term : α → AuthorityTerm}
    (valid : ∀ i path, validateTerm (input i) path = term <$> validate i path)
    (own : ∀ item, (term item).kind = kind ∧ writeTermBody (term item) = write item) :
    Consumes (input <$> read) fun used raw => ∀ path t, validateTerm raw path = .ok t →
      t.kind = kind ∧ writeTermBody t = some used := by
  refine spells.map.mono ?_
  rintro used _ ⟨spelled⟩ path t validated
  rw [valid] at validated
  obtain ⟨item, here, rfl⟩ := except_map_success validated
  rw [(own item).2]
  exact ⟨(own item).1, spelled path item here⟩

theorem spells_termBody (kind : TermKind) : Consumes (readTermBody kind)
    fun used input => ∀ path t, validateTerm input path = .ok t →
      t.kind = kind ∧ writeTermBody t = some used := by
  cases kind with
  | set => exact spells_kind spells_setTerm (fun _ _ => rfl) fun _ => ⟨rfl, rfl⟩
  | right => exact spells_kind spells_rightTerm (fun _ _ => rfl) fun _ => ⟨rfl, rfl⟩
  | bound => exact spells_kind spells_boundTerm (fun _ _ => rfl) fun _ => ⟨rfl, rfl⟩
  | timeWindow => exact spells_kind spells_timeWindowTerm (fun _ _ => rfl) fun _ => ⟨rfl, rfl⟩
  | ledgerDimension => exact spells_kind spells_dimensionTerm (fun _ _ => rfl) fun _ => ⟨rfl, rfl⟩
  | stateInvariant => exact spells_kind spells_invariantTerm (fun _ _ => rfl) fun _ => ⟨rfl, rfl⟩
  | statePolicy => exact spells_kind spells_statePolicyTerm (fun _ _ => rfl) fun _ => ⟨rfl, rfl⟩

theorem spells_term : Spells readTermInput validateTerm writeTerm := by
  refine ((consumes_code _).bind spells_termBody).mono ?_
  rintro _ input ⟨written, body⟩ path t valid
  obtain ⟨rfl, spelled⟩ := body path t valid
  exact written_append written spelled

end Mandate.Core
