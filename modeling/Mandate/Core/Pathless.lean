import Mandate.Core.Objects

/-! The path a validator is given only names its errors: at any two paths it accepts the same
inputs with the same values. -/
set_option linter.dupNamespace false
namespace Mandate.Core
open Lib.Text

/-- Two results agree when they succeed with the same value or both fail. -/
abbrev Agree {α : Type} (first second : CoreResult α) : Prop := first.toOption = second.toOption

theorem Agree.ok {α : Type} {first second : CoreResult α} (agree : Agree first second) {value : α}
    (ok : first = .ok value) : second = .ok value := by
  subst ok
  cases second with
  | error _ => cases agree
  | ok other =>
    cases agree
    rfl

theorem Agree.bind {α β : Type} {first second : CoreResult α} {next after : α → CoreResult β}
    (agree : Agree first second) (rest : ∀ value, Agree (next value) (after value)) :
    Agree (first >>= next) (second >>= after) := by
  cases first with
  | error _ =>
    cases second with
    | error _ => rfl
    | ok _ => cases agree
  | ok value =>
    cases second with
    | error _ => cases agree
    | ok other =>
      cases agree
      exact rest value

theorem Agree.map {α β : Type} {first second : CoreResult α} {build : α → β} (agree : Agree first second) :
    Agree (build <$> first) (build <$> second) := by
  rw [map_eq_pure_bind, map_eq_pure_bind]
  exact agree.bind fun _ => rfl

variable {p : Prop} {code : CoreErrorCode} {path other : String}

theorem Agree.guard {α : Type} [Decidable p] {next after : p → CoreResult α} (rest : ∀ holds, Agree (next holds) (after holds)) :
    Agree (if holds : p then next holds else fail code path)
      (if holds : p then after holds else fail code other) := by
  by_cases holds : p
  · simpa only [dif_pos holds] using rest holds
  · rw [dif_neg holds, dif_neg holds]
    rfl

theorem Agree.unless {α : Type} [Decidable p] {next after : CoreResult α} (rest : Agree next after) :
    Agree (if p then fail code path else next) (if p then fail code other else after) := by
  by_cases holds : p
  · rw [if_pos holds, if_pos holds]
    rfl
  · rw [if_neg holds, if_neg holds]
    exact rest

abbrev Pathless {ι α : Type} (validate : ι → String → CoreResult α) : Prop :=
  ∀ input path path', Agree (validate input path) (validate input path')

theorem pathless_identifier : Pathless parseIdentifierAs := by
  intro raw path path'
  exact Agree.guard fun _ => rfl

theorem pathless_digest : Pathless parseDigest := by
  intro raw path path'
  unfold parseDigest
  cases hexToBytes raw with
  | none => rfl
  | some bytes =>
    by_cases width : bytes.length = 32
    · simp only [if_pos width]
    · simp only [if_neg width]
      rfl

theorem pathless_nonZeroDigest : Pathless parseNonZeroDigest := by
  intro raw path path'
  exact (pathless_digest _ _ _).bind fun _ => .guard fun _ => rfl

theorem pathless_integer : Pathless parseInteger := by
  intro raw path path'
  cases raw with
  | bigint value => rfl
  | text digits =>
    refine Agree.unless ?_
    cases canonicalInteger digits with
    | none => rfl
    | some value => rfl

theorem pathless_integerInRange (min max : Int) :
    Pathless fun raw path => parseIntegerInRange raw min max path := by
  intro raw path path'
  exact (pathless_integer _ _ _).bind fun _ => .guard fun _ => rfl

theorem pathless_smallUint (max : Nat) : Pathless fun raw path => parseSmallUint raw max path := by
  intro raw path path'
  cases raw with
  | integer value => exact Agree.unless (.guard fun _ => rfl)
  | fraction => rfl
  | nonFinite => rfl

theorem pathless_opaqueBytes (max : Nat) : Pathless fun raw path => parseOpaqueBytes raw max path := by
  intro raw path path'
  refine Agree.unless ?_
  cases hexToBytes raw with
  | none => rfl
  | some bytes => exact Agree.guard fun _ => rfl

theorem pathless_party : Pathless validatePartyId := by
  intro input path path'
  have kind := pathless_identifier input.kind path path'
  have value := pathless_identifier input.value path path'
  unfold validatePartyId
  revert kind value
  generalize parseIdentifierAs input.kind path = first
  generalize parseIdentifierAs input.kind path' = first'
  generalize parseIdentifierAs input.value path = second
  generalize parseIdentifierAs input.value path' = second'
  intro kind value
  cases first <;> cases first' <;> cases second <;> cases second' <;>
    first | (cases kind; done) | (cases value; done) | rfl | skip
  cases kind
  cases value
  exact Agree.guard fun _ => rfl

theorem pathless_resourceId (allowed : List ResourceKind) : Pathless (validateResourceIn allowed) := by
  intro input path path'
  exact (pathless_identifier _ _ _).bind fun _ => .guard fun _ =>
    (pathless_identifier _ _ _).bind fun _ => rfl

theorem pathless_anyResource : Pathless validateAnyResource := by
  intro input path path'
  exact (pathless_resourceId RESOURCE_KINDS _ _ _).map

theorem pathless_moduleRef : Pathless validateModuleRef := by
  intro input path path'
  exact (pathless_identifier _ _ _).bind fun _ => (pathless_identifier _ _ _).bind fun _ =>
    (pathless_smallUint _ _ _ _).bind fun _ => (pathless_nonZeroDigest _ _ _).bind fun _ => rfl

theorem pathless_adapterRef : Pathless validateAdapterRef := by
  intro input path path'
  exact (pathless_identifier _ _ _).bind fun _ => (pathless_smallUint _ _ _ _).bind fun _ =>
    (pathless_nonZeroDigest _ _ _).bind fun _ => rfl

theorem pathless_unit : Pathless parseUnitCode := by
  intro raw path path'
  exact Agree.guard fun _ => rfl

theorem pathless_decimals : Pathless parseDecimals := by
  intro raw path path'
  exact (pathless_smallUint _ _ _ _).bind fun _ => .guard fun _ => rfl

theorem pathless_seconds : Pathless parseUnixSeconds := pathless_integerInRange INT64_MIN INT64_MAX

theorem pathless_u64 : Pathless parseUint64 := pathless_integerInRange 0 UINT64_MAX

theorem pathless_price : Pathless validatePrice := by
  intro input path path'
  exact (pathless_unit _ _ _).bind fun _ => (pathless_unit _ _ _).bind fun _ =>
    (pathless_decimals _ _ _).bind fun _ => (pathless_integer _ _ _).bind fun _ => .guard fun _ => rfl

theorem pathless_valuation : Pathless validateValuationRef := by
  intro input path path'
  exact (pathless_price _ _ _).bind fun _ => ((pathless_digest _ _ _).bind fun _ => rfl).bind fun _ =>
    .guard fun _ => (pathless_seconds _ _ _).bind fun _ => rfl

theorem pathless_nullable {ι α : Type} {validate : ι → String → CoreResult α}
    (pathless : Pathless validate) : Pathless fun input path => validateNullable validate path input := by
  intro input path path'
  cases input with
  | none => rfl
  | some input => exact (pathless _ _ _).map

theorem pathless_asset (required : AssetRequirement) :
    Pathless fun input path => validateAsset required input path := by
  intro input path path'
  cases input with
  | none => exact Agree.guard fun _ => rfl
  | some input =>
    refine Agree.unless ?_
    have asset : Agree (validateResourceId input ASSET_KINDS path)
        (validateResourceId input ASSET_KINDS path') := pathless_resourceId ASSET_KINDS input path path'
    cases here : validateResourceId input ASSET_KINDS path with
    | error first =>
      cases there : validateResourceId input ASSET_KINDS path' with
      | error second =>
        simp only
        split <;> split <;> rfl
      | ok _ =>
        rw [here, there] at asset
        cases asset
    | ok _ =>
      rw [here] at asset
      rw [asset.ok rfl]
      exact Agree.guard fun _ => rfl

theorem pathless_valuationOf (rule : QuantityKindRule) (unit : UnitCode) :
    Pathless fun input path => validateValuation rule unit input path := by
  intro input path path'
  cases input with
  | none => exact Agree.guard fun _ => rfl
  | some input =>
    exact Agree.unless ((pathless_valuation _ _ _).bind fun _ => .unless (.guard fun _ => rfl))

theorem pathless_quantity : Pathless validateQuantity := by
  intro input path path'
  exact (pathless_unit _ _ _).bind fun _ => .guard fun _ => (pathless_decimals _ _ _).bind fun _ =>
    (pathless_integer _ _ _).bind fun _ => .unless (.guard fun _ => (pathless_asset _ _ _ _).bind fun _ =>
      (pathless_valuationOf _ _ _ _ _).bind fun _ => rfl)

theorem pathless_quantityBound : Pathless validateQuantityBound := by
  intro input path path'
  exact (pathless_unit _ _ _).bind fun _ => .guard fun _ => (pathless_decimals _ _ _).bind fun _ =>
    (pathless_integer _ _ _).bind fun _ => .unless (.guard fun _ => rfl)

theorem pathless_ratio : Pathless validateRatio := by
  intro input path path'
  exact (pathless_integerInRange _ _ _ _ _).bind fun _ => (pathless_decimals _ _ _).bind fun _ => rfl

theorem pathless_finality : Pathless validateFinalityRef := by
  intro input path path'
  exact (pathless_identifier _ _ _).bind fun _ => (pathless_identifier _ _ _).bind fun _ => rfl

theorem pathless_freshness : Pathless validateFreshnessPolicy := by
  intro input path path'
  cases input with
  | age maxAge => exact (pathless_integerInRange _ _ _ _ _).bind fun _ => rfl
  | blocks blocks => exact (pathless_u64 _ _ _).bind fun _ => rfl
  | sequence => rfl
  | version pinned maxAge =>
    exact (pathless_digest _ _ _).bind fun _ => (pathless_integerInRange _ _ _ _ _).bind fun _ => rfl

theorem pathless_dependence : Pathless validateExecutionDependence := by
  intro input path path'
  cases input with
  | notRequired => rfl
  | enforcedByArtifact field => exact (pathless_identifier _ _ _).bind fun _ => rfl
  | boundedByFreshness => rfl

theorem pathless_stateRequirement : Pathless validateStateRequirement := by
  intro input path path'
  exact (pathless_freshness _ _ _).bind fun _ => .guard fun _ => (pathless_finality _ _ _).bind fun _ =>
    (pathless_dependence _ _ _).bind fun _ => .guard fun _ => rfl

theorem pathless_actionTypeRef : Pathless validateActionTypeRef := by
  intro input path path'
  exact (pathless_identifier _ _ _).bind fun _ => (pathless_identifier _ _ _).bind fun _ => rfl

theorem pathless_rightTerm : Pathless validateRightTerm := by
  intro input path path'
  cases input with
  | plain right => rfl
  | delegate maxDepth => exact (pathless_smallUint _ _ _ _).bind fun _ => .guard fun _ => rfl

theorem pathless_boundTerm : Pathless validateBoundTerm := by
  intro input path path'
  have value : Agree (validateBoundValue input.value (atField path "value"))
      (validateBoundValue input.value (atField path' "value")) := by
    cases input.value with
    | quantity quantity => exact (pathless_quantityBound _ _ _).map
    | ratio ratio => exact (pathless_ratio _ _ _).map
  exact (pathless_identifier _ _ _).bind fun _ => value.bind fun _ => rfl

theorem pathless_window (startField : String) (notBefore expiresAt : IntegerInput) (path path' : String) :
    Agree (validateWindowFrom startField notBefore expiresAt path)
      (validateWindowFrom startField notBefore expiresAt path') :=
  (pathless_seconds _ _ _).bind fun _ => (pathless_seconds _ _ _).bind fun _ => .guard fun _ => rfl

theorem pathless_timeWindowTerm : Pathless validateTimeWindowTerm := by
  intro input path path'
  exact (pathless_identifier _ _ _).bind fun _ => (pathless_window "notBefore" _ _ _ _).bind fun _ => rfl

theorem pathless_epoch : Pathless validateEpoch := by
  intro input path path'
  exact (pathless_seconds _ _ _).bind fun _ => (pathless_integerInRange _ _ _ _ _).bind fun _ =>
    .guard fun _ => rfl

theorem pathless_epochOf (restoration : Restoration) :
    Pathless fun input path => validateEpochOf restoration input path := by
  intro input path path'
  by_cases epochal : restoration = .epoch
  · simp only [validateEpochOf, dif_pos epochal]
    cases input with
    | none => rfl
    | some input => exact (pathless_epoch _ _ _).map
  · simp only [validateEpochOf, dif_neg epochal]
    cases input with
    | none => rfl
    | some input => rfl

theorem pathless_scope : Pathless validateScope := by
  intro input path path'
  exact (pathless_nullable (pathless_resourceId _) _ _ _).bind fun _ =>
    (pathless_nullable (pathless_resourceId _) _ _ _).bind fun _ =>
      (pathless_nullable pathless_identifier _ _ _).bind fun _ =>
        (pathless_nullable (pathless_resourceId _) _ _ _).bind fun _ => rfl

theorem pathless_dimensionTerm : Pathless validateDimensionTerm := by
  intro input path path'
  exact (pathless_identifier _ _ _).bind fun _ => (pathless_quantityBound _ _ _).bind fun _ =>
    .guard fun _ => .guard fun _ => (pathless_epochOf _ _ _ _).bind fun _ => .guard fun _ =>
      (pathless_scope _ _ _).bind fun _ => rfl

end Mandate.Core
