import Mandate.Lib.FixedPoint
import Mandate.Kernel.Verify

/-! What a pass says about the money: the economic limit is checked on the declared
notional, which stands for the exact product only up to one atom of the candidate's scale. -/
set_option linter.dupNamespace false
namespace Mandate.Kernel
open Core Lib.Text Lib.FixedPoint List

def Amount.value (a : Amount) : ℚ := worth a.atoms a.decimals

def Price.value (p : Price) : ℚ := worth p.atoms.1 p.decimals.1

def productAt (quantity : Amount) (price : Price) (decimals : Nat) : NotionalBounds :=
  let numerator := quantity.atoms * price.atoms.1 * 10 ^ decimals
  let denominator : Int := 10 ^ (quantity.decimals + price.decimals.1)
  ⟨numerator / denominator,
    if numerator % denominator = 0 then numerator / denominator else numerator / denominator + 1⟩

theorem product_quotient (quantity : Amount) (price : Price) (decimals : Nat) :
    quantity.value * price.value * 10 ^ decimals =
      ((quantity.atoms * price.atoms.1 * 10 ^ decimals : Int) : ℚ) /
        ((10 ^ (quantity.decimals + price.decimals.1) : Int) : ℚ) := by
  have first := (scale_pos quantity.decimals).ne'
  have second := (scale_pos price.decimals.1).ne'
  unfold Amount.value Price.value worth
  push_cast
  rw [pow_add]
  field_simp

theorem productAt_floor (quantity : Amount) (price : Price) (decimals : Nat) :
    (productAt quantity price decimals).floorAtoms = ⌊quantity.value * price.value * 10 ^ decimals⌋ := by
  rw [product_quotient, floor_div _ (by positivity)]
  rfl

theorem productAt_ceil (quantity : Amount) (price : Price) (decimals : Nat) :
    (productAt quantity price decimals).ceilAtoms = ⌈quantity.value * price.value * 10 ^ decimals⌉ := by
  rw [product_quotient, ceil_div _ (by positivity)]
  rfl

variable {a b : Amount} {order : Ordering}

theorem compareAmounts_ok (found : compareAmounts a b = .ok order) :
    a.unit = b.unit ∧ order = compare (a.atoms * 10 ^ b.decimals) (b.atoms * 10 ^ a.decimals) := by
  simp only [compareAmounts, refuse_ok, Except.ok.injEq] at found
  exact ⟨not_not.mp found.1, found.2.symm⟩

theorem compareAmounts_le (found : compareAmounts a b = .ok order)
    (within : order ≠ .gt) : a.value ≤ b.value := by
  obtain ⟨_, rfl⟩ := compareAmounts_ok found
  rw [Amount.value, Amount.value, worth_le_iff]
  exact compare_le_iff_le.mp within

theorem compareAmounts_ge (found : compareAmounts a b = .ok order)
    (within : order ≠ .lt) : b.value ≤ a.value := by
  obtain ⟨_, rfl⟩ := compareAmounts_ok found
  rw [Amount.value, Amount.value, worth_le_iff]
  exact compare_ge_iff_ge.mp within

theorem addAmounts_ok {sum : Amount} (found : addAmounts a b = .ok sum) :
    a.unit = b.unit ∧ sum.value = a.value + b.value := by
  simp only [addAmounts, refuse_ok, Except.ok.injEq] at found
  obtain ⟨unit, _, rfl⟩ := found
  refine ⟨not_not.mp unit, ?_⟩
  simp only [Amount.value]
  rw [worth_add, worth_lift (le_max_left _ _), worth_lift (le_max_right _ _)]

theorem subtractAmounts_ok {difference : Amount} (found : subtractAmounts a b = .ok difference) :
    a.unit = b.unit ∧ difference.value = a.value - b.value := by
  simp only [subtractAmounts, refuse_ok, Except.ok.injEq] at found
  obtain ⟨unit, _, rfl⟩ := found
  refine ⟨not_not.mp unit, ?_⟩
  simp only [Amount.value]
  rw [worth_sub, worth_lift (le_max_left _ _), worth_lift (le_max_right _ _)]

/-- The exact cash flow of the candidate, against the limit of the mandate's side. -/
def CashFlowBounded (m : CanonicalMandate) (c : ExecutionCandidate) : Prop :=
  match m.side with
  | .buy => c.quantity.1.value * c.executionPrice.value + c.feeTotal.1.value ≤ m.economicLimit.1.value
  | .sell => m.economicLimit.1.value ≤ c.quantity.1.value * c.executionPrice.value - c.feeTotal.1.value

/-- The declared notional is the rounding of the product against the one who declares it. -/
def RoundedAgainstCaller (m : CanonicalMandate) (c : ExecutionCandidate) : Prop :=
  let product := productAt c.quantity.1 c.executionPrice c.notional.1.decimals
  match m.side with
  | .buy => product.ceilAtoms ≤ c.notional.1.atoms
  | .sell => c.notional.1.atoms ≤ product.floorAtoms

/-- The limit is met by the product rounded against the caller at the finer scale of the fee
and the limit, whatever the scale of the declared notional. -/
def MeetsLimitRounded (m : CanonicalMandate) (c : ExecutionCandidate) : Prop :=
  let fee := c.feeTotal.1
  let limit := m.economicLimit.1
  let decimals := max fee.decimals limit.decimals
  let product := productAt c.quantity.1 c.executionPrice decimals
  let feeAtoms := fee.atoms * 10 ^ (decimals - fee.decimals)
  let limitAtoms := limit.atoms * 10 ^ (decimals - limit.decimals)
  match m.side with
  | .buy => product.ceilAtoms + feeAtoms ≤ limitAtoms
  | .sell => limitAtoms + feeAtoms ≤ product.floorAtoms

instance (m : CanonicalMandate) (c : ExecutionCandidate) : Decidable (MeetsLimitRounded m c) := by
  unfold MeetsLimitRounded
  dsimp only
  split <;> infer_instance

theorem meetsLimitRounded_iff (m : CanonicalMandate) (c : ExecutionCandidate) :
    MeetsLimitRounded m c ↔ CashFlowBounded m c := by
  have fee : c.feeTotal.1.value = _ :=
    (worth_lift (le_max_left c.feeTotal.1.decimals m.economicLimit.1.decimals) c.feeTotal.1.atoms).symm
  have limit : m.economicLimit.1.value = _ :=
    (worth_lift (le_max_right c.feeTotal.1.decimals m.economicLimit.1.decimals)
      m.economicLimit.1.atoms).symm
  unfold MeetsLimitRounded CashFlowBounded
  rw [fee, limit]
  cases m.side with
  | buy =>
    refine Iff.trans ?_ le_sub_iff_add_le
    rw [← worth_sub, le_worth_iff, ← productAt_ceil]
    exact le_sub_iff_add_le.symm
  | sell =>
    simp only
    rw [le_sub_iff_add_le, ← worth_add, worth_le_iff_floor, ← productAt_floor]

/-- The notional, the product and the maximum are measured in one unit. -/
structure OneMeasure (m : CanonicalMandate) (c : ExecutionCandidate) : Prop where
  declared : c.notional.1.unit = m.maxNotional.1.unit
  quantity : c.executionPrice.denominatorUnit = c.quantity.1.unit
  product : c.executionPrice.numeratorUnit = m.maxNotional.1.unit

theorem notionalBounds_measured {quantity : Amount} {price : Price} {unit : Identifier} {decimals : Nat}
    (measured : price.denominatorUnit = quantity.unit) (same : price.numeratorUnit = unit)
    (scaled : decimals ≤ MAX_DECIMALS) : notionalBounds quantity price unit decimals =
      if UINT256_MAX < ⌈quantity.value * price.value * 10 ^ decimals⌉ then .error .valueOutOfRange
      else .ok (productAt quantity price decimals) := by
  rw [← productAt_ceil]
  simp only [notionalBounds, measured, same, ne_eq, not_true_eq_false, if_false, not_lt.mpr scaled]
  rfl

theorem compareAmounts_measured (same : a.unit = b.unit) :
    compareAmounts a b = .ok (compare a.value b.value) := by
  have order : compare (a.atoms * 10 ^ b.decimals) (b.atoms * 10 ^ a.decimals) = compare a.value b.value := by
    rcases lt_trichotomy a.value b.value with less | equal | more
    · rw [compare_lt_iff_lt.mpr less, compare_lt_iff_lt]
      exact worth_lt_iff.mp less
    · rw [compare_eq_iff_eq.mpr equal, compare_eq_iff_eq]
      exact le_antisymm (worth_le_iff.mp equal.le) (worth_le_iff.mp equal.ge)
    · rw [compare_gt_iff_gt.mpr more, compare_gt_iff_gt]
      exact worth_lt_iff.mp more
  simp only [compareAmounts, same, ne_eq, not_true_eq_false, if_false, order]

variable {ctx : CheckContext}

theorem maxNotional_measured (one : OneMeasure ctx.mandate ctx.candidate) : let c := ctx.candidate
    let max := ctx.mandate.maxNotional.1
    (c.notional.1.value ≤ max.value ∧ c.quantity.1.value * c.executionPrice.value ≤ max.value →
      checkMaxNotional ctx = []) ∧
    (¬(c.notional.1.value ≤ max.value ∧ c.quantity.1.value * c.executionPrice.value ≤ max.value) →
      ∃ detail, checkMaxNotional ctx = [⟨.maxNotionalExceeded, detail⟩]) := by
  dsimp only
  have admissible := ctx.mandate.maxNotional.2
  have ceiling : ctx.candidate.quantity.1.value * ctx.candidate.executionPrice.value ≤
      ctx.mandate.maxNotional.1.value ↔ ⌈ctx.candidate.quantity.1.value *
        ctx.candidate.executionPrice.value * 10 ^ ctx.mandate.maxNotional.1.decimals⌉ ≤
          ctx.mandate.maxNotional.1.atoms := le_worth_iff
  simp only [checkMaxNotional, compareAmounts_measured one.declared,
    notionalBounds_measured one.quantity one.product admissible.1]
  rw [ceiling]
  rcases lt_or_ge ctx.mandate.maxNotional.1.value ctx.candidate.notional.1.value with above | within
  · rw [compare_gt_iff_gt.mpr above]
    exact ⟨fun both => absurd both.1 (not_le.mpr above), fun _ => ⟨_, rfl⟩⟩
  · have order : compare ctx.candidate.notional.1.value ctx.mandate.maxNotional.1.value ≠ .gt :=
      fun more => absurd (compare_gt_iff_gt.mp more) (not_lt.mpr within)
    split
    · rename_i failed
      cases failed
    · rename_i more
      exact absurd (Except.ok.inj more) order
    by_cases past : (UINT256_MAX : Int) < ⌈ctx.candidate.quantity.1.value *
        ctx.candidate.executionPrice.value * 10 ^ ctx.mandate.maxNotional.1.decimals⌉
    · rw [if_pos past]
      have wide := admissible.2.2
      exact ⟨fun both => absurd both.2 (by omega), fun _ => ⟨_, rfl⟩⟩
    · rw [if_neg past]
      dsimp only
      rw [productAt_ceil]
      by_cases exceeds : ctx.mandate.maxNotional.1.atoms < ⌈ctx.candidate.quantity.1.value *
          ctx.candidate.executionPrice.value * 10 ^ ctx.mandate.maxNotional.1.decimals⌉
      · rw [if_pos exceeds]
        exact ⟨fun both => absurd both.2 (not_le.mpr exceeds), fun _ => ⟨_, rfl⟩⟩
      · rw [if_neg exceeds]
        exact ⟨fun _ => rfl, fun either => absurd ⟨within, not_lt.mp exceeds⟩ either⟩

/-- The maximum is checked exactly: amounts of one unit exceed it in the check where the declared
notional or the exact product does, and amounts of different units never pass it. -/
theorem maxNotional_exact (ctx : CheckContext) : let c := ctx.candidate
    let max := ctx.mandate.maxNotional.1
    (OneMeasure ctx.mandate c → ((∀ v ∈ checkMaxNotional ctx, v.code ≠ .maxNotionalExceeded) ↔
      c.quantity.1.value * c.executionPrice.value ≤ max.value ∧ c.notional.1.value ≤ max.value)) ∧
    (checkMaxNotional ctx = [] ↔ OneMeasure ctx.mandate c ∧
      c.quantity.1.value * c.executionPrice.value ≤ max.value ∧ c.notional.1.value ≤ max.value) := by
  dsimp only
  refine ⟨fun one => ⟨fun never => ?_, fun ⟨product, declared⟩ v listed => ?_⟩,
    fun passed => ?_, fun ⟨one, product, declared⟩ => (maxNotional_measured one).1 ⟨declared, product⟩⟩
  · by_contra exceeds
    obtain ⟨detail, found⟩ := (maxNotional_measured one).2 fun ⟨declared, product⟩ => exceeds ⟨product, declared⟩
    exact never _ (found ▸ mem_singleton.mpr rfl) rfl
  · rw [(maxNotional_measured one).1 ⟨declared, product⟩] at listed
    cases listed
  · have one : OneMeasure ctx.mandate ctx.candidate := by
      simp only [checkMaxNotional] at passed
      split at passed
      · cases passed
      · cases passed
      · rename_i order _ compared
        split at passed
        · cases passed
        · cases passed
        · rename_i bounds found
          simp only [notionalBounds, refuse_ok] at found
          exact ⟨(compareAmounts_ok compared).1, not_not.mp found.1, not_not.mp found.2.1⟩
    refine ⟨one, ?_⟩
    by_contra exceeds
    obtain ⟨detail, found⟩ := (maxNotional_measured one).2 fun ⟨declared, product⟩ => exceeds ⟨product, declared⟩
    rw [found] at passed
    cases passed

theorem economic_limit_declared (passed : checkEconomicLimit ctx = []) :
    match ctx.mandate.side with
    | .buy => ctx.candidate.notional.1.value + ctx.candidate.feeTotal.1.value ≤ ctx.mandate.economicLimit.1.value
    | .sell => ctx.mandate.economicLimit.1.value ≤
        ctx.candidate.notional.1.value - ctx.candidate.feeTotal.1.value := by
  unfold checkEconomicLimit at passed
  cases side : ctx.mandate.side with
  | buy =>
    simp only [side] at passed ⊢
    split at passed
    · cases passed
    · rename_i debit sum
      rw [← (addAmounts_ok sum).2]
      split at passed
      · cases passed
      · cases passed
      · rename_i order within found
        exact compareAmounts_le found within
  | sell =>
    simp only [side] at passed ⊢
    split at passed
    · cases passed
    · split at passed
      · cases passed
      · rename_i credit difference
        rw [← (subtractAmounts_ok difference).2]
        split at passed
        · cases passed
        · cases passed
        · rename_i order within found
          exact compareAmounts_ge found within
    · cases passed

theorem cashFlow_of_roundedAgainst (limited : checkEconomicLimit ctx = [])
    (rounded : RoundedAgainstCaller ctx.mandate ctx.candidate) :
    CashFlowBounded ctx.mandate ctx.candidate := by
  have declared := economic_limit_declared limited
  unfold RoundedAgainstCaller at rounded
  unfold CashFlowBounded
  cases side : ctx.mandate.side with
  | buy =>
    simp only [side] at declared rounded ⊢
    rw [productAt_ceil, ← le_worth_iff] at rounded
    have within : ctx.candidate.quantity.1.value * ctx.candidate.executionPrice.value ≤
        ctx.candidate.notional.1.value := rounded
    linarith
  | sell =>
    simp only [side] at declared rounded ⊢
    rw [productAt_floor, ← worth_le_iff_floor] at rounded
    have within : ctx.candidate.notional.1.value ≤
        ctx.candidate.quantity.1.value * ctx.candidate.executionPrice.value := rounded
    linarith

theorem canonicalize_nil {violations : List Violation} (empty : canonicalize violations = []) :
    violations = [] := by
  have kept : ∀ (rest seen : List Violation), (rest.foldl (fun seen v =>
      if seen.any fun other => violationKey other == violationKey v then seen else seen ++ [v]) seen) = [] →
      seen = [] ∧ rest = [] := by
    intro rest
    induction rest with
    | nil => exact fun seen same => ⟨same, rfl⟩
    | cons v rest ih =>
      intro seen same
      obtain ⟨nothing, _⟩ := ih _ same
      dsimp only at nothing
      split at nothing
      · rename_i known
        subst nothing
        cases known
      · exact absurd nothing (by simp)
  have length := congrArg List.length empty
  rw [canonicalize, length_insertionSort, length_nil, length_eq_zero_iff] at length
  exact (kept violations [] length).2

private theorem collect_nil {α : Type} {result : KernelResult α} {input : String} :
    collect result input = [] ↔ ∃ value, result = .ok value := by
  cases result <;> simp [collect]

section
variable [Keccak]

private theorem finish_pass {a b c : Option Digest32} {t : Option UnixSeconds}
    {violations : List Violation} {receipt : VerificationReceipt}
    (finished : finish a b c t violations = some receipt) (passed : receipt.body.decision = .pass) :
    violations = [] := by
  simp only [finish, Option.map_eq_some_iff] at finished
  obtain ⟨_, _, rfl⟩ := finished
  simp only at passed
  split at passed
  · rename_i empty
    exact canonicalize_nil (length_eq_zero_iff.mp empty)
  · cases passed

variable [Secp256k1]

theorem passes_checks {request : VerifyRequest} (passes : Passes request) :
    ∃ ctx : CheckContext, parseMandate request.mandate = .ok ctx.mandate ∧
      parseCandidate request.candidate = .ok ctx.candidate ∧
      parseTrustedState request.trustedState = .ok ctx.state ∧
      parseUnixSeconds request.clock .malformedTrustedState = .ok ctx.now ∧
      ∀ check ∈ CHECKS, check ctx = [] := by
  obtain ⟨receipt, verified, passed⟩ := passes
  simp only [verify] at verified
  split at verified
  · rename_i m envelope c s now domain mandate _ candidate state clock _
    have nothing := finish_pass verified passed
    rw [append_eq_nil_iff, flatMap_eq_nil_iff] at nothing
    exact ⟨_, mandate, candidate, state, clock, nothing.2⟩
  · rename_i missing
    have nothing := finish_pass verified passed
    simp only [append_eq_nil_iff, collect_nil] at nothing
    obtain ⟨⟨⟨⟨⟨⟨m, mandate⟩, envelope, authorization⟩, c, candidate⟩, s, state⟩, now, clock⟩, domain,
      expected⟩ := nothing
    exact (missing m envelope c s now domain mandate authorization candidate state clock expected).elim

end

def sampleUsd (decimals atoms : Nat) : AmountInput := ⟨"USD", .integer decimals, .bigint atoms⟩

def sampleAsset : AssetIdInput := ⟨"EQUITY", "ISIN", "A1"⟩

def sampleSigner : PartyIdInput := ⟨"eip155-address", "0x7e5f4552091a69125d5dfcb7b8c2659029395bdf"⟩

def sampleMandate : MandateInput where
  version := .integer 2
  mandateId := "0x0000000000000000000000000000000000000000000000000000000000000001"
  nonce := .bigint 0
  principal := sampleSigner
  agent := ⟨"agent", "a"⟩
  canonicalAsset := sampleAsset
  side := .buy
  maxNotional := sampleUsd 0 2
  economicLimit := sampleUsd 0 1
  maxDeviationBps := .bigint 0
  syntheticPolicy := .forbidden
  allowedIssuers := ["issuer"]
  allowedChains := ["eip155:1"]
  allowedVenues := ["venue"]
  requiredCorporateActionEpoch := .bigint 0
  maxPriceAgeSeconds := .bigint 60
  maxCorporateActionAgeSeconds := .bigint 60
  haltPolicy := .forbidWhenHalted
  createdAt := .bigint 0
  notBefore := .bigint 0
  expiresAt := .bigint 100

/-- One share at 1.99 dollars, its notional declared in whole dollars. -/
def sampleCandidate : CandidateInput where
  version := .integer 3
  representationId := "eip155:1/erc20:a"
  canonicalAsset := sampleAsset
  issuer := "issuer"
  chain := "eip155:1"
  venue := "venue"
  side := .buy
  agent := ⟨"agent", "a"⟩
  quantity := ⟨"SHARE", .integer 0, .bigint 1⟩
  executionPrice := ⟨"USD", "SHARE", .integer 2, .bigint 199⟩
  notional := sampleUsd 0 1
  feeTotal := sampleUsd 0 0
  evaluationStateId := "s"
  evaluationStateDigest := "0x0000000000000000000000000000000000000000000000000000000000000002"
  registrySnapshotDigest := "0x0000000000000000000000000000000000000000000000000000000000000003"
  corporateActionEpoch := .bigint 0

def sampleProvenance : ProvenanceInput := ⟨.verified, "feed", .bigint 0⟩

def sampleState (mandateDigest : String) : TrustedStateInput where
  version := .integer 2
  stateId := "s"
  registrySnapshotDigest := some "0x0000000000000000000000000000000000000000000000000000000000000003"
  representations := [⟨sampleProvenance,
    ⟨"eip155:1/erc20:a", sampleAsset, "issuer", "eip155:1", none, .no, .active⟩⟩]
  market := some ⟨sampleProvenance, ⟨sampleAsset, some ⟨"USD", "SHARE", .integer 2, .bigint 199⟩, .trading⟩⟩
  corporateAction := some ⟨sampleProvenance, ⟨sampleAsset, some (.bigint 0)⟩⟩
  replay := some ⟨sampleProvenance, ⟨mandateDigest, .unused⟩⟩

def sampleDomain : Eip712DomainInput :=
  ⟨"Mandate", "1", .bigint 1, "0x0000000000000000000000000000000000000001"⟩

/-- One share at 1.99 dollars, declared as one dollar, under a limit of one dollar. -/
def sampleRequest : VerifyRequest where
  mandate := sampleMandate
  authorization := ⟨AUTHORIZATION_SCHEME, sampleSigner,
    "0xc6047f9441ed7d6d3045406e95c07cd85c778e4b8cef3ca7abac09b95c709ee52aed084ec59ec4e82c3e8691ca2ff6b30cd4ba69927f75581869a42210dfb3051b",
    sampleDomain⟩
  candidate := sampleCandidate
  trustedState := sampleState "0x2d388eab8bd6b9bd2776bc9c6037faa622b61a3c59292c2dced4fe3a92b8fadd"
  clock := .bigint 0
  expectedDomain := sampleDomain

@[reducible] def sampleCurve : Secp256k1 where
  recoverPublicKey hash r s recovery :=
    if hash.toNat = 0x8fd5910949500c632837ccb4fe9f708c77e0c36e47584e4444f99d1795850866 ∧
        r = 0xc6047f9441ed7d6d3045406e95c07cd85c778e4b8cef3ca7abac09b95c709ee5 ∧
        s = 0x2aed084ec59ec4e82c3e8691ca2ff6b30cd4ba69927f75581869a42210dfb305 ∧ recovery = 0 then
      hexToBytes "0x0479be667ef9dcbbac55a06295ce870b07029bfcdb2dce28d959f2815b16f81798483ada7726a3c4655da4fbfc0e1108a8fd17b448a68554199c47d08ffb10d4b8"
    else none

theorem sampleRequest_passes : @Passes platformKeccak sampleCurve sampleRequest := by
  have decided : (@verify platformKeccak sampleCurve sampleRequest).map (·.body.decision) = some .pass := by
    rewrite [platformKeccak_straight, sampleCurve, hexToBytes_ofList]
    decide +kernel
  obtain ⟨receipt, verified, passed⟩ := Option.map_eq_some_iff.mp decided
  exact ⟨receipt, verified, passed⟩

/-- The sample's share at 1.99 dollars is within its maximum of two. -/
theorem maxNotional_exact_sample : ∃ ctx : CheckContext, parseMandate sampleRequest.mandate = .ok ctx.mandate ∧
    OneMeasure ctx.mandate ctx.candidate ∧ (∀ v ∈ checkMaxNotional ctx, v.code ≠ .maxNotionalExceeded) ∧
    ctx.candidate.quantity.1.value * ctx.candidate.executionPrice.value ≤ ctx.mandate.maxNotional.1.value := by
  obtain ⟨ctx, mandate, _, _, _, checked⟩ := @passes_checks platformKeccak sampleCurve _ sampleRequest_passes
  have passed : checkMaxNotional ctx = [] := checked _ (by simp [CHECKS])
  obtain ⟨one, product, declared⟩ := (maxNotional_exact ctx).2.mp passed
  exact ⟨ctx, mandate, one, ((maxNotional_exact ctx).1 one).mpr ⟨product, declared⟩, product⟩

theorem sampleRequest_parsed : ∃ m c, parseMandate sampleRequest.mandate = .ok m ∧
    parseCandidate sampleRequest.candidate = .ok c ∧ ¬ MeetsLimitRounded m c := by
  have found : ((parseMandate sampleRequest.mandate).toOption.any fun m =>
      (parseCandidate sampleRequest.candidate).toOption.any fun c => decide (¬ MeetsLimitRounded m c)) = true := by
    decide +kernel
  cases mandate : parseMandate sampleRequest.mandate with
  | error code =>
    rw [mandate] at found
    cases found
  | ok m =>
    cases candidate : parseCandidate sampleRequest.candidate with
    | error code =>
      rw [mandate, candidate] at found
      cases found
    | ok c =>
      rw [mandate, candidate] at found
      exact ⟨m, c, rfl, rfl, of_decide_eq_true found⟩

end Mandate.Kernel
