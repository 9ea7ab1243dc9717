import Mandate.Registry.Evaluate

/-! Institutional policy over signed requirements: what narrowing keeps of each constraint, and
exactly when an admission under the narrowed ones is one under the base. A raised floor or a
shorter age can drop the claim that contested a value, and the admission is then new. -/
set_option linter.dupNamespace false
namespace Mandate.Registry
open Core List

def ListNarrowed {α : Type} (base narrowed : Option (List α)) : Prop :=
  ∀ b ∈ base, ∃ n ∈ narrowed, n ⊆ b

theorem intersectOrAdopt_narrowed {α : Type} [DecidableEq α] (base extra : Option (List α)) :
    ListNarrowed base (intersectOrAdopt base extra) := by
  intro b held
  cases extra with
  | none => exact ⟨b, held, List.Subset.refl _⟩
  | some extra =>
    cases base with
    | none => cases held
    | some base =>
      cases held
      exact ⟨_, rfl, filter_subset_self _⟩

structure Narrows (base narrowed : RepresentationRequirements) : Prop where
  asset : narrowed.canonicalAsset = base.canonicalAsset
  issuers : narrowed.allowedIssuers ⊆ base.allowedIssuers
  chains : narrowed.allowedChains ⊆ base.allowedChains
  synthetic : base.syntheticPolicy = .forbidden → narrowed.syntheticPolicy = .forbidden
  instruments : ListNarrowed base.allowedInstrumentTypes narrowed.allowedInstrumentTypes
  backing : ListNarrowed base.allowedBackingModels narrowed.allowedBackingModels
  redemption : ListNarrowed base.allowedRedemptionModels narrowed.allowedRedemptionModels
  rights : ∀ r ∈ base.requiredRights, ∃ n ∈ narrowed.requiredRights, n.kind = r.kind ∧ n.acceptable ⊆ r.acceptable
  corporateActions : ListNarrowed base.allowedCorporateActionModels narrowed.allowedCorporateActionModels
  settlement : ListNarrowed base.allowedSettlementModels narrowed.allowedSettlementModels
  holder : ∀ h ∈ base.holderJurisdiction, narrowed.holderJurisdiction = some h
  trust : meetsTrustFloor (some narrowed.minimumTrust) base.minimumTrust = true
  age : ∀ m ∈ base.maxClaimAge, ∃ n ∈ narrowed.maxClaimAge, n ≤ m
  now : narrowed.now = base.now

theorem narrowIdentifiers_ok {base kept : List Identifier} {extra : Option (List String)}
    (narrowed : narrowIdentifiers base extra = .ok kept) : kept ⊆ base := by
  unfold narrowIdentifiers at narrowed
  split at narrowed
  · cases narrowed
    exact List.Subset.refl _
  · split at narrowed
    · cases narrowed
    · cases narrowed
      exact filter_subset_self _

theorem narrowTrust_ok {base kept : TrustClass} {extra : Option TrustClass}
    (narrowed : narrowTrust base extra = .ok kept) : meetsTrustFloor (some kept) base = true := by
  unfold narrowTrust at narrowed
  split at narrowed
  · cases narrowed
    simp [meetsTrustFloor]
  · split at narrowed
    · cases narrowed
      assumption
    · cases narrowed

theorem narrowAge_ok {base kept extra : Option Int} (narrowed : narrowAge base extra = .ok kept) :
    ∀ m ∈ base, ∃ n ∈ kept, n ≤ m := by
  intro m held
  unfold narrowAge at narrowed
  split at narrowed
  · cases narrowed
    exact ⟨m, held, le_rfl⟩
  · split at narrowed
    · cases narrowed
    · cases narrowed
      cases held
      refine ⟨_, rfl, ?_⟩
      simp only [Option.elim_some]
      split <;> omega

theorem narrowHolder_ok {base kept : Option Jurisdiction} {extra : Option String}
    (narrowed : narrowHolder base extra = .ok kept) : ∀ h ∈ base, kept = some h := by
  intro h held
  unfold narrowHolder at narrowed
  split at narrowed
  · cases narrowed
    exact held
  · obtain ⟨holder, -, narrowed⟩ := except_bind_success narrowed
    split at narrowed
    · cases narrowed
    · rename_i same
      cases narrowed
      cases held
      have unchanged : h = holder := by
        by_contra differs
        exact same (by rw [Option.any_some, decide_eq_true_eq]; exact differs)
      rw [unchanged]

theorem demandRight_keeps (rights : List RequiredRight) (right : RequiredRight) :
    ∀ r ∈ rights, ∃ n ∈ demandRight rights right, n.kind = r.kind ∧ n.acceptable ⊆ r.acceptable := by
  induction rights with
  | nil => intro r held; cases held
  | cons first rest ih =>
    intro r held
    unfold demandRight
    rcases mem_cons.mp held with rfl | later
    · split
      · rename_i same
        exact ⟨_, mem_cons_self .., same.symm, filter_subset_self _⟩
      · exact ⟨r, mem_cons_self .., rfl, List.Subset.refl _⟩
    · split
      · exact ⟨r, mem_cons_of_mem _ later, rfl, List.Subset.refl _⟩
      · obtain ⟨n, kept, same⟩ := ih r later
        exact ⟨n, mem_cons_of_mem _ kept, same⟩

theorem demandRights_keep (extra : List RequiredRight) : ∀ rights : List RequiredRight, ∀ r ∈ rights,
    ∃ n ∈ extra.foldl demandRight rights, n.kind = r.kind ∧ n.acceptable ⊆ r.acceptable := by
  induction extra with
  | nil => exact fun _ r held => ⟨r, held, rfl, List.Subset.refl _⟩
  | cons right extra ih =>
    intro rights r held
    obtain ⟨n, kept, sameKind, within⟩ := demandRight_keeps rights right r held
    obtain ⟨m, final, lastKind, last⟩ := ih _ n kept
    exact ⟨m, final, lastKind.trans sameKind, List.Subset.trans last within⟩

variable {base narrowed : RepresentationRequirements}

theorem narrowRequirements_ok {additional : AdditionalRequirements}
    (narrows : narrowRequirements base additional = .ok narrowed) : Narrows base narrowed := by
  obtain ⟨issuers, issuersKept, narrows⟩ := except_bind_success narrows
  obtain ⟨chains, chainsKept, narrows⟩ := except_bind_success narrows
  obtain ⟨trust, trustKept, narrows⟩ := except_bind_success narrows
  obtain ⟨age, ageKept, narrows⟩ := except_bind_success narrows
  obtain ⟨holder, holderKept, narrows⟩ := except_bind_success narrows
  cases narrows
  refine ⟨rfl, narrowIdentifiers_ok issuersKept, narrowIdentifiers_ok chainsKept, ?_, intersectOrAdopt_narrowed _ _,
    intersectOrAdopt_narrowed _ _, intersectOrAdopt_narrowed _ _, ?_, intersectOrAdopt_narrowed _ _,
    intersectOrAdopt_narrowed _ _, narrowHolder_ok holderKept, narrowTrust_ok trustKept, narrowAge_ok ageKept, rfl⟩
  · intro forbidden
    simp [forbidden]
  · intro r held
    obtain ⟨n, kept, same⟩ := demandRights_keep additional.requiredRights _ r held
    exact ⟨n, (perm_insertionSort _ _).mem_iff.mpr kept, same⟩

theorem Narrows.reads_less (narrows : Narrows base narrowed) {α : Type} (claims : List (Claim α)) :
    freshClaims (claimPolicyOf narrowed) claims ⊆ freshClaims (claimPolicyOf base) claims := by
  intro c read
  obtain ⟨listed, trusted, timely⟩ := mem_freshClaims.mp read
  refine mem_freshClaims.mpr ⟨listed, meetsTrustFloor_trans trusted narrows.trust, ?_⟩
  obtain ⟨past, recent⟩ := inTime_iff.mp timely
  simp only [claimPolicyOf, narrows.now] at past recent
  refine inTime_iff.mpr ⟨past, fun m held => ?_⟩
  obtain ⟨n, tighter, le⟩ := narrows.age m held
  exact (recent n tighter).trans le

inductive Property
  | underlying | issuer | backing | operationalStatus | instrumentType | redemption
  | corporateActionHandling | settlement | right (kind : RightKind) | eligibility

def keyed {α : Type} (keyOf : α → String) (claims : List (Claim α)) : List (Claim String) :=
  claims.map fun c => ⟨keyOf c.value, c.provenance⟩

def propertyClaims (record : RepresentationRecord) : Property → List (Claim String)
  | .underlying => keyed canonicalAssetKey record.underlying.1
  | .issuer => keyed (·.1) record.issuer.1
  | .backing => keyed BackingModel.text record.backing.1
  | .operationalStatus => keyed RepresentationOperationalStatus.text record.operationalStatus.1
  | .instrumentType => keyed InstrumentType.text record.instrumentType.1
  | .redemption => keyed RedemptionModel.text record.redemption.1
  | .corporateActionHandling => keyed CorporateActionModel.text record.corporateActionHandling.1
  | .settlement => keyed SettlementModel.text record.settlement.1
  | .right kind => keyed RightState.text (rightClaims record kind)
  | .eligibility => keyed eligibilityKey record.eligibility.1

def Constrains (requirements : RepresentationRequirements) : Property → Prop
  | .underlying | .issuer | .backing | .operationalStatus => True
  | .instrumentType => requirements.allowedInstrumentTypes ≠ none
  | .redemption => requirements.allowedRedemptionModels ≠ none
  | .corporateActionHandling => requirements.allowedCorporateActionModels ≠ none
  | .settlement => requirements.allowedSettlementModels ≠ none
  | .right kind => ∃ r ∈ requirements.requiredRights, r.kind = kind
  | .eligibility => requirements.holderJurisdiction ≠ none

/-- No claim the base reads and the narrowed requirements do not disagrees with one they do. -/
def DropsNoDissent {α : Type} (base narrowed : RepresentationRequirements) (keyOf : α → String)
    (claims : List (Claim α)) : Prop :=
  ∀ c ∈ freshClaims (claimPolicyOf base) claims, ∀ d ∈ freshClaims (claimPolicyOf narrowed) claims,
    c ∈ freshClaims (claimPolicyOf narrowed) claims ∨ keyOf c.value = keyOf d.value

theorem freshClaims_keyed {α : Type} (policy : ClaimPolicy) (keyOf : α → String) (claims : List (Claim α)) :
    freshClaims policy (keyed keyOf claims) = keyed keyOf (freshClaims policy claims) := by
  simp only [freshClaims, keyed, filter_map, Function.comp_def]

theorem dropsNoDissent_keyed {α : Type} {claims : List (Claim α)} {keyOf : α → String} :
    DropsNoDissent base narrowed id (keyed keyOf claims) ↔ DropsNoDissent base narrowed keyOf claims := by
  simp only [DropsNoDissent, freshClaims_keyed, id]
  constructor
  · intro loyal c first d second
    refine (loyal _ (mem_map.mpr ⟨c, first, rfl⟩) _ (mem_map.mpr ⟨d, second, rfl⟩)).imp ?_ (fun same => same)
    intro held
    obtain ⟨e, among, same⟩ := mem_map.mp held
    have source : e.provenance = c.provenance := congrArg (fun c : Claim String => c.provenance) same
    obtain ⟨-, trusted, timely⟩ := mem_freshClaims.mp among
    exact mem_freshClaims.mpr ⟨(mem_freshClaims.mp first).1, source ▸ trusted, source ▸ timely⟩
  · intro loyal c first d second
    obtain ⟨e, among, rfl⟩ := mem_map.mp first
    obtain ⟨f, kept, rfl⟩ := mem_map.mp second
    exact (loyal e among f kept).imp (fun held => mem_map.mpr ⟨e, held, rfl⟩) (fun same => same)

section Keeping
variable {base narrowed : RepresentationRequirements} (narrows : Narrows base narrowed)
include narrows

theorem Narrows.contested_iff {α : Type} {claims : List (Claim α)} {keyOf : α → String} {kept : Claim α}
    (read : kept ∈ freshClaims (claimPolicyOf narrowed) claims)
    (agreed : ¬Contested claims (claimPolicyOf narrowed) keyOf) :
    ¬Contested claims (claimPolicyOf base) keyOf ↔ DropsNoDissent base narrowed keyOf claims := by
  constructor
  · intro settled c first d second
    refine .inr ?_
    by_contra apart
    exact settled ⟨c, first, d, narrows.reads_less claims second, apart⟩
  · rintro loyal ⟨c, first, d, second, apart⟩
    have same : ∀ e ∈ freshClaims (claimPolicyOf base) claims, keyOf e.value = keyOf kept.value := by
      intro e among
      rcases loyal e among kept read with held | same
      · by_contra differs
        exact agreed ⟨e, held, kept, read, differs⟩
      · exact same
    exact apart ((same c first).trans (same d second).symm)

variable {property : String}

theorem Narrows.establish_iff {α : Type} {claims : List (Claim α)} {keyOf : α → String}
    {judge narrowedJudge : α → List RepresentationExclusion}
    (weaker : ∀ v w, keyOf v = keyOf w → narrowedJudge v = [] → judge w = [])
    (clean : establish claims narrowed keyOf property narrowedJudge = []) :
    establish claims base keyOf property judge = [] ↔ DropsNoDissent base narrowed keyOf claims := by
  obtain ⟨value, provenance, resolved, passes⟩ := establish_eq_nil.mp clean
  obtain ⟨read, agreed⟩ := resolveClaimSet_established resolved
  rw [← narrows.contested_iff read agreed, establish_eq_nil]
  constructor
  · rintro ⟨_, _, settled, -⟩
    exact (resolveClaimSet_established settled).2
  · intro settled
    obtain ⟨w, from_, established, among⟩ := resolveClaimSet_agreed (narrows.reads_less claims read) settled
    refine ⟨w, from_, established, weaker value w ?_ passes⟩
    by_contra apart
    exact settled ⟨_, narrows.reads_less claims read, _, among, apart⟩

theorem Narrows.establishAllowed_iff {α : Type} [DecidableEq α] {claims : List (Claim α)} {keyOf : α → String}
    (injective : Function.Injective keyOf) {allowed narrowedAllowed : Option (List α)}
    {code : RegistryReasonCode} (within : ListNarrowed allowed narrowedAllowed)
    (clean : establishAllowed claims narrowed keyOf property narrowedAllowed code = []) :
    establishAllowed claims base keyOf property allowed code = [] ↔
      (allowed ≠ none → DropsNoDissent base narrowed keyOf claims) := by
  cases allowed with
  | none => simp [establishAllowed]
  | some allowed =>
    obtain ⟨n, held, subset⟩ := within allowed rfl
    cases held
    simp only [ne_eq, reduceCtorEq, not_false_eq_true, forall_const]
    refine narrows.establish_iff (fun v w same passes => ?_) clean
    rw [unlessExcluded_eq_nil] at passes ⊢
    exact injective same ▸ subset passes

variable {record : RepresentationRecord} {registry : Registry}

theorem Narrows.underlying_iff (clean : underlyingExclusions registry narrowed record = []) :
    underlyingExclusions registry base record = [] ↔
      DropsNoDissent base narrowed canonicalAssetKey record.underlying.1 := by
  refine narrows.establish_iff (fun v w same passes => ?_) clean
  rw [same, narrows.asset] at passes
  split at passes
  · cases passes
  · rename_i named
    rw [if_neg named]
    exact passes

theorem Narrows.issuer_iff (clean : issuerExclusions narrowed record = []) :
    issuerExclusions base record = [] ↔ DropsNoDissent base narrowed (·.1) record.issuer.1 := by
  refine narrows.establish_iff (fun v w same passes => ?_) clean
  rw [unlessExcluded_eq_nil] at passes ⊢
  exact Subtype.ext same ▸ narrows.issuers passes

theorem Narrows.backing_iff (clean : backingExclusions narrowed record = []) :
    backingExclusions base record = [] ↔ DropsNoDissent base narrowed BackingModel.text record.backing.1 := by
  refine narrows.establish_iff (fun v w same passes => ?_) clean
  have unchanged : v = w := BackingModel.text_injective same
  simp only [append_eq_nil_iff, unlessExcluded_eq_nil] at passes ⊢
  subst unchanged
  refine ⟨fun held => passes.1 ⟨held.1, narrows.synthetic held.2⟩, fun allowed held => ?_⟩
  obtain ⟨n, kept, within⟩ := narrows.backing allowed held
  exact within (passes.2 n kept)

theorem Narrows.operational_iff
    (clean : operationalExclusions narrowed record = []) : operationalExclusions base record = [] ↔
      DropsNoDissent base narrowed RepresentationOperationalStatus.text record.operationalStatus.1 := by
  refine narrows.establish_iff (fun v w same passes => ?_) clean
  rw [unlessExcluded_eq_nil] at passes ⊢
  exact (RepresentationOperationalStatus.text_injective same) ▸ passes

theorem Narrows.right_iff {required : RequiredRight} (demanded : required ∈ base.requiredRights)
    (clean : ∀ n ∈ narrowed.requiredRights, rightExclusions narrowed record n = []) :
    rightExclusions base record required = [] ↔
      DropsNoDissent base narrowed RightState.text (rightClaims record required.kind) := by
  obtain ⟨n, kept, same, within⟩ := narrows.rights required demanded
  have clean := clean n kept
  unfold rightExclusions at clean ⊢
  rw [same] at clean
  refine narrows.establish_iff (fun v w same passes => ?_) clean
  rw [unlessExcluded_eq_nil] at passes ⊢
  exact within ((RightState.text_injective same) ▸ passes)

theorem Narrows.eligibility_iff
    (clean : eligibilityExclusions narrowed record = []) : eligibilityExclusions base record = [] ↔
      (base.holderJurisdiction ≠ none → DropsNoDissent base narrowed eligibilityKey record.eligibility.1) := by
  unfold eligibilityExclusions at clean ⊢
  cases asked : base.holderJurisdiction with
  | none => simp
  | some holder =>
    rw [narrows.holder holder asked] at clean
    simp only [ne_eq, reduceCtorEq, not_false_eq_true, forall_const]
    refine narrows.establish_iff (fun v w same passes => ?_) clean
    obtain ⟨permitted, prohibited⟩ := eligibilityKey_members same holder
    simp only [← prohibited]
    split at passes
    · cases passes
    · rename_i free
      rw [unlessExcluded_eq_nil] at passes
      rw [if_neg free, unlessExcluded_eq_nil]
      exact permitted.mp passes

theorem Narrows.record_iff {named : RepresentationId}
    (clean : recordExclusions registry narrowed record named = []) :
    recordExclusions registry base record named = [] ↔ ∀ property, Constrains base property →
      DropsNoDissent base narrowed id (propertyClaims record property) := by
  simp only [recordExclusions, append_eq_nil_iff, flatMap_eq_nil_iff] at clean ⊢
  obtain ⟨⟨⟨⟨⟨⟨⟨⟨⟨⟨underlying, issuer⟩, chain⟩, backing⟩, operational⟩, instrument⟩, redemption⟩, corporate⟩,
    settlement⟩, rights⟩, eligibility⟩ := clean
  have chained : chainExclusions base named = [] := by
    unfold chainExclusions at chain ⊢
    rw [unlessExcluded_eq_nil] at chain ⊢
    exact narrows.chains chain
  rw [narrows.underlying_iff underlying, narrows.issuer_iff issuer, narrows.backing_iff backing,
    narrows.operational_iff operational,
    narrows.establishAllowed_iff InstrumentType.text_injective narrows.instruments instrument,
    narrows.establishAllowed_iff RedemptionModel.text_injective narrows.redemption redemption,
    narrows.establishAllowed_iff CorporateActionModel.text_injective narrows.corporateActions corporate,
    narrows.establishAllowed_iff SettlementModel.text_injective narrows.settlement settlement,
    narrows.eligibility_iff eligibility]
  constructor
  · rintro ⟨⟨⟨⟨⟨⟨⟨⟨⟨⟨underlying, issuer⟩, -⟩, backing⟩, operational⟩, instrument⟩, redemption⟩, corporate⟩,
      settlement⟩, right⟩, eligibility⟩ property constrained
    cases property with
    | underlying => exact dropsNoDissent_keyed.mpr underlying
    | issuer => exact dropsNoDissent_keyed.mpr issuer
    | backing => exact dropsNoDissent_keyed.mpr backing
    | operationalStatus => exact dropsNoDissent_keyed.mpr operational
    | instrumentType => exact dropsNoDissent_keyed.mpr (instrument constrained)
    | redemption => exact dropsNoDissent_keyed.mpr (redemption constrained)
    | corporateActionHandling => exact dropsNoDissent_keyed.mpr (corporate constrained)
    | settlement => exact dropsNoDissent_keyed.mpr (settlement constrained)
    | right kind =>
      obtain ⟨required, demanded, rfl⟩ := constrained
      exact dropsNoDissent_keyed.mpr ((narrows.right_iff demanded rights).mp (right required demanded))
    | eligibility => exact dropsNoDissent_keyed.mpr (eligibility constrained)
  · intro loyal
    refine ⟨⟨⟨⟨⟨⟨⟨⟨⟨⟨?_, ?_⟩, chained⟩, ?_⟩, ?_⟩, fun constrained => ?_⟩, fun constrained => ?_⟩,
      fun constrained => ?_⟩, fun constrained => ?_⟩, fun required demanded => ?_⟩, fun constrained => ?_⟩
    · exact dropsNoDissent_keyed.mp (loyal .underlying trivial)
    · exact dropsNoDissent_keyed.mp (loyal .issuer trivial)
    · exact dropsNoDissent_keyed.mp (loyal .backing trivial)
    · exact dropsNoDissent_keyed.mp (loyal .operationalStatus trivial)
    · exact dropsNoDissent_keyed.mp (loyal .instrumentType constrained)
    · exact dropsNoDissent_keyed.mp (loyal .redemption constrained)
    · exact dropsNoDissent_keyed.mp (loyal .corporateActionHandling constrained)
    · exact dropsNoDissent_keyed.mp (loyal .settlement constrained)
    · exact (narrows.right_iff demanded rights).mpr
        (dropsNoDissent_keyed.mp (loyal (.right required.kind) ⟨required, demanded, rfl⟩))
    · exact dropsNoDissent_keyed.mp (loyal .eligibility constrained)

end Keeping

/-- Under a policy that narrows, what the narrowed requirements admit the base admits too, except
where raising the floor or shortening the age dropped a claim that disagrees with one it kept. -/
theorem narrowing_keeps_refusals [Keccak] {registry : Registry} {base narrowed : RepresentationRequirements}
    {additional : AdditionalRequirements} {input : RepresentationIdInput}
    (narrows : narrowRequirements base additional = .ok narrowed) (admitted : Admits registry narrowed input) :
    Admits registry base input ↔
      ∀ record, getRepresentation registry input = some record → ∀ property, Constrains base property →
        DropsNoDissent base narrowed id (propertyClaims record property) := by
  have kept := narrowRequirements_ok narrows
  obtain ⟨named, record, parsed, found, clean⟩ := admits_iff.mp admitted
  have only : getRepresentation registry input = some record := by simp only [getRepresentation, parsed, found]
  simp only [only, Option.some.injEq, forall_eq']
  rw [← kept.record_iff clean, admits_iff]
  constructor
  · rintro ⟨other, again, parsedAgain, foundAgain, accepted⟩
    cases parsed.symm.trans parsedAgain
    cases found.symm.trans foundAgain
    exact accepted
  · intro accepted
    exact ⟨named, record, parsed, found, accepted⟩

def sampleAsset : ValidatedCanonicalAssetId :=
  ⟨⟨⟨"equity", by decide⟩, ⟨"isin", by decide⟩, ⟨"US0378331005", by decide⟩⟩, by decide⟩

theorem sampleNow_inside : INT64_MIN ≤ 100 ∧ 100 ≤ INT64_MAX := by decide

def sampleNow : UnixSeconds := ⟨100, sampleNow_inside⟩

def claimed {α : Type} (trustClass : TrustClass) (value : α) : Claim α := ⟨value, some trustClass, ⟨"desk", .refl true⟩, sampleNow⟩

def sampleClaims {α : Type} (value : α) : ClaimSet α := ⟨[claimed .authoritative value], by simp [MAX_CLAIMS_PER_PROPERTY]⟩

def sampleId : RepresentationId where
  chainReference := "1".toList
  contractAddress := "0xaaaaaaaaaaaaaaaaaaaaaaaaaaaaaaaaaaaaaaaa".toList
  chain := ⟨"eip155:1", .refl true⟩
  value := ⟨"eip155:1/erc20:0xaaaaaaaaaaaaaaaaaaaaaaaaaaaaaaaaaaaaaaaa", .refl true⟩
  referenced := by decide +kernel
  addressed := by decide +kernel
  chained := by decide +kernel
  named := by decide

/-- A fully backed, active representation whose issuer is as claimed. -/
def sampleRepresentation (issuer : ClaimSet Identifier) : RepresentationRecord where
  representationId := sampleId
  tokenSymbol := none
  tokenName := none
  underlying := sampleClaims sampleAsset
  issuer := issuer
  instrumentType := ⟨[], by decide⟩
  backing := sampleClaims .fullyBacked
  redemption := ⟨[], by decide⟩
  rights _ := none
  corporateActionHandling := ⟨[], by decide⟩
  settlement := ⟨[], by decide⟩
  operationalStatus := sampleClaims .active
  eligibility := ⟨[], by decide⟩

def sampleSnapshot (issuer : ClaimSet Identifier) : RegistrySnapshot where
  snapshotId := ⟨"s", .refl true⟩
  createdAt := sampleNow
  dataClass := .syntheticFixture
  sourceVersions := ⟨[], by decide⟩
  assets := ⟨[⟨sampleAsset, .active, ⟨"Apple", .refl true⟩, none, none, ⟨[], by decide⟩, ⟨[], by decide⟩⟩], by decide⟩
  representations := ⟨[sampleRepresentation issuer], by simp [MAX_SNAPSHOT_ENTRIES]⟩

def sampleRegistry (issuer : ClaimSet Identifier) : Registry where
  snapshot := sampleSnapshot issuer
  assetsApart := by simp [RegistrySnapshot.assetKeys, sampleSnapshot]
  recordsApart := by simp [RegistrySnapshot.recordKeys, sampleSnapshot]

def acme : Identifier := ⟨"acme", by decide⟩

def sampleMandate : Kernel.CanonicalMandate where
  version := 2
  mandateId := 1
  nonce := ⟨0, uint64_zero⟩
  principal := ⟨⟨"eip155-address", .refl true⟩, ⟨"0x7e5f4552091a69125d5dfcb7b8c2659029395bdf", .refl true⟩, .refl true⟩
  agent := ⟨⟨"agent", .refl true⟩, ⟨"a", .refl true⟩, by decide⟩
  canonicalAsset := sampleAsset.1
  side := .buy
  maxNotional := ⟨⟨⟨"USD", .refl true⟩, 2, 1000⟩, by decide⟩
  economicLimit := ⟨⟨⟨"USD", .refl true⟩, 2, 1000⟩, by decide⟩
  maxDeviationBps := ⟨100, by decide⟩
  syntheticPolicy := .allowed
  allowedIssuers := ⟨[acme], by decide, by decide⟩
  allowedChains := ⟨[sampleId.chain], by decide, by decide⟩
  allowedVenues := ⟨[], by decide, by decide⟩
  requiredCorporateActionEpoch := ⟨0, uint64_zero⟩
  maxPriceAgeSeconds := ⟨60, by decide⟩
  maxCorporateActionAgeSeconds := ⟨60, by decide⟩
  haltPolicy := .forbidWhenHalted
  createdAt := sampleNow
  notBefore := sampleNow
  expiresAt := ⟨200, by decide⟩
  supported := rfl
  window := by decide
  oneUnit := rfl

def sampleRequirements : RepresentationRequirements where
  canonicalAsset := sampleAsset
  allowedIssuers := [acme]
  allowedChains := [sampleId.chain]
  syntheticPolicy := .allowed
  allowedInstrumentTypes := none
  allowedBackingModels := none
  allowedRedemptionModels := none
  requiredRights := []
  allowedCorporateActionModels := none
  allowedSettlementModels := none
  holderJurisdiction := none
  minimumTrust := .verified
  maxClaimAge := none
  now := sampleNow

def samplePolicy (floor : TrustClass) : AdditionalRequirements where
  allowedIssuers := none
  allowedChains := none
  forbidSynthetic := true
  allowedInstrumentTypes := none
  allowedBackingModels := none
  allowedRedemptionModels := none
  requiredRights := []
  allowedCorporateActionModels := none
  allowedSettlementModels := none
  holderJurisdiction := none
  minimumTrust := some floor
  maxClaimAge := none

/-- The sample requirements under a policy that forbids synthetics and sets a floor. -/
def narrowedSample (floor : TrustClass) : RepresentationRequirements :=
  { sampleRequirements with syntheticPolicy := .forbidden, minimumTrust := floor }

def sampleInput : RepresentationIdInput := .text sampleId.value.1

def disputed : ClaimSet Identifier :=
  ⟨[claimed .authoritative acme, claimed .verified ⟨"other", by decide⟩], by decide⟩

theorem dissent_dropped : deriveRequirements sampleMandate ⟨sampleNow, none, none⟩ = .ok sampleRequirements ∧
    narrowRequirements sampleRequirements (samplePolicy .authoritative) = .ok (narrowedSample .authoritative) ∧
    @Admits platformKeccak (sampleRegistry disputed) (narrowedSample .authoritative) sampleInput ∧
    ¬@Admits platformKeccak (sampleRegistry disputed) sampleRequirements sampleInput := by
  refine ⟨?_, ?_, ?_, ?_⟩ <;> decide +kernel

theorem narrowing_keeps_refusals_sample :
    @Admits platformKeccak (sampleRegistry (sampleClaims acme)) sampleRequirements sampleInput ↔
      ∀ record, @getRepresentation platformKeccak (sampleRegistry (sampleClaims acme)) sampleInput = some record →
        ∀ property, Constrains sampleRequirements property →
          DropsNoDissent sampleRequirements (narrowedSample .verified) id (propertyClaims record property) :=
  @narrowing_keeps_refusals platformKeccak _ _ _ (samplePolicy .verified) _ (by decide +kernel) (by decide +kernel)

end Mandate.Registry
