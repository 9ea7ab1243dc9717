import Mandate.Registry.Bridge
import Mandate.Lib.Keyed

/-! What admissibility says: every property the requirements constrain is agreed on by the claims that
count, and acceptable. A claim below the floor counts for nothing. -/
namespace Mandate.Registry
open Core

section Agreement
variable {α : Type}

/-- At or above the floor, not from the future and not too old. -/
structure Counts (requirements : RepresentationRequirements) (p : Provenance) : Prop where
  trusted : meetsTrustFloor p.trustClass requirements.minimumTrust = true
  past : p.observedAt.1 ≤ requirements.now.1
  recent : ∀ max ∈ requirements.maxClaimAge, requirements.now.1 - p.observedAt.1 ≤ max

def counted (claims : List (Claim α)) (requirements : RepresentationRequirements) : Set (Claim α) :=
  {c | c ∈ claims ∧ Counts requirements c.provenance}

/-- The claims that count are some, say one thing, and it is acceptable. -/
structure Agreed (claims : List (Claim α)) (requirements : RepresentationRequirements) (same : α → α → Prop)
    (acceptable : α → Prop) : Prop where
  some : (counted claims requirements).Nonempty
  one : ∀ c ∈ counted claims requirements, ∀ d ∈ counted claims requirements, same c.value d.value
  accepted : ∀ c ∈ counted claims requirements, acceptable c.value

def aboveFloor (requirements : RepresentationRequirements) (claims : List (Claim α)) : List (Claim α) :=
  claims.filter fun c => meetsTrustFloor c.provenance.trustClass requirements.minimumTrust

variable {claims claims' : List (Claim α)} {requirements : RepresentationRequirements} {same : α → α → Prop}
  {acceptable : α → Prop} {keyOf : α → String} {property : String} {judge : α → List RepresentationExclusion}

theorem mem_counted {c : Claim α} :
    c ∈ counted claims requirements ↔ c ∈ freshClaims (claimPolicyOf requirements) claims := by
  rw [mem_freshClaims, inTime_iff]
  exact ⟨fun ⟨listed, counts⟩ => ⟨listed, counts.trusted, counts.past, counts.recent⟩,
    fun ⟨listed, trusted, past, recent⟩ => ⟨listed, trusted, past, recent⟩⟩

theorem establish_agreed (keyed : ∀ a b, keyOf a = keyOf b ↔ same a b) (judged : ∀ v, judge v = [] ↔ acceptable v)
    (alike : ∀ a b, same a b → acceptable a → acceptable b) :
    establish claims requirements keyOf property judge = [] ↔ Agreed claims requirements same acceptable := by
  rw [establish_eq_nil]
  constructor
  · rintro ⟨value, provenance, resolved, clean⟩
    obtain ⟨fresh, agreed⟩ := resolveClaimSet_established resolved
    have one : ∀ c ∈ counted claims requirements, ∀ d ∈ counted claims requirements, same c.value d.value := by
      intro c first d second
      refine (keyed _ _).mp (Decidable.byContradiction fun apart => agreed ?_)
      exact ⟨c, mem_counted.mp first, d, mem_counted.mp second, apart⟩
    have mine := mem_counted.mpr fresh
    exact ⟨⟨_, mine⟩, one, fun c listed => alike _ _ (one _ mine c listed) ((judged value).mp clean)⟩
  · rintro ⟨⟨c, listed⟩, one, accepted⟩
    have agreed : ¬ Contested claims (claimPolicyOf requirements) keyOf := fun ⟨a, first, b, second, apart⟩ =>
      apart ((keyed _ _).mpr (one a (mem_counted.mpr first) b (mem_counted.mpr second)))
    obtain ⟨value, provenance, resolved, fresh⟩ := resolveClaimSet_agreed (mem_counted.mp listed) agreed
    exact ⟨value, provenance, resolved, (judged value).mpr (accepted _ (mem_counted.mpr fresh))⟩

theorem establish_one (injective : Function.Injective keyOf) (judged : ∀ v, judge v = [] ↔ acceptable v) :
    establish claims requirements keyOf property judge = [] ↔ Agreed claims requirements Eq acceptable :=
  establish_agreed (fun _ _ => injective.eq_iff) judged fun _ _ same accepted => same ▸ accepted

theorem establishAllowed_one [DecidableEq α] {allowed : Option (List α)} {code : RegistryReasonCode}
    (injective : Function.Injective keyOf) :
    establishAllowed claims requirements keyOf property allowed code = [] ↔
      ∀ listed ∈ allowed, Agreed claims requirements Eq (· ∈ listed) := by
  cases allowed with
  | none => simp [establishAllowed]
  | some listed =>
    rw [establishAllowed, establish_one injective fun _ => unlessExcluded_eq_nil]
    simp

theorem counted_congr (above : aboveFloor requirements claims = aboveFloor requirements claims') :
    counted claims requirements = counted claims' requirements := by
  have inside : ∀ {claims : List (Claim α)} {c : Claim α}, Counts requirements c.provenance →
      (c ∈ claims ↔ c ∈ aboveFloor requirements claims) := fun counts => by
    rw [aboveFloor, List.mem_filter, and_iff_left counts.trusted]
  ext c
  refine and_congr_left fun counts => ?_
  refine (inside counts).trans (Iff.trans ?_ (inside counts).symm)
  rw [above]

theorem Agreed.congr (above : aboveFloor requirements claims = aboveFloor requirements claims') :
    Agreed claims requirements same acceptable ↔ Agreed claims' requirements same acceptable := by
  have equal := counted_congr above
  constructor
  · rintro ⟨some, one, accepted⟩
    rw [equal] at some one accepted
    exact ⟨some, one, accepted⟩
  · rintro ⟨some, one, accepted⟩
    rw [← equal] at some one accepted
    exact ⟨some, one, accepted⟩

theorem established_congr (above : aboveFloor requirements claims = aboveFloor requirements claims') (value : α)
    (provenance : Provenance) :
    resolveClaimSet claims (claimPolicyOf requirements) keyOf = .established value provenance ↔
      resolveClaimSet claims' (claimPolicyOf requirements) keyOf = .established value provenance := by
  have low : ∀ listed : List (Claim α), (listed.filter fun c => atFloor (claimPolicyOf requirements) c.provenance) =
      aboveFloor requirements listed := fun _ => rfl
  have fresh : freshClaims (claimPolicyOf requirements) claims = freshClaims (claimPolicyOf requirements) claims' := by
    rw [freshClaims, freshClaims, low, low, above]
  unfold resolveClaimSet
  rw [low, low, above, fresh]
  by_cases empty : aboveFloor requirements claims' = []
  · rw [if_pos empty]
    split <;> split <;> simp
  · have listed : ∀ {listed : List (Claim α)}, aboveFloor requirements listed ≠ [] → listed ≠ [] := by
      rintro _ some rfl
      exact some rfl
    rw [if_neg (listed (above ▸ empty)), if_neg (listed empty)]

end Agreement

section Records

structure Admissible (registry : Registry) (requirements : RepresentationRequirements) (record : RepresentationRecord)
    (id : RepresentationId) : Prop where
  underlying : Agreed record.underlying.1 requirements Eq fun underlying => underlying = requirements.canonicalAsset ∧
    ∃ asset, getAsset registry requirements.canonicalAsset = some asset ∧ asset.status = .active
  issuer : Agreed record.issuer.1 requirements Eq (· ∈ requirements.allowedIssuers)
  chain : id.chain ∈ requirements.allowedChains
  backing : Agreed record.backing.1 requirements Eq fun backing =>
    ¬ (isSyntheticBacking backing = true ∧ requirements.syntheticPolicy = .forbidden) ∧
      ∀ allowed ∈ requirements.allowedBackingModels, backing ∈ allowed
  operational : Agreed record.operationalStatus.1 requirements Eq (· = .active)
  instrumentType : ∀ allowed ∈ requirements.allowedInstrumentTypes,
    Agreed record.instrumentType.1 requirements Eq (· ∈ allowed)
  redemption : ∀ allowed ∈ requirements.allowedRedemptionModels, Agreed record.redemption.1 requirements Eq (· ∈ allowed)
  corporateActions : ∀ allowed ∈ requirements.allowedCorporateActionModels,
    Agreed record.corporateActionHandling.1 requirements Eq (· ∈ allowed)
  settlement : ∀ allowed ∈ requirements.allowedSettlementModels, Agreed record.settlement.1 requirements Eq (· ∈ allowed)
  rights : ∀ required ∈ requirements.requiredRights,
    Agreed (rightClaims record required.kind) requirements Eq (· ∈ required.acceptable)
  eligibility : ∀ holder ∈ requirements.holderJurisdiction, Agreed record.eligibility.1 requirements
    (fun p q => p.permitted.Perm q.permitted ∧ p.prohibited.Perm q.prohibited)
    fun profile => holder ∉ profile.prohibited ∧ holder ∈ profile.permitted

/-- The same claims at or above the floor, whatever stands below it. -/
structure AlikeAbove (requirements : RepresentationRequirements) (record record' : RepresentationRecord) : Prop where
  underlying : aboveFloor requirements record.underlying.1 = aboveFloor requirements record'.underlying.1
  issuer : aboveFloor requirements record.issuer.1 = aboveFloor requirements record'.issuer.1
  backing : aboveFloor requirements record.backing.1 = aboveFloor requirements record'.backing.1
  operational : aboveFloor requirements record.operationalStatus.1 = aboveFloor requirements record'.operationalStatus.1
  instrumentType : aboveFloor requirements record.instrumentType.1 = aboveFloor requirements record'.instrumentType.1
  redemption : aboveFloor requirements record.redemption.1 = aboveFloor requirements record'.redemption.1
  corporateActions : aboveFloor requirements record.corporateActionHandling.1 =
    aboveFloor requirements record'.corporateActionHandling.1
  settlement : aboveFloor requirements record.settlement.1 = aboveFloor requirements record'.settlement.1
  rights : ∀ kind, aboveFloor requirements (rightClaims record kind) = aboveFloor requirements (rightClaims record' kind)
  eligibility : aboveFloor requirements record.eligibility.1 = aboveFloor requirements record'.eligibility.1

variable {registry registry' : Registry} {requirements : RepresentationRequirements}
  {record record' : RepresentationRecord} {id : RepresentationId}

theorem eligibilityKey_iff (p q : EligibilityProfile) : eligibilityKey p = eligibilityKey q ↔
    p.permitted.Perm q.permitted ∧ p.prohibited.Perm q.prohibited := by
  refine ⟨eligibilityKey_perm, fun ⟨permitted, prohibited⟩ => ?_⟩
  have sorted : ∀ {l l' : List Jurisdiction}, l.Perm l' → sortedTexts (l.map (·.1)) = sortedTexts (l'.map (·.1)) :=
    fun perm => Lib.Keyed.insertionSort_perm (perm.map _) fun _ _ _ _ below above => String.le_antisymm below above
  rw [eligibilityKey, eligibilityKey, sorted permitted, sorted prohibited]

theorem underlying_agreed : underlyingExclusions registry requirements record = [] ↔
    Agreed record.underlying.1 requirements Eq fun underlying => underlying = requirements.canonicalAsset ∧
      ∃ asset, getAsset registry requirements.canonicalAsset = some asset ∧ asset.status = .active := by
  refine establish_one canonicalAssetKey_injective fun underlying => ?_
  by_cases same : underlying = requirements.canonicalAsset
  · rw [if_neg (by rw [same, not_not]), and_iff_right same]
    cases getAsset registry requirements.canonicalAsset with
    | none => simp
    | some asset => simp
  · rw [if_pos fun keys => same (canonicalAssetKey_injective keys)]
    simp [same]

theorem eligibility_agreed : eligibilityExclusions requirements record = [] ↔
    ∀ holder ∈ requirements.holderJurisdiction, Agreed record.eligibility.1 requirements
      (fun p q => p.permitted.Perm q.permitted ∧ p.prohibited.Perm q.prohibited)
      fun profile => holder ∉ profile.prohibited ∧ holder ∈ profile.permitted := by
  unfold eligibilityExclusions
  cases requirements.holderJurisdiction with
  | none => simp
  | some holder =>
    simp only [Option.mem_def, Option.some.injEq, forall_eq']
    refine establish_agreed eligibilityKey_iff (fun profile => ?_) ?_
    · by_cases barred : holder ∈ profile.prohibited <;> simp [barred]
    · rintro p q ⟨permitted, prohibited⟩ accepted
      rwa [← permitted.mem_iff, ← prohibited.mem_iff]

theorem recordExclusions_iff :
    recordExclusions registry requirements record id = [] ↔ Admissible registry requirements record id := by
  have texts : Function.Injective fun i : Identifier => i.1 := Subtype.val_injective
  have backing : backingExclusions requirements record = [] ↔ Agreed record.backing.1 requirements Eq fun backing =>
      ¬ (isSyntheticBacking backing = true ∧ requirements.syntheticPolicy = .forbidden) ∧
        ∀ allowed ∈ requirements.allowedBackingModels, backing ∈ allowed :=
    establish_one BackingModel.text_injective fun backing => by
      rw [List.append_eq_nil_iff, unlessExcluded_eq_nil, unlessExcluded_eq_nil]
  have issuer : issuerExclusions requirements record = [] ↔ _ := establish_one texts fun _ => unlessExcluded_eq_nil
  have operational : operationalExclusions requirements record = [] ↔ _ :=
    establish_one RepresentationOperationalStatus.text_injective fun _ => unlessExcluded_eq_nil
  have rights : requirements.requiredRights.flatMap (rightExclusions requirements record) = [] ↔
      ∀ required ∈ requirements.requiredRights,
        Agreed (rightClaims record required.kind) requirements Eq (· ∈ required.acceptable) := by
    rw [List.flatMap_eq_nil_iff]
    exact forall₂_congr fun required _ => establish_one RightState.text_injective fun _ => unlessExcluded_eq_nil
  simp only [recordExclusions, List.append_eq_nil_iff, underlying_agreed, issuer, chainExclusions, unlessExcluded_eq_nil,
    backing, operational, establishAllowed_one InstrumentType.text_injective,
    establishAllowed_one RedemptionModel.text_injective, establishAllowed_one CorporateActionModel.text_injective,
    establishAllowed_one SettlementModel.text_injective, rights, eligibility_agreed]
  constructor
  · rintro ⟨⟨⟨⟨⟨⟨⟨⟨⟨⟨a, b⟩, c⟩, d⟩, e⟩, f⟩, g⟩, h⟩, i⟩, j⟩, k⟩
    exact ⟨a, b, c, d, e, f, g, h, i, j, k⟩
  · rintro ⟨a, b, c, d, e, f, g, h, i, j, k⟩
    exact ⟨⟨⟨⟨⟨⟨⟨⟨⟨⟨a, b⟩, c⟩, d⟩, e⟩, f⟩, g⟩, h⟩, i⟩, j⟩, k⟩

theorem AlikeAbove.admissible (alike : AlikeAbove requirements record record')
    (asset : getAsset registry requirements.canonicalAsset = getAsset registry' requirements.canonicalAsset) :
    Admissible registry requirements record id ↔ Admissible registry' requirements record' id := by
  have each : ∀ {α : Type} {c c' : List (Claim α)} {allowed : Option (List α)},
      aboveFloor requirements c = aboveFloor requirements c' →
      ((∀ listed ∈ allowed, Agreed c requirements Eq (· ∈ listed)) ↔
        ∀ listed ∈ allowed, Agreed c' requirements Eq (· ∈ listed)) := fun above =>
    forall₂_congr fun _ _ => Agreed.congr above
  constructor
  · rintro ⟨a, b, c, d, e, f, g, h, i, j, k⟩
    rw [asset] at a
    exact ⟨(Agreed.congr alike.underlying).mp a, (Agreed.congr alike.issuer).mp b, c, (Agreed.congr alike.backing).mp d,
      (Agreed.congr alike.operational).mp e, (each alike.instrumentType).mp f, (each alike.redemption).mp g,
      (each alike.corporateActions).mp h, (each alike.settlement).mp i,
      fun required listed => (Agreed.congr (alike.rights required.kind)).mp (j required listed),
      fun holder named => (Agreed.congr alike.eligibility).mp (k holder named)⟩
  · rintro ⟨a, b, c, d, e, f, g, h, i, j, k⟩
    rw [← asset] at a
    exact ⟨(Agreed.congr alike.underlying).mpr a, (Agreed.congr alike.issuer).mpr b, c, (Agreed.congr alike.backing).mpr d,
      (Agreed.congr alike.operational).mpr e, (each alike.instrumentType).mpr f, (each alike.redemption).mpr g,
      (each alike.corporateActions).mpr h, (each alike.settlement).mpr i,
      fun required listed => (Agreed.congr (alike.rights required.kind)).mpr (j required listed),
      fun holder named => (Agreed.congr alike.eligibility).mpr (k holder named)⟩

variable [Keccak] {input : RepresentationIdInput}

theorem admits_admissible : Admits registry requirements input ↔ ∃ id record, parseRepresentationId input = .ok id ∧
    byRepresentationId registry id.value = some record ∧ Admissible registry requirements record id := by
  rw [admits_iff]
  simp only [recordExclusions_iff]

theorem admits_above (asset : getAsset registry requirements.canonicalAsset = getAsset registry' requirements.canonicalAsset)
    (alike : ∀ id, Option.Rel (AlikeAbove requirements) (byRepresentationId registry id) (byRepresentationId registry' id)) :
    Admits registry requirements input ↔ Admits registry' requirements input := by
  rw [admits_admissible, admits_admissible]
  refine exists_congr fun id => ?_
  have related := alike id.value
  cases found : byRepresentationId registry id.value with
  | none =>
    rw [found] at related
    cases found' : byRepresentationId registry' id.value with
    | none => simp
    | some record' =>
      rw [found'] at related
      cases related
  | some record =>
    rw [found] at related
    cases found' : byRepresentationId registry' id.value with
    | none =>
      rw [found'] at related
      cases related
    | some record' =>
      rw [found'] at related
      obtain ⟨same⟩ := related
      simp only [Option.some.injEq, exists_eq_left', exists_and_left, same.admissible asset]

/-- Evaluation admits what the claims that count agree to, and a claim below the floor changes neither the
decision nor what is established. -/
theorem evaluation_fails_closed (registry : Registry) (requirements : RepresentationRequirements)
    (input : RepresentationIdInput) :
    (Admits registry requirements input ↔ ∃ id record, parseRepresentationId input = .ok id ∧
      byRepresentationId registry id.value = some record ∧ Admissible registry requirements record id) ∧
    (∀ registry' : Registry,
      getAsset registry requirements.canonicalAsset = getAsset registry' requirements.canonicalAsset →
      (∀ id, Option.Rel (AlikeAbove requirements) (byRepresentationId registry id) (byRepresentationId registry' id)) →
      (Admits registry requirements input ↔ Admits registry' requirements input)) ∧
    ∀ {α : Type} (claims claims' : List (Claim α)) (keyOf : α → String) (value : α) (provenance : Provenance),
      aboveFloor requirements claims = aboveFloor requirements claims' →
      (resolveClaimSet claims (claimPolicyOf requirements) keyOf = .established value provenance ↔
        resolveClaimSet claims' (claimPolicyOf requirements) keyOf = .established value provenance) :=
  ⟨admits_admissible, fun _ asset alike => admits_above asset alike, fun _ _ _ value provenance above =>
    established_congr above value provenance⟩

end Records

end Mandate.Registry
