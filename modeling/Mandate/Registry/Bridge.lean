import Mandate.Registry.Narrowing

/-! The bridge to the kernel: established claims in the trusted state's shape, and nothing where a
property is not established. What the registry admits the kernel accepts, and what the kernel
accepts the registry admits unless it no longer carries the asset. -/
set_option linter.dupNamespace false
namespace Mandate.Registry
open Core List
open Kernel (Observed RepresentationState OperationalState TriState CheckContext Check
  CanonicalMandate chainSegmentOf)

def establishOrFail {α : Type} (claims : List (Claim α)) (requirements : RepresentationRequirements)
    (keyOf : α → String) : RegistryResult (α × Provenance) :=
  match resolveClaimSet claims (claimPolicyOf requirements) keyOf with
  | .established value provenance => .ok (value, provenance)
  | .conflict _ => .error .representationMetadataConflict
  | .unknown reason => .error (unknownCode reason)

def operationalState : RepresentationOperationalStatus → OperationalState
  | .active => .active | .paused => .paused | .transition => .transition | .deprecated => .deprecated

/-- A class outside the ranking compares below nothing, and nothing below it. -/
def ranksBelow : Option TrustClass → Option TrustClass → Bool
  | some a, some b => TRUST_RANK a < TRUST_RANK b
  | _, _ => false

/-- The weakest evidence of several: the oldest observation, and the lowest class. -/
def weakest (first : Provenance) (rest : List Provenance) : UnixSeconds × Option TrustClass :=
  (rest.foldl (fun oldest p => if p.observedAt.1 < oldest.1 then p.observedAt else oldest) first.observedAt,
    rest.foldl (fun worst p => if ranksBelow p.trustClass worst then p.trustClass else worst) first.trustClass)

/-- Through the kernel's own parser, which refuses advisory and untrusted provenance. -/
def observe (evidence : UnixSeconds × Option TrustClass) (state : RepresentationState) :
    RegistryResult (Observed RepresentationState) :=
  match evidence.2 with
  | none => .error (.kernel .untrustedRequiredState)
  | some trustClass => (Kernel.parseObserved Kernel.parseRepresentationState
      ⟨⟨trustClass, "registry", .bigint evidence.1.1⟩, Kernel.representationInputOf state⟩).mapError .kernel

/-- The instrument type is optional in the kernel's shape: one not established is left out. -/
def instrumentOf (record : RepresentationRecord) (requirements : RepresentationRequirements) : Option InstrumentType :=
  match resolveClaimSet record.instrumentType.1 (claimPolicyOf requirements) InstrumentType.text with
  | .established value _ => some value
  | _ => none

/-- Derived from what is established; synthetic status is never carried as its own claim. -/
def toRepresentationState (record : RepresentationRecord) (requirements : RepresentationRequirements) :
    RegistryResult (Observed RepresentationState) := do
  let underlying ← establishOrFail record.underlying.1 requirements canonicalAssetKey
  let issuer ← establishOrFail record.issuer.1 requirements (·.1)
  let backing ← establishOrFail record.backing.1 requirements BackingModel.text
  let operational ← establishOrFail record.operationalStatus.1 requirements RepresentationOperationalStatus.text
  let state ← (Kernel.parseRepresentationState {
    representationId := record.representationId.value.1
    canonicalAsset := Kernel.assetIdInputOf underlying.1.1
    issuer := issuer.1.1
    chain := record.representationId.chain.1
    instrumentType := (instrumentOf record requirements).map InstrumentType.text
    synthetic := if isSyntheticBacking backing.1 then .yes else .no
    operationalState := operationalState operational.1 }).mapError .kernel
  observe (weakest underlying.2 [issuer.2, backing.2, operational.2]) state

/-- The kernel's checks of who issued what, where, backed how and in what state. -/
def REPRESENTATION_CHECKS : List Check :=
  [Kernel.checkCanonicalAsset, Kernel.checkChain, Kernel.checkRepresentation, Kernel.checkRepresentationChain]

def KernelAccepts (ctx : CheckContext) : Prop := ∀ check ∈ REPRESENTATION_CHECKS, check ctx = []

instance (ctx : CheckContext) : Decidable (KernelAccepts ctx) := inferInstanceAs (Decidable (∀ _ ∈ _, _))

variable {requirements : RepresentationRequirements}

theorem establishOrFail_ok {α : Type} {claims : List (Claim α)}
    {keyOf : α → String} {value : α} {provenance : Provenance} :
    establishOrFail claims requirements keyOf = .ok (value, provenance) ↔
      resolveClaimSet claims (claimPolicyOf requirements) keyOf = .established value provenance := by
  unfold establishOrFail
  cases resolveClaimSet claims (claimPolicyOf requirements) keyOf with
  | established v p => simp
  | unknown reason => simp
  | conflict shown => simp

theorem identifier_free {c : Char} (outside : identifierChar c = false) (id : Identifier) :
    c ∉ id.1.toList := by
  intro member
  have valid := id.2
  simp only [identifierText, Bool.and_eq_true] at valid
  have inside := all_eq_true.mp valid.1.2 c member
  rw [outside] at inside
  cases inside

theorem canonicalAssetKey_injective : Function.Injective canonicalAssetKey := by
  intro a b same
  have free := @identifier_free '\x00' (by decide)
  have letters := congrArg String.toList same
  simp only [canonicalAssetKey, String.toList_append, String.reduceToList, List.append_assoc,
    cons_append, nil_append] at letters
  have parts := congrArg (List.splitOn '\x00') letters
  rw [splitOn_append_cons_self_of_not_mem (free _), splitOn_append_cons_self_of_not_mem (free _),
    splitOn_append_cons_self_of_not_mem (free _), splitOn_append_cons_self_of_not_mem (free _),
    splitOn_eq_singleton (free _), splitOn_eq_singleton (free _)] at parts
  obtain ⟨classes, schemes, values, -⟩ : _ ∧ _ ∧ _ ∧ True := by simpa only [List.cons.injEq, and_true] using parts
  have spelled : ∀ {x y : Identifier}, x.1.toList = y.1.toList → x = y := fun eq =>
    Subtype.ext (String.toList_inj.mp eq)
  obtain ⟨⟨assetClass, idScheme, value⟩, valid⟩ := a
  obtain ⟨⟨otherClass, otherScheme, otherValue⟩, otherValid⟩ := b
  obtain rfl := spelled classes
  obtain rfl := spelled schemes
  obtain rfl := spelled values
  rfl

theorem digits_unslashed {digits : List Char} (referenced : isChainReference digits = true) :
    '/' ∉ digits := by
  intro member
  simp only [isChainReference, Bool.and_eq_true] at referenced
  exact absurd (all_eq_true.mp referenced.1.1 _ member) (by decide)

theorem address_unslashed {address : List Char} (addressed : isLowerAddress address = true) :
    '/' ∉ address := by
  intro member
  simp only [isLowerAddress, isAddress, Bool.and_eq_true, beq_iff_eq] at addressed
  rw [← take_append_drop 2 address, addressed.1.1.1, mem_append] at member
  rcases member with marker | body
  · exact absurd marker (by decide)
  · exact absurd (all_eq_true.mp addressed.1.2 _ body) (by decide)

theorem RepresentationId.segment (id : RepresentationId) : chainSegmentOf id.value = some id.chain.1 := by
  have chainFree : ∀ c ∈ id.chain.1.toList, (c ≠ '/') := by
    rw [id.chained]
    rintro c member rfl
    rcases mem_append.mp member with marker | digits
    · exact absurd marker (by decide)
    · exact digits_unslashed id.referenced digits
  have rest : '/' ∉ "erc20:".toList ++ id.contractAddress := by
    intro member
    rcases mem_append.mp member with marker | body
    · exact absurd marker (by decide)
    · exact address_unslashed id.addressed body
  have spelled : id.value.1.toList = id.chain.1.toList ++ '/' :: ("erc20:".toList ++ id.contractAddress) := by
    rw [id.named]
    simp
  have before : id.value.1.toList.takeWhile (· ≠ '/') = id.chain.1.toList := by
    rw [spelled, takeWhile_append_of_pos (by simpa using chainFree)]
    simp
  have after : id.value.1.toList.dropWhile (· ≠ '/') = '/' :: ("erc20:".toList ++ id.contractAddress) := by
    rw [spelled, dropWhile_append_of_pos (by simpa using chainFree)]
    simp
  have some : id.chain.1.toList ≠ [] := by
    rw [id.chained]
    simp
  unfold chainSegmentOf
  rw [after, before]
  simp only [if_neg some, if_neg rest, String.ofList_toList]

theorem RepresentationId.chain_eq {a b : RepresentationId} (same : a.value = b.value) : a.chain = b.chain := by
  have segments := a.segment
  rw [same, b.segment] at segments
  exact Subtype.ext (Option.some.inj segments).symm

def instrumentIdentifier : InstrumentType → Identifier
  | .backedNote => ⟨"BACKED_NOTE", by decide⟩
  | .depositaryReceipt => ⟨"DEPOSITARY_RECEIPT", by decide⟩
  | .fundShare => ⟨"FUND_SHARE", by decide⟩
  | .syntheticExposure => ⟨"SYNTHETIC_EXPOSURE", by decide⟩
  | .debtInstrument => ⟨"DEBT_INSTRUMENT", by decide⟩

theorem instrumentIdentifier_text : (fun i => (instrumentIdentifier i).1) = InstrumentType.text := by
  funext i
  cases i <;> rfl

def translated (record : RepresentationRecord) (underlying : ValidatedCanonicalAssetId) (issuer : Identifier)
    (backing : BackingModel) (operational : RepresentationOperationalStatus) (instrument : Option InstrumentType) :
    RepresentationState where
  representationId := record.representationId.value
  canonicalAsset := underlying.1
  issuer
  chain := record.representationId.chain
  instrumentType := instrument.map instrumentIdentifier
  synthetic := if isSyntheticBacking backing then .yes else .no
  operationalState := operationalState operational

variable {evidence : UnixSeconds × Option TrustClass}

theorem observe_ok {state : RepresentationState}
    {observed : Observed RepresentationState} (carried : observe evidence state = .ok observed) :
    observed.value = state := by
  unfold observe at carried
  split at carried
  · cases carried
  · simp only [Kernel.parseObserved, Kernel.parseRepresentationState_self] at carried
    cases parsed : Kernel.parseProvenance _ with
    | error code =>
      rw [parsed] at carried
      cases carried
    | ok provenance =>
      rw [parsed] at carried
      cases carried
      rfl

theorem observe_admissible {trustClass : TrustClass}
    (state : RepresentationState) (held : evidence.2 = some trustClass) (admissible : trustClass ∈ ADMISSIBLE_TRUST) :
    ∃ observed, observe evidence state = .ok observed := by
  have own := Kernel.parseObserved_self Kernel.parseRepresentationState_self
    ⟨⟨⟨trustClass, admissible⟩, ⟨"registry", by decide⟩, evidence.1⟩, state⟩
  simp only [Kernel.observedInputOf, Kernel.provenanceInputOf] at own
  refine ⟨⟨⟨⟨trustClass, admissible⟩, ⟨"registry", by decide⟩, evidence.1⟩, state⟩, ?_⟩
  simp only [observe, held, own]
  rfl

theorem weakest_among (first : Provenance) (rest : List Provenance) :
    ∃ p ∈ first :: rest, (weakest first rest).2 = p.trustClass := by
  unfold weakest
  have kept : ∀ (rest : List Provenance) (worst : Option TrustClass),
      rest.foldl (fun worst p => if ranksBelow p.trustClass worst then p.trustClass else worst) worst = worst ∨
        ∃ p ∈ rest, rest.foldl (fun worst p => if ranksBelow p.trustClass worst then p.trustClass else worst) worst =
          p.trustClass := by
    intro rest
    induction rest with
    | nil => exact fun worst => .inl rfl
    | cons p rest ih =>
      intro worst
      rcases ih (if ranksBelow p.trustClass worst then p.trustClass else worst) with same | ⟨q, member, same⟩
      · rw [foldl_cons, same]
        split
        · exact .inr ⟨p, mem_cons_self .., rfl⟩
        · exact .inl rfl
      · exact .inr ⟨q, mem_cons_of_mem _ member, same⟩
  rcases kept rest first.trustClass with same | ⟨p, member, same⟩
  · exact ⟨first, mem_cons_self .., same⟩
  · exact ⟨p, mem_cons_of_mem _ member, same⟩

section Translation
variable {record : RepresentationRecord} {requirements : RepresentationRequirements}

/-- The four properties the kernel reads, as the requirements' policy settles them. -/
structure Settled (record : RepresentationRecord) (requirements : RepresentationRequirements)
    (underlying : ValidatedCanonicalAssetId) (issuer : Identifier) (backing : BackingModel)
    (operational : RepresentationOperationalStatus) : Prop where
  underlying : ∃ p, resolveClaimSet record.underlying.1 (claimPolicyOf requirements) canonicalAssetKey =
    .established underlying p
  issuer : ∃ p, resolveClaimSet record.issuer.1 (claimPolicyOf requirements) (·.1) = .established issuer p
  backing : ∃ p, resolveClaimSet record.backing.1 (claimPolicyOf requirements) BackingModel.text =
    .established backing p
  operational : ∃ p, resolveClaimSet record.operationalStatus.1 (claimPolicyOf requirements)
    RepresentationOperationalStatus.text = .established operational p

theorem parse_translated (record : RepresentationRecord) (underlying : ValidatedCanonicalAssetId)
    (issuer : Identifier) (backing : BackingModel) (operational : RepresentationOperationalStatus)
    (instrument : Option InstrumentType) : Kernel.parseRepresentationState {
      representationId := record.representationId.value.1
      canonicalAsset := Kernel.assetIdInputOf underlying.1
      issuer := issuer.1
      chain := record.representationId.chain.1
      instrumentType := instrument.map InstrumentType.text
      synthetic := if isSyntheticBacking backing then .yes else .no
      operationalState := operationalState operational } =
    .ok (translated record underlying issuer backing operational instrument) := by
  have own := Kernel.parseRepresentationState_self
    (translated record underlying issuer backing operational instrument)
  simp only [Kernel.representationInputOf, translated, Option.map_map, Function.comp_def,
    instrumentIdentifier_text] at own
  exact own

theorem toRepresentationState_ok {observed : Observed RepresentationState}
    (carried : toRepresentationState record requirements = .ok observed) :
    ∃ underlying issuer backing operational, Settled record requirements underlying issuer backing operational ∧
      observed.value = translated record underlying issuer backing operational (instrumentOf record requirements) := by
  unfold toRepresentationState at carried
  obtain ⟨⟨underlying, p⟩, first, carried⟩ := except_bind_success carried
  obtain ⟨⟨issuer, q⟩, second, carried⟩ := except_bind_success carried
  obtain ⟨⟨backing, r⟩, third, carried⟩ := except_bind_success carried
  obtain ⟨⟨operational, t⟩, fourth, carried⟩ := except_bind_success carried
  rw [parse_translated] at carried
  refine ⟨underlying, issuer, backing, operational, ⟨⟨p, establishOrFail_ok.mp first⟩,
    ⟨q, establishOrFail_ok.mp second⟩, ⟨r, establishOrFail_ok.mp third⟩, ⟨t, establishOrFail_ok.mp fourth⟩⟩, ?_⟩
  exact observe_ok carried

theorem established_atFloor {α : Type} {claims : List (Claim α)} {policy : ClaimPolicy} {keyOf : α → String}
    {value : α} {p : Provenance} (settled : resolveClaimSet claims policy keyOf = .established value p) :
    atFloor policy p = true :=
  (mem_freshClaims.mp (resolveClaimSet_established settled).1).2.1

theorem Settled.carried {underlying : ValidatedCanonicalAssetId} {issuer : Identifier} {backing : BackingModel}
    {operational : RepresentationOperationalStatus}
    (settled : Settled record requirements underlying issuer backing operational)
    (floor : meetsTrustFloor (some requirements.minimumTrust) EXECUTION_TRUST_FLOOR = true) :
    ∃ observed, toRepresentationState record requirements = .ok observed ∧
      observed.value = translated record underlying issuer backing operational (instrumentOf record requirements) := by
  obtain ⟨⟨p, first⟩, ⟨q, second⟩, ⟨r, third⟩, ⟨t, fourth⟩⟩ := settled
  have floored : ∀ s ∈ [p, q, r, t], atFloor (claimPolicyOf requirements) s = true := by
    simp only [forall_mem_cons, not_mem_nil, false_implies, implies_true, and_true]
    exact ⟨established_atFloor first, established_atFloor second, established_atFloor third,
      established_atFloor fourth⟩
  obtain ⟨s, among, weak⟩ := weakest_among p [q, r, t]
  have admissible : ∃ trustClass, s.trustClass = some trustClass ∧ trustClass ∈ ADMISSIBLE_TRUST := by
    have meets := meetsTrustFloor_trans (floored s among) floor
    cases held : s.trustClass with
    | none =>
      rw [held] at meets
      cases meets
    | some trustClass =>
      rw [held] at meets
      refine ⟨trustClass, rfl, ?_⟩
      cases trustClass <;> first | decide | cases meets
  obtain ⟨trustClass, held, admissible⟩ := admissible
  obtain ⟨observed, carried⟩ := observe_admissible
    (translated record underlying issuer backing operational (instrumentOf record requirements))
    (weak.trans held) admissible
  refine ⟨observed, ?_, observe_ok carried⟩
  unfold toRepresentationState
  rw [establishOrFail_ok.mpr first, establishOrFail_ok.mpr second, establishOrFail_ok.mpr third,
    establishOrFail_ok.mpr fourth]
  have parsed := parse_translated record underlying issuer backing operational (instrumentOf record requirements)
  simp only [bind, Except.bind, parsed, Except.mapError]
  exact carried

end Translation

section Kernel
variable {ctx : CheckContext} {observed : Observed RepresentationState}

theorem findRepresentation_member {state : Kernel.TrustedState} (member : observed ∈ state.representations) :
    Kernel.findRepresentation state observed.value.representationId = some observed := by
  have apart := state.distinct
  obtain ⟨before, after, split⟩ := append_of_mem member
  unfold Kernel.findRepresentation
  rw [split] at apart ⊢
  rw [map_append, nodup_append] at apart
  rw [find?_append, find?_eq_none.mpr ?_]
  · simp [Kernel.representationId]
  · intro other earlier same
    exact apart.2.2 _ (mem_map_of_mem earlier) _ (mem_map_of_mem (mem_cons_self ..)) (eq_of_beq same)

theorem chainViolation_eq_nil {source : String} {id chain : Identifier} :
    Kernel.chainViolation source id chain = [] ↔ chainSegmentOf id = some chain.1 := Kernel.unlessViolated_nil

theorem canonicalAssetIdEquals_iff {a b : Kernel.CanonicalAssetId} : Kernel.canonicalAssetIdEquals a b = true ↔ a = b := by
  obtain ⟨assetClass, idScheme, value⟩ := a
  obtain ⟨otherClass, otherScheme, otherValue⟩ := b
  simp [Kernel.canonicalAssetIdEquals, and_assoc, Subtype.ext_iff]

structure Acceptable (mandate : CanonicalMandate) (rep : RepresentationState) : Prop where
  asset : rep.canonicalAsset = mandate.canonicalAsset
  chain : rep.chain ∈ mandate.allowedChains.members
  issuer : rep.issuer ∈ mandate.allowedIssuers.members
  known : rep.synthetic ≠ .unknown
  backed : ¬(rep.synthetic = .yes ∧ mandate.syntheticPolicy = .forbidden)
  active : rep.operationalState = .active

structure Declares (candidate : Kernel.ExecutionCandidate) (rep : RepresentationState) : Prop where
  asset : candidate.canonicalAsset = rep.canonicalAsset
  issuer : candidate.issuer = rep.issuer
  chain : candidate.chain = rep.chain

/-- Every identifier the context names stands on the chain beside it. -/
def Chained (ctx : CheckContext) : Prop :=
  chainSegmentOf ctx.candidate.representationId = some ctx.candidate.chain.1 ∧
    ∀ o ∈ ctx.state.representations, chainSegmentOf o.value.representationId = some o.value.chain.1

theorem kernelAccepts_iff (member : observed ∈ ctx.state.representations)
    (names : ctx.candidate.representationId = observed.value.representationId) :
    KernelAccepts ctx ↔ Acceptable ctx.mandate observed.value ∧ Declares ctx.candidate observed.value ∧ Chained ctx := by
  have found := findRepresentation_member member
  rw [← names] at found
  simp only [KernelAccepts, REPRESENTATION_CHECKS, forall_mem_cons, not_mem_nil, false_implies,
    implies_true, and_true, Kernel.checkCanonicalAsset, Kernel.checkChain, Kernel.checkRepresentation, found,
    Kernel.checkRepresentationChain, Kernel.unlessViolated_nil, append_eq_nil_iff, flatMap_eq_nil_iff,
    chainViolation_eq_nil, canonicalAssetIdEquals_iff]
  constructor
  · rintro ⟨asset, chain, ⟨⟨⟨⟨⟨named, issued⟩, placed⟩, issuer⟩, synthetic⟩, operational⟩, chained⟩
    split at synthetic
    · cases synthetic
    · rename_i known
      split at operational
      · cases operational
      · rw [Kernel.unlessViolated_nil] at synthetic operational
        exact ⟨⟨named, placed ▸ chain, issuer, known, synthetic, operational⟩,
          ⟨asset.trans named.symm, issued.symm, placed.symm⟩, chained⟩
  · rintro ⟨acceptable, declares, chained⟩
    refine ⟨declares.asset.trans acceptable.asset, declares.chain ▸ acceptable.chain,
      ⟨⟨⟨⟨⟨acceptable.asset, declares.issuer.symm⟩, declares.chain.symm⟩, acceptable.issuer⟩, ?_⟩, ?_⟩, chained⟩
    · rw [if_neg acceptable.known, Kernel.unlessViolated_nil]
      exact acceptable.backed
    · rw [if_neg (by simp [acceptable.active]), Kernel.unlessViolated_nil]
      exact acceptable.active

end Kernel

/-- The mandate's own constraints and no others, at a floor the kernel admits. -/
structure Mirrors (mandate : CanonicalMandate) (requirements : RepresentationRequirements) : Prop where
  asset : requirements.canonicalAsset.1 = mandate.canonicalAsset
  issuers : requirements.allowedIssuers = mandate.allowedIssuers.members
  chains : requirements.allowedChains = mandate.allowedChains.members
  synthetic : requirements.syntheticPolicy = mandate.syntheticPolicy
  instruments : requirements.allowedInstrumentTypes = none
  backing : requirements.allowedBackingModels = none
  redemption : requirements.allowedRedemptionModels = none
  rights : requirements.requiredRights = []
  corporateActions : requirements.allowedCorporateActionModels = none
  settlement : requirements.allowedSettlementModels = none
  holder : requirements.holderJurisdiction = none
  floor : meetsTrustFloor (some requirements.minimumTrust) EXECUTION_TRUST_FLOOR = true

theorem validateCanonicalAssetId_ok {id : Kernel.CanonicalAssetId} {validated : ValidatedCanonicalAssetId}
    (ok : validateCanonicalAssetId id = .ok validated) : validated.1 = id := by
  unfold validateCanonicalAssetId at ok
  split at ok
  · cases ok
  · split at ok
    · cases ok
    · split at ok
      · cases ok
        rfl
      · cases ok

theorem deriveRequirements_ok {mandate : CanonicalMandate} {context : EvaluationContext} (derived : deriveRequirements mandate context = .ok requirements) :
    Mirrors mandate requirements := by
  unfold deriveRequirements at derived
  obtain ⟨asset, validated, derived⟩ := except_bind_success derived
  dsimp only at derived
  split at derived
  · cases derived
  · rename_i floored
    split at derived
    · cases derived
    · cases derived
      exact ⟨validateCanonicalAssetId_ok validated, rfl, rfl, rfl, rfl, rfl, rfl, rfl, rfl, rfl, rfl,
        eq_true_of_ne_false floored⟩

section Agreement
variable {registry : Registry} {mandate : CanonicalMandate} {requirements : RepresentationRequirements}
  {record : RepresentationRecord} {input : RepresentationIdInput}

def AssetActive (registry : Registry) (asset : ValidatedCanonicalAssetId) : Prop :=
  ∃ a, getAsset registry asset = some a ∧ a.status = .active

theorem acceptable_translated {underlying : ValidatedCanonicalAssetId} {issuer : Identifier}
    {backing : BackingModel} {operational : RepresentationOperationalStatus} {instrument : Option InstrumentType} :
    Acceptable mandate (translated record underlying issuer backing operational instrument) ↔
      underlying.1 = mandate.canonicalAsset ∧ issuer ∈ mandate.allowedIssuers.members ∧
      record.representationId.chain ∈ mandate.allowedChains.members ∧
      ¬(isSyntheticBacking backing = true ∧ mandate.syntheticPolicy = .forbidden) ∧ operational = .active := by
  have flagged : ((if isSyntheticBacking backing then TriState.yes else .no) = TriState.yes) ↔
      isSyntheticBacking backing = true := by
    cases isSyntheticBacking backing <;> simp
  have running : Registry.operationalState operational = .active ↔ operational = .active := by
    cases operational <;> simp [Registry.operationalState]
  constructor
  · rintro ⟨asset, chain, listed, -, backed, active⟩
    exact ⟨asset, listed, chain, fun ⟨synthetic, forbidden⟩ => backed ⟨flagged.mpr synthetic, forbidden⟩,
      running.mp active⟩
  · rintro ⟨asset, listed, chain, backed, active⟩
    refine ⟨asset, chain, listed, ?_, fun ⟨synthetic, forbidden⟩ => backed ⟨flagged.mp synthetic, forbidden⟩,
      running.mpr active⟩
    simp only [translated]
    cases isSyntheticBacking backing <;> simp

variable [Keccak]

theorem Mirrors.admits_iff (mirrors : Mirrors mandate requirements)
    (found : getRepresentation registry input = some record) : Admits registry requirements input ↔
      ∃ underlying issuer backing operational, Settled record requirements underlying issuer backing operational ∧
        Acceptable mandate (translated record underlying issuer backing operational
          (instrumentOf record requirements)) ∧ AssetActive registry requirements.canonicalAsset := by
  unfold getRepresentation at found
  split at found
  · cases found
  rename_i id parsed
  have placed : record.representationId.chain = id.chain :=
    RepresentationId.chain_eq (byRepresentationId_some found).2
  have verdict : Admits registry requirements input ↔ recordExclusions registry requirements record id = [] := by
    rw [Registry.admits_iff]
    constructor
    · rintro ⟨other, again, parsedAgain, foundAgain, clean⟩
      cases parsed.symm.trans parsedAgain
      cases found.symm.trans foundAgain
      exact clean
    · exact fun clean => ⟨id, record, parsed, found, clean⟩
  rw [verdict]
  simp only [recordExclusions, establishAllowed, eligibilityExclusions, mirrors.instruments, mirrors.redemption,
    mirrors.corporateActions, mirrors.settlement, mirrors.rights, mirrors.holder, flatMap_nil,
    append_nil, append_eq_nil_iff, acceptable_translated, underlyingExclusions, issuerExclusions,
    chainExclusions, backingExclusions, operationalExclusions, establish_eq_nil, unlessExcluded_eq_nil,
    mirrors.backing, mirrors.synthetic, mirrors.issuers, mirrors.chains, Option.mem_def, reduceCtorEq,
    false_implies, implies_true, and_true, placed]
  constructor
  · rintro ⟨⟨⟨⟨⟨underlying, p, first, named⟩, issuer, q, second, listed⟩, chain⟩, backing, r, third, backed⟩,
      operational, t, fourth, active⟩
    split at named
    · cases named
    · rename_i same
      have same := canonicalAssetKey_injective (not_not.mp same)
      split at named
      · cases named
      · rename_i asset carried
        rw [unlessExcluded_eq_nil] at named
        exact ⟨underlying, issuer, backing, operational, ⟨⟨p, first⟩, ⟨q, second⟩, ⟨r, third⟩, ⟨t, fourth⟩⟩,
          ⟨same ▸ mirrors.asset, listed, chain, backed, active⟩, asset, carried, named⟩
  · rintro ⟨underlying, issuer, backing, operational, ⟨⟨p, first⟩, ⟨q, second⟩, ⟨r, third⟩, ⟨t, fourth⟩⟩,
      ⟨same, listed, chain, backed, active⟩, asset, carried, trading⟩
    have same : underlying = requirements.canonicalAsset := Subtype.ext (same.trans mirrors.asset.symm)
    refine ⟨⟨⟨⟨⟨underlying, p, first, ?_⟩, issuer, q, second, listed⟩, chain⟩, backing, r, third, backed⟩,
      operational, t, fourth, active⟩
    rw [if_neg (not_not.mpr (congrArg canonicalAssetKey same)), carried]
    exact unlessExcluded_eq_nil.mpr trading

/-- What the registry admits under a mandate it translates, and the kernel accepts of a candidate
that declares the translation, in a state whose other observations stand on their own chains. What
it translates and the kernel accepts, the registry admits exactly while its asset is active. -/
theorem registry_kernel_agree {context : EvaluationContext}
    (derived : deriveRequirements mandate context = .ok requirements) :
    (Admits registry requirements input → ∃ record, getRepresentation registry input = some record ∧
      ∃ observed, toRepresentationState record requirements = .ok observed ∧
        ∀ ctx : CheckContext, ctx.mandate = mandate → observed ∈ ctx.state.representations →
          ctx.candidate.representationId = observed.value.representationId →
          Declares ctx.candidate observed.value → (∀ o ∈ ctx.state.representations, o ≠ observed →
            chainSegmentOf o.value.representationId = some o.value.chain.1) → KernelAccepts ctx) ∧
    ∀ record observed, getRepresentation registry input = some record →
      toRepresentationState record requirements = .ok observed →
        ∀ ctx : CheckContext, ctx.mandate = mandate → observed ∈ ctx.state.representations →
          ctx.candidate.representationId = observed.value.representationId → KernelAccepts ctx →
          (Admits registry requirements input ↔ AssetActive registry requirements.canonicalAsset) := by
  have mirrors := deriveRequirements_ok derived
  constructor
  · intro admitted
    obtain ⟨id, record, parsed, named, -⟩ := Registry.admits_iff.mp admitted
    have found : getRepresentation registry input = some record := by simp only [getRepresentation, parsed, named]
    obtain ⟨underlying, issuer, backing, operational, settled, acceptable, -⟩ := (mirrors.admits_iff found).mp admitted
    obtain ⟨observed, carried, reads⟩ := settled.carried mirrors.floor
    refine ⟨record, found, observed, carried, ?_⟩
    rintro ctx rfl member names declares others
    have own : chainSegmentOf observed.value.representationId = some observed.value.chain.1 := by
      rw [reads]
      exact record.representationId.segment
    refine (kernelAccepts_iff member names).mpr ⟨reads ▸ acceptable, declares, ?_, fun o listed => ?_⟩
    · rw [names, declares.chain]
      exact own
    · by_cases same : o = observed
      · rw [same]
        exact own
      · exact others o listed same
  · rintro record observed found carried ctx rfl member names accepted
    obtain ⟨acceptable, -, -⟩ := (kernelAccepts_iff member names).mp accepted
    obtain ⟨underlying, issuer, backing, operational, settled, reads⟩ := toRepresentationState_ok carried
    rw [mirrors.admits_iff found]
    constructor
    · rintro ⟨-, -, -, -, -, -, active⟩
      exact active
    · exact fun active => ⟨underlying, issuer, backing, operational, settled, reads ▸ acceptable, active⟩

end Agreement

theorem registry_kernel_agree_sample :
    (@Admits platformKeccak (sampleRegistry (sampleClaims acme)) sampleRequirements sampleInput →
      ∃ record, @getRepresentation platformKeccak (sampleRegistry (sampleClaims acme)) sampleInput = some record ∧
      ∃ observed, toRepresentationState record sampleRequirements = .ok observed ∧
        ∀ ctx : CheckContext, ctx.mandate = sampleMandate → observed ∈ ctx.state.representations →
          ctx.candidate.representationId = observed.value.representationId →
          Declares ctx.candidate observed.value → (∀ o ∈ ctx.state.representations, o ≠ observed →
            chainSegmentOf o.value.representationId = some o.value.chain.1) → KernelAccepts ctx) ∧
    ∀ record observed,
      @getRepresentation platformKeccak (sampleRegistry (sampleClaims acme)) sampleInput = some record →
      toRepresentationState record sampleRequirements = .ok observed →
        ∀ ctx : CheckContext, ctx.mandate = sampleMandate → observed ∈ ctx.state.representations →
          ctx.candidate.representationId = observed.value.representationId → KernelAccepts ctx →
          (@Admits platformKeccak (sampleRegistry (sampleClaims acme)) sampleRequirements sampleInput ↔
            AssetActive (sampleRegistry (sampleClaims acme)) sampleRequirements.canonicalAsset) :=
  @registry_kernel_agree _ sampleMandate _ _ platformKeccak ⟨sampleNow, none, none⟩ (by decide +kernel)

def sampleObserved : Observed RepresentationState where
  provenance := ⟨⟨.authoritative, by decide⟩, ⟨"registry", by decide⟩, sampleNow⟩
  value := translated (sampleRepresentation (sampleClaims acme)) sampleAsset acme .fullyBacked .active none

/-- A candidate for the sample representation that declares a chain. -/
theorem cents_allowed : 2 ≤ MAX_DECIMALS := by decide

theorem first_chain : (0 : Int) ≤ 1 ∧ (1 : Int) ≤ UINT256_MAX := by decide

def candidateOn (chain : Identifier) : Kernel.ExecutionCandidate where
  version := 3
  representationId := sampleId.value
  canonicalAsset := sampleAsset.1
  issuer := acme
  chain
  venue := ⟨"venue", .refl true⟩
  side := .buy
  agent := sampleMandate.agent
  quantity := ⟨⟨⟨"SHARE", .refl true⟩, 0, 1⟩, by decide⟩
  executionPrice := ⟨⟨"USD", .refl true⟩, ⟨"SHARE", .refl true⟩, ⟨2, cents_allowed⟩, ⟨100, by decide⟩⟩
  notional := ⟨⟨⟨"USD", .refl true⟩, 2, 100⟩, by decide⟩
  feeTotal := ⟨⟨⟨"USD", .refl true⟩, 2, 0⟩, by decide⟩
  evaluationStateId := ⟨"s", .refl true⟩
  evaluationStateDigest := 0
  registrySnapshotDigest := 0
  corporateActionEpoch := ⟨0, uint64_zero⟩
  supported := rfl

def contextOn (chain : Identifier) : CheckContext where
  mandate := sampleMandate
  authorization := ⟨sampleMandate.principal, List.replicate 65 0,
    ⟨⟨"Mandate", by decide⟩, ⟨"2", by decide⟩, ⟨1, first_chain⟩, 0⟩, rfl, rfl⟩
  candidate := candidateOn chain
  state := ⟨2, ⟨"s", .refl true⟩, none, [sampleObserved], none, none, none, sampleMandate.supported, by decide, by decide⟩
  now := sampleNow
  expectedDomain := ⟨⟨"Mandate", by decide⟩, ⟨"2", by decide⟩, ⟨1, first_chain⟩, 0⟩
  mandateDigest := 0
  trustedStateDigest := 0

def delistedRegistry : Registry where
  snapshot := { sampleSnapshot (sampleClaims acme) with
    assets := ⟨[⟨sampleAsset, .delisted, ⟨"Apple", .refl true⟩, none, none, ⟨[], Nat.zero_le _⟩, ⟨[], Nat.zero_le _⟩⟩], by decide⟩ }
  assetsApart := by simp [RegistrySnapshot.assetKeys]
  recordsApart := by simp [RegistrySnapshot.recordKeys, sampleSnapshot]

/-- A candidate may declare another chain than the representation it names, and the kernel does not
know that an asset is delisted. -/
theorem registry_kernel_apart :
    deriveRequirements sampleMandate ⟨sampleNow, none, none⟩ = .ok sampleRequirements ∧
    (@Admits platformKeccak (sampleRegistry (sampleClaims acme)) sampleRequirements sampleInput ∧
      sampleObserved ∈ (contextOn ⟨"eip155:2", by decide⟩).state.representations ∧
      ¬KernelAccepts (contextOn ⟨"eip155:2", by decide⟩)) ∧
    (¬@Admits platformKeccak delistedRegistry sampleRequirements sampleInput ∧
      toRepresentationState (sampleRepresentation (sampleClaims acme)) sampleRequirements = .ok sampleObserved ∧
      sampleObserved ∈ (contextOn sampleId.chain).state.representations ∧
      KernelAccepts (contextOn sampleId.chain)) := by
  refine ⟨?_, ⟨?_, ?_, ?_⟩, ?_, ?_, ?_, ?_⟩ <;> decide +kernel

end Mandate.Registry
