import Mandate.Control.Catalog

/-! State requirements and admission: a module's need tightened by every policy for its kind,
and the one supplied snapshot that may meet it. Two different candidates are a conflict. -/
namespace Mandate.Control
open Core Ledger Lib.Wire Lib.Text

structure SuppliedState where
  envelope : Foreign StateEnvelopeInput
  payload : Bytes

/-- A module's need after every lineage and policy requirement for its kind has tightened it. -/
structure EffectiveNeed where
  module : DomainModule
  stateKind : Identifier
  subject : ResourceId
  admittedSources : List Identifier
  requirement : StateRequirement
  key : String
  label : String

structure Admission where
  need : EffectiveNeed
  state : AdmittedState
  binding : StateBinding
  bindingId : Digest32

section Tightening

def TRUST_RANK : TrustClass → Nat
  | .authoritative => 2 | .verified => 1 | .advisory => 0 | .untrusted => 0

/-- The position of a level on its ladder; `none` for an undeclared ladder or level. -/
def levelIndex (ladders : List FinalityLadder) (f : FinalityRef) : Option Nat :=
  (ladderOf ladders f).bind fun l => if f.level ∈ l.levels then some (l.levels.idxOf f.level) else none

def tightenFreshness : FreshnessPolicy → FreshnessPolicy → Option FreshnessPolicy
  | .age a, .age b => some (.age (if a.1 < b.1 then a else b))
  | .blocks a, .blocks b => some (.blocks (if a.1 < b.1 then a else b))
  | .sequence, .sequence => some .sequence
  | .version pinned a, .version other b =>
    if pinned = other then some (.version pinned (if a.1 < b.1 then a else b)) else none
  | _, _ => none

def tightenDependence (a b : ExecutionDependence) : Option ExecutionDependence :=
  if a = b then some a
  else if a = .notRequired then some b
  else if b = .notRequired then some a
  else none

def tightenFinality (ladders : List FinalityLadder) (a b : FinalityRef) : Except String FinalityRef :=
  if a.ladder ≠ b.ladder then .error "FINALITY_LADDER_INCOMPARABLE"
  else match levelIndex ladders a, levelIndex ladders b with
    | some ia, some ib => .ok (if ib ≤ ia then a else b)
    | _, _ => .error "FINALITY_LEVEL_UNDECLARED"

/-- The tighter of two requirements for one kind, or why they cannot be combined. -/
def tightenRequirement (ladders : List FinalityLadder) (a b : StateRequirement) :
    Except String StateRequirement := do
  match tightenFreshness a.freshness b.freshness with
  | none => .error "FRESHNESS_INCOMPARABLE"
  | some freshness => do
    let minFinality ← tightenFinality ladders a.minFinality b.minFinality
    match tightenDependence a.atExecution b.atExecution with
    | none => .error "EXECUTION_DEPENDENCE_INCOMPARABLE"
    | some atExecution =>
      (validateStateRequirement
        { freshness := freshnessInputOf freshness
          minTrust := if TRUST_RANK b.minTrust.1 ≤ TRUST_RANK a.minTrust.1 then a.minTrust.1 else b.minTrust.1
          minFinality := finalityInputOf minFinality
          atIssue := if a.atIssue = .recheck ∨ b.atIssue = .recheck then .recheck else .withinPolicy
          atExecution := dependenceInputOf atExecution }
        "requirement").mapError fun error => coreErrorText error.code

end Tightening

section Needs
variable [Keccak]

def needKey (module : DomainModule) (stateKind : Identifier) (subject : ResourceId) : String :=
  (moduleRefDigest module.ref).toHex ++ "/" ++ stateKind.1 ++ "/" ++
    bytesToHex (encodeWith writeResourceId subject)

def resourceKindText : ResourceKind → String
  | .market => "MARKET" | .canonicalAsset => "CANONICAL_ASSET"
  | .representationAsset => "REPRESENTATION_ASSET" | .account => "ACCOUNT" | .venue => "VENUE"
  | .recipient => "RECIPIENT" | .proposal => "PROPOSAL"

def moduleName (m : ModuleRef) : String := m.moduleId.1 ++ "@" ++ toString m.moduleVersion.1

def needLabel (module : DomainModule) (stateKind : Identifier) (subject : ResourceId) : String :=
  moduleName module.ref ++ "/" ++ stateKind.1 ++ "/" ++ subject.domain.1 ++ ":" ++
    resourceKindText subject.kind ++ ":" ++ subject.localId.1

def policyConflict {α : Type} (module : DomainModule) (reason path : String) : ControlResult α :=
  refuseWith ((refusal .statePolicyConflict reason path).about module.ref)

def tighten (module : DomainModule) (path : String) (a b : StateRequirement) :
    ControlResult StateRequirement :=
  match tightenRequirement module.finalityLadders a b with
  | .ok requirement => .ok requirement
  | .error reason => policyConflict module reason path

def policiesFor (module : DomainModule) (stateKind : Identifier) (policies : List EffectiveStatePolicy) :
    List EffectiveStatePolicy :=
  policies.filter fun p => p.domain == module.ref.domainId && p.stateKind == stateKind

/-- A module's need tightened with every state policy for its domain and kind. -/
def effectiveNeed (module : DomainModule) (need : StateNeed) (policies : List EffectiveStatePolicy)
    (path : String) : ControlResult EffectiveNeed := do
  let bearing := policiesFor module need.stateKind policies
  let requirement ← (bearing.flatMap (·.requirements)).foldlM (tighten module path) need.requirement
  .ok {
    module
    stateKind := need.stateKind
    subject := need.subject
    admittedSources := need.admittedSources.filter fun s => bearing.all fun p => p.admittedSources.contains s
    requirement
    key := needKey module need.stateKind need.subject
    label := needLabel module need.stateKind need.subject }

/-- A need asked for twice is the tighter of both, from the sources of both. -/
def mergeNeed (path : String) (merged : List EffectiveNeed) (n : EffectiveNeed) :
    ControlResult (List EffectiveNeed) :=
  match merged.find? fun m => m.key == n.key with
  | none => .ok (merged ++ [n])
  | some prev => do
    let requirement ← tighten n.module path prev.requirement n.requirement
    let both : EffectiveNeed := { prev with
      requirement
      admittedSources := prev.admittedSources.filter n.admittedSources.contains }
    .ok (merged.map fun m => if m.key = n.key then both else m)

def mergeNeeds (needs : List EffectiveNeed) (path : String) : ControlResult (List EffectiveNeed) := do
  let merged ← needs.foldlM (mergeNeed path) []
  if MAX_REQUIREMENTS < merged.length then
    refuse .resourceBoundExceeded "TOO_MANY_REQUIREMENTS" path
  else .ok (byText (·.key) merged)

end Needs

section Supplied
variable [Keccak]

structure PreparedState where
  envelope : StateEnvelope
  stateId : Digest32
  payload : Bytes
  payloadMatches : Bool

def requestEnvelope (raw : Foreign StateEnvelopeInput) (path : String) : ControlResult StateEnvelope :=
  match raw with
  | .throwing => refuse .requestInvalid "WRONG_TYPE" path
  | .faulty error => refuse .requestInvalid (coreErrorText error.code) error.path
  | .given input =>
    match validateStateEnvelope input path with
    | .ok envelope => .ok envelope
    | .error error => refuse .requestInvalid (coreErrorText error.code) error.path

def prepareState (s : SuppliedState) (sp : String) : ControlResult PreparedState :=
  if MAX_STATE_PAYLOAD_BYTES < s.payload.length then
    refuse .resourceBoundExceeded "STATE_PAYLOAD_TOO_LARGE" (sp ++ ".payload")
  else do
    let envelope ← requestEnvelope s.envelope (sp ++ ".envelope")
    let digest ← written (statePayloadDigest envelope.module s.payload)
    .ok ⟨envelope, stateId envelope, s.payload, digest == envelope.payloadDigest⟩

/-- Every supplied envelope re-validated, its identity computed and its payload checked. -/
def prepareStates (supplied : List SuppliedState) (path : String) : ControlResult (List PreparedState) :=
  if MAX_SUPPLIED_STATES < supplied.length then refuse .resourceBoundExceeded "TOO_MANY_STATES" path
  else eachItem prepareState path supplied 0

end Supplied

section Admitting

/-- The provenance admission reads, of an envelope or of a binding; a binding's pinned version was
checked when it was first admitted, so it carries no payload digest. -/
structure Observed where
  domain : Identifier
  stateKind : Identifier
  subject : ResourceId
  sourceId : Identifier
  trustClass : TrustClass
  observedAt : UnixSeconds
  validUntil : Option UnixSeconds
  sequence : StateSequence
  finality : FinalityRef
  payloadDigest : Option Digest32

structure AdmissionFailure where
  code : ControlCode
  reason : String

/-- The source is configured for the kind at the class the snapshot claims, admitted and trusted. -/
def assessSource (o : Observed) (requirement : StateRequirement) (sources : List Identifier)
    (ctx : EvaluationContext) : Option AdmissionFailure :=
  match ctx.source o.sourceId with
  | none => some ⟨.stateUntrusted, "SOURCE_NOT_CONFIGURED"⟩
  | some source =>
    if ⟨o.domain, o.stateKind⟩ ∉ source.kinds then some ⟨.stateUntrusted, "SOURCE_NOT_CONFIGURED_FOR_KIND"⟩
    else if o.trustClass ≠ source.trustClass then some ⟨.stateUntrusted, "TRUST_CLASS_MISMATCH"⟩
    else if o.sourceId ∉ sources then some ⟨.stateUntrusted, "SOURCE_NOT_ADMITTED"⟩
    else if TRUST_RANK o.trustClass = 0 ∨ TRUST_RANK o.trustClass < TRUST_RANK requirement.minTrust.1 then
      some ⟨.stateUntrusted, "TRUST_INSUFFICIENT"⟩
    else none

def assessTime (o : Observed) (time : UnixSeconds) : Option AdmissionFailure :=
  if time.1 < o.observedAt.1 then some ⟨.stateInvalid, "OBSERVED_IN_FUTURE"⟩
  else if o.validUntil.any fun stop => stop.1 ≤ time.1 then some ⟨.stateStale, "SOURCE_VALIDITY_ENDED"⟩
  else none

def assessAge (o : Observed) (time : UnixSeconds) (maxAge : Seconds32) : Option AdmissionFailure :=
  if maxAge.1 < time.1 - o.observedAt.1 then some ⟨.stateStale, "AGE_EXCEEDED"⟩ else none

def assessBlocks (o : Observed) (maxBlocksBehind : Uint64) (ctx : EvaluationContext) :
    Option AdmissionFailure :=
  if o.sequence.kind ≠ .block then some ⟨.stateInvalid, "SEQUENCE_KIND_MISMATCH"⟩
  else match ctx.blockHead o.sourceId with
    | none => some ⟨.stateStale, "BLOCK_HEAD_UNKNOWN"⟩
    | some head =>
      if head.1 < sequenceValue o.sequence then some ⟨.stateInvalid, "BLOCK_AHEAD_OF_HEAD"⟩
      else if maxBlocksBehind.1 < head.1 - sequenceValue o.sequence then
        some ⟨.stateStale, "BLOCKS_BEHIND_EXCEEDED"⟩
      else none

def assessSequence (o : Observed) (ctx : EvaluationContext) : Option AdmissionFailure :=
  if o.sequence.kind = .none then some ⟨.stateInvalid, "SEQUENCE_KIND_MISMATCH"⟩
  else match ctx.watermark o.sourceId o.stateKind o.subject with
    | none => some ⟨.stateStale, "WATERMARK_UNKNOWN"⟩
    | some mark =>
      if sequenceValue o.sequence < mark.1 then some ⟨.stateStale, "BEHIND_WATERMARK"⟩ else none

def assessFreshness (o : Observed) (f : FreshnessPolicy) (ctx : EvaluationContext) :
    Option AdmissionFailure :=
  match f with
  | .age maxAge => assessAge o ctx.evaluationTime maxAge
  | .blocks behind => assessBlocks o behind ctx
  | .sequence => assessSequence o ctx
  | .version pinned maxAge =>
    if o.payloadDigest.any fun digest => digest ≠ pinned then
      some ⟨.stateStale, "PINNED_VERSION_MISMATCH"⟩
    else assessAge o ctx.evaluationTime maxAge

def assessFinality (o : Observed) (required : FinalityRef) (ladders : List FinalityLadder) :
    Option AdmissionFailure :=
  if o.finality.ladder ≠ required.ladder then some ⟨.stateFinalityInsufficient, "FINALITY_LADDER_MISMATCH"⟩
  else match levelIndex ladders o.finality with
    | none => some ⟨.stateFinalityInsufficient, "FINALITY_LEVEL_UNDECLARED"⟩
    | some reached =>
      -- An undeclared level is below every declared one.
      if (levelIndex ladders required).any fun need => reached < need then
        some ⟨.stateFinalityInsufficient, "FINALITY_BELOW_REQUIRED"⟩
      else none

/-- `none` where the observation is admissible under the requirement, at the context's time. -/
def assessObservation (o : Observed) (requirement : StateRequirement) (sources : List Identifier)
    (ladders : List FinalityLadder) (ctx : EvaluationContext) : Option AdmissionFailure :=
  (assessSource o requirement sources ctx).or ((assessTime o ctx.evaluationTime).or
    ((assessFreshness o requirement.freshness ctx).or (assessFinality o requirement.minFinality ladders)))

def observedOf (e : StateEnvelope) : Observed :=
  ⟨e.module.domainId, e.stateKind, e.subject, e.sourceId, e.trustClass, e.observedAt, e.validUntil,
    e.sequence, e.finality, some e.payloadDigest⟩

def forNeed (need : EffectiveNeed) (p : PreparedState) : Bool :=
  p.envelope.stateKind == need.stateKind && resourceIdsEqual p.envelope.subject need.subject

def candidateFor (need : EffectiveNeed) (p : PreparedState) : Bool :=
  forNeed need p && moduleRefsEqual p.envelope.module need.module.ref

def distinctStates (states : List PreparedState) : List PreparedState := lastOfEach (·.stateId) states

variable [Keccak]

def admitOne (need : EffectiveNeed) (prepared : List PreparedState) (ctx : EvaluationContext) :
    Except AdmissionFailure Admission :=
  match distinctStates (prepared.filter (candidateFor need)) with
  | [] => .error (if prepared.any (forNeed need) then ⟨.stateInvalid, "MODULE_MISMATCH"⟩
      else ⟨.stateMissing, "STATE_NOT_SUPPLIED"⟩)
  | [p] =>
    if !p.payloadMatches then .error ⟨.stateInvalid, "PAYLOAD_DIGEST_MISMATCH"⟩
    else match assessObservation (observedOf p.envelope) need.requirement need.admittedSources
        need.module.finalityLadders ctx with
      | some failure => .error failure
      | none =>
        match bindState p.envelope (stateRequirementInputOf need.requirement) "binding" with
        | .error error => .error ⟨.stateUntrusted, coreErrorText error.code⟩
        | .ok binding => .ok ⟨need, ⟨p.envelope, p.stateId, p.payload⟩, binding, stateBindingId binding⟩
  | _ => .error ⟨.stateConflict, "AMBIGUOUS_SNAPSHOTS"⟩

/-- Every need in order: all admitted, or every failure, the first one's code and reason first. -/
def admitEach (prepared : List PreparedState) (ctx : EvaluationContext) :
    List EffectiveNeed → List Admission × List (EffectiveNeed × AdmissionFailure)
  | [] => ([], [])
  | need :: rest =>
    let later := admitEach prepared ctx rest
    match admitOne need prepared ctx with
    | .ok admission => (admission :: later.1, later.2)
    | .error failure => (later.1, (need, failure) :: later.2)

def admitNeeds (needs : List EffectiveNeed) (prepared : List PreparedState) (ctx : EvaluationContext)
    (path : String) : ControlResult (List Admission) :=
  match admitEach prepared ctx needs with
  | (admitted, []) => .ok admitted
  | (_, failures@((first, failure) :: _)) =>
    let named := (needs.find? fun n => n.label == first.label).getD first
    refuseWith (((refusal failure.code failure.reason (path ++ "." ++ first.label)).about
      named.module.ref).detailing (.state (failures.map fun f => ⟨f.2.code, f.2.reason, f.1.label⟩)))

def readmitBinding (binding : StateBinding) (domain : Identifier) (ladders : List FinalityLadder)
    (ctx : EvaluationContext) : Option AdmissionFailure :=
  assessObservation ⟨domain, binding.stateKind, binding.subject, binding.sourceId, binding.trustClass.1,
    binding.observedAt, binding.validUntil, binding.sequence, binding.finality, none⟩
    binding.requirement [binding.sourceId] ladders ctx

/-- Each module is handed only the snapshots admitted for its own needs. -/
def statesFor (module : DomainModule) (admissions : List Admission) : List AdmittedState :=
  (admissions.filter fun a => moduleRefsEqual a.need.module.ref module.ref).map (·.state)

end Admitting

end Mandate.Control
