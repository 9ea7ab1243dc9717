import Mandate.Core.Quantity

/-! State requirements: freshness, minimum trust and finality, and what must hold at issue
and at execution. -/
namespace Mandate.Core
open Lib.Wire

inductive TrustClass | authoritative | verified | advisory | untrusted
deriving DecidableEq

def TRUST_CLASS_CODE : WireCodes TrustClass where
  keys := [.authoritative, .verified, .advisory, .untrusted]
  code
    | .authoritative => 1 | .verified => 2 | .advisory => 3 | .untrusted => 4
  width key := by cases key <;> decide
  unique key := by cases key <;> rfl

def ADMISSIBLE_TRUST : List TrustClass := [.authoritative, .verified]

abbrev AdmissibleTrustClass := {trust : TrustClass // trust ∈ ADMISSIBLE_TRUST}

structure FinalityRefInput where
  ladder : String
  level : String

structure FinalityRef where
  ladder : Identifier
  level : Identifier
deriving DecidableEq

def validateFinalityRef (input : FinalityRefInput) (path : String) : CoreResult FinalityRef := do
  let ladder ← parseIdentifierAs input.ladder (atField path "ladder")
  let level ← parseIdentifierAs input.level (atField path "level")
  .ok ⟨ladder, level⟩

def writeFinality (f : FinalityRef) : Writer := writeStr f.ladder.1 ++ writeStr f.level.1

def readFinalityInput : CoreReader FinalityRefInput := do
  let ladder ← readStr
  let level ← readStr
  pure ⟨ladder, level⟩

def finalityInputOf (f : FinalityRef) : FinalityRefInput := ⟨f.ladder.1, f.level.1⟩

inductive FreshnessKind | age | blocks | sequence | version
deriving DecidableEq

def FRESHNESS_CODE : WireCodes FreshnessKind where
  keys := [.age, .blocks, .sequence, .version]
  code
    | .age => 1 | .blocks => 2 | .sequence => 3 | .version => 4
  width key := by cases key <;> decide
  unique key := by cases key <;> rfl

inductive FreshnessPolicyInput
  | age (maxAgeSeconds : IntegerInput)
  | blocks (maxBlocksBehind : IntegerInput)
  | sequence
  | version (pinnedDigest : String) (maxAgeSeconds : IntegerInput)

abbrev Seconds32 := IntegerInRange 0 UINT32_MAX

inductive FreshnessPolicy
  | age (maxAgeSeconds : Seconds32)
  | blocks (maxBlocksBehind : Uint64)
  | sequence
  | version (pinnedDigest : Digest32) (maxAgeSeconds : Seconds32)
deriving DecidableEq

def FreshnessPolicy.kind : FreshnessPolicy → FreshnessKind
  | .age _ => .age
  | .blocks _ => .blocks
  | .sequence => .sequence
  | .version _ _ => .version

def parseSeconds32 (raw : IntegerInput) (path : String) : CoreResult Seconds32 :=
  parseIntegerInRange raw 0 UINT32_MAX path

def validateFreshnessPolicy (input : FreshnessPolicyInput) (path : String) : CoreResult FreshnessPolicy :=
  match input with
  | .age maxAge => do
    let maxAge ← parseSeconds32 maxAge (atField path "maxAgeSeconds")
    .ok (.age maxAge)
  | .blocks blocks => do
    let blocks ← parseUint64 blocks (atField path "maxBlocksBehind")
    .ok (.blocks blocks)
  | .sequence => .ok .sequence
  | .version pinned maxAge => do
    let pinned ← parseDigest pinned (atField path "pinnedDigest")
    let maxAge ← parseSeconds32 maxAge (atField path "maxAgeSeconds")
    .ok (.version pinned maxAge)

def writeFreshnessBody : FreshnessPolicy → Writer
  | .age maxAge => writeU32 maxAge.1
  | .blocks blocks => writeU64 blocks.1
  | .sequence => Writer.raw []
  | .version pinned maxAge => writeDigest pinned ++ writeU32 maxAge.1

def writeFreshness (f : FreshnessPolicy) : Writer :=
  writeCode FRESHNESS_CODE f.kind ++ writeFreshnessBody f

def readFreshnessBody : FreshnessKind → CoreReader FreshnessPolicyInput
  | .age => do
    let maxAge ← (fun n : Nat => (n : Int)) <$> readU32
    pure (.age (.bigint maxAge))
  | .blocks => do
    let blocks ← (fun n : Nat => (n : Int)) <$> readU64
    pure (.blocks (.bigint blocks))
  | .sequence => pure .sequence
  | .version => do
    let pinned ← readDigest
    let maxAge ← (fun n : Nat => (n : Int)) <$> readU32
    pure (.version pinned (.bigint maxAge))

def readFreshnessInput : CoreReader FreshnessPolicyInput := do
  let kind ← readCode FRESHNESS_CODE
  readFreshnessBody kind

def freshnessInputOf : FreshnessPolicy → FreshnessPolicyInput
  | .age maxAge => .age (.bigint maxAge.1)
  | .blocks blocks => .blocks (.bigint blocks.1)
  | .sequence => .sequence
  | .version pinned maxAge => .version pinned.toHex (.bigint maxAge.1)

inductive DependenceKind | notRequired | enforcedByArtifact | boundedByFreshness
deriving DecidableEq

def DEPENDENCE_CODE : WireCodes DependenceKind where
  keys := [.notRequired, .enforcedByArtifact, .boundedByFreshness]
  code
    | .notRequired => 1 | .enforcedByArtifact => 2 | .boundedByFreshness => 3
  width key := by cases key <;> decide
  unique key := by cases key <;> rfl

inductive ExecutionDependenceInput
  | notRequired
  | enforcedByArtifact (field : String)
  | boundedByFreshness

inductive ExecutionDependence
  | notRequired
  | enforcedByArtifact (field : Identifier)
  | boundedByFreshness
deriving DecidableEq

def ExecutionDependence.kind : ExecutionDependence → DependenceKind
  | .notRequired => .notRequired
  | .enforcedByArtifact _ => .enforcedByArtifact
  | .boundedByFreshness => .boundedByFreshness

def validateExecutionDependence (input : ExecutionDependenceInput) (path : String) :
    CoreResult ExecutionDependence :=
  match input with
  | .notRequired => .ok .notRequired
  | .enforcedByArtifact field => do
    let field ← parseIdentifierAs field (atField path "field")
    .ok (.enforcedByArtifact field)
  | .boundedByFreshness => .ok .boundedByFreshness

def writeDependenceBody : ExecutionDependence → Writer
  | .enforcedByArtifact field => writeStr field.1
  | _ => Writer.raw []

def readDependenceBody : DependenceKind → CoreReader ExecutionDependenceInput
  | .notRequired => pure .notRequired
  | .enforcedByArtifact => do
    let field ← readStr
    pure (.enforcedByArtifact field)
  | .boundedByFreshness => pure .boundedByFreshness

def dependenceInputOf : ExecutionDependence → ExecutionDependenceInput
  | .notRequired => .notRequired
  | .enforcedByArtifact field => .enforcedByArtifact field.1
  | .boundedByFreshness => .boundedByFreshness

inductive AtIssue | withinPolicy | recheck
deriving DecidableEq

def AT_ISSUE_CODE : WireCodes AtIssue where
  keys := [.withinPolicy, .recheck]
  code
    | .withinPolicy => 1 | .recheck => 2
  width key := by cases key <;> decide
  unique key := by cases key <;> rfl

structure StateRequirementInput where
  freshness : FreshnessPolicyInput
  minTrust : TrustClass
  minFinality : FinalityRefInput
  atIssue : AtIssue
  atExecution : ExecutionDependenceInput

/-- Block and sequence distance have no fixed mapping to time, so no artifact expires with them. -/
def dependenceFits (freshness : FreshnessPolicy) (atExecution : ExecutionDependence) : Bool :=
  atExecution.kind != .boundedByFreshness || freshness.kind == .age || freshness.kind == .version

structure StateRequirement where
  freshness : FreshnessPolicy
  minTrust : AdmissibleTrustClass
  minFinality : FinalityRef
  atIssue : AtIssue
  atExecution : ExecutionDependence
  compatible : dependenceFits freshness atExecution = true
deriving DecidableEq

def validateStateRequirement (input : StateRequirementInput) (path : String) :
    CoreResult StateRequirement := do
  let freshness ← validateFreshnessPolicy input.freshness (atField path "freshness")
  if admissible : input.minTrust ∈ ADMISSIBLE_TRUST then
    let minFinality ← validateFinalityRef input.minFinality (atField path "minFinality")
    let atExecution ← validateExecutionDependence input.atExecution (atField path "atExecution")
    if compatible : dependenceFits freshness atExecution = true then
      .ok ⟨freshness, ⟨input.minTrust, admissible⟩, minFinality, input.atIssue, atExecution, compatible⟩
    else fail .executionDependenceIncompatible (atField path "atExecution")
  else fail .minTrustNotAdmissible (atField path "minTrust")

def writeStateRequirement (s : StateRequirement) : Writer :=
  writeFreshness s.freshness ++ (writeCode TRUST_CLASS_CODE s.minTrust.1 ++
    (writeFinality s.minFinality ++ (writeCode AT_ISSUE_CODE s.atIssue ++
      (writeCode DEPENDENCE_CODE s.atExecution.kind ++ writeDependenceBody s.atExecution))))

/-- Any trust code decodes; the validator refuses the inadmissible ones. -/
def readStateRequirementInput : CoreReader StateRequirementInput := do
  let freshness ← readFreshnessInput
  let minTrust ← readCode TRUST_CLASS_CODE
  let minFinality ← readFinalityInput
  let atIssue ← readCode AT_ISSUE_CODE
  let dependence ← readCode DEPENDENCE_CODE
  let atExecution ← readDependenceBody dependence
  pure ⟨freshness, minTrust, minFinality, atIssue, atExecution⟩

def stateRequirementInputOf (s : StateRequirement) : StateRequirementInput :=
  ⟨freshnessInputOf s.freshness, s.minTrust.1, finalityInputOf s.minFinality, s.atIssue,
    dependenceInputOf s.atExecution⟩

@[simp] theorem total_seconds32 (seconds : Seconds32) : (writeU32 seconds.1).Total := by
  have bound := seconds.2
  simp only [UINT32_MAX] at bound
  exact Writer.total_uint bound.1 (by norm_num at bound ⊢; omega)

@[simp] theorem validateFinalityRef_self (f : FinalityRef) (path : String) :
    validateFinalityRef (finalityInputOf f) path = .ok f := by
  simp [validateFinalityRef, finalityInputOf, bind, Except.bind]

@[simp] theorem parseSeconds32_self (seconds : Seconds32) (path : String) :
    parseSeconds32 (.bigint seconds.1) path = .ok seconds :=
  parseIntegerInRange_self seconds path

@[simp] theorem validateFreshnessPolicy_self (f : FreshnessPolicy) (path : String) :
    validateFreshnessPolicy (freshnessInputOf f) path = .ok f := by
  cases f <;> simp [validateFreshnessPolicy, freshnessInputOf, bind, Except.bind]

@[simp] theorem validateExecutionDependence_self (d : ExecutionDependence) (path : String) :
    validateExecutionDependence (dependenceInputOf d) path = .ok d := by
  cases d <;> simp [validateExecutionDependence, dependenceInputOf, bind, Except.bind]

@[simp] theorem validateStateRequirement_self (s : StateRequirement) (path : String) :
    validateStateRequirement (stateRequirementInputOf s) path = .ok s := by
  simp only [validateStateRequirement, stateRequirementInputOf, bind, Except.bind,
    validateFreshnessPolicy_self, dif_pos s.minTrust.2, validateFinalityRef_self,
    validateExecutionDependence_self, dif_pos s.compatible]

theorem frames_finality (f : FinalityRef) :
    Frames (writeFinality f) readFinalityInput (finalityInputOf f) 260 := by
  refine Frames.mono (.bind (frames_identifier _) (.last (frames_identifier _))) ?_
  decide

theorem frames_freshness (f : FreshnessPolicy) :
    Frames (writeFreshness f) readFreshnessInput (freshnessInputOf f) 37 := by
  refine Frames.mono (.bind (frames_code _ _) (n := 36) ?_) (by decide)
  cases f with
  | age maxAge => exact Frames.mono (.last (frames_u32_int _)) (by decide)
  | blocks blocks => exact Frames.mono (.last (frames_u64_int _)) (by decide)
  | sequence => exact Frames.mono (Frames.pure _) (by decide)
  | version pinned maxAge =>
    exact Frames.mono (.bind (frames_digest _) (.last (frames_u32_int _))) (by decide)

theorem frames_dependence (d : ExecutionDependence) :
    Frames (writeDependenceBody d) (readDependenceBody d.kind) (dependenceInputOf d) 130 := by
  cases d with
  | notRequired | boundedByFreshness => exact Frames.mono (Frames.pure _) (by decide)
  | enforcedByArtifact field => exact .last (frames_identifier _)

theorem frames_stateRequirement (s : StateRequirement) :
    Frames (writeStateRequirement s) readStateRequirementInput (stateRequirementInputOf s) 430 := by
  refine Frames.mono (.bind (frames_freshness _) (.bind (frames_code _ _) (.bind (frames_finality _)
    (.bind (frames_code _ _) (.bind (frames_code _ _) (.last (frames_dependence _))))))) ?_
  decide

@[simp] theorem total_freshness (f : FreshnessPolicy) : (writeFreshness f).Total := by
  cases f <;> simp [writeFreshness, writeFreshnessBody]

@[simp] theorem total_stateRequirement (s : StateRequirement) : (writeStateRequirement s).Total := by
  cases held : s.atExecution <;> simp [writeStateRequirement, writeFinality, writeDependenceBody, held]

end Mandate.Core
