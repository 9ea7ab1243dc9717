import Mandate.Control.Pipeline

/-! The authorization a committed decision becomes, and its revalidation at issue time: still
active, still covered by a valid lineage, and still standing on state that is admissible now. -/
namespace Mandate.Control
open Core Ledger Lib.Wire

structure AuthorizationBody where
  execution : ExecutionAuthorization
  executionId : Digest32
  action : ActionEnvelope
  actionId : ActionId
  principal : PrincipalId
  module : ModuleRef
  implementation : ImplementationDigest
  adapter : AdapterRef
  lineage : List AuthorityId
  policy : PrincipalPolicyId
  reservation : ReservationId
  generation : ReservationGeneration
  stateBindings : List StateBinding
  bindingModules : List ModuleRef
  projectionDigest : Digest32
  invariantResultsDigest : Digest32
  planDigest : Digest32
  contextDigest : Digest32
  ledgerVersionRead : Nat
  ledgerHeadRead : LedgerHeadDigest
  ledgerVersionCommitted : Nat
  ledgerHeadCommitted : LedgerHeadDigest
  evaluatedAt : UnixSeconds
  validUntil : Int
  recheck : List Digest32

structure AuthorizationRecord extends AuthorizationBody where
  id : Digest32

variable [Keccak]

def encodeAuthorizationRecord (r : AuthorizationBody) : Writer :=
  controlWriter ControlTag.AUTHORIZATION ++ (writeDigest r.executionId ++ (writeDigest r.actionId ++
    (writeParty r.principal ++ (writeModuleRef r.module ++ (writeDigest r.implementation.1 ++
      (writeAdapterRef r.adapter ++ (writeList writeDigest r.lineage ++ (writeDigest r.policy ++
        (writeDigest r.reservation ++ (writeU64 r.generation.1 ++
          (writeDigestList (r.stateBindings.map stateBindingId) ++
            (Writer.each writeModuleRef r.bindingModules ++ (writeDigest r.projectionDigest ++
              (writeDigest r.invariantResultsDigest ++ (writeDigest r.planDigest ++
                (writeDigest r.contextDigest ++ (writeU64 r.ledgerVersionRead ++
                  (writeDigest r.ledgerHeadRead ++ (writeU64 r.ledgerVersionCommitted ++
                    (writeDigest r.ledgerHeadCommitted ++ (writeI64 r.evaluatedAt.1 ++
                      (writeI64 r.validUntil ++ writeDigestList r.recheck))))))))))))))))))))))

def reservationInputOf (d : Decision) (version : Nat) : ReservationRefInput :=
  ⟨d.actionId.toHex, .bigint d.generation.1, partyIdInputOf d.principal, d.lineage.map Digest32.toHex,
    d.policy.toHex, moduleRefInputOf d.module, d.implementation.1.toHex,
    adapterRefInputOf d.action.adapter, .bigint version⟩

def bindingModule (admissions : List Admission) (b : StateBinding) : ControlResult ModuleRef :=
  match admissions.find? fun a => a.binding.stateDigest == b.stateDigest with
  | none => refuse .requestInvalid "BINDING_WITHOUT_ADMISSION" "authorization.stateBindings"
  | some a => .ok a.need.module.ref

def rechecked (bindings : List StateBinding) : List StateBinding :=
  bindings.filter fun b => b.requirement.atIssue == .recheck

/-- The record of a decision whose reservation committed at exactly the version after the one the
decision was read at. -/
def authorizationRecordOf (d : Decision) (committed : LedgerSnapshot) : ControlResult AuthorizationRecord :=
  if committed.version ≠ d.ledgerVersion + 1 then
    refuse .ledgerConflict "COMMIT_NOT_AT_DECISION_VERSION" "ledger.version"
  else match validateExecutionAuthorization ⟨reservationInputOf d committed.version,
      d.bindings.map stateBindingInputOf, .bigint d.validUntil⟩ "authorization" with
    | .error error => refuseWith ((refusal .requestInvalid (coreErrorText error.code)
        ("authorization." ++ error.path)).raisedBy .core)
    | .ok execution => do
      let bindingModules ← execution.stateBindings.members.mapM (bindingModule d.admissions)
      let body : AuthorizationBody := {
        execution
        executionId := executionAuthorizationId execution
        action := d.action
        actionId := d.actionId
        principal := d.principal
        module := d.module
        implementation := d.implementation
        adapter := d.action.adapter
        lineage := d.lineage
        policy := d.policy
        reservation := reservationIdFor d.actionId d.generation
        generation := d.generation
        stateBindings := execution.stateBindings.members
        bindingModules
        projectionDigest := d.projectionDigest
        invariantResultsDigest := d.invariantResultsDigest
        planDigest := d.planDigest
        contextDigest := d.context
        ledgerVersionRead := d.ledgerVersion
        ledgerHeadRead := d.ledgerHead
        ledgerVersionCommitted := committed.version
        ledgerHeadCommitted := committed.head
        evaluatedAt := d.evaluatedAt
        validUntil := d.validUntil
        recheck := sortDigests ((rechecked execution.stateBindings.members).map stateBindingId) }
      let id ← written (controlDigest (encodeAuthorizationRecord body))
      .ok ⟨body, id⟩

section Revalidation

structure RevalidationRequest where
  payload : Option Bytes
  states : List SuppliedState
  context : EvaluationContextInput

inductive RevalidationVerdict
  | passed (refreshed : Bool) (bindings : List StateBinding) (projectionDigest : Option Digest32)
      (invariants : List InvariantResult) (validUntil : Int)
  | failed (refusal : ControlRefusal) (invariants : List InvariantResult)

structure RevalidationResult where
  verdict : RevalidationVerdict
  authorization : Digest32
  ledgerVersion : Nat
  evaluatedAt : UnixSeconds
  id : Digest32

def revalidationId (authorization : Digest32) (version : Nat) (time : UnixSeconds) (passed : Bool)
    (reason : String) (bindings : List StateBinding) : Option Digest32 :=
  controlDigest (controlWriter ControlTag.REVALIDATION ++ (writeDigest authorization ++
    (writeU64 version ++ (writeI64 time.1 ++ (writeFlag passed ++ (writeStr reason ++
      writeDigestList (sortDigests (bindings.map stateBindingId))))))))

/-- The reservation an authorization names, while it is the active one at its generation. -/
def activeReservation (snapshot : LedgerSnapshot) (record : AuthorizationRecord) :
    ControlResult ReservationRecord :=
  match snapshot.state.reservations.lookup record.reservation with
  | none => refuse .reservationNotActive "RESERVATION_UNKNOWN" "authorization.reservation"
  | some r =>
    if r.generation ≠ record.generation ∨ r.action ≠ record.actionId then
      refuse .reservationNotActive "GENERATION_MISMATCH" "authorization.generation"
    else if !moduleRefsEqual r.module record.module then
      refuse .reservationNotActive "MODULE_MISMATCH" "authorization.module"
    else if r.status ≠ .active then
      refuse .reservationNotActive "RESERVATION_CLOSED" "authorization.reservation"
    else .ok r

def committedPayload (record : AuthorizationRecord) (raw : Option Bytes) : ControlResult Bytes := do
  let payload ← requestPayload raw
  match actionPayloadDigest record.module payload with
  | .error _ => refuse .requestInvalid "PAYLOAD_DIGEST_MISMATCH" "request.payload"
  | .ok digest =>
    if digest ≠ record.action.payloadDigest then
      refuse .requestInvalid "PAYLOAD_DIGEST_MISMATCH" "request.payload"
    else .ok payload

/-- Every binding, under the module it was admitted under, from the binding alone. -/
def readmits (catalog : ModuleCatalog) (ctx : EvaluationContext) (b : StateBinding × ModuleRef) : Bool :=
  match catalog.resolveForLifecycle b.2 "authorization.bindingModules" with
  | .error _ => false
  | .ok under => (readmitBinding b.1 under.ref.domainId under.finalityLadders ctx).isNone

def controlCodeText : ControlCode → String
  | .requestInvalid => "REQUEST_INVALID"
  | .contextInvalid => "CONTEXT_INVALID"
  | .resourceBoundExceeded => "RESOURCE_BOUND_EXCEEDED"
  | .moduleNotFound => "MODULE_NOT_FOUND"
  | .moduleNotConforming => "MODULE_NOT_CONFORMING"
  | .actionInvalid => "ACTION_INVALID"
  | .actionNotCovered => "ACTION_NOT_COVERED"
  | .authorityInvalid => "AUTHORITY_INVALID"
  | .authorityUnavailable => "AUTHORITY_UNAVAILABLE"
  | .delegationRefused => "DELEGATION_REFUSED"
  | .semanticNarrowingUnprovable => "SEMANTIC_NARROWING_UNPROVABLE"
  | .semanticBindingRefused => "SEMANTIC_BINDING_REFUSED"
  | .stateMissing => "STATE_MISSING"
  | .stateStale => "STATE_STALE"
  | .stateUntrusted => "STATE_UNTRUSTED"
  | .stateConflict => "STATE_CONFLICT"
  | .stateFinalityInsufficient => "STATE_FINALITY_INSUFFICIENT"
  | .stateInvalid => "STATE_INVALID"
  | .statePolicyConflict => "STATE_POLICY_CONFLICT"
  | .invariantFailed => "INVARIANT_FAILED"
  | .invariantUnknown => "INVARIANT_UNKNOWN"
  | .demandInvalid => "DEMAND_INVALID"
  | .ledgerConflict => "LEDGER_CONFLICT"
  | .retryExhausted => "RETRY_EXHAUSTED"
  | .authorizationExpired => "AUTHORIZATION_EXPIRED"
  | .reservationNotActive => "RESERVATION_NOT_ACTIVE"
  | .revalidationFailed => "REVALIDATION_FAILED"
  | .revalidationPassed => "REVALIDATION_PASSED"
  | .executionEvidenceExists => "EXECUTION_EVIDENCE_EXISTS"
  | .neverIssuedForbidden => "NEVER_ISSUED_FORBIDDEN"
  | .adapterNotUsable => "ADAPTER_NOT_USABLE"
  | .preExecutionFailed => "PRE_EXECUTION_FAILED"
  | .attemptRefused => "ATTEMPT_REFUSED"

def ControlRefusal.asFailure (r : ControlRefusal) : ControlRefusal :=
  { r with code := .revalidationFailed }

def ControlRefusal.asStatedFailure (r : ControlRefusal) : ControlRefusal :=
  { r with code := .revalidationFailed, reason := controlCodeText r.code ++ "." ++ r.reason }

section
variable (snapshot : LedgerSnapshot) (record : AuthorizationRecord) (time : UnixSeconds)

def failedWith (r : ControlRefusal) (invariants : List InvariantResult) :
    ControlResult RevalidationResult := do
  let id ← written (revalidationId record.id snapshot.version time false r.reason [])
  .ok ⟨.failed r invariants, record.id, snapshot.version, time, id⟩

/-- What was refused is a failed revalidation; what threw still throws. -/
def orFailed {α : Type} (result : ControlResult α) (convert : ControlRefusal → ControlRefusal)
    (invariants : List InvariantResult) (next : α → ControlResult RevalidationResult) :
    ControlResult RevalidationResult :=
  match result with
  | .ok value => next value
  | .error (.refused r) => failedWith snapshot record time (convert r) invariants
  | .error .thrown => .error .thrown

def readmitted : ControlResult RevalidationResult := do
  let id ← written (revalidationId record.id snapshot.version time true "READMITTED" record.stateBindings)
  .ok ⟨.passed false record.stateBindings none [] record.validUntil, record.id, snapshot.version, time, id⟩

def refreshed (evaluation : StateEvaluation) : ControlResult RevalidationResult := do
  let bindings ← written (sortCanonical writeStateBinding (evaluation.admissions.map (·.binding)))
  let validUntil := bindingLifetime bindings record.validUntil
  if validUntil ≤ time.1 then
    failedWith snapshot record time (refusal .revalidationFailed "LIFETIME_EMPTY" "validUntil") evaluation.results
  else do
    let results ← written (invariantResultsDigest evaluation.results)
    let id ← written (revalidationId record.id snapshot.version time true results.toHex bindings)
    .ok ⟨.passed true bindings (some evaluation.projectionDigest) evaluation.results validUntil, record.id,
      snapshot.version, time, id⟩

end

/-- A malformed request, or a reservation no longer active, is a refusal; all else is a value. -/
def revalidateWith (p : Pipeline) (snapshot : LedgerSnapshot) (record : AuthorizationRecord)
    (request : RevalidationRequest) (env : DecisionEnv) : ControlResult RevalidationResult := do
  let ctx ← validateEvaluationContext request.context "context"
  let time := ctx.evaluationTime
  let _ ← activeReservation snapshot record
  let payload ← committedPayload record request.payload
  if record.validUntil ≤ time.1 then
    failedWith snapshot record time
      (refusal .revalidationFailed "AUTHORIZATION_EXPIRED" "authorization.validUntil") []
  else
    orFailed snapshot record time (resolveAuthority snapshot record.action time.1) ControlRefusal.asFailure []
      fun authority =>
    orFailed snapshot record time (env.catalog.resolveForLifecycle record.module "module")
      ControlRefusal.asFailure [] fun module =>
    if rechecked record.stateBindings = [] ∧
        (record.stateBindings.zip record.bindingModules).all (readmits env.catalog ctx) = true then
      readmitted snapshot record time
    else do
      let prepared ← prepareStates request.states "request.states"
      orFailed snapshot record time (evaluateState p ⟨snapshot, authority.effective, module,
          ⟨⟨record.action, record.actionId, payload⟩, .revalidate⟩, prepared, ctx, env.catalog⟩)
        ControlRefusal.asStatedFailure [] fun evaluation =>
      orFailed snapshot record time (invariantVerdict evaluation.results)
        ControlRefusal.asStatedFailure evaluation.results fun _ =>
      refreshed snapshot record time evaluation

end Revalidation

end Mandate.Control
