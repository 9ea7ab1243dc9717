import Mandate.Control.PreExecution
import Mandate.Ledger.Admissions
import Mandate.Ledger.Engine

/-! The control engine: each operation reads a snapshot, recomputes everything from it, and
commits by compare-and-append at that snapshot; on a lost race nothing of it is reused. -/
namespace Mandate.Control
open Core Ledger

/-- An engine over a store; the store is what its programs read and append to. -/
structure ControlEngine where
  registry : ModuleRegistry
  catalog : ModuleCatalog
  adapters : Option AdapterRegistry

def badRetry : ControlRefusal := refusal .requestInvalid "RETRY_POLICY_INVALID" "retry.maxAttempts"

def exhausted : ControlRefusal := refusal .retryExhausted "CAS_CONFLICT" "ledger"

/-- The store refused what was just found applicable: their rules disagree. -/
def storeRefusal (r : LedgerRefusal) : ControlRefusal := { fromLedger r "commit" with code := .ledgerConflict }

variable [Keccak]

def ControlEngine.env (e : ControlEngine) : DecisionEnv := ⟨e.catalog, e.registry, controlRules e.catalog⟩

section Authorize

inductive AuthorizationOutcome
  | authorized (authorization : AuthorizationRecord) (decision : Decision) (snapshot : LedgerSnapshot)
      (attempts : Nat) (conflicts : List Nat)
  | refused (refusal : ControlRefusal) (attempts version : Nat) (conflicts : List Nat)
  | conflict (refusal : ControlRefusal) (attempts : Nat) (conflicts : List Nat)

/-- An authorized action through an adapter that may not carry it reserves nothing. -/
def adapterUsable (adapters : Option AdapterRegistry) (adapter : AdapterRef) : ControlResult Unit :=
  match adapters with
  | none => .ok ()
  | some registry => ofLedger "" (checkAdapterUsable registry adapter .decision "action.adapter")

def decideUsable (e : ControlEngine) (snapshot : LedgerSnapshot) (request : AuthorizationRequest) :
    ControlResult Decision := do
  let decision ← decideWith PRODUCTION_PIPELINE snapshot request e.env
  adapterUsable e.adapters decision.action.adapter
  .ok decision

def authorizeFrom (e : ControlEngine) (principal : PrincipalId) (request : AuthorizationRequest) :
    (left attempt : Nat) → (conflicts : List Nat) → LedgerProgram AuthorizationOutcome
  | 0, attempt, conflicts => .done (.conflict exhausted (attempt - 1) conflicts)
  | left + 1, attempt, conflicts => .read principal fun snapshot =>
    match decideUsable e snapshot request with
    | .error .thrown => .failed
    | .error (.refused r) => .done (.refused r attempt snapshot.version conflicts)
    | .ok decision => .append snapshot.principal snapshot.stamp [decision.event] fun result =>
      match result with
      | .committed committed =>
        match authorizationRecordOf decision committed with
        | .error .thrown => .failed
        | .error (.refused r) => .done (.refused r attempt committed.version conflicts)
        | .ok record => .done (.authorized record decision committed attempt conflicts)
      | .refused r => .done (.refused (storeRefusal r) attempt snapshot.version conflicts)
      | .conflict _ _ _ =>
        authorizeFrom e principal request left (attempt + 1) (conflicts ++ [snapshot.version])

def authorizeAndReserve (e : ControlEngine) (principal : PrincipalId) (request : AuthorizationRequest)
    (retry : RetryPolicy) : LedgerProgram AuthorizationOutcome :=
  match attemptsAllowed retry with
  | none => .done (.refused badRetry 0 0 [])
  | some max => authorizeFrom e principal request max 1 []

end Authorize

section Close

inductive CloseOutcome
  | closed (evidence : ObservationId) (revalidation : RevalidationResult) (snapshot : LedgerSnapshot)
      (attempts : Nat)
  | alreadyClosed (attempts : Nat)
  | refused (refusal : ControlRefusal) (attempts : Nat)
  | conflict (refusal : ControlRefusal) (attempts : Nat)

/-- The reservation, its generation, the authorization and the failed revalidation, under a tag of
its own: no observation of anything else has this identity. -/
def neverIssuedEvidence (record : AuthorizationRecord) (revalidation : RevalidationResult) :
    Option ObservationId :=
  controlDigest (controlWriter ControlTag.NEVER_ISSUED ++ (writeDigest record.reservation ++
    (writeU64 record.generation.1 ++ (writeDigest record.id ++ writeDigest revalidation.id))))

/-- What a close comes to before anything is written: over already, or this event. -/
inductive ClosePlan
  | alreadyClosed
  | close (event : AccountingEvent) (revalidation : RevalidationResult)

def planClose (e : ControlEngine) (snapshot : LedgerSnapshot) (record : AuthorizationRecord)
    (request : RevalidationRequest) : ControlResult ClosePlan :=
  let here := "authorization.reservation"
  match snapshot.state.reservations.lookup record.reservation with
  | none => refuse .reservationNotActive "RESERVATION_UNKNOWN" here
  | some r =>
    if r.generation ≠ record.generation ∨ r.action ≠ record.actionId then
      refuse .reservationNotActive "RESERVATION_UNKNOWN" here
    -- Once an attempt was admitted, the ledger is no evidence that no artifact was issued.
    else if attemptsOf snapshot.state record.reservation ≠ [] then
      refuse .neverIssuedForbidden "ATTEMPT_ADMITTED" here
    else if r.status = .closed then
      if r.demands.all fun d => d.consumed == 0 && d.released == d.reserved then .ok .alreadyClosed
      else refuse .reservationNotActive "RESERVATION_CLOSED" here
    else if !r.demands.all (·.consumed == 0) then
      refuse .executionEvidenceExists "CONSUMPTION_RECORDED" here
    else do
      let revalidation ← revalidateWith PRODUCTION_PIPELINE snapshot record request e.env
      match revalidation.verdict with
      | .passed _ _ _ _ _ => refuse .revalidationPassed "AUTHORIZATION_STILL_VALID" "revalidation"
      | .failed _ _ => do
        let evidence ← written (neverIssuedEvidence record revalidation)
        let event : AccountingEvent := ⟨revalidation.evaluatedAt.1, record.reservation, record.generation,
          evidence, r.demands.map fun d => d.reserved - d.consumed⟩
        let _ ← ofLedger "close" (applyBatch snapshot.state [.close event] e.env.rules)
        .ok (.close event revalidation)

def closeFrom (e : ControlEngine) (record : AuthorizationRecord) (request : RevalidationRequest) :
    (left attempt : Nat) → LedgerProgram CloseOutcome
  | 0, attempt => .done (.conflict exhausted (attempt - 1))
  | left + 1, attempt => .read record.principal fun snapshot =>
    match planClose e snapshot record request with
    | .error .thrown => .failed
    | .error (.refused r) => .done (.refused r attempt)
    | .ok .alreadyClosed => .done (.alreadyClosed attempt)
    | .ok (.close event revalidation) => .append snapshot.principal snapshot.stamp [.close event] fun result =>
      match result with
      | .committed committed => .done (.closed event.evidence revalidation committed attempt)
      | .refused r => .done (.refused (storeRefusal r) attempt)
      | .conflict _ _ _ => closeFrom e record request left (attempt + 1)

def closeNeverIssued (e : ControlEngine) (record : AuthorizationRecord) (request : RevalidationRequest)
    (retry : RetryPolicy) : LedgerProgram CloseOutcome :=
  match attemptsAllowed retry with
  | none => .done (.refused badRetry 0)
  | some max => closeFrom e record request max 1

end Close

section Admit

/-- The adapter's identity of one exact artifact, and its own pre-execution evidence. -/
structure AttemptRequest where
  revalidation : RevalidationRequest
  adapter : AdapterRef
  venueAccount : AccountId
  artifact : ArtifactIdentity
  slot : Option VenueSlot
  validUntil : Int
  requirements : List PreExecutionRequirement
  results : List PreExecutionResult

inductive AttemptOutcome
  | admitted (attempt : Option AttemptRecord) (revalidation : RevalidationResult)
      (preExecution : List PreExecutionResult) (snapshot : LedgerSnapshot) (attempts : Nat)
  | existing (attempt : Option AttemptRecord) (attempts : Nat)
  | refused (refusal : ControlRefusal) (revalidation : Option RevalidationResult) (attempts : Nat)
  | conflict (refusal : ControlRefusal) (attempts : Nat)

def controlRequirements (subject : String) : List PreExecutionRequirement :=
  CONTROL_EVALUATED.map fun kind => ⟨kind, subject⟩

def adapterDigestOf (a : AdapterRef) : Option Digest32 :=
  controlDigest (controlWriter ControlTag.PRE_EXECUTION_EVIDENCE ++ writeAdapterRef a)

/-- The engine's own results: it has just revalidated, and found the module and adapter usable. -/
def controlResults (record : AuthorizationRecord) (adapter : AdapterRef) (revalidation : RevalidationResult)
    (refreshed : Bool) : Option (List PreExecutionResult) := do
  let subject := record.reservation.toHex
  let state ← evidenceDigest .stateRevalidation subject [revalidation.id]
  let trusted ← evidenceDigest .moduleTrust subject [moduleRefDigest record.module]
  let adapterDigest ← adapterDigestOf adapter
  let usable ← evidenceDigest .adapterTrust subject [adapterDigest]
  some [⟨.stateRevalidation, subject, .pass, if refreshed then "REFRESHED" else "READMITTED", state⟩,
    ⟨.moduleTrust, subject, .pass, "ISSUABLE", trusted⟩, ⟨.adapterTrust, subject, .pass, "USABLE", usable⟩]

/-- The first attempt of a reservation, under the identity the ledger derives for it. -/
def admissionOf (record : AuthorizationRecord) (request : AttemptRequest) (requirements revalidation : Digest32) :
    AttemptAdmission :=
  let base : AttemptAdmission := {
    attempt := record.reservation
    ordinal := 1
    reservation := record.reservation
    generation := record.generation
    action := record.actionId
    authorization := record.executionId
    module := record.module
    adapter := record.adapter
    venueAccount := request.venueAccount
    artifact := request.artifact
    slot := request.slot
    validUntil := request.validUntil
    requirements
    revalidation }
  { base with attempt := attemptIdFor base }

structure AdmitPlan where
  admission : AttemptAdmission
  time : Int
  revalidation : RevalidationResult
  preExecution : List PreExecutionResult

abbrev AdmitFault := ControlFault × Option RevalidationResult

def atFault {α : Type} (revalidation : Option RevalidationResult) (result : ControlResult α) :
    Except AdmitFault α := result.mapError fun fault => (fault, revalidation)

def checkExpiry (request : AttemptRequest) (time validUntil : Int) : ControlResult Unit :=
  if request.validUntil ≤ time then refuse .requestInvalid "ARTIFACT_ALREADY_EXPIRED" "request.validUntil"
  else if validUntil < request.validUntil then
    refuse .requestInvalid "ARTIFACT_OUTLIVES_AUTHORIZATION" "request.validUntil"
  else .ok ()

/-- Exactly the authorization's adapter, usable, and a module that may still be issued through. -/
def checkIssuance (e : ControlEngine) (adapters : AdapterRegistry) (record : AuthorizationRecord)
    (request : AttemptRequest) : ControlResult Unit :=
  if !adapterRefsEqual request.adapter record.adapter then
    refuse .adapterNotUsable "ADAPTER_MISMATCH" "request.adapter"
  else do
    ofLedger "" (checkAdapterUsable adapters request.adapter .attempt "request.adapter")
    ofLedger "" (checkModuleIssuable e.registry record.module "authorization.module")

def planAdmission (e : ControlEngine) (adapters : AdapterRegistry) (snapshot : LedgerSnapshot)
    (record : AuthorizationRecord) (request : AttemptRequest) : Except AdmitFault AdmitPlan := do
  atFault none (checkIssuance e adapters record request)
  let v ← atFault none (revalidateWith PRODUCTION_PIPELINE snapshot record request.revalidation e.env)
  match v.verdict with
  | .failed r _ => .error (.refused r, some v)
  | .passed refreshed _ _ _ validUntil => do
    atFault none (checkExpiry request v.evaluatedAt.1 validUntil)
    let control ← atFault none (written (controlResults record request.adapter v refreshed))
    let preExecution ← atFault (some v) (checkPreExecution
      (controlRequirements record.reservation.toHex ++ request.requirements) control request.results)
    let requirements ← atFault none (written (preExecutionDigest preExecution))
    let admission := admissionOf record request requirements v.id
    let _ ← atFault (some v) (ofLedger "attempt"
      (applyBatch snapshot.state [.admitAttempt v.evaluatedAt.1 admission] e.env.rules))
    .ok ⟨admission, v.evaluatedAt.1, v, preExecution⟩

def admitFrom (e : ControlEngine) (adapters : AdapterRegistry) (record : AuthorizationRecord)
    (request : AttemptRequest) : (left attempt : Nat) → LedgerProgram AttemptOutcome
  | 0, attempt => .done (.conflict exhausted (attempt - 1))
  | left + 1, attempt => .read record.principal fun snapshot =>
    match (attemptsOf snapshot.state record.reservation).getLast? with
    | some id => .done (.existing (snapshot.state.attempts.lookup id) attempt)
    | none =>
      match planAdmission e adapters snapshot record request with
      | .error (.thrown, _) => .failed
      | .error (.refused r, revalidation) => .done (.refused r revalidation attempt)
      | .ok plan =>
        .append snapshot.principal snapshot.stamp [.admitAttempt plan.time plan.admission] fun result =>
          match result with
          | .committed committed => .done (.admitted (committed.state.attempts.lookup plan.admission.attempt)
              plan.revalidation plan.preExecution committed attempt)
          | .refused r => .done (.refused (storeRefusal r) (some plan.revalidation) attempt)
          | .conflict _ _ _ => admitFrom e adapters record request left (attempt + 1)

def admitAttempt (e : ControlEngine) (record : AuthorizationRecord) (request : AttemptRequest)
    (retry : RetryPolicy) : LedgerProgram AttemptOutcome :=
  match attemptsAllowed retry, e.adapters with
  | none, _ => .done (.refused badRetry none 0)
  | some _, none => .done (.refused (refusal .requestInvalid "ADAPTER_REGISTRY_MISSING" "engine.adapters") none 0)
  | some max, some adapters => admitFrom e adapters record request max 1

end Admit

end Mandate.Control
