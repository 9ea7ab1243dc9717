import Mandate.Control.Projection
import Mandate.Ledger.Store

/-! The pure decision: one ledger snapshot and one request in, a complete decision or a refusal
out. Everything is computed from these two alone, so a lost race recomputes all of it. -/
namespace Mandate.Control
open Core Ledger Lib.Wire

structure AuthorizationRequest where
  action : Foreign ActionEnvelopeInput
  payload : Option Bytes
  generation : IntegerInput
  states : List SuppliedState
  context : EvaluationContextInput

structure DecisionEnv where
  catalog : ModuleCatalog
  registry : ModuleRegistry
  rules : ReducerRules

/-- An invariant with the definition its registration committed; `none` for a Core term. -/
structure ApplicableInvariant where
  origin : InvariantOrigin
  term : StateInvariantTerm
  binding : Option SemanticTermBinding

abbrev SemanticResolution := Except String DomainModule

structure Pipeline where
  applicable : EffectiveAuthority → List ApplicableInvariant
  facts : LedgerState → ControlResult (List ReservationFact)
  admitNeeds : List EffectiveNeed → List PreparedState → EvaluationContext → String → ControlResult (List Admission)
  aggregate : AggregateSpec → List ParticipantView → List ModuleRef → AggregateEvaluation
  semantics : ApplicableInvariant → ModuleCatalog → SemanticResolution

/-- Every invariant of the lineage, then every principal-global one. -/
def applicableInvariants (e : EffectiveAuthority) : List ApplicableInvariant :=
  e.invariants.map (fun b => ⟨.lineage, b.term, b.binding⟩) ++
    e.principalInvariants.map fun b => ⟨.policy, b.term, b.binding⟩

variable [Keccak]

/-- By exactly the definition its registration committed, or by nothing. -/
def committedSemantics (a : ApplicableInvariant) (catalog : ModuleCatalog) : SemanticResolution :=
  if !isModuleDefined a.term then .error "INVARIANT_DEFINITION_UNRESOLVED"
  else match a.binding with
    | none => .error "SEMANTIC_BINDING_MISSING"
    | some b =>
      if catalog.definitionDisabled b.definition then .error "SEMANTIC_DEFINITION_DISABLED"
      else match catalog.resolveDefinition b.definition with
        | none => .error "SEMANTIC_DEFINITION_UNAVAILABLE"
        | some m => .ok m

def PRODUCTION_PIPELINE : Pipeline where
  applicable := applicableInvariants
  facts s := reservationFacts s "ledger.reservations"
  admitNeeds := Control.admitNeeds
  aggregate := evaluateAggregate
  semantics := committedSemantics

def byDigest {α : Type} (ref : α → ModuleRef) (items : List α) : List α :=
  items.insertionSort fun a b => (moduleRefDigest (ref a)).toNat ≤ (moduleRefDigest (ref b)).toNat

/-- Every module with an unresolved reservation, once each, in canonical order. -/
def activeModules (facts : List ReservationFact) : List ModuleRef :=
  byDigest id (lastOfEach moduleRefDigest (facts.map (·.module)))

section Participants

structure ParticipantDraft where
  module : DomainModule
  acting : Bool
  invariants : List StateInvariantTerm
  aggregates : List AggregateQuery

inductive PlannedEvaluation
  | aggregate (spec : AggregateSpec)
  | module (owner : DomainModule)
  | unresolved (reason : String)

structure PlannedInvariant where
  origin : InvariantOrigin
  term : StateInvariantTerm
  how : PlannedEvaluation

def planInvariant (p : Pipeline) (catalog : ModuleCatalog) (a : ApplicableInvariant) : PlannedInvariant :=
  ⟨a.origin, a.term,
    if isAggregate a.term then
      match aggregateSpecOf a.term with
      | .error reason => .unresolved reason
      | .ok spec => .aggregate spec
    else
      -- The committed definition, never the name's current owner.
      match p.semantics a catalog with
      | .error reason => .unresolved reason
      | .ok owner => .module owner⟩

/-- A module takes part once, however often it is needed; the first implementation met stays. -/
def join (module : DomainModule) (update : ParticipantDraft → ParticipantDraft)
    (drafts : List ParticipantDraft) : List ParticipantDraft :=
  let same (d : ParticipantDraft) : Bool := moduleRefDigest d.module.ref == moduleRefDigest module.ref
  if drafts.any same then drafts.map fun d => if same d then update d else d
  else drafts ++ [update ⟨module, false, [], []⟩]

def sameTerm (a b : StateInvariantTerm) : Bool :=
  a.invariantId == b.invariantId && a.version == b.version && a.params.1 == b.params.1 &&
    a.scope.members == b.scope.members

def joinOwner (drafts : List ParticipantDraft) (x : PlannedInvariant) : List ParticipantDraft :=
  match x.how with
  | .module owner => join owner (fun d =>
      if d.invariants.any fun t => sameTerm t x.term then d
      else { d with invariants := d.invariants ++ [x.term] }) drafts
  | _ => drafts

/-- A contributor that cannot be resolved is absent, and the aggregate then is unknown. -/
def joinContributor (catalog : ModuleCatalog) (spec : AggregateSpec) (drafts : List ParticipantDraft)
    (r : ModuleRef) : List ParticipantDraft :=
  match catalog.resolveForLifecycle r "invariant.contributor" with
  | .ok m => join m (fun d => { d with aggregates := d.aggregates ++ [aggregateQueryFor spec r] }) drafts
  | .error _ => drafts

/-- Its contributors, the acting module and every module with an unresolved reservation. -/
def joinConsulted (catalog : ModuleCatalog) (active : List ModuleRef) (acting : ModuleRef)
    (drafts : List ParticipantDraft) (x : PlannedInvariant) : List ParticipantDraft :=
  match x.how with
  | .aggregate spec => (lastOfEach moduleRefDigest (spec.params.contributors ++ active ++ [acting])).foldl
      (joinContributor catalog spec) drafts
  | _ => drafts

def participantsOf (catalog : ModuleCatalog) (acting : DomainModule) (plan : List PlannedInvariant)
    (active : List ModuleRef) : List ParticipantDraft :=
  plan.foldl (joinConsulted catalog active acting.ref) (plan.foldl joinOwner [⟨acting, true, [], []⟩])

end Participants

section Evaluation

structure ScopedParticipant where
  module : DomainModule
  acting : Bool
  scope : ModuleScope
  foreign : List ReservationId

def scopeOf (principal : PrincipalId) (action : ScopedAction) (facts : List ReservationFact)
    (d : ParticipantDraft) : ScopedParticipant where
  module := d.module
  acting := d.acting
  scope := {
    principal
    action := if d.acting then some action else none
    invariants := d.invariants
    aggregates := distinctQueries d.aggregates
    reservations := (factsFor d.module.ref facts).own }
  foreign := (factsFor d.module.ref facts).foreign

def participantPath (module : DomainModule) (field : String) : String :=
  "participants." ++ moduleName module.ref ++ "." ++ field

def needsOf (policies : List EffectiveStatePolicy) (d : ScopedParticipant) :
    ControlResult (List EffectiveNeed) := do
  let path := participantPath d.module "stateRequirements"
  let raw ← callModule d.module (if d.acting then .actionInvalid else .invariantUnknown) path
    (d.module.stateRequirements d.scope)
  let needs ← checkNeeds d.module raw path
  eachItem (fun need np => effectiveNeed d.module need policies np) path needs 0

def checkPayloads : List Admission → ControlResult Unit
  | [] => .ok ()
  | a :: rest => do
    callModule a.need.module .stateInvalid ("state." ++ a.need.label) (a.need.module.validateStatePayload a.state)
    checkPayloads rest

structure Projected where
  part : ParticipantProjection
  states : List AdmittedState

def Projected.view (p : Projected) : ParticipantView := ⟨p.part.module, p.part.projection, p.states⟩

def projectOne (admissions : List Admission) (d : ScopedParticipant) : ControlResult Projected := do
  let states := statesFor d.module admissions
  let path := participantPath d.module "project"
  let raw ← callModule d.module .invariantUnknown path (d.module.project d.scope states)
  let projection ← checkProjection d.module raw d.scope (states.map (·.stateId)) path
  .ok ⟨{ module := d.module.ref
         implementation := d.module.implementation
         acting := d.acting
         states := sortDigests (states.map (·.stateId))
         reservations := d.scope.reservations.map (·.reservation)
         foreignPending := sortDigests d.foreign
         projection }, states⟩

/-- What the owner of a term says of its own projection; whatever is wrong with it is unknown. -/
def evaluateOwned (owner : DomainModule) (term : StateInvariantTerm) (part : ParticipantProjection) :
    ControlResult AggregateEvaluation :=
  let path := "invariants." ++ term.invariantId.1
  let judged (e : InvariantEvaluation) : AggregateEvaluation :=
    ⟨e.outcome, e.reason.1, e.observed, e.bound, part.states, part.reservations⟩
  let unjudged (reason : String) : AggregateEvaluation :=
    ⟨.unknown, reason, none, none, part.states, part.reservations⟩
  -- Its view of the domain is incomplete while another module's reservations are pending there.
  if part.foreignPending ≠ [] then .ok (unjudged "PENDING_UNDER_OTHER_MODULE")
  else match callModule owner .invariantUnknown path (owner.evaluateInvariant term part.projection)
      >>= fun raw => checkEvaluation owner raw path with
    | .ok e => .ok (judged e)
    | .error (.refused r) => .ok (unjudged r.reason)
    | .error .thrown => .error .thrown

def resultOf (x : PlannedInvariant) (evaluator : Evaluator) (e : AggregateEvaluation)
    (projection : Digest32) (version : Nat) : InvariantResult :=
  ⟨x.origin, x.term, evaluator, e.outcome, e.reason, e.observed, e.bound, e.states, e.reservations,
    projection, version⟩

def evaluatePlanned (p : Pipeline) (projected : List Projected) (active : List ModuleRef)
    (projection : Digest32) (version : Nat) (x : PlannedInvariant) : ControlResult InvariantResult :=
  match x.how with
  | .unresolved reason => .ok (resultOf x .none (notEvaluable reason) projection version)
  | .aggregate spec =>
    .ok (resultOf x .core (p.aggregate spec (projected.map Projected.view) active) projection version)
  | .module owner =>
    match projected.find? fun q => moduleRefDigest q.part.module == moduleRefDigest owner.ref with
    | none => .error .thrown
    | some q => do
      let e ← evaluateOwned owner x.term q.part
      .ok (resultOf x (.module owner.ref) e projection version)

structure StateEvaluation where
  admissions : List Admission
  projection : ProjectionRecord
  projectionDigest : Digest32
  results : List InvariantResult
  actingProjection : ModuleProjection

structure EvaluationInput where
  snapshot : LedgerSnapshot
  effective : EffectiveAuthority
  acting : DomainModule
  action : ScopedAction
  prepared : List PreparedState
  ctx : EvaluationContext
  catalog : ModuleCatalog

/-- Admission, projection over what is pending, and every applicable invariant, not only up to the
first failure; the caller takes the verdict. -/
def evaluateState (p : Pipeline) (input : EvaluationInput) : ControlResult StateEvaluation := do
  let applicable := p.applicable input.effective
  if MAX_INVARIANTS < applicable.length then refuse .resourceBoundExceeded "TOO_MANY_INVARIANTS" "invariants"
  else do
    let facts ← p.facts input.snapshot.state
    let plan := applicable.map (planInvariant p input.catalog)
    let active := activeModules facts
    let drafts := participantsOf input.catalog input.acting plan active
    if MAX_PARTICIPANTS < drafts.length then
      refuse .resourceBoundExceeded "TOO_MANY_PARTICIPANTS" "participants"
    else do
      let asked := (byDigest (·.module.ref) drafts).map (scopeOf input.snapshot.principal input.action facts)
      let needs ← asked.mapM (needsOf input.effective.statePolicies)
      let merged ← mergeNeeds needs.flatten "requirements"
      let admissions ← p.admitNeeds merged input.prepared input.ctx "state"
      checkPayloads admissions
      let projected ← asked.mapM (projectOne admissions)
      let record : ProjectionRecord := ⟨input.snapshot.version, projected.map (·.part)⟩
      let digest ← written (projectionDigest record)
      let results ← plan.mapM (evaluatePlanned p projected active digest input.snapshot.version)
      let acting ← written (projected.find? (·.part.acting))
      .ok ⟨admissions, record, digest, results, acting.part.projection⟩

end Evaluation

section Decision

structure Decision where
  principal : PrincipalId
  ledgerVersion : Nat
  ledgerHead : LedgerHeadDigest
  evaluatedAt : UnixSeconds
  context : Digest32
  action : ActionEnvelope
  actionId : ActionId
  generation : ReservationGeneration
  module : ModuleRef
  implementation : ImplementationDigest
  analysis : ActionAnalysis
  lineage : List AuthorityId
  policy : PrincipalPolicyId
  effective : EffectiveAuthority
  admissions : List Admission
  bindings : List StateBinding
  projection : ProjectionRecord
  projectionDigest : Digest32
  invariants : List InvariantResult
  invariantResultsDigest : Digest32
  demands : List LedgerDemand
  plan : ChargePlan
  planDigest : Digest32
  event : LedgerEvent
  validUntil : Int

def chargePlanDigest (plan : ChargePlan) : Option Digest32 :=
  controlDigest (controlWriter ControlTag.CHARGE_PLAN ++ writeChargePlan plan)

def staleAt (b : StateBinding) : Option Int :=
  match b.requirement.freshness with
  | .age maxAge | .version _ maxAge => some (b.observedAt.1 + maxAge.1)
  | .blocks _ | .sequence => none

/-- `stop`, shortened to the earliest end of a binding that must still be fresh at execution. -/
def bindingLifetime (bindings : List StateBinding) (stop : Int) : Int :=
  bindings.foldl (fun out b =>
    if b.requirement.atExecution.kind ≠ .boundedByFreshness then out
    else
      let out := (staleAt b).elim out (min out ·)
      b.validUntil.elim out fun stop => min out stop.1) stop

/-- The action's end, every lineage node's, the module's own cap and every such binding's. -/
def authorizationLifetime (action : ActionEnvelope) (effective : EffectiveAuthority)
    (analysis : ActionAnalysis) (bindings : List StateBinding) : Int :=
  let stop := min action.window.expiresAt.1 effective.validity.expiresAt
  bindingLifetime bindings (analysis.validUntil.elim stop (min stop ·))

structure CheckedRequest where
  action : ActionEnvelope
  payload : Bytes
  generation : ReservationGeneration

def orInvalidRequest {α : Type} (result : CoreResult α) : ControlResult α :=
  result.mapError fun error => .refused (refusal .requestInvalid (coreErrorText error.code) error.path)

def requestAction (raw : Foreign ActionEnvelopeInput) (path : String) : ControlResult ActionEnvelope :=
  match raw with
  | .throwing => refuse .requestInvalid "WRONG_TYPE" path
  | .faulty error => refuse .requestInvalid (coreErrorText error.code) error.path
  | .given input => orInvalidRequest (validateActionEnvelope input path)

def requestPayload (raw : Option Bytes) : ControlResult Bytes :=
  raw.elim (refuse .requestInvalid "WRONG_TYPE" "request.payload") .ok

def checkRequest (request : AuthorizationRequest) : ControlResult CheckedRequest := do
  let action ← requestAction request.action "request.action"
  let payload ← requestPayload request.payload
  let generation ← orInvalidRequest (parseReservationGeneration request.generation "request.generation")
  .ok ⟨action, payload, generation⟩

structure ResolvedAuthority where
  lineage : List NodeRecord
  policy : PolicyRecord
  effective : EffectiveAuthority

/-- The principal, the lineage valid at the time, the actor its leaf's holder, and the meet. -/
def resolveAuthority (snapshot : LedgerSnapshot) (action : ActionEnvelope) (time : Int) :
    ControlResult ResolvedAuthority :=
  if !partyIdsEqual action.principal snapshot.principal then
    refuse .authorityInvalid "PRINCIPAL_MISMATCH" "action.principal"
  else match snapshot.state.policy with
    | none => refuse .authorityInvalid "PRINCIPAL_POLICY_MISSING" "action.principal"
    | some policy => do
      let lineage ← ofLedger "" (resolveLineage snapshot.state action.authority "action.authority")
      ofLedger "" (checkLineageValid snapshot.state lineage time "action.authority")
      let leaf ← written lineage.head?
      if !partyIdsEqual action.actor leaf.grant.holder then
        refuse .authorityInvalid "ACTOR_NOT_HOLDER" "action.actor"
      else do
        let effective ← ofLedger "" (effectiveAuthority lineage policy.policy "action.authority" policy.bindings)
        .ok ⟨lineage, policy, effective⟩

/-- The payload the envelope commits to, inside the action's own window. -/
def checkAction (action : ActionEnvelope) (payload : Bytes) (time : Int) : ControlResult Unit :=
  match actionPayloadDigest action.module payload with
  | .error error => refuse .actionInvalid (coreErrorText error.code) "request.payload"
  | .ok digest =>
    if digest ≠ action.payloadDigest then refuse .actionInvalid "PAYLOAD_DIGEST_MISMATCH" "request.payload"
    else if time < action.window.notBefore.1 then
      refuse .actionInvalid "ACTION_NOT_YET_VALID" "action.validFrom"
    else if action.window.expiresAt.1 ≤ time then refuse .actionInvalid "ACTION_EXPIRED" "action.expiresAt"
    else .ok ()

def demandInput (d : LedgerDemand) : ContributionInput :=
  ⟨quantityInputOf d.quantity, d.market.map resourceOfInputOf, d.account.map resourceOfInputOf, d.required⟩

def planInputOf (action : ActionEnvelope) (id : ActionId) (generation : ReservationGeneration)
    (module : DomainModule) (demands : List LedgerDemand) : ChargePlanInput :=
  ⟨partyIdInputOf action.principal, action.authority.toHex, partyIdInputOf action.actor, id.toHex,
    .bigint generation.1, moduleRefInputOf module.ref, module.implementation.1.toHex, demands.map demandInput⟩

def analyse (module : DomainModule) (context : ActionContext) : ControlResult ActionAnalysis := do
  let raw ← callModule module .actionInvalid "module.validateAction" (module.validateAction context)
  checkAnalysis module raw context "module.validateAction"

def demandsOf (module : DomainModule) (context : ActionContext) (projection : ModuleProjection) :
    ControlResult (List LedgerDemand) := do
  let raw ← callModule module .demandInvalid "module.deriveLedgerDemands"
    (module.deriveLedgerDemands context projection)
  checkDemands module raw context "module.deriveLedgerDemands"

def decideWith (p : Pipeline) (snapshot : LedgerSnapshot) (request : AuthorizationRequest)
    (env : DecisionEnv) : ControlResult Decision := do
  let ctx ← validateEvaluationContext request.context "context"
  let time := ctx.evaluationTime.1
  let req ← checkRequest request
  let action := req.action
  let module ← env.catalog.resolveForDecision action.module "action.module"
  checkAction action req.payload time
  let authority ← resolveAuthority snapshot action time
  let context : ActionContext := ⟨action, actionId action, req.payload⟩
  let analysis ← analyse module context
  checkCoverage authority.effective action analysis time
  let prepared ← prepareStates request.states "request.states"
  let evaluation ← evaluateState p
    ⟨snapshot, authority.effective, module, ⟨context, .propose⟩, prepared, ctx, env.catalog⟩
  invariantVerdict evaluation.results
  let demands ← demandsOf module context evaluation.actingProjection
  let plan ← ofLedger "plan"
    (validateChargePlan (planInputOf action context.actionId req.generation module demands) "plan")
  ofLedger "" (checkModuleConformance env.registry plan.module plan.implementation "plan.module")
  let event ← ofLedger "" (deriveReserveEvent snapshot.state plan time)
  let _ ← ofLedger "" (applyBatch snapshot.state [event] env.rules)
  let bindings ← written (sortCanonical writeStateBinding (evaluation.admissions.map (·.binding)))
  let validUntil := authorizationLifetime action authority.effective analysis bindings
  if validUntil ≤ time then refuse .authorizationExpired "LIFETIME_EMPTY" "validUntil"
  else do
    let results ← written (invariantResultsDigest evaluation.results)
    let planDigest ← written (chargePlanDigest plan)
    .ok {
      principal := snapshot.principal
      ledgerVersion := snapshot.version
      ledgerHead := snapshot.head
      evaluatedAt := ctx.evaluationTime
      context := ctx.digest
      action
      actionId := context.actionId
      generation := req.generation
      module := module.ref
      implementation := module.implementation
      analysis
      lineage := authority.lineage.map (·.id)
      policy := authority.policy.id
      effective := authority.effective
      admissions := evaluation.admissions
      bindings
      projection := evaluation.projection
      projectionDigest := evaluation.projectionDigest
      invariants := evaluation.results
      invariantResultsDigest := results
      demands
      plan
      planDigest
      event
      validUntil }

end Decision

end Mandate.Control
