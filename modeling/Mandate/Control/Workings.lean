import Mandate.Control.Engine

/-! What a decision was worked out from: each step of the pipeline with the value it came to. Every
result about decisions reads it here, and none unfolds the pipeline again. -/
namespace Mandate.Control
open Core Ledger

structure Workings where
  ctx : EvaluationContext
  req : CheckedRequest
  module : DomainModule
  authority : ResolvedAuthority
  analysis : ActionAnalysis
  prepared : List PreparedState
  evaluation : StateEvaluation

variable [Keccak]

def Workings.context (w : Workings) : ActionContext := ⟨w.req.action, actionId w.req.action, w.req.payload⟩

def Workings.input (w : Workings) (snapshot : LedgerSnapshot) (env : DecisionEnv) : EvaluationInput :=
  ⟨snapshot, w.authority.effective, w.module, ⟨w.context, .propose⟩, w.prepared, w.ctx, env.catalog⟩

structure Workings.Yields (w : Workings) (p : Pipeline) (snapshot : LedgerSnapshot) (request : AuthorizationRequest)
    (env : DecisionEnv) (d : Decision) : Prop where
  context : validateEvaluationContext request.context "context" = .ok w.ctx
  checked : checkRequest request = .ok w.req
  module : env.catalog.resolveForDecision w.req.action.module "action.module" = .ok w.module
  action : checkAction w.req.action w.req.payload w.ctx.evaluationTime.1 = .ok ()
  authority : resolveAuthority snapshot w.req.action w.ctx.evaluationTime.1 = .ok w.authority
  analysis : analyse w.module w.context = .ok w.analysis
  covered : checkCoverage w.authority.effective w.req.action w.analysis w.ctx.evaluationTime.1 = .ok ()
  prepared : prepareStates request.states "request.states" = .ok w.prepared
  evaluation : evaluateState p (w.input snapshot env) = .ok w.evaluation
  verdict : invariantVerdict w.evaluation.results = .ok ()
  demands : demandsOf w.module w.context w.evaluation.actingProjection = .ok d.demands
  plan : validateChargePlan (planInputOf w.req.action (actionId w.req.action) w.req.generation w.module d.demands)
    "plan" = .ok d.plan
  conforms : checkModuleConformance env.registry d.plan.module d.plan.implementation "plan.module" = .ok ()
  event : deriveReserveEvent snapshot.state d.plan w.ctx.evaluationTime.1 = .ok d.event
  applied : ∃ applied, applyBatch snapshot.state [d.event] env.rules = .ok applied
  bindings : sortCanonical writeStateBinding (w.evaluation.admissions.map (·.binding)) = some d.bindings
  lifetime : d.validUntil = authorizationLifetime w.req.action w.authority.effective w.analysis d.bindings
  alive : w.ctx.evaluationTime.1 < d.validUntil
  results : invariantResultsDigest w.evaluation.results = some d.invariantResultsDigest
  planDigest : chargePlanDigest d.plan = some d.planDigest
  stated : d.principal = snapshot.principal ∧ d.ledgerVersion = snapshot.version ∧ d.ledgerHead = snapshot.head ∧
    d.evaluatedAt = w.ctx.evaluationTime ∧ d.context = w.ctx.digest ∧ d.action = w.req.action ∧
    d.actionId = actionId w.req.action ∧ d.generation = w.req.generation ∧ d.module = w.module.ref ∧
    d.implementation = w.module.implementation ∧ d.analysis = w.analysis ∧
    d.lineage = w.authority.lineage.map (·.id) ∧ d.policy = w.authority.policy.id ∧
    d.effective = w.authority.effective ∧ d.admissions = w.evaluation.admissions ∧
    d.projection = w.evaluation.projection ∧ d.projectionDigest = w.evaluation.projectionDigest ∧
    d.invariants = w.evaluation.results

variable {path : String}

omit [Keccak] in
theorem ofLedger_ok {α : Type} {result : LedgerResult α} {value : α} :
    ofLedger path result = .ok value ↔ result = .ok value := by
  cases result with
  | ok found => simp [ofLedger, Except.mapError]
  | error fault => cases fault <;> simp [ofLedger, Except.mapError]

omit [Keccak] in
theorem written_ok {β : Type} {found : Option β} {value : β} : written found = .ok value ↔ found = some value := by
  cases found <;> simp [written]

variable {p : Pipeline} {snapshot : LedgerSnapshot} {request : AuthorizationRequest} {env : DecisionEnv}
  {d : Decision}

theorem decideWith_ok (ok : decideWith p snapshot request env = .ok d) :
    ∃ w : Workings, w.Yields p snapshot request env d := by
  unfold decideWith at ok
  dsimp only at ok
  obtain ⟨ctx, context, ok⟩ := except_bind_success ok
  obtain ⟨req, checked, ok⟩ := except_bind_success ok
  obtain ⟨module, resolved, ok⟩ := except_bind_success ok
  obtain ⟨⟨⟩, committed, ok⟩ := except_bind_success ok
  obtain ⟨authority, held, ok⟩ := except_bind_success ok
  obtain ⟨analysis, analysed, ok⟩ := except_bind_success ok
  obtain ⟨⟨⟩, covered, ok⟩ := except_bind_success ok
  obtain ⟨prepared, supplied, ok⟩ := except_bind_success ok
  obtain ⟨evaluation, evaluated, ok⟩ := except_bind_success ok
  obtain ⟨⟨⟩, verdict, ok⟩ := except_bind_success ok
  obtain ⟨demands, derived, ok⟩ := except_bind_success ok
  obtain ⟨plan, planned, ok⟩ := except_bind_success ok
  obtain ⟨⟨⟩, conforms, ok⟩ := except_bind_success ok
  obtain ⟨event, reserving, ok⟩ := except_bind_success ok
  obtain ⟨applied, accepted, ok⟩ := except_bind_success ok
  obtain ⟨bindings, sorted, ok⟩ := except_bind_success ok
  split at ok
  · cases ok
  · rename_i alive
    obtain ⟨results, digested, ok⟩ := except_bind_success ok
    obtain ⟨planDigest, named, ok⟩ := except_bind_success ok
    obtain rfl := Except.ok.inj ok
    exact ⟨⟨ctx, req, module, authority, analysis, prepared, evaluation⟩, {
      context := context
      checked := checked
      module := resolved
      action := committed
      authority := held
      analysis := analysed
      covered := covered
      prepared := supplied
      evaluation := evaluated
      verdict := verdict
      demands := derived
      plan := ofLedger_ok.mp planned
      conforms := ofLedger_ok.mp conforms
      event := ofLedger_ok.mp reserving
      applied := ⟨applied, ofLedger_ok.mp accepted⟩
      bindings := written_ok.mp sorted
      lifetime := rfl
      alive := not_le.mp alive
      results := written_ok.mp digested
      planDigest := written_ok.mp named
      stated := by simp only [and_self] }⟩

/-- The plan names the action and the generation, and the event reserves exactly that plan. -/
structure Workings.Reserves (w : Workings) (d : Decision) (time : Int) (lineage : List AuthorityId)
    (policy : PrincipalPolicyId) (legs : List (List EventLeg)) : Prop where
  event : d.event = .reserve time d.plan lineage policy legs
  action : d.plan.action = actionId w.req.action
  generation : d.plan.generation = w.req.generation

omit [Keccak] in
theorem validateChargePlan_names {input : ChargePlanInput} {plan : ChargePlan}
    (ok : validateChargePlan input path = .ok plan) :
    parseDigest input.action (atField path "action") = .ok plan.action ∧
      parseReservationGeneration input.generation (atField path "generation") = .ok plan.generation := by
  have taken : ∀ {α : Type} {result : CoreResult α} {value : α},
      Ledger.orMalformed path result = .ok value → result = .ok value := by
    intro α result value ok
    cases result with
    | ok found => simpa [Ledger.orMalformed, Except.mapError] using ok
    | error fault => cases ok
  unfold validateChargePlan at ok
  obtain ⟨principal, _, ok⟩ := except_bind_success ok
  obtain ⟨authority, _, ok⟩ := except_bind_success ok
  obtain ⟨actor, _, ok⟩ := except_bind_success ok
  obtain ⟨action, named, ok⟩ := except_bind_success ok
  obtain ⟨generation, counted, ok⟩ := except_bind_success ok
  obtain ⟨module, _, ok⟩ := except_bind_success ok
  obtain ⟨implementation, _, ok⟩ := except_bind_success ok
  dsimp only at ok
  by_cases bounded : input.contributions.length ≤ MAX_PLAN_CONTRIBUTIONS
  · by_cases nonempty : input.contributions ≠ []
    · rw [dif_pos bounded, dif_pos nonempty] at ok
      obtain ⟨contributions, _, ok⟩ := except_bind_success ok
      obtain ok := Except.ok.inj ok
      rw [← ok]
      exact ⟨taken named, taken counted⟩
    · rw [dif_pos bounded, dif_neg nonempty] at ok
      cases ok
  · rw [dif_neg bounded] at ok
    cases ok

theorem Workings.Yields.reserves {w : Workings} (yields : w.Yields p snapshot request env d) :
    ∃ lineage policy legs, w.Reserves d w.ctx.evaluationTime.1 lineage policy legs := by
  obtain ⟨derived, _, event⟩ := except_bind_success yields.event
  obtain ⟨policy, _, event⟩ := except_bind_success event
  obtain ⟨action, generation⟩ := validateChargePlan_names yields.plan
  refine ⟨_, _, _, ⟨(Except.ok.inj event).symm, ?_, ?_⟩⟩
  · exact (Except.ok.inj ((parseDigest_toHex _ _).symm.trans action)).symm
  · exact (Except.ok.inj ((parseReservationGeneration_self _ _).symm.trans generation)).symm

end Mandate.Control
