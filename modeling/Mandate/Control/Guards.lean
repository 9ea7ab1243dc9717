import Mandate.Control.Workings
import Mandate.Lib.Guarded

/-! What the engine's operations may commit: each appends only the event it worked out from the
snapshot it read last, to the log it read it from. -/
namespace Mandate.Control
open Core Ledger Lib.Optimistic Lib.Machine List

section Guards
variable [Keccak] {rules : ReducerRules}

abbrev LedgerGuarded {α : Type} (rules : ReducerRules)
    (decides : PrincipalId → LedgerSnapshot → List LedgerEvent → Prop) (program : LedgerProgram α) : Prop :=
  Guarded (inMemoryStore rules) LedgerSnapshot.stamp (LogSound rules) decides program none

theorem shown_principal {principal : PrincipalId} {snapshot : LedgerSnapshot}
    (shown : ∃ log, LogSound rules principal log ∧ (inMemoryStore rules).view principal log = snapshot) :
    snapshot.principal = principal := by
  obtain ⟨log, _, rfl⟩ := shown
  rfl

/-- A reservation of exactly what the engine decides on the snapshot. -/
def Authorizes (e : ControlEngine) (principal : PrincipalId) (request : AuthorizationRequest)
    (key : PrincipalId) (snapshot : LedgerSnapshot) (batch : List LedgerEvent) : Prop :=
  key = principal ∧ ∃ d, decideUsable e snapshot request = .ok d ∧ batch = [d.event]

theorem authorizeFrom_guarded (e : ControlEngine) (principal : PrincipalId) (request : AuthorizationRequest)
    (left attempt : Nat) (conflicts : List Nat) :
    LedgerGuarded rules (Authorizes e principal request) (authorizeFrom e principal request left attempt conflicts) := by
  induction left generalizing attempt conflicts with
  | zero => trivial
  | succ left ih =>
    intro snapshot shown
    dsimp only
    cases decided : decideUsable e snapshot request with
    | error fault => cases fault <;> trivial
    | ok d =>
      rw [shown_principal shown]
      refine ⟨⟨snapshot, rfl, rfl, rfl, d, decided, rfl⟩, fun reply => ?_⟩
      cases reply with
      | committed after =>
        dsimp only
        cases authorizationRecordOf d after with
        | error fault => cases fault <;> trivial
        | ok record => trivial
      | refused => trivial
      | conflict => exact ih _ _

theorem authorizeAndReserve_guarded (e : ControlEngine) (principal : PrincipalId) (request : AuthorizationRequest)
    (retry : RetryPolicy) :
    LedgerGuarded rules (Authorizes e principal request) (authorizeAndReserve e principal request retry) := by
  unfold authorizeAndReserve
  cases attemptsAllowed retry with
  | none => trivial
  | some max => exact authorizeFrom_guarded e principal request max 1 []

end Guards

section Admission
variable [Keccak] {snapshot : LedgerSnapshot} {record : AuthorizationRecord} {v : RevalidationResult}

omit [Keccak] in
theorem bindingLifetime_le (bindings : List StateBinding) (stop : Int) : bindingLifetime bindings stop ≤ stop := by
  unfold bindingLifetime
  induction bindings generalizing stop with
  | nil => exact Int.le_refl stop
  | cons b rest ih =>
    rw [List.foldl_cons]
    refine (ih _).trans ?_
    split
    · exact Int.le_refl stop
    · cases staleAt b <;> cases b.validUntil <;> simp

variable {time : UnixSeconds} {invariants : List InvariantResult}

theorem failedWith_verdict {r : ControlRefusal}
    (failed : failedWith snapshot record time r invariants = .ok v) : v.verdict = .failed r invariants := by
  obtain ⟨id, _, made⟩ := except_bind_success failed
  rw [← Except.ok.inj made]

theorem orFailed_passed {α : Type} {result : ControlResult α} {convert : ControlRefusal → ControlRefusal}
    {next : α → ControlResult RevalidationResult}
    (ok : orFailed snapshot record time result convert invariants next = .ok v)
    (passed : ∀ r results, v.verdict ≠ .failed r results) : ∃ value, result = .ok value ∧ next value = .ok v := by
  unfold orFailed at ok
  cases result with
  | ok value => exact ⟨value, rfl, ok⟩
  | error fault =>
    cases fault with
    | thrown => cases ok
    | refused r => exact absurd (failedWith_verdict ok) (passed _ _)

theorem revalidateWith_lifetime {p : Pipeline} {request : RevalidationRequest} {env : DecisionEnv} {fresh : Bool}
    {bindings : List StateBinding} {digest : Option Digest32} {results : List InvariantResult} {validUntil : Int}
    (ok : revalidateWith p snapshot record request env = .ok v)
    (verdict : v.verdict = .passed fresh bindings digest results validUntil) : validUntil ≤ record.validUntil := by
  have passed : ∀ r results, v.verdict ≠ .failed r results := by
    intro r results same
    rw [verdict] at same
    cases same
  unfold revalidateWith at ok
  obtain ⟨ctx, _, ok⟩ := except_bind_success ok
  obtain ⟨r, _, ok⟩ := except_bind_success ok
  obtain ⟨payload, _, ok⟩ := except_bind_success ok
  split at ok
  · exact absurd (failedWith_verdict ok) (passed _ _)
  · obtain ⟨authority, _, ok⟩ := orFailed_passed ok passed
    obtain ⟨module, _, ok⟩ := orFailed_passed ok passed
    split at ok
    · obtain ⟨id, _, made⟩ := except_bind_success ok
      obtain rfl := Except.ok.inj made
      cases verdict
      exact Int.le_refl _
    · obtain ⟨prepared, _, ok⟩ := except_bind_success ok
      obtain ⟨evaluation, _, ok⟩ := orFailed_passed ok passed
      obtain ⟨_, _, ok⟩ := orFailed_passed ok passed
      obtain ⟨bound, _, ok⟩ := except_bind_success ok
      dsimp only at ok
      split at ok
      · exact absurd (failedWith_verdict ok) (passed _ _)
      · obtain ⟨told, _, ok⟩ := except_bind_success ok
        obtain ⟨id, _, made⟩ := except_bind_success ok
        obtain rfl := Except.ok.inj made
        cases verdict
        exact bindingLifetime_le _ _

omit [Keccak] in
theorem atFault_ok {α : Type} {told : Option RevalidationResult} {result : ControlResult α} {value : α}
    (ok : atFault told result = .ok value) : result = .ok value := by
  cases result with
  | error _ => cases ok
  | ok found => exact congrArg Except.ok (Except.ok.inj ok)

theorem planAdmission_ok {e : ControlEngine} {adapters : AdapterRegistry} {request : AttemptRequest} {plan : AdmitPlan}
    (planned : planAdmission e adapters snapshot record request = .ok plan) :
    (∃ requirements revalidation, plan.admission = admissionOf record request requirements revalidation) ∧
      request.validUntil ≤ record.validUntil := by
  unfold planAdmission at planned
  obtain ⟨_, _, planned⟩ := except_bind_success planned
  obtain ⟨v, revalidated, planned⟩ := except_bind_success planned
  split at planned
  · cases planned
  next verdict =>
    obtain ⟨_, expiry, planned⟩ := except_bind_success planned
    obtain ⟨_, _, planned⟩ := except_bind_success planned
    obtain ⟨_, _, planned⟩ := except_bind_success planned
    obtain ⟨requirements, _, planned⟩ := except_bind_success planned
    obtain ⟨_, _, planned⟩ := except_bind_success planned
    obtain rfl := Except.ok.inj planned
    have within := revalidateWith_lifetime (atFault_ok revalidated) verdict
    refine ⟨⟨requirements, v.id, rfl⟩, ?_⟩
    have expiry := atFault_ok expiry
    unfold checkExpiry at expiry
    split at expiry
    · cases expiry
    · split at expiry
      · cases expiry
      next inside => exact (Int.not_lt.mp inside).trans within

end Admission

section Standing
variable [Keccak] {rules : ReducerRules} {s : LedgerState} {principal : PrincipalId}

theorem mem_own {facts : List ReservationFact} {path : String} {module : ModuleRef} {id : ReservationId}
    (reachable : Reachable rules principal s) (ok : reservationFacts s path = .ok facts) :
    id ∈ (factsFor module facts).own.map (·.reservation) ↔ ∃ r, s.reservations.lookup id = some r ∧
      r.status = .active ∧ moduleRefsEqual r.module module = true := by
  unfold reservationFacts at ok
  dsimp only at ok
  split at ok
  · cases ok
  · obtain rfl := Except.ok.inj ok
    simp only [factsFor, orderedReservations, sortDigests, mem_map, mem_filter, mem_filterMap, mem_insertionSort,
      beq_iff_eq]
    constructor
    · rintro ⟨_, ⟨⟨r, ⟨⟨key, _, known⟩, active⟩, rfl⟩, owned⟩, rfl⟩
      obtain rfl : r.id = key := reachable.books.id known
      exact ⟨r, known, active, owned⟩
    · rintro ⟨r, known, active, owned⟩
      have listed := AList.mem_keys.mp (AList.lookup_isSome.mp (Option.isSome_of_mem known))
      exact ⟨factOf r, ⟨⟨r, ⟨⟨id, listed, known⟩, active⟩, rfl⟩, owned⟩, reachable.books.id known⟩

omit [Keccak] in
theorem invariantVerdict_ok {results : List InvariantResult} (ok : invariantVerdict results = .ok ()) :
    ∀ r ∈ results, r.outcome = .holds := by
  intro r listed
  obtain ⟨sorted, order, ok⟩ := except_bind_success ok
  have order := written_ok.mp order
  unfold canonicalResults sortCanonical at order
  split at order
  · obtain rfl := Option.some.inj order
    have listed := (mem_insertionSort (encodedLE writeInvariantResult)).mpr listed
    split at ok
    · cases ok
    · rename_i unviolated
      split at ok
      · cases ok
      · rename_i known
        have violated := find?_eq_none.mp unviolated r listed
        have unknown := find?_eq_none.mp known r listed
        cases outcome : r.outcome <;> simp_all
  · cases order

theorem evaluatePlanned_term {p : Pipeline} {projected : List Projected} {active : List ModuleRef} {digest : Digest32}
    {version : Nat} {x : PlannedInvariant} {r : InvariantResult}
    (ok : evaluatePlanned p projected active digest version x = .ok r) : (r.origin, r.term) = (x.origin, x.term) := by
  unfold evaluatePlanned at ok
  split at ok
  · rw [← Except.ok.inj ok, resultOf]
  · rw [← Except.ok.inj ok, resultOf]
  · split at ok
    · cases ok
    · obtain ⟨_, _, ok⟩ := except_bind_success ok
      rw [← Except.ok.inj ok, resultOf]

theorem evaluateState_ok {input : EvaluationInput} {out : StateEvaluation}
    (ok : evaluateState PRODUCTION_PIPELINE input = .ok out) :
    out.results.map (fun r => (r.origin, r.term)) =
        (applicableInvariants input.effective).map (fun a => (a.origin, a.term)) ∧
      (∃ p ∈ out.projection.participants, p.acting = true) ∧
      ∃ facts, reservationFacts input.snapshot.state "ledger.reservations" = .ok facts ∧
        ∀ p ∈ out.projection.participants, p.reservations = (factsFor p.module facts).own.map (·.reservation) := by
  unfold evaluateState at ok
  dsimp only at ok
  split at ok
  · cases ok
  · obtain ⟨facts, found, ok⟩ := except_bind_success ok
    split at ok
    · cases ok
    · obtain ⟨needs, _, ok⟩ := except_bind_success ok
      obtain ⟨merged, _, ok⟩ := except_bind_success ok
      obtain ⟨admissions, _, ok⟩ := except_bind_success ok
      obtain ⟨_, _, ok⟩ := except_bind_success ok
      obtain ⟨projected, parts, ok⟩ := except_bind_success ok
      obtain ⟨digest, _, ok⟩ := except_bind_success ok
      obtain ⟨results, evaluated, ok⟩ := except_bind_success ok
      obtain ⟨acting, leads, ok⟩ := except_bind_success ok
      have leads := written_ok.mp leads
      obtain rfl := Except.ok.inj ok
      have acts := find?_some leads
      refine ⟨?_, ⟨_, mem_map_of_mem (mem_of_find?_eq_some leads), acts⟩, facts, found, forall_mem_map.mpr ?_⟩
      · have terms := (forall₂_map_left_iff.mp (except_mapM_success evaluated)).imp fun _ _ => evaluatePlanned_term
        rw [← forall₂_eq_eq_eq, forall₂_map_left_iff, forall₂_map_right_iff]
        exact terms.flip
      · refine ((forall₂_and_left _ _).mp ((forall₂_map_left_iff.mp (except_mapM_success parts)).imp
          fun _ _ here => ⟨?_, here⟩).flip).1
        obtain ⟨_, _, here⟩ := except_bind_success here
        obtain ⟨_, _, here⟩ := except_bind_success here
        rw [← Except.ok.inj here]
        rfl

/-- Every invariant of the lineage and of the policy holds, over the reservations active in the state. -/
structure Decision.Stands (d : Decision) (principal : PrincipalId) (s : LedgerState) : Prop where
  authority : ∃ a, resolveAuthority (snapshotOf principal s) d.action d.evaluatedAt.1 = .ok a ∧ a.effective = d.effective
  invariants : d.invariants.map (fun r => (r.origin, r.term)) =
    (applicableInvariants d.effective).map fun a => (a.origin, a.term)
  holds : ∀ r ∈ d.invariants, r.outcome = .holds
  acting : ∃ p ∈ d.projection.participants, p.acting = true
  pending : ∀ p ∈ d.projection.participants, ∀ id, id ∈ p.reservations ↔
    ∃ r, s.reservations.lookup id = some r ∧ r.status = .active ∧ moduleRefsEqual r.module p.module = true

theorem decideWith_stands {request : AuthorizationRequest} {env : DecisionEnv} {d : Decision}
    (reachable : Reachable rules principal s)
    (ok : decideWith PRODUCTION_PIPELINE (snapshotOf principal s) request env = .ok d) : d.Stands principal s := by
  obtain ⟨w, yields⟩ := decideWith_ok ok
  obtain ⟨-, -, -, evaluatedAt, -, action, -, -, -, -, -, -, -, effective, -, projection, -, invariants⟩ := yields.stated
  obtain ⟨terms, acting, facts, found, parts⟩ := evaluateState_ok yields.evaluation
  refine ⟨⟨w.authority, ?_, effective.symm⟩, ?_, ?_, projection ▸ acting, ?_⟩
  · rw [action, evaluatedAt]
    exact yields.authority
  · rw [invariants, effective]
    exact terms
  · rw [invariants]
    exact invariantVerdict_ok yields.verdict
  · rw [projection]
    intro p listed id
    rw [parts p listed]
    exact mem_own reachable found

variable {ι α : Type} [DecidableEq ι]
  {start finish : System PrincipalId PrincipalLog LedgerSnapshot Stamp (List LedgerEvent) CommitResult α ι}
  {log : List (System PrincipalId PrincipalLog LedgerSnapshot Stamp (List LedgerEvent) CommitResult α ι ×
    Option (Commit PrincipalId PrincipalLog (List LedgerEvent) ι))}

end Standing

section Sample
attribute [local instance] platformKeccak

end Sample

end Mandate.Control
