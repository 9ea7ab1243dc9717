import Mandate.Ledger.Store
import Mandate.Ledger.Registry
import Mandate.Ledger.Revocation

/-! The authority ledger engine: every command reads a snapshot, plans against it, and commits by
compare-and-append at exactly that snapshot, recomputing the plan after every lost race. -/
namespace Mandate.Ledger
open Core Lib.Optimistic Lib.Machine

structure RetryPolicy where
  maxAttempts : NumberInput

/-- How often a command may try; `none` for a policy that says nothing usable. -/
def attemptsAllowed (retry : RetryPolicy) : Option Nat :=
  match retry.maxAttempts with
  | .integer n => if 1 ≤ n ∧ n ≤ MAX_COMMIT_ATTEMPTS then some n.toNat else none
  | _ => none

inductive LedgerOutcome
  | committed (snapshot : LedgerSnapshot) (attempts : Nat)
  | refused (refusal : LedgerRefusal) (attempts version : Nat)
  | conflict (attempts : Nat)

abbrev LedgerProgram (α : Type) :=
  Program PrincipalId LedgerSnapshot Stamp (List LedgerEvent) CommitResult α

abbrev Planner := LedgerSnapshot → LedgerResult (List LedgerEvent)

section Engine
variable [Keccak]

/-- The attempts that are left; the plan is recomputed from the new snapshot on each. -/
def commitFrom (rules : ReducerRules) (principal : PrincipalId) (plan : Planner) :
    (left attempt : Nat) → LedgerProgram LedgerOutcome
  | 0, attempt => .done (.conflict (attempt - 1))
  | left + 1, attempt => .read principal fun snapshot =>
    match plan snapshot with
    | .error .thrown => .failed
    | .error (.refused refusal) => .done (.refused refusal attempt snapshot.version)
    | .ok events =>
      match applyBatch snapshot.state events rules with
      | .error .thrown => .failed
      | .error (.refused refusal) => .done (.refused refusal attempt snapshot.version)
      | .ok _ => .append principal snapshot.stamp events fun result =>
        match result with
        | .committed committed => .done (.committed committed attempt)
        | .refused refusal => .done (.refused refusal attempt snapshot.version)
        | .conflict _ _ _ => commitFrom rules principal plan left (attempt + 1)

def commit (rules : ReducerRules) (principal : PrincipalId) (retry : RetryPolicy) (plan : Planner) :
    LedgerProgram LedgerOutcome :=
  match attemptsAllowed retry with
  | none => .done (.refused (.generic .retryPolicyInvalid "retry.maxAttempts" none) 0 0)
  | some max => commitFrom rules principal plan max 1

inductive AccountingEffect
  | consume (reservation : ReservationId) (generation : ReservationGeneration) (evidence : ObservationId)
      (amounts : List Int)
  | close (reservation : ReservationId) (generation : ReservationGeneration) (evidence : ObservationId)
  | restore (reservation : ReservationId) (generation : ReservationGeneration) (evidence : ObservationId)
      (amounts : List Int)

/-- A close releases exactly what remains: its amounts are derived, never supplied. -/
def effectEvent (s : LedgerState) (time : Int) : AccountingEffect → LedgerEvent
  | .consume reservation generation evidence amounts =>
    .consume ⟨time, reservation, generation, evidence, amounts⟩
  | .close reservation generation evidence =>
    .close ⟨time, reservation, generation, evidence,
      (s.reservations.lookup reservation).elim [] fun r => r.demands.map fun d => d.reserved - d.consumed⟩
  | .restore reservation generation evidence amounts =>
    .restore ⟨time, reservation, generation, evidence, amounts⟩

/-- The events of the effects, each derived from the state the ones before it led to. -/
def settleEvents (rules : ReducerRules) (version : Nat) (time : Int) :
    LedgerState → List AccountingEffect → Nat → LedgerResult (List LedgerEvent)
  | _, [], _ => .ok []
  | draft, f :: rest, index => do
    let next ← (applyEvent draft (effectEvent draft time f) version rules).mapError
      (readdress (atIndex "effects" index))
    let events ← settleEvents rules version time next rest (index + 1)
    .ok (effectEvent draft time f :: events)

section Closing
variable {rules : ReducerRules} {principal : PrincipalId} {s : LedgerState} {id : ReservationId}
  {r : ReservationRecord} {time : Int}

theorem close_remainder (reachable : Reachable rules principal s)
    (known : s.reservations.lookup id = some r) (active : r.status = .active) (evidence : ObservationId) :
    effectEvent s time (.close id r.generation evidence) = .close (remainder time id r evidence) := by
  have amounts : r.demands.map (fun d => d.reserved - d.consumed) = r.demands.map (·.stillOpen) := by
    refine List.map_congr_left fun d listed => ?_
    have released := (reachable.books.demands known d listed).released
    rw [active, if_neg nofun] at released
    simp only [DemandRecord.stillOpen]
    omega
  simp only [effectEvent, known, Option.elim_some, remainder, amounts]

/-- No reservation is ever stuck: at any time the clock allows, an active one is closed by what is
reserved and not consumed of each demand, whichever legs it was charged to and consumed from. -/
theorem closable (reachable : Reachable rules principal s)
    (known : s.reservations.lookup id = some r) (active : r.status = .active)
    (clock : ∀ last, s.lastAt = some last → last ≤ time) (evidence : ObservationId) (version : Nat) :
    (∃ next, applyEvent s (.close ⟨time, id, r.generation, evidence,
      r.demands.map fun d => d.reserved - d.consumed⟩) version rules = .ok next) ∧
    settleEvents rules version time s [.close id r.generation evidence] 0 =
      .ok [.close ⟨time, id, r.generation, evidence, r.demands.map fun d => d.reserved - d.consumed⟩] := by
  have derived : effectEvent s time (.close id r.generation evidence) =
      .close ⟨time, id, r.generation, evidence, r.demands.map fun d => d.reserved - d.consumed⟩ := by
    simp only [effectEvent, known, Option.elim_some]
  have closed := close_accepted reachable known active time evidence clock version
  rw [← close_remainder reachable known active, derived] at closed
  obtain ⟨next, accepted⟩ := closed
  refine ⟨⟨next, accepted⟩, ?_⟩
  simp only [settleEvents, derived, accepted]
  rfl

end Closing

structure RegistrationSemantics where
  bindings : List SemanticTermBinding
  proofs : List SemanticProofRef

def registrationSemantics (registry : ModuleRegistry) (semantics : RegistrationSemantics) :
    LedgerResult Unit := do
  checkOwnersCurrent registry "bindings" semantics.bindings 0
  checkOwnersCurrent registry "proofs" semantics.proofs 0

inductive LedgerCommand
  | registerPolicy (policy : PrincipalPolicy) (time : Int) (semantics : RegistrationSemantics)
  | registerGrant (grant : AuthorityGrant) (time : Int) (semantics : RegistrationSemantics)
  | registerAll (principal : PrincipalId) (events : List LedgerEvent)
  | revoke (principal : PrincipalId) (revocation : Revocation) (time : Int)
  | reserve (plan : ChargePlan) (time : Int)
  | settle (principal : PrincipalId) (effects : List AccountingEffect) (time : Int)

def LedgerCommand.principal : LedgerCommand → PrincipalId
  | .registerPolicy policy _ _ => policy.principal
  | .registerGrant grant _ _ => grant.principal
  | .registerAll principal _ => principal
  | .revoke principal _ _ => principal
  | .reserve plan _ => plan.principal
  | .settle principal _ _ => principal

def LedgerCommand.plan (registry : ModuleRegistry) (rules : ReducerRules) : LedgerCommand → Planner
  | .registerPolicy policy time semantics => fun _ => do
    registrationSemantics registry semantics
    .ok [.registerPolicy time policy semantics.proofs semantics.bindings]
  | .registerGrant grant time semantics => fun _ => do
    registrationSemantics registry semantics
    .ok [.registerGrant time grant semantics.proofs semantics.bindings]
  | .registerAll _ events => fun _ => .ok events
  | .revoke _ revocation time => fun _ => .ok [.revoke time revocation]
  | .reserve plan time => fun snapshot => do
    checkModuleConformance registry plan.module plan.implementation "plan.module"
    let event ← deriveReserveEvent snapshot.state plan time
    .ok [event]
  | .settle _ effects time => fun snapshot =>
    settleEvents rules (snapshot.version + 1) time snapshot.state effects 0

structure LedgerCall where
  registry : ModuleRegistry
  rules : ReducerRules
  command : LedgerCommand
  retry : RetryPolicy

def LedgerCall.planner (call : LedgerCall) : Planner := call.command.plan call.registry call.rules

def LedgerCall.program (call : LedgerCall) : LedgerProgram LedgerOutcome :=
  commit call.rules call.command.principal call.retry call.planner

/-- A command commits the plan of the snapshot it read, and says so exactly where it committed. -/
def commitContract (principal : PrincipalId) (plan : Planner) :
    Contract PrincipalId PrincipalLog LedgerSnapshot (List LedgerEvent) LedgerOutcome where
  decides key snapshot events := key = principal ∧ plan snapshot = .ok events
  warrants key _ _ after outcome := ∃ attempts, outcome = .committed (snapshotOf key after.state) attempts
  silent outcome := ∀ snapshot attempts, outcome ≠ .committed snapshot attempts

section Serial
variable {rules engine : ReducerRules} {principal : PrincipalId} {plan : Planner}

theorem commitFrom_follows (left attempt : Nat) (seen : Option (PrincipalId × LedgerSnapshot)) :
    Follows (inMemoryStore rules) LedgerSnapshot.stamp (LogSound rules) (commitContract principal plan)
      (commitFrom engine principal plan left attempt) seen := by
  induction left generalizing attempt seen with
  | zero => intro snapshot attempts same; cases same
  | succ left ih =>
    intro snapshot _
    dsimp only
    cases planned : plan snapshot with
    | error fault => cases fault with
      | thrown => trivial
      | refused refusal => intro _ _ same; cases same
    | ok events =>
      dsimp only
      cases applyBatch snapshot.state events engine with
      | error fault => cases fault with
        | thrown => trivial
        | refused refusal => intro _ _ same; cases same
      | ok _ =>
        refine ⟨snapshot, rfl, rfl, ⟨rfl, planned⟩, ?_, ?_⟩
        · intro fate cell after reply _ _ appended
          obtain ⟨_, applied, _, replied, rfl⟩ := compareAndAppend_published appended
          obtain rfl := Option.some.inj replied
          exact ⟨_, rfl, attempt, rfl⟩
        · intro fate cell reply _ appended
          rcases compareAndAppend_unpublished appended with ⟨reason, rfl⟩ | ⟨refusal, rfl, _⟩
          · exact ih (attempt + 1) none
          · intro _ _ same; cases same

theorem commit_follows (retry : RetryPolicy) :
    Follows (inMemoryStore rules) LedgerSnapshot.stamp (LogSound rules) (commitContract principal plan)
      (commit engine principal retry plan) none := by
  unfold commit
  cases attemptsAllowed retry with
  | none => intro _ _ same; cases same
  | some max => exact commitFrom_follows max 1 none

variable {ι : Type} [DecidableEq ι]

abbrev LedgerSystem (ι : Type) :=
  System PrincipalId PrincipalLog LedgerSnapshot Stamp (List LedgerEvent) CommitResult LedgerOutcome ι

abbrev LedgerCommit (ι : Type) := Commit PrincipalId PrincipalLog (List LedgerEvent) ι

/-- Every principal's log is empty, and every call is about to be made. -/
def atStart (calls : ι → LedgerCall) : LedgerSystem ι := ⟨emptyLog, fun i => (calls i).program⟩

theorem calls_orderly {calls : ι → LedgerCall}
    {log : List (LedgerSystem ι × Option (LedgerCommit ι))} {finish : LedgerSystem ι}
    (trace : Trace (Turn (inMemoryStore rules)) (atStart calls) log finish) :
    Orderly (inMemoryStore rules) LedgerSnapshot.stamp (LogSound rules) (·.state.version) (·.version)
      (fun i => commitContract (calls i).command.principal (calls i).planner) log finish :=
  orderly (inMemoryStore_lawful rules) trace (fun _ => Run.genesis)
    fun i => commit_follows (calls i).retry

omit [DecidableEq ι] in
theorem accepted_commit {c : LedgerCommit ι} {contract : Contract PrincipalId PrincipalLog
      LedgerSnapshot (List LedgerEvent) LedgerOutcome}
    (decided : Decided (inMemoryStore rules) LedgerSnapshot.stamp (LogSound rules) contract c) :
    ∃ applied, applyBatch c.before.state c.batch rules = .ok applied ∧
      c.after = ⟨applied.state, c.before.batches ++ [committedBatch c.before.state c.batch applied]⟩ := by
  obtain ⟨fate, reply, appended⟩ := decided.appended
  obtain ⟨_, applied, accepted, _, after⟩ := compareAndAppend_published appended
  exact ⟨applied, accepted, after⟩

theorem batches_recorded {calls : ι → LedgerCall}
    {log : List (LedgerSystem ι × Option (LedgerCommit ι))} {finish : LedgerSystem ι}
    (trace : Trace (Turn (inMemoryStore rules)) (atStart calls) log finish) (principal : PrincipalId) :
    (finish.cells principal).batches.map (·.events) =
      ((commits log).filter fun c => c.key = principal).map (·.batch) := by
  have adds {fate : FaultPoint → Bool} {key : PrincipalId} {cell after : PrincipalLog} {expected : Stamp}
      {batch : List LedgerEvent} {reply : Option CommitResult}
      (appended : (inMemoryStore rules).append fate key cell expected batch = (reply, some after)) :
      after.batches.map (·.events) = cell.batches.map (·.events) ++ [id batch] := by
    obtain ⟨_, applied, _, _, rfl⟩ := compareAndAppend_published appended
    simp [committedBatch]
  have recorded := recorded adds trace principal
  simpa [atStart, emptyLog] using recorded

theorem reserved_within {s : LedgerState} {time : Int} {plan : ChargePlan}
    {lineage : List AuthorityId} {policy : PrincipalPolicyId} {legs : List (List EventLeg)}
    {applied : AppliedBatch}
    (accepted : applyBatch s [.reserve time plan lineage policy legs] rules = .ok applied) :
    ∃ r, applied.state.reservations.lookup (planReservationId plan) = some r ∧ ∀ d ∈ r.demands,
      ∀ leg ∈ d.legs, ∃ b, applied.state.targets.lookup leg.key = some b ∧ 0 ≤ availableOf b time := by
  obtain ⟨current, folded, _, state⟩ := applyBatch_ok accepted
  obtain ⟨next, one, rest⟩ := except_bind_success folded
  obtain rfl := Except.ok.inj rest
  rw [state]
  cases outcome : applyEvent s (.reserve time plan lineage policy legs) (s.version + 1) rules with
  | error _ => simp [outcome, Except.mapError] at one
  | ok reached =>
    obtain rfl : reached = next := by simpa [outcome, Except.mapError] using one
    obtain ⟨r, present, charged⟩ := reserve_charges outcome
    exact ⟨r, present, charged⟩

/-- Any number of engines over one store, in any interleaving and with faults anywhere: each log is
one serial history of batches planned from the very state they extend; a command reported committed
is one batch of it, and any other is none; and so no limit is ever exceeded together. -/
theorem serial_commits (rules : ReducerRules) (calls : ι → LedgerCall)
    {log : List (LedgerSystem ι × Option (LedgerCommit ι))} {finish : LedgerSystem ι}
    (trace : Trace (Turn (inMemoryStore rules)) (atStart calls) log finish) :
    (∀ principal, Run rules principal (finish.cells principal).batches (finish.cells principal).state ∧
      (finish.cells principal).batches.map (·.events) =
        ((commits log).filter fun c => c.key = principal).map (·.batch)) ∧
    (∀ c ∈ commits log, c.key = (calls c.client).command.principal ∧
      (calls c.client).planner (snapshotOf c.key c.before.state) = .ok c.batch ∧
      Run rules c.key c.before.batches c.before.state ∧
      ∃ applied, applyBatch c.before.state c.batch rules = .ok applied ∧ c.after.state = applied.state ∧
        c.after.batches = c.before.batches ++ [committedBatch c.before.state c.batch applied]) ∧
    (∀ i snapshot attempts, finish.clients i = .done (.committed snapshot attempts) →
      ∃ c, commitsBy i log = [c] ∧ snapshot = snapshotOf c.key c.after.state) ∧
    (∀ i refusal attempts version, finish.clients i = .done (.refused refusal attempts version) →
      commitsBy i log = []) ∧
    (∀ i attempts, finish.clients i = .done (.conflict attempts) → commitsBy i log = []) ∧
    (∀ i, finish.clients i = .failed → ∀ c ∈ commitsBy i log, c.lost = true) ∧
    (∀ principal authority dimensionId b,
      (finish.cells principal).state.targets.lookup (.node authority dimensionId) = some b →
        (b.dimension.restoration = .none → b.consumed + b.reserved ≤ b.dimension.limit.atoms.1) ∧
        (b.dimension.accounting = .capacity →
          b.consumed + b.reserved - b.restored ≤ b.dimension.limit.atoms.1)) ∧
    ∀ c ∈ commits log, ∀ time plan lineage policy legs, c.batch = [.reserve time plan lineage policy legs] →
      ∃ r, c.after.state.reservations.lookup (planReservationId plan) = some r ∧ ∀ d ∈ r.demands,
        ∀ leg ∈ d.legs, ∃ b, c.after.state.targets.lookup leg.key = some b ∧ 0 ≤ availableOf b time := by
  have run := calls_orderly trace
  refine ⟨fun principal => ⟨run.cells principal, batches_recorded trace principal⟩, fun c made => ?_,
    fun i snapshot attempts returned => ?_, fun i refusal attempts version returned => ?_,
    fun i attempts returned => ?_, fun i => (run.atMostOnce i).2,
    fun principal authority dimensionId b present => ?_, fun c made time plan lineage policy legs same => ?_⟩
  · have decided := run.decided c made
    obtain ⟨applied, accepted, after⟩ := accepted_commit decided
    obtain ⟨whose, planned⟩ := decided.decided
    exact ⟨whose, planned, decided.sound, applied, accepted, by rw [after], by rw [after]⟩
  · rcases run.returned returned with ⟨c, once, attempts', same⟩ | ⟨_, silent⟩
    · exact ⟨c, once, (LedgerOutcome.committed.inj same).1⟩
    · exact absurd rfl (silent snapshot attempts)
  · rcases run.returned returned with ⟨c, _, attempts', same⟩ | ⟨nothing, _⟩
    · cases same
    · exact nothing
  · rcases run.returned returned with ⟨c, _, attempts', same⟩ | ⟨nothing, _⟩
    · cases same
    · exact nothing
  · exact ((run.cells principal).reachable.solvent present).2.2.2
  · obtain ⟨applied, accepted, after⟩ := accepted_commit (run.decided c made)
    rw [same] at accepted
    rw [after]
    exact reserved_within accepted

end Serial

end Engine

section Sample

def sampleCall : LedgerCall where
  registry _ _ := none
  rules := CORE_RULES
  command := .registerPolicy samplePolicy 0 ⟨[], []⟩
  retry := ⟨.integer 1⟩

attribute [local instance] platformKeccak

/-- The order of the sample run, closed while four of it are open. -/
theorem closable_sample : ∃ s r, stateAfter sampleEvents = some s ∧
    s.reservations.lookup (planReservationId (samplePlan 1)) = some r ∧ r.status = .active ∧
    s.lastAt = some 2 ∧ ∃ next, applyEvent s (.close ⟨3, planReservationId (samplePlan 1), r.generation, 8,
      r.demands.map fun d => d.reserved - d.consumed⟩) (s.version + 1) CORE_RULES = .ok next := by
  have opened : ((stateAfter sampleEvents).bind fun s =>
      (s.reservations.lookup (planReservationId (samplePlan 1))).map fun r => (r.status, s.lastAt)) =
      some (.active, some 2) := by
    rewrite [platformKeccak_straight]
    decide +kernel
  obtain ⟨s, after, opened⟩ := Option.bind_eq_some_iff.mp opened
  obtain ⟨r, known, status⟩ := Option.map_eq_some_iff.mp opened
  obtain ⟨active, clock⟩ := Prod.mk.inj status
  obtain ⟨history, run, _⟩ := stateAfter_run after
  exact ⟨s, r, after, known, active, clock, (closable run.reachable known active (by simp [clock]) 8 _).1⟩

theorem sampleCall_appends {applied : AppliedBatch}
    (accepted : applyBatch (emptyLedgerState samplePrincipal) [.registerPolicy 0 samplePolicy [] []]
      CORE_RULES = .ok applied) : ∃ next answer, sampleCall.program = .read samplePrincipal next ∧
      next (readLog samplePrincipal (emptyLog samplePrincipal)) =
        .append samplePrincipal (readLog samplePrincipal (emptyLog samplePrincipal)).stamp
          [.registerPolicy 0 samplePolicy [] []] answer ∧
      answer = fun result => match result with
        | .committed snapshot => .done (.committed snapshot 1)
        | .refused refusal => .done (.refused refusal 1 0)
        | .conflict _ _ _ => .done (.conflict 1) := by
  refine ⟨_, _, rfl, ?_, rfl⟩
  have planned : sampleCall.planner (readLog samplePrincipal (emptyLog samplePrincipal)) =
      .ok [.registerPolicy 0 samplePolicy [] []] := rfl
  have here : applyBatch (readLog samplePrincipal (emptyLog samplePrincipal)).state
      [.registerPolicy 0 samplePolicy [] []] sampleCall.rules = .ok applied := accepted
  simp only [planned, here]
  rfl

/-- Both engines read the empty ledger; one of them registers the policy, and the other has lost. -/
theorem serial_commits_sample : ∃ log finish,
    Trace (Turn (inMemoryStore CORE_RULES)) (atStart fun _ : Bool => sampleCall) log finish ∧
    finish.clients false = .done (.conflict 1) ∧ commitsBy false log = [] ∧
    ∃ c, commitsBy true log = [c] := by
  have valid : (applyBatch (emptyLedgerState samplePrincipal) [.registerPolicy 0 samplePolicy [] []]
      CORE_RULES).toOption.isSome = true := by
    rewrite [platformKeccak_straight]
    decide +kernel
  obtain ⟨applied, accepted⟩ : ∃ applied, applyBatch (emptyLedgerState samplePrincipal)
      [.registerPolicy 0 samplePolicy [] []] CORE_RULES = .ok applied := by
    cases outcome : applyBatch (emptyLedgerState samplePrincipal) [.registerPolicy 0 samplePolicy [] []]
        CORE_RULES with
    | error _ => simp [outcome, Except.toOption] at valid
    | ok applied => exact ⟨applied, rfl⟩
  obtain ⟨next, answer, reads, appends, answers⟩ := sampleCall_appends accepted
  have start : Trace (Turn (inMemoryStore CORE_RULES)) (atStart fun _ : Bool => sampleCall) [] _ := .nil
  have first := start.snoc (Turn.read (i := true) reads)
  have second := first.snoc (Turn.read (i := false) reads)
  have won : compareAndAppend CORE_RULES (fun _ => false) samplePrincipal (emptyLog samplePrincipal)
      (readLog samplePrincipal (emptyLog samplePrincipal)).stamp [.registerPolicy 0 samplePolicy [] []] =
      (some (.committed (snapshotOf samplePrincipal applied.state)),
        some ⟨applied.state, [committedBatch (emptyLedgerState samplePrincipal)
          [.registerPolicy 0 samplePolicy [] []] applied]⟩) := by
    simp [compareAndAppend, emptyLog, readLog, snapshotOf, LedgerSnapshot.stamp, accepted]
  have third := second.snoc (Turn.committed (i := true) false
    (by simpa [atStart] using appends) (by rw [inMemoryStore_append]; exact won))
  have lost : compareAndAppend CORE_RULES (fun _ => false) samplePrincipal
      ⟨applied.state, [committedBatch (emptyLedgerState samplePrincipal)
        [.registerPolicy 0 samplePolicy [] []] applied]⟩
      (readLog samplePrincipal (emptyLog samplePrincipal)).stamp [.registerPolicy 0 samplePolicy [] []] =
      (some (.conflict .versionConflict applied.state.version applied.state.head), none) := by
    simp [compareAndAppend, emptyLog, readLog, snapshotOf, LedgerSnapshot.stamp, conflictReason,
      applyBatch_version accepted, emptyLedgerState]
  have fourth := third.snoc (Turn.rejected (i := false)
    (by simpa [atStart] using appends) (by simp only [inMemoryStore_append, Function.update_self]; exact lost))
  refine ⟨_, _, fourth, ?_, ?_, ?_⟩
  · simp [answers]
  · exact (serial_commits CORE_RULES (fun _ : Bool => sampleCall) fourth).2.2.2.2.1 false 1 (by simp [answers])
  · obtain ⟨c, once, _⟩ := (serial_commits CORE_RULES (fun _ : Bool => sampleCall) fourth).2.2.1 true
      (snapshotOf samplePrincipal applied.state) 1 (by simp [answers])
    exact ⟨c, once⟩

end Sample

end Mandate.Ledger
