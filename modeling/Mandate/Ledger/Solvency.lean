import Mandate.Ledger.Accounting

/-! Solvency: no node target is ever charged past its limit, and right after a reservation no
target it charged is past the limit in force. -/
namespace Mandate.Ledger
open Core Lib.Scale Lib.Table
open Option (some.inj)

section Sums
variable {targets : Targets} {reservations : Reservations}

theorem Books.read {N : Type} [AddCommMonoid N] (books : Books targets reservations)
    (hom : Counts →+ N) (key : TargetKey) : hom (countsOf (targets.lookup key)) =
      total (chargedTo key fun d leg => hom (legCounts d leg)) reservations := by
  rw [books.counts, map_charged]

variable {key : TargetKey}

theorem chargedTo_nonneg {amount : DemandRecord → LegRecord → ℚ} {r : ReservationRecord}
    (nonneg : ∀ d ∈ r.demands, ∀ leg ∈ d.legs, 0 ≤ amount d leg) : 0 ≤ chargedTo key amount r := by
  have zero : chargedTo key (fun _ _ => (0 : ℚ)) r = 0 := chargedTo_zero fun _ _ _ _ _ => rfl
  rw [← zero]
  exact chargedTo_mono nonneg

def reservedOf : Counts →+ ℚ := AddMonoidHom.fst ℚ (ℚ × ℚ)
def consumedOf : Counts →+ ℚ := (AddMonoidHom.fst ℚ ℚ).comp (AddMonoidHom.snd ℚ (ℚ × ℚ))
def restoredOf : Counts →+ ℚ := (AddMonoidHom.snd ℚ ℚ).comp (AddMonoidHom.snd ℚ (ℚ × ℚ))

theorem DemandOk.leg_counts {status : ReservationStatus} {d : DemandRecord} (ok : DemandOk status d)
    (leg : LegRecord) : 0 ≤ reservedOf (legCounts d leg) ∧ 0 ≤ restoredOf (legCounts d leg) ∧
      0 ≤ (consumedOf - restoredOf) (legCounts d leg) := by
  have restored := ok.restored
  have consumed := ok.consumed
  have opened := ok.stillOpen
  refine ⟨rescaled_nonneg opened _ _, ?_, ?_⟩
  · change 0 ≤ if leg.capacity = true then atScale d leg d.restored else 0
    split
    · exact rescaled_nonneg restored _ _
    · exact le_rfl
  · change 0 ≤ atScale d leg d.consumed - if leg.capacity = true then atScale d leg d.restored else 0
    split
    · exact sub_nonneg.mpr (rescaled_mono consumed _ _)
    · rw [sub_zero]
      exact rescaled_nonneg (restored.trans consumed) _ _

theorem Books.nonneg (books : Books targets reservations) {b : TargetBalance}
    (present : targets.lookup key = some b) : 0 ≤ b.reserved ∧ 0 ≤ b.restored ∧ b.restored ≤ b.consumed := by
  have bound : ∀ hom : Counts →+ ℚ,
      (∀ (status : ReservationStatus) (d : DemandRecord) (leg : LegRecord), DemandOk status d →
        0 ≤ hom (legCounts d leg)) → 0 ≤ hom b.counts := by
    intro hom nonneg
    have sum := books.read hom key
    rw [present] at sum
    change hom b.counts = _ at sum
    rw [sum]
    exact total_nonneg fun id r known => chargedTo_nonneg fun d inside leg _ =>
      nonneg r.status d leg (books.demands known d inside)
  have reserved := bound reservedOf fun _ _ leg ok => (ok.leg_counts leg).1
  have restored := bound restoredOf fun _ _ leg ok => (ok.leg_counts leg).2.1
  have consumed := bound (consumedOf - restoredOf) fun _ _ leg ok => (ok.leg_counts leg).2.2
  change (0 : ℚ) ≤ (b.reserved : ℚ) at reserved
  change (0 : ℚ) ≤ (b.restored : ℚ) at restored
  change (0 : ℚ) ≤ (b.consumed : ℚ) - (b.restored : ℚ) at consumed
  exact ⟨by exact_mod_cast reserved, by exact_mod_cast restored, by exact_mod_cast sub_nonneg.mp consumed⟩

end Sums

/-- Within its limit, at whatever instant: only an epoch's counter depends on the instant. -/
def WithinLimit (b : TargetBalance) : Prop :=
  b.dimension.restoration ≠ .epoch → ∀ time, 0 ≤ availableOf b time

def NodesWithin (targets : Targets) : Prop :=
  ∀ authority dimensionId b, targets.lookup (.node authority dimensionId) = some b → WithinLimit b

variable {b : TargetBalance} {kind : AccountingKind} {x : Int}

theorem update_within {next : TargetBalance}
    {epoch : Option Int} (ok : kind.posting.update b x epoch = some next) (nonneg : 0 ≤ x)
    (within : WithinLimit b) : WithinLimit next := by
  intro free time
  cases kind with
  | consume =>
    simp only [AccountingKind.posting, consumePosting] at ok
    split at ok
    · cases ok
    · obtain rfl := some.inj ok
      have before := within free time
      simp only [availableOf] at before ⊢
      split at before <;> simp_all <;> omega
  | close | restore =>
    obtain rfl := some.inj ok
    have before := within free time
    simp only [availableOf] at before ⊢
    split at before <;> simp_all <;> omega

theorem atScale_nonneg {d : DemandRecord} {leg : LegRecord} {amount : Int}
    (exact : (x : ℚ) = atScale d leg amount) (nonneg : 0 ≤ amount) : 0 ≤ x := by
  have scaled := rescaled_nonneg nonneg d.contribution.quantity.decimals.1 leg.decimals.1
  change 0 ≤ atScale d leg amount at scaled
  rw [← exact] at scaled
  exact_mod_cast scaled

variable {s : LedgerState}

private theorem Accounted.within {e : AccountingEvent}
    {r : ReservationRecord} {moved : Targets × List DemandRecord} (accounted : Accounted kind s e r moved)
    (key : TargetKey) (within : ∀ b, s.targets.lookup key = some b → WithinLimit b) :
    ∀ b, moved.1.lookup key = some b → WithinLimit b :=
  Posting.demands_fold key (fun balance (_ : Counts) => ∀ b, balance = some b → WithinLimit b) (fun _ _ => 0)
    (fun pair listed _ _ _ _ x _ _ _ exact updated before b same => by
      obtain rfl := some.inj same
      have nonneg := accounted.nonneg pair.2 (List.of_mem_zip (a := pair.1) listed).2
      exact update_within updated (atScale_nonneg exact nonneg) (before _ rfl))
    0 accounted.posted within

theorem availableOf_reserve (b : TargetBalance) (amount : Int) (time : Int) :
    availableOf { b with reserved := b.reserved + amount } time = availableOf b time - amount := by
  simp only [availableOf, consumedIn]
  cases b.dimension.restoration <;> simp only <;> omega

theorem availableOf_free (free : b.dimension.restoration ≠ .epoch)
    (first second : Int) : availableOf b first = availableOf b second := by
  simp only [availableOf]
  cases kind : b.dimension.restoration <;> simp_all

theorem zeroBalance_within (ref : TargetRef) (source : CapacitySource) (d : LedgerDimensionTerm) :
    WithinLimit (zeroBalance ref source d) := by
  intro free time
  have limit := d.limit.atoms.2
  simp only [availableOf, zeroBalance]
  cases kind : d.restoration <;> simp_all [zeroBalance]

variable {time : Int} {legs : List (List LegDraft)} {demand : List (TargetKey × Int)} {targets : Targets}

theorem reserve_available (available : checkAvailability s legs time "plan" = .ok demand)
    (added : addDemand demand s.targets = .ok targets) :
    ∀ leg ∈ legs.flatten, ∃ b, targets.lookup leg.key = some b ∧ 0 ≤ availableOf b time := by
  intro leg listed
  obtain ⟨b, present, fits⟩ := (checkAvailability_ok available).1 leg listed
  refine ⟨_, by rw [reserve_lookup available added, present, Option.map_some], ?_⟩
  rw [availableOf_reserve]
  omega

theorem reserve_within (available : checkAvailability s legs time "plan" = .ok demand)
    (added : addDemand demand s.targets = .ok targets) (within : NodesWithin s.targets) :
    NodesWithin targets := by
  intro authority dimensionId b present free instant
  by_cases charged : ∃ leg ∈ legs.flatten, leg.key = .node authority dimensionId
  · obtain ⟨leg, listed, here⟩ := charged
    obtain ⟨found, there, enough⟩ := reserve_available available added leg listed
    rw [here, present] at there
    obtain rfl := some.inj there
    rwa [availableOf_free free instant time]
  · have unmet := demandAt_absent fun leg listed here => charged ⟨leg, listed, here⟩
    rw [reserve_lookup available added, unmet] at present
    obtain ⟨old, was, rfl⟩ := Option.map_eq_some_iff.mp present
    rw [availableOf_reserve, sub_zero]
    exact within authority dimensionId old was free instant

section Steps
variable [Keccak] {rules : ReducerRules} {s next : LedgerState} {version : Nat} {e : LedgerEvent}

theorem Effect.nodesWithin (within : NodesWithin s.targets) (effect : Effect rules s version e next) :
    NodesWithin next.targets := by
  cases effect with
  | registerPolicy _ _ =>
    intro authority dimensionId b present
    rcases installDimensions_lookup _ _ _ _ with ⟨_, same⟩ | ⟨d, _, same, _⟩
    · rw [same, retireDimensions_lookup] at present
      obtain ⟨old, was, rfl⟩ := Option.map_eq_some_iff.mp present
      simpa [policyKey] using within authority dimensionId old was
    · simp [policyKey] at same
  | registerGrant _ =>
    intro authority dimensionId b present
    rcases openNodeTargets_lookup _ _ _ _ with ⟨_, same⟩ | ⟨d, _, _, opened⟩
    · rw [same] at present
      exact within authority dimensionId b present
    · rw [opened] at present
      obtain rfl := some.inj present
      exact zeroBalance_within _ _ _
  | revoke _ _ => exact within
  | reserve _ available added => exact reserve_within available added within
  | account accounted => exact fun authority dimensionId => accounted.within _ (within authority dimensionId)
  | admitAttempt _ => exact within

theorem Reachable.nodesWithin {principal : PrincipalId} (reachable : Reachable rules principal s) :
    NodesWithin s.targets :=
  reachable.induct (fun s => NodesWithin s.targets)
    (fun _ _ _ present => by simp [emptyLedgerState] at present) (fun _ _ _ within => within)
    fun _ within _ effect => effect.nodesWithin within

theorem reserve_charges {time : Int} {plan : ChargePlan} {lineage : List AuthorityId} {policy : PrincipalPolicyId}
    {legs : List (List EventLeg)}
    (accepted : applyEvent s (.reserve time plan lineage policy legs) version rules = .ok next) :
    ∃ r, next.reservations.lookup (planReservationId plan) = some r ∧ ∀ d ∈ r.demands, ∀ leg ∈ d.legs,
      ∃ b, next.targets.lookup leg.key = some b ∧ 0 ≤ availableOf b time := by
  obtain ⟨_, moved, dispatched, rfl⟩ := applyEvent_ok accepted
  obtain ⟨derived, current, demand, targets, derivable, rfl, rfl, rfl, available, added, rfl⟩ :=
    applyReserve_ok dispatched
  refine ⟨_, AList.lookup_insert _, fun d listed leg charged => ?_⟩
  obtain ⟨draft, inside, same⟩ := (drafted_ok derivable.drafted d listed).2 leg charged
  exact same ▸ reserve_available available added draft inside

end Steps

theorem Reachable.solvent [Keccak] {rules : ReducerRules} {principal : PrincipalId}
    (reachable : Reachable rules principal s) {authority : AuthorityId} {dimensionId : DimensionId} (present : s.targets.lookup (.node authority dimensionId) = some b) :
    0 ≤ b.reserved ∧ 0 ≤ b.restored ∧ b.restored ≤ b.consumed ∧
      (b.dimension.restoration = .none → b.consumed + b.reserved ≤ b.dimension.limit.atoms.1) ∧
      (b.dimension.accounting = .capacity →
        b.consumed + b.reserved - b.restored ≤ b.dimension.limit.atoms.1) := by
  obtain ⟨reserved, restored, consumed⟩ := reachable.books.nonneg present
  have within := reachable.nodesWithin authority dimensionId b present
  have family := b.dimension.family
  refine ⟨reserved, restored, consumed, fun none => ?_, fun capacity => ?_⟩
  · have available := within (by simp [none]) 0
    simp only [availableOf, none] at available
    omega
  · rw [capacity] at family
    cases kind : b.dimension.restoration <;> simp only [kind, RESTORATION_FAMILY, reduceCtorEq] at family
    all_goals
      have available := within (by simp [kind]) 0
      simp only [availableOf, kind] at available
      omega

/-- Solvency over every run: a node's counters stay ordered and within its limit, and right after
a reservation everything it charged, at nodes and at the policy alike, is within its limit. -/
theorem run_solvent [Keccak] (rules : ReducerRules) (principal : PrincipalId) :
    (∀ history s, Run rules principal history s →
      ∀ authority dimensionId b, s.targets.lookup (.node authority dimensionId) = some b →
        0 ≤ b.reserved ∧ 0 ≤ b.restored ∧ b.restored ≤ b.consumed ∧
        (b.dimension.restoration = .none → b.consumed + b.reserved ≤ b.dimension.limit.atoms.1) ∧
        (b.dimension.accounting = .capacity →
          b.consumed + b.reserved - b.restored ≤ b.dimension.limit.atoms.1)) ∧
    (∀ s time plan lineage policy legs version next,
      applyEvent s (.reserve time plan lineage policy legs) version rules = .ok next →
      ∃ r, next.reservations.lookup (planReservationId plan) = some r ∧ ∀ d ∈ r.demands, ∀ leg ∈ d.legs,
          ∃ b, next.targets.lookup leg.key = some b ∧ 0 ≤ availableOf b time) := by
  refine ⟨fun history s run authority dimensionId b present => run.reachable.solvent present,
    fun s time plan lineage policy legs version next accepted => reserve_charges accepted⟩

section Sample

def samplePrincipal : PrincipalId where
  kind := ⟨"user", by decide⟩
  value := ⟨"alice", by decide⟩
  shaped := by decide

def sampleAgent : AgentId where
  kind := ⟨"agent", by decide⟩
  value := ⟨"bob", by decide⟩
  shaped := by decide

def sampleModule : ModuleRef where
  domainId := ⟨"spot", by decide⟩
  moduleId := ⟨"swap", by decide⟩
  moduleVersion := ⟨1, by decide⟩
  moduleDigest := ⟨1, by decide⟩

def sampleDimension : LedgerDimensionTerm where
  dimensionId := ⟨"orders", by decide⟩
  limit := ⟨.count, ⟨"COUNT", by decide⟩, ⟨0, Nat.zero_le _⟩, ⟨10, by decide⟩, by decide +kernel⟩
  accounting := .budget
  restoration := .epoch
  epoch := some ⟨⟨0, seconds_zero⟩, ⟨100, by decide⟩⟩
  sign := .unsigned
  scope := ⟨none, none, none, none⟩
  trackable := by decide
  family := by decide
  epochal := by decide
  signFits := by decide

def samplePolicy : PrincipalPolicy where
  principal := samplePrincipal
  sequence := ⟨0, uint64_zero⟩
  terms := ⟨[], by decide, by decide, by simp [Ascending], by simp⟩
  nonce := ⟨0, uint64_zero⟩

def soleModule : CanonicalSet writeModuleRef MAX_SET_MEMBERS := ⟨[sampleModule], by decide, by simp [Ascending]⟩

def sampleGrant : AuthorityGrant where
  lineage := .root samplePrincipal
  principal := samplePrincipal
  holder := sampleAgent
  window := ⟨⟨0, seconds_zero⟩, ⟨1000, by decide⟩, by decide⟩
  terms := ⟨[.set (.modules soleModule),
    .ledgerDimension sampleDimension], by decide, by decide, by decide +kernel, by decide⟩
  nonce := ⟨0, uint64_zero⟩
  issued := by decide

def sampleContribution : Contribution where
  quantity := ⟨.count, ⟨"COUNT", by decide⟩, ⟨0, Nat.zero_le _⟩, 5, none, none, by decide +kernel,
    by decide, by decide +kernel, by decide +kernel⟩
  market := none
  account := none
  required := true
  counted := by decide
  positive := by decide

def samplePlan [Keccak] (action : ActionId) : ChargePlan where
  principal := samplePrincipal
  authority := authorityId sampleGrant
  actor := sampleAgent
  action := action
  generation := ⟨1, by decide⟩
  module := sampleModule
  implementation := ⟨1, by decide⟩
  contributions := [sampleContribution]
  nonempty := by simp
  bounded := by simp [MAX_PLAN_CONTRIBUTIONS]

def sampleKey [Keccak] : TargetKey := .node (authorityId sampleGrant) sampleDimension.dimensionId

def sampleReserve [Keccak] (time epoch : Int) (action : ActionId) : LedgerEvent :=
  .reserve time (samplePlan action) [authorityId sampleGrant] (principalPolicyId samplePolicy)
    [[⟨.node (authorityId sampleGrant) sampleDimension.dimensionId, 5, some epoch⟩]]

def sampleConsume [Keccak] (time : Int) (evidence : ObservationId) : LedgerEvent :=
  .consume ⟨time, planReservationId (samplePlan 1), ⟨1, by decide⟩, evidence, [1]⟩

/-- A policy, a grant, and one order of five consumed in the first epoch. -/
def sampleEvents [Keccak] : List LedgerEvent :=
  [.registerPolicy 0 samplePolicy [] [], .registerGrant 0 sampleGrant [] [], sampleReserve 1 0 1,
    sampleConsume 2 7]

def stateAfter [Keccak] (events : List LedgerEvent) : Option LedgerState :=
  (applyBatch (emptyLedgerState samplePrincipal) events CORE_RULES).toOption.map (·.state)

theorem stateAfter_run [Keccak] {events : List LedgerEvent} {s : LedgerState}
    (after : stateAfter events = some s) :
    ∃ history, Run CORE_RULES samplePrincipal history s ∧ history.flatMap (·.events) = events := by
  cases applied : applyBatch (emptyLedgerState samplePrincipal) events CORE_RULES with
  | error _ => simp [stateAfter, applied, Except.toOption] at after
  | ok batch =>
    simp only [stateAfter, applied, Except.toOption, Option.map_some, Option.some.injEq] at after
    exact ⟨_, after ▸ Run.batch .genesis applied, by simp [committedBatch]⟩

attribute [local instance] platformKeccak

/-- Four orders are held and one is consumed of ten. -/
theorem run_solvent_sample : ∃ s b, stateAfter sampleEvents = some s ∧
    s.targets.lookup sampleKey = some b ∧ b.reserved = 4 ∧ b.consumed = 1 ∧ 0 ≤ b.restored ∧
    b.restored ≤ b.consumed := by
  have counted : ((stateAfter sampleEvents).bind fun s => s.targets.lookup sampleKey).map
      (fun b => (b.reserved, b.consumed)) = some (4, 1) := by
    rewrite [platformKeccak_straight]
    decide +kernel
  obtain ⟨b, found, amounts⟩ := Option.map_eq_some_iff.mp counted
  obtain ⟨s, after, present⟩ := Option.bind_eq_some_iff.mp found
  obtain ⟨reserved, consumed⟩ := Prod.mk.inj amounts
  obtain ⟨history, run, _⟩ := stateAfter_run after
  obtain ⟨_, restored, ordered, _⟩ :=
    (run_solvent CORE_RULES samplePrincipal).1 history s run _ _ b present
  exact ⟨s, b, after, present, reserved, consumed, restored, ordered⟩

end Sample

end Mandate.Ledger
