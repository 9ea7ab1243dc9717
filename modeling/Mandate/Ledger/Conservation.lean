import Mandate.Ledger.EpochBudget

/-! Double entry: the counters of every target against the legs of every reservation. The counters
range over all reservations; only `epochConsumed` follows the epoch last consumed in. -/
namespace Mandate.Ledger
open Core Lib.Scale Lib.Table Lib.Machine

section Sums
variable {targets : Targets} {reservations : Reservations} {key : TargetKey} {b : TargetBalance}

def openAt (key : TargetKey) (reservations : Reservations) : ℚ :=
  total (fun r => if r.status = .active then
    chargedTo key (fun d leg => atScale d leg (d.reserved - d.consumed)) r else 0) reservations

theorem reserved_eq (books : Books targets reservations) (present : targets.lookup key = some b) :
    (b.reserved : ℚ) = openAt key reservations := by
  have sum := books.read reservedOf key
  rw [present] at sum
  refine sum.trans (total_congr fun id r known => ?_)
  have settled : ∀ d ∈ r.demands, d.stillOpen = if r.status = .active then d.reserved - d.consumed else 0 := by
    intro d listed
    have released := (books.demands known d listed).released
    cases status : r.status <;> simp only [status, reduceCtorEq, if_true, if_false] at released ⊢ <;>
      simp only [DemandRecord.stillOpen] <;> omega
  by_cases active : r.status = .active
  · rw [if_pos active]
    refine chargedTo_congr fun d listed leg _ _ => ?_
    have opened := settled d listed
    rw [if_pos active] at opened
    exact congrArg (atScale d leg) opened
  · rw [if_neg active]
    refine chargedTo_zero fun d listed leg _ _ => ?_
    have opened := settled d listed
    rw [if_neg active] at opened
    change atScale d leg d.stillOpen = 0
    rw [opened, atScale, rescaled_zero]

theorem tracked_eq (epochs : Epochs targets reservations) (present : targets.lookup key = some b)
    {tracked : EpochConsumed} (now : b.epochConsumed = some tracked) :
    (tracked.atoms : ℚ) = used key reservations tracked.epoch := by
  have tracks := epochs.tracks key
  rw [trackedAt, present, Option.bind_some, now] at tracks
  exact tracks.1.symm

end Sums

section Runs
variable [Keccak] {rules : ReducerRules} {principal : PrincipalId} {s : LedgerState}
  {log : List (LedgerState × Option LedgerEvent)}

/-- A leg is counted at the scale of the target it is charged to: always at a node, and at a policy
target as long as no two dimensions of the run collide. -/
theorem leg_scale (trace : Trace (Step rules) (emptyLedgerState principal) log s) {id : ReservationId}
    {r : ReservationRecord} (known : s.reservations.lookup id = some r) {d : DemandRecord}
    (listed : d ∈ r.demands) {leg : LegRecord} (charged : leg ∈ d.legs) :
    ∃ b, s.targets.lookup leg.key = some b ∧
      ((∃ authority dimensionId, leg.key = .node authority dimensionId) ∨
        CollisionFree (registeredDimensions (eventsOf log)) → leg.decimals = b.dimension.limit.decimals) := by
  have reachable : Reachable rules principal s := ⟨log, trace⟩
  have ok := trace_provenance trace
  obtain ⟨b, present⟩ := Option.isSome_iff_exists.mp (reachable.books.targets known d listed leg charged)
  obtain ⟨lineage, dims, by_path, within, _⟩ := ok.charged known
  refine ⟨b, present, fun safe => ?_⟩
  cases key : leg.key with
  | node authority dimensionId =>
    rw [key] at present
    obtain ⟨node, registered, owned, rfl⟩ := reachable.nodeTargets.registered present
    obtain ⟨draft, rfl, drafted⟩ := by_path.leg_at_node registered owned listed charged key
    exact congrArg (fun d : LedgerDimensionTerm => d.limit.decimals) drafted.dimension
  | policy identity =>
    have free := safe.resolve_left fun ⟨_, _, node⟩ => by simp [key] at node
    rw [key] at present
    obtain ⟨named, member, _⟩ := ok.targets.keyed present
    obtain ⟨other, draft, same, rfl, drafted⟩ :=
      by_path.leg_at_policy free within member listed charged (key.trans named.symm)
    have decimals := congrArg (fun d : LedgerDimensionTerm => d.limit.decimals) drafted.dimension
    exact decimals.trans same.decimals

end Runs

/-- Double-entry conservation over every run. -/
theorem run_conserved [Keccak] (rules : ReducerRules) (principal : PrincipalId)
    (history : List CommittedBatch) (s : LedgerState) (run : Run rules principal history s) :
    (∀ key b, s.targets.lookup key = some b → (b.reserved : ℚ) = openAt key s.reservations ∧
      (b.consumed : ℚ) = total (chargedTo key fun d leg => atScale d leg d.consumed) s.reservations ∧
      (b.restored : ℚ) = total (chargedTo key fun d leg =>
        if leg.capacity = true then atScale d leg d.restored else 0) s.reservations ∧
      ∀ tracked, b.epochConsumed = some tracked →
        (tracked.atoms : ℚ) = used key s.reservations tracked.epoch) ∧
    (∀ id r, s.reservations.lookup id = some r → ∀ d ∈ r.demands,
      0 ≤ d.restored ∧ d.restored ≤ d.consumed ∧ d.consumed ≤ d.reserved ∧
      d.released = (if r.status = .closed then d.reserved - d.consumed else 0) ∧
      ∀ leg ∈ d.legs, Whole (legCounts d leg) ∧ ∃ b, s.targets.lookup leg.key = some b ∧
        ((∃ authority dimensionId, leg.key = .node authority dimensionId) ∨
          CollisionFree (registeredDimensions (history.flatMap (·.events))) →
          leg.decimals = b.dimension.limit.decimals)) := by
  obtain ⟨log, trace, logged⟩ := run.trace
  have books := run.reachable.books
  refine ⟨fun key b present => ⟨reserved_eq books present, ?_, ?_, fun tracked now =>
    tracked_eq run.reachable.epochs present now⟩, fun id r known d listed => ?_⟩
  · have sum := books.read consumedOf key
    rwa [present] at sum
  · have sum := books.read restoredOf key
    rwa [present] at sum
  · have ok := books.demands known d listed
    refine ⟨ok.restored, ok.consumed, ok.reserved, ok.released, fun leg charged =>
      ⟨ok.whole leg charged, ?_⟩⟩
    rw [← logged]
    exact leg_scale trace known listed charged

section Sample
attribute [local instance] platformKeccak

theorem run_conserved_sample : ∃ s b, stateAfter sampleEvents = some s ∧
    s.targets.lookup sampleKey = some b ∧ b.reserved = 4 ∧ openAt sampleKey s.reservations = 4 := by
  have counted : ((stateAfter sampleEvents).bind fun s => s.targets.lookup sampleKey).map (·.reserved) =
      some 4 := by
    rewrite [platformKeccak_straight]
    decide +kernel
  obtain ⟨b, found, reserved⟩ := Option.map_eq_some_iff.mp counted
  obtain ⟨s, after, present⟩ := Option.bind_eq_some_iff.mp found
  obtain ⟨history, run, _⟩ := stateAfter_run after
  have conserved := ((run_conserved CORE_RULES samplePrincipal history s run).1 sampleKey b present).1
  exact ⟨s, b, after, present, reserved, by rw [← conserved, reserved]; rfl⟩

/-- A second order is held in the second epoch, before anything is consumed there. -/
def rolledEvents : List LedgerEvent := sampleEvents ++ [sampleReserve 101 1 2]

/-- The reserved counter of an epoch dimension does not follow the epoch that is tracked: of nine
held open only four belong to it. -/
theorem reserved_across_epochs : ∃ history s b tracked, Run CORE_RULES samplePrincipal history s ∧
    s.targets.lookup sampleKey = some b ∧ b.dimension.restoration = .epoch ∧ b.epochConsumed = some tracked ∧
    (b.reserved : ℚ) ≠ total (fun r =>
      if r.status = .active ∧ epochIndex b.dimension r.reservedAt = some tracked.epoch then
        chargedTo sampleKey (fun d leg => atScale d leg (d.reserved - d.consumed)) r else 0)
      s.reservations := by
  have evaluated : ((stateAfter rolledEvents).bind fun s => (s.targets.lookup sampleKey).bind fun b =>
      b.epochConsumed.map fun tracked => (b.dimension.restoration, b.reserved, tracked.epoch, total (fun r =>
          if r.status = .active ∧ epochIndex b.dimension r.reservedAt = some tracked.epoch then
            chargedTo sampleKey (fun d leg => atScale d leg (d.reserved - d.consumed)) r else 0)
          s.reservations)) = some (.epoch, 9, 0, 4) := by
    rewrite [platformKeccak_straight]
    decide +kernel
  obtain ⟨s, after, rest⟩ := Option.bind_eq_some_iff.mp evaluated
  obtain ⟨b, present, rest⟩ := Option.bind_eq_some_iff.mp rest
  obtain ⟨tracked, now, values⟩ := Option.map_eq_some_iff.mp rest
  simp only [Prod.mk.injEq] at values
  obtain ⟨restores, reserved, _, sum⟩ := values
  obtain ⟨history, run, _⟩ := stateAfter_run after
  refine ⟨history, s, b, tracked, run, present, restores, now, ?_⟩
  rw [sum, reserved]
  norm_num

end Sample

end Mandate.Ledger
