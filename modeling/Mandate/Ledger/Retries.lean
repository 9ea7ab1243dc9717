import Mandate.Ledger.Conservation
import Mandate.Ledger.Generations

/-! What a closed generation leaves behind: its amounts are final, and the next generation of its
action waits for every earlier one to be closed, whatever those consumed. -/
namespace Mandate.Ledger
open Core Lib.Table Lib.Machine

def DemandRecord.settlement (d : DemandRecord) : Int × Int × Int := (d.reserved, d.consumed, d.released)

def Spent (s : LedgerState) (action : ActionId) : Prop :=
  ∃ id r, s.reservations.lookup id = some r ∧ r.action = action ∧ r.status = .closed ∧
    ∃ d ∈ r.demands, 0 < d.consumed

/-- `id` is closed, and its attempts are those of `s`. -/
structure ClosedWith (s later : LedgerState) (id : ReservationId) : Prop where
  closed : ∃ r, later.reservations.lookup id = some r ∧ r.status = .closed
  attempts : ∀ attempt record, record.admission.reservation = id →
    (later.attempts.lookup attempt = some record ↔ s.attempts.lookup attempt = some record)

structure ReservationRecord.Settled (r later : ReservationRecord) : Prop where
  action : later.action = r.action
  generation : later.generation = r.generation
  closed : later.status = .closed
  amounts : later.demands.map DemandRecord.settlement = r.demands.map DemandRecord.settlement

theorem Accounted.settles {s : LedgerState} {e : AccountingEvent} {r : ReservationRecord}
    {moved : Targets × List DemandRecord} (accounted : Accounted .restore s e r moved) :
    moved.2.map DemandRecord.settlement = r.demands.map DemandRecord.settlement := by
  calc moved.2.map DemandRecord.settlement
    _ = ((r.demands.zip e.amounts).map Prod.fst).map DemandRecord.settlement := by
      rw [(Posting.demands_ok accounted.posted).1, List.map_map, List.map_map]
      rfl
    _ = r.demands.map DemandRecord.settlement := by rw [accounted.pairs_fst]

section Steps
variable [Keccak] {rules : ReducerRules} {s next : LedgerState} {principal : PrincipalId}

private theorem Effect.settled {version : Nat} {e : LedgerEvent} {id : ReservationId} {r : ReservationRecord}
    (books : Books s.targets s.reservations) (known : s.reservations.lookup id = some r)
    (closed : r.status = .closed) (effect : Effect rules s version e next) :
    ∃ later, next.reservations.lookup id = some later ∧ r.Settled later := by
  have still : r.Settled r := ⟨rfl, rfl, closed, rfl⟩
  cases effect with
  | reserve derivable =>
    refine ⟨r, ?_, still⟩
    rw [lookup_insert_eq, if_neg, known]
    rintro rfl
    rw [derivable.unused] at known
    cases known
  | @account kind e found moved accounted =>
    by_cases here : id = found.id
    · have same := accounted.known
      rw [← books.id accounted.known, ← here, known] at same
      obtain rfl := Option.some.inj same
      rcases accounted.active with rfl | active
      · refine ⟨AccountingKind.restore.record r moved.2, ?_, rfl, rfl, closed, accounted.settles⟩
        rw [here]
        exact AList.lookup_insert _
      · rw [closed] at active
        cases active
    · exact ⟨r, (lookup_insert_eq ..).trans ((if_neg here).trans known), still⟩
  | _ => exact ⟨r, known, still⟩

/-- A closed generation is final, and a later one is reserved only when every earlier one is closed. -/
theorem generations_settled (reachable : Reachable rules principal s) (action : ActionId) :
    (∀ id r, s.reservations.lookup id = some r → r.action = action → r.status = .closed →
      ∀ next, Reaches (Step rules) s next →
        ∃ later, next.reservations.lookup id = some later ∧ r.Settled later) ∧
    ∀ time plan lineage policy legs next, plan.action = action →
      applyEvent s (.reserve time plan lineage policy legs) (s.version + 1) rules = .ok next →
        (∀ id r, s.reservations.lookup id = some r → r.action = action →
          r.status = .closed ∧ r.generation.1 < plan.generation.1) ∧ ∀ n, 1 ≤ n → n < plan.generation.1 →
          ∃ id r, s.reservations.lookup id = some r ∧ r.action = action ∧ r.generation.1 = n := by
  refine ⟨?_, ?_⟩
  · intro id r known _ closed next onward
    refine onward.induct (fun later => ∃ r', later.reservations.lookup id = some r' ∧ r.Settled r')
      ⟨r, known, rfl, rfl, closed, rfl⟩ ?_
    rintro before label after reached ⟨between, found, settled⟩ step
    cases step with
    | event accepted =>
      obtain ⟨_, moved, effect, rfl⟩ := applyEvent_effect accepted
      have books := Reachable.books (reachable.trans reached)
      obtain ⟨later, present, again⟩ := effect.settled books found settled.closed
      exact ⟨later, present, again.action.trans settled.action, again.generation.trans settled.generation,
        again.closed, again.amounts.trans settled.amounts⟩
    | «sealed» head => exact ⟨between, found, settled⟩
  · rintro time plan lineage policy legs next rfl accepted
    obtain ⟨_, _, dispatched, _⟩ := applyEvent_ok accepted
    obtain ⟨_, _, _, _, derivable, _⟩ := applyReserve_ok dispatched
    obtain ⟨free, successive⟩ := derivable.closedAt
    have sequenced := reachable.sequenced
    refine ⟨fun id r known same => ⟨?_, ?_⟩, fun n positive below => ?_⟩
    · cases status : r.status with
      | closed => rfl
      | active =>
        have pointed := (sequenced.active known).mp status
        rw [same, free] at pointed
        cases pointed
    · have below := (sequenced.within known).2
      rw [same] at below
      omega
    · exact sequenced.every positive (by omega)

/-- Whatever follows, no attempt is admitted under a closed reservation, and none of it is lost. -/
theorem closed_admits_nothing (reachable : Reachable rules principal s) {id : ReservationId} {r : ReservationRecord}
    (known : s.reservations.lookup id = some r) (closed : r.status = .closed) {later : LedgerState}
    (onward : Reaches (Step rules) s later) : ClosedWith s later id := by
  refine onward.induct (ClosedWith s · id) ⟨⟨r, known, closed⟩, fun _ _ _ => .rfl⟩ ?_
  rintro before label after reached ⟨⟨r', found, still⟩, same⟩ step
  cases step with
  | «sealed» head => exact ⟨⟨r', found, still⟩, same⟩
  | event accepted =>
    obtain ⟨_, moved, effect, rfl⟩ := applyEvent_effect accepted
    obtain ⟨r'', present, settled⟩ := effect.settled (Reachable.books (reachable.trans reached)) found still
    refine ⟨⟨r'', present, settled.closed⟩, fun attempt record mine => ?_⟩
    rw [← same attempt record mine]
    cases effect with
    | @admitAttempt _ a _ admissible =>
      -- An attempt is admitted under an active reservation only.
      have other : a.reservation ≠ id := by
        rintro rfl
        obtain rfl := Option.some.inj (found.symm.trans admissible.reservation)
        rw [admissible.active] at still
        cases still
      change (before.attempts.insert _ _).lookup attempt = some record ↔ _
      rw [lookup_insert_eq]
      split
      · rename_i here
        subst here
        rw [admissible.unused]
        constructor <;> intro admitted <;> cases admitted
        exact absurd mine other
      · rfl
    | _ => exact .rfl

end Steps

section Sample

def settledEvents [Keccak] : List LedgerEvent :=
  sampleEvents ++ [.close ⟨3, planReservationId (samplePlan 1), ⟨1, positive_one⟩, 8, [4]⟩]

def secondPlan [Keccak] : ChargePlan := { samplePlan 1 with generation := ⟨2, by decide⟩ }

def sampleRetry [Keccak] : LedgerEvent :=
  .reserve 4 secondPlan [authorityId sampleGrant]
    (principalPolicyId samplePolicy)
    [[⟨.node (authorityId sampleGrant) sampleDimension.dimensionId, 5, some 0⟩]]

attribute [local instance] platformKeccak

theorem settled_retried : ((stateAfter settledEvents).bind fun s =>
    (s.reservations.lookup (planReservationId (samplePlan 1))).bind fun r =>
      (applyEvent s sampleRetry (s.version + 1) CORE_RULES).toOption.map fun _ =>
        (r.action, r.status, r.demands.map (·.consumed))) = some (1, .closed, [1]) := by
  rewrite [platformKeccak_straight]
  decide +kernel

/-- An action that closed with something consumed is reserved again. -/
theorem spent_reserved_again : ∃ history s time plan lineage policy legs next,
    Run CORE_RULES samplePrincipal history s ∧ Spent s 1 ∧ plan.action = 1 ∧
      applyEvent s (.reserve time plan lineage policy legs) (s.version + 1) CORE_RULES = .ok next := by
  obtain ⟨s, after, found⟩ := Option.bind_eq_some_iff.mp settled_retried
  obtain ⟨r, known, retried⟩ := Option.bind_eq_some_iff.mp found
  obtain ⟨next, accepted, same⟩ := Option.map_eq_some_iff.mp retried
  obtain ⟨history, run, _⟩ := stateAfter_run after
  simp only [Prod.mk.injEq] at same
  obtain ⟨action, closed, consumed⟩ := same
  obtain ⟨d, listed, one⟩ := List.mem_map.mp (consumed ▸ List.mem_singleton_self (1 : Int))
  have again : applyEvent s sampleRetry (s.version + 1) CORE_RULES = .ok next := by
    cases outcome : applyEvent s sampleRetry (s.version + 1) CORE_RULES with
    | error _ => simp [outcome, Except.toOption] at accepted
    | ok value => simpa [outcome, Except.toOption] using accepted
  have spent : Spent s 1 := ⟨_, r, known, action, closed, d, listed, by omega⟩
  exact ⟨history, s, 4, secondPlan, _, _, _, next, run, spent, rfl, again⟩

/-- What a closed generation consumed stays, whatever follows. -/
theorem generations_settled_sample : ∃ s r, stateAfter settledEvents = some s ∧
    s.reservations.lookup (planReservationId (samplePlan 1)) = some r ∧
    ∀ next, Reaches (Step CORE_RULES) s next → ∃ later,
      next.reservations.lookup (planReservationId (samplePlan 1)) = some later ∧ r.Settled later := by
  obtain ⟨s, after, found⟩ := Option.bind_eq_some_iff.mp settled_retried
  obtain ⟨r, known, retried⟩ := Option.bind_eq_some_iff.mp found
  obtain ⟨_, _, same⟩ := Option.map_eq_some_iff.mp retried
  obtain ⟨history, run, _⟩ := stateAfter_run after
  simp only [Prod.mk.injEq] at same
  obtain ⟨action, closed, _⟩ := same
  exact ⟨s, r, after, known, (generations_settled run.reachable 1).1 _ r known action closed⟩

theorem closed_admits_nothing_sample : ∃ s r, stateAfter settledEvents = some s ∧
    s.reservations.lookup (planReservationId (samplePlan 1)) = some r ∧ r.status = .closed ∧
    ∀ later, Reaches (Step CORE_RULES) s later → ClosedWith s later (planReservationId (samplePlan 1)) := by
  obtain ⟨s, after, found⟩ := Option.bind_eq_some_iff.mp settled_retried
  obtain ⟨r, known, retried⟩ := Option.bind_eq_some_iff.mp found
  obtain ⟨_, _, same⟩ := Option.map_eq_some_iff.mp retried
  obtain ⟨history, run, _⟩ := stateAfter_run after
  have closed : r.status = .closed := congrArg (·.2.1) same
  exact ⟨s, r, after, known, closed, fun _ => closed_admits_nothing run.reachable known closed⟩

end Sample

end Mandate.Ledger
