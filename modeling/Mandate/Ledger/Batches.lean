import Mandate.Ledger.Accounting

/-! Whole batches: what every effect keeps, a batch keeps; reservations are never taken away, each
stands under the identity of its action and generation, and a batch of one reservation adds it. -/
namespace Mandate.Ledger
open Core Lib.Table List

section Batches
variable [Keccak] {rules : ReducerRules} {s next : LedgerState} {events : List LedgerEvent} {version : Nat}

theorem applyEvents_keeps {holds : LedgerState → Prop}
    (clock : ∀ {s : LedgerState} (version : Nat) (head : LedgerHeadDigest) (lastAt : Option Int),
      holds s → holds { s with version := version, head := head, lastAt := lastAt })
    (effect : ∀ {s next : LedgerState} {e : LedgerEvent} {version : Nat}, holds s → e ∈ events →
      Effect rules s version e next → holds next)
    {index : Nat} (ok : applyEvents version rules s events index = .ok next) (start : holds s) : holds next := by
  induction events generalizing s index with
  | nil =>
    obtain rfl := Except.ok.inj ok
    exact start
  | cons e rest ih =>
    obtain ⟨middle, accepted, ok⟩ := except_bind_success ok
    have accepted : applyEvent s e version rules = .ok middle := by
      cases outcome : applyEvent s e version rules with
      | error _ => simp [outcome, Except.mapError] at accepted
      | ok value => simpa [outcome, Except.mapError] using accepted
    obtain ⟨_, moved, done, rfl⟩ := applyEvent_effect accepted
    refine ih (fun kept member => effect kept (mem_cons_of_mem _ member)) ok ?_
    exact clock moved.version moved.head _ (effect start mem_cons_self done)

variable {applied : AppliedBatch}

theorem applyBatch_keeps (holds : LedgerState → Prop)
    (ok : applyBatch s events rules = .ok applied) (start : holds s)
    (clock : ∀ {s : LedgerState} (version : Nat) (head : LedgerHeadDigest) (lastAt : Option Int),
      holds s → holds { s with version := version, head := head, lastAt := lastAt })
    (effect : ∀ {s next : LedgerState} {e : LedgerEvent} {version : Nat}, holds s → e ∈ events →
      Effect rules s version e next → holds next) : holds applied.state := by
  obtain ⟨current, folded, _, state⟩ := applyBatch_ok ok
  have held := applyEvents_keeps clock effect folded start
  rw [state]
  exact clock _ _ current.lastAt held

theorem applyBatch_attempts (ok : applyBatch s events rules = .ok applied) :
    (∀ id record, s.attempts.lookup id = some record → applied.state.attempts.lookup id = some record) ∧
      ∀ id record, applied.state.attempts.lookup id = some record →
        s.attempts.lookup id = some record ∨ .admitAttempt record.admittedTime record.admission ∈ events := by
  constructor
  · intro id record known
    refine applyBatch_keeps (fun later => later.attempts.lookup id = some record) ok known (fun _ _ _ kept => kept) ?_
    intro before next e version kept _ effect
    cases effect with
    | admitAttempt admissible =>
      change (before.attempts.insert _ _).lookup id = some record
      rw [lookup_insert_eq, if_neg, kept]
      rintro rfl
      rw [admissible.unused] at kept
      cases kept
    | _ => exact kept
  · refine applyBatch_keeps (fun later => ∀ id record, later.attempts.lookup id = some record →
      s.attempts.lookup id = some record ∨ .admitAttempt record.admittedTime record.admission ∈ events) ok
      (fun id record known => .inl known) (fun _ _ _ kept => kept) ?_
    intro before next e version kept listed effect id record known
    cases effect with
    | admitAttempt admissible =>
      change (before.attempts.insert _ _).lookup id = some record at known
      rw [lookup_insert_eq] at known
      split at known
      · obtain rfl := Option.some.inj known
        exact .inr listed
      · exact kept id record known
    | _ => exact kept id record known

variable {principal : PrincipalId}

theorem attempts_committed {history : List CommittedBatch} {id : AttemptId}
    {record : AttemptRecord} (run : Run rules principal history s) (known : s.attempts.lookup id = some record) :
    ∃ batch ∈ history, .admitAttempt record.admittedTime record.admission ∈ batch.events := by
  induction run with
  | genesis => simp [emptyLedgerState] at known
  | batch run accepted ih =>
    rcases (applyBatch_attempts accepted).2 id record known with earlier | here
    · obtain ⟨batch, listed, found⟩ := ih earlier
      exact ⟨batch, mem_append_left _ listed, found⟩
    · exact ⟨_, mem_append_right _ (mem_singleton.mpr rfl), here⟩

variable {e : LedgerEvent}

theorem applyBatch_single (ok : applyBatch s [e] rules = .ok applied) :
    ∃ after, applyEvent s e (s.version + 1) rules = .ok after ∧ applied.state =
      { after with version := s.version + 1, head := batchHead applied.encoded } := by
  obtain ⟨current, folded, _, state⟩ := applyBatch_ok ok
  obtain ⟨after, accepted, rest⟩ := except_bind_success folded
  obtain rfl := Except.ok.inj rest
  refine ⟨after, ?_, state⟩
  cases outcome : applyEvent s e (s.version + 1) rules with
  | error _ => simp [outcome, Except.mapError] at accepted
  | ok value => simpa [outcome, Except.mapError] using accepted

variable {id : ReservationId}

theorem Effect.keeps_reservation
    (known : (s.reservations.lookup id).isSome) (effect : Effect rules s version e next) :
    (next.reservations.lookup id).isSome := by
  have kept : ∀ key record, ((s.reservations.insert key record).lookup id).isSome := by
    intro key record
    rw [lookup_insert_eq]
    split
    · rfl
    · exact known
  cases effect with
  | reserve => exact kept _ _
  | @account kind e r moved accounted => cases kind <;> exact kept _ _
  | _ => exact known

theorem applyBatch_keeps_reservation
    (ok : applyBatch s events rules = .ok applied) (known : (s.reservations.lookup id).isSome) :
    (applied.state.reservations.lookup id).isSome :=
  applyBatch_keeps (fun s => (s.reservations.lookup id).isSome) ok known (fun _ _ _ kept => kept)
    fun kept _ effect => effect.keeps_reservation kept

theorem applyBatch_reserves {time : Int} {plan : ChargePlan} {lineage : List AuthorityId}
    {policy : PrincipalPolicyId} {legs : List (List EventLeg)}
    (ok : applyBatch s [.reserve time plan lineage policy legs] rules = .ok applied) :
    s.reservations.lookup (planReservationId plan) = none ∧
      (applied.state.reservations.lookup (planReservationId plan)).isSome := by
  obtain ⟨after, accepted, state⟩ := applyBatch_single ok
  obtain ⟨_, moved, dispatched, rfl⟩ := applyEvent_ok accepted
  obtain ⟨derived, current, demand, targets, derivable, _, _, _, _, _, rfl⟩ := applyReserve_ok dispatched
  refine ⟨derivable.unused, ?_⟩
  rw [state]
  change ((s.reservations.insert _ _).lookup _).isSome
  rw [AList.lookup_insert]
  rfl

theorem Reachable.identified (reachable : Reachable rules principal s)
    {r : ReservationRecord} (known : s.reservations.lookup id = some r) :
    id = reservationIdFor r.action r.generation := by
  revert id r
  refine reachable.induct (fun s => ∀ {id r}, s.reservations.lookup id = some r →
    id = reservationIdFor r.action r.generation) nofun (fun _ _ _ named => named) ?_
  intro s next e reached named _ effect id r known
  cases effect with
  | @reserve time plan derived current demand targets derivable _ _ =>
    rw [lookup_insert_eq] at known
    split at known
    · rename_i here
      obtain rfl := Option.some.inj known
      exact here
    · exact named known
  | @account kind e found moved accounted =>
    have own := named accounted.known
    have whose := reached.books.id accounted.known
    have settled : ∀ after, after.action = found.action → after.generation = found.generation →
        (s.reservations.insert found.id after).lookup id = some r → id = reservationIdFor r.action r.generation := by
      intro after action generation known
      rw [lookup_insert_eq] at known
      split at known
      · rename_i here
        obtain rfl := Option.some.inj known
        rw [here, whose, action, generation]
        exact own
      · exact named known
    cases kind <;> exact settled (AccountingKind.record _ found moved.2) rfl rfl known
  | _ => exact named known

end Batches

end Mandate.Ledger
