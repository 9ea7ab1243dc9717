import Mandate.Ledger.Coverage

/-! Epoch counters. A target keeps the counter of its latest epoch only; what was consumed in it is
exactly what its legs of that epoch record, and nothing was consumed in a later one. -/
namespace Mandate.Ledger
open Core Lib.Table List
open Option (some.inj)

def Tracks (tracked : Option EpochConsumed) (used : Int → ℚ) : Prop :=
  match tracked with
  | none => ∀ e, used e = 0
  | some t => used t.epoch = t.atoms ∧ ∀ e, t.epoch < e → used e = 0

/-- An amount of a demand at one of its legs, in the epoch the leg was charged in. -/
def inEpoch (amount : DemandRecord → Int) (d : DemandRecord) (leg : LegRecord) (e : Int) : ℚ :=
  if leg.epoch = some e then atScale d leg (amount d) else 0

def used (key : TargetKey) (reservations : Reservations) : Int → ℚ :=
  total (chargedTo key (inEpoch (·.consumed))) reservations

def Stamped (key : TargetKey) (reservations : Reservations) (e : Int) : Prop :=
  ∃ id r, reservations.lookup id = some r ∧ ∃ d ∈ r.demands, ∃ leg ∈ d.legs, leg.key = key ∧ leg.epoch = some e

def trackedAt (key : TargetKey) (targets : Targets) : Option EpochConsumed :=
  (targets.lookup key).bind (·.epochConsumed)

structure Epochs (targets : Targets) (reservations : Reservations) : Prop where
  tracks : ∀ key, Tracks (trackedAt key targets) (used key reservations)
  stamped : ∀ key tracked, trackedAt key targets = some tracked → Stamped key reservations tracked.epoch

theorem Tracks.roll {tracked : Option EpochConsumed} {used : Int → ℚ} (ok : Tracks tracked used)
    (atoms : Int) (epoch : Option Int) :
    Tracks (rollEpoch tracked atoms epoch) (used + fun e => if epoch = some e then (atoms : ℚ) else 0) := by
  cases epoch with
  | none =>
    have still : (used + fun e => if none = some e then (atoms : ℚ) else 0) = used := by
      funext e
      simp
    rw [still]
    exact ok
  | some now =>
    cases tracked with
    | none =>
      have before : ∀ e, used e = 0 := ok
      refine ⟨by simp [before], fun e later => ?_⟩
      have other : now ≠ e := ne_of_lt later
      simp [before, other]
    | some t =>
      obtain ⟨counted, after⟩ := ok
      rcases lt_trichotomy t.epoch now with newer | same | older
      · have rolled : rollEpoch (some t) atoms (some now) = some ⟨now, atoms⟩ := by simp [rollEpoch, newer]
        rw [rolled]
        refine ⟨by simp [after now newer], fun e later => ?_⟩
        have other : now ≠ e := ne_of_lt later
        simp [after e (newer.trans later), other]
      · subst same
        have rolled : rollEpoch (some t) atoms (some t.epoch) = some ⟨t.epoch, t.atoms + atoms⟩ := by
          simp [rollEpoch]
        rw [rolled]
        refine ⟨by simp [counted], fun e later => ?_⟩
        have other : t.epoch ≠ e := ne_of_lt later
        simp [after e later, other]
      · have rolled : rollEpoch (some t) atoms (some now) = some t := by
          simp [rollEpoch, older.not_gt, ne_of_gt older]
        rw [rolled]
        refine ⟨by simp [counted, ne_of_lt older], fun e later => ?_⟩
        have other : now ≠ e := ne_of_lt (older.trans later)
        simp [after e later, other]

section Accounts
variable {kind : AccountingKind} {s : LedgerState} {e : AccountingEvent} {r : ReservationRecord}
  {moved : Targets × List DemandRecord} {epoch : Option Int}

theorem update_tracked {b next : TargetBalance} {x : Int} (ok : kind.posting.update b x epoch = some next) :
    next.epochConsumed = if kind = .consume then rollEpoch b.epochConsumed x epoch else b.epochConsumed := by
  cases kind with
  | consume =>
    simp only [AccountingKind.posting, consumePosting] at ok
    split at ok
    · cases ok
    · rw [← some.inj ok]
      rfl
  | _ => rw [← some.inj ok]; rfl

theorem record_used (pair : DemandRecord × Int) (leg : LegRecord) :
    inEpoch (·.consumed) (kind.posting.record pair.1 pair.2) leg = inEpoch (·.consumed) pair.1 leg +
      if kind.posting.only leg.capacity = true then (if kind = .consume then fun e =>
        if leg.epoch = some e then atScale pair.1 leg pair.2 else 0 else 0) else 0 := by
  funext e
  cases kind with
  | consume =>
    simp only [AccountingKind.posting, consumePosting, inEpoch, if_true, Pi.add_apply]
    split
    · exact atScale_add pair.1 leg _ _
    · simp
  | _ => simp [AccountingKind.posting, closePosting, restorePosting, inEpoch, atScale]

theorem Accounted.tracks (accounted : Accounted kind s e r moved)
    (books : Books s.targets s.reservations) (ok : Epochs s.targets s.reservations) (key : TargetKey) :
    Tracks (trackedAt key moved.1) (used key (kind.settled s r moved).reservations) := by
  refine accounted.fold (books.id accounted.known) key (fun pair leg => if kind = .consume then fun e =>
      if leg.epoch = some e then atScale pair.1 leg pair.2 else 0 else 0)
    (fun b summed => Tracks (b.bind (·.epochConsumed)) summed)
    (fun pair _ leg => record_used pair leg)
    (fun pair _ leg _ _ x b next summed exact updated before => ?_) (ok.tracks key)
  have rolled := update_tracked updated
  change Tracks next.epochConsumed _
  rw [rolled, ← exact]
  by_cases consumes : kind = .consume
  · simp only [consumes, if_true]
    exact Tracks.roll before x leg.epoch
  · simp only [consumes, if_false, add_zero]
    exact before

theorem rollEpoch_epoch {tracked : Option EpochConsumed} {atoms : Int}
    {t : EpochConsumed} (rolled : rollEpoch tracked atoms epoch = some t) :
    epoch = some t.epoch ∨ ∃ before, tracked = some before ∧ before.epoch = t.epoch := by
  cases epoch with
  | none => exact .inr ⟨t, rolled, rfl⟩
  | some now =>
    cases tracked with
    | none =>
      left
      rw [← some.inj rolled]
    | some before =>
      simp only [rollEpoch] at rolled
      split at rolled
      · left
        rw [← some.inj rolled]
      · split at rolled
        · left
          rw [← some.inj rolled]
        · exact .inr ⟨before, rfl, by rw [← some.inj rolled]⟩

theorem Accounted.stamped (accounted : Accounted kind s e r moved) (own : r.id = e.reservation)
    {key : TargetKey} {epoch : Int} (stamped : Stamped key s.reservations epoch) :
    Stamped key (kind.settled s r moved).reservations epoch := by
  obtain ⟨id, found, known, d, listed, leg, charged, here⟩ := stamped
  change ∃ id' r', (s.reservations.insert r.id (kind.record r moved.2)).lookup id' = some r' ∧ _
  by_cases same : id = r.id
  · have registered : s.reservations.lookup r.id = some r := own ▸ accounted.known
    rw [same, registered] at known
    obtain rfl := some.inj known
    have inside : d.charge ∈ moved.2.map DemandRecord.charge :=
      accounted.charges ▸ mem_map_of_mem listed
    obtain ⟨later, there, charge⟩ := mem_map.mp inside
    have legs : later.legs = d.legs := (Prod.mk.inj (Prod.mk.inj charge).2).1
    exact ⟨r.id, _, AList.lookup_insert _, later, there, leg, legs ▸ charged, here⟩
  · exact ⟨id, found, (AList.lookup_insert_ne same).trans known, d, listed, leg, charged, here⟩

theorem Accounted.epochs (accounted : Accounted kind s e r moved) (books : Books s.targets s.reservations)
    (ok : Epochs s.targets s.reservations) : Epochs moved.1 (kind.settled s r moved).reservations := by
  have own := books.id accounted.known
  refine ⟨fun key => accounted.tracks books ok key, fun key tracked present => ?_⟩
  have inside := Posting.demands_fold key (fun b (_ : Counts) => ∀ t, b.bind (·.epochConsumed) = some t →
      Stamped key s.reservations t.epoch) (fun _ _ => 0)
    (fun pair listed leg charged here _ x b next _ _ updated before t now => ?_)
    0 accounted.posted (ok.stamped key)
  · exact accounted.stamped own (inside tracked present)
  · change next.epochConsumed = some t at now
    rw [update_tracked updated] at now
    split at now
    · rcases rollEpoch_epoch now with fresh | ⟨former, was, same⟩
      · have owned : pair.1 ∈ r.demands := (of_mem_zip (b := pair.2) listed).1
        exact ⟨_, r, accounted.known, pair.1, owned, leg, charged, here, fresh⟩
      · exact same ▸ before former was
    · exact before t now

end Accounts

private theorem Epochs.relabel {targets moved : Targets} {reservations : Reservations}
    (ok : Epochs targets reservations) (same : ∀ key, trackedAt key moved = trackedAt key targets) :
    Epochs moved reservations :=
  ⟨fun key => same key ▸ ok.tracks key, fun key tracked present => ok.stamped key tracked (same key ▸ present)⟩

theorem reserved_unused {contributions : List Contribution} {legs : List (List LegDraft)} :
    ∀ d ∈ List.zipWith demandRecord contributions legs, d.consumed = 0 := by
  intro d listed
  rw [← map_uncurry_zip_eq_zipWith] at listed
  obtain ⟨pair, _, rfl⟩ := mem_map.mp listed
  rfl

section Steps
variable [Keccak] {rules : ReducerRules} {s next : LedgerState} {version : Nat} {e : LedgerEvent} {targets : Targets}

theorem policy_tracked {id : PrincipalPolicyId} {dims old : List LedgerDimensionTerm} (key : TargetKey) :
    trackedAt key (installDimensions id dims (retireDimensions old targets)) = trackedAt key targets := by
  have retired : trackedAt key (retireDimensions old targets) = trackedAt key targets := by
    rw [trackedAt, retireDimensions_lookup, trackedAt]
    cases targets.lookup key with
    | none => rfl
    | some b =>
      simp only [Option.map_some, Option.bind_some]
      split <;> rfl
  rw [← retired]
  rcases installDimensions_lookup id dims (retireDimensions old targets) key with ⟨_, same⟩ | ⟨d, _, _, set⟩
  · rw [trackedAt, same, trackedAt]
  · rw [trackedAt, set, trackedAt]
    cases (retireDimensions old targets).lookup key <;> rfl

theorem reserve_epochs {time : Int} {plan : ChargePlan} {derived : DerivedReservation}
    {policy : PrincipalPolicyId} {demand : List (TargetKey × Int)}
    (unused : s.reservations.lookup (planReservationId plan) = none)
    (available : checkAvailability s derived.legs time "plan" = .ok demand)
    (added : addDemand demand s.targets = .ok targets) (ok : Epochs s.targets s.reservations) :
    Epochs targets (s.reservations.insert (planReservationId plan)
      (reservationRecord plan derived policy time version)) := by
  have same : ∀ key, trackedAt key targets = trackedAt key s.targets := by
    intro key
    rw [trackedAt, reserve_lookup available added, trackedAt]
    cases s.targets.lookup key <;> rfl
  refine ⟨fun key => ?_, fun key tracked present => ?_⟩
  · have fresh : chargedTo key (inEpoch (·.consumed)) (reservationRecord plan derived policy time version) = 0 := by
      refine chargedTo_zero fun d listed leg _ _ => ?_
      funext e
      have zero : d.consumed = 0 := reserved_unused d listed
      simp [inEpoch, zero, atScale]
    rw [same, used, total_insert_new unused, fresh, zero_add]
    exact ok.tracks key
  · obtain ⟨id, r, known, charged⟩ := ok.stamped key tracked (same key ▸ present)
    have other : id ≠ planReservationId plan := by
      rintro rfl
      simp [unused] at known
    exact ⟨id, r, (AList.lookup_insert_ne other).trans known, charged⟩

theorem Effect.epochs (targets : NodeTargets s.nodes s.targets) (books : Books s.targets s.reservations)
    (ok : Epochs s.targets s.reservations) (effect : Effect rules s version e next) :
    Epochs next.targets next.reservations := by
  cases effect with
  | registerPolicy _ _ => exact ok.relabel policy_tracked
  | @registerGrant _ grant _ _ _ registered =>
    have fresh := (checkGrantRegistration_ok registered).2.1
    refine ok.relabel fun key => ?_
    rcases openNodeTargets_lookup (authorityId grant) grant s.targets key with ⟨_, same⟩ | ⟨d, _, rfl, opened⟩
    · rw [trackedAt, same, trackedAt]
    · rw [trackedAt, opened, trackedAt, targets.unregistered fresh]
      rfl
  | revoke _ _ => exact ok
  | reserve derivable available added => exact reserve_epochs derivable.unused available added ok
  | account accounted => exact accounted.epochs books ok
  | admitAttempt _ => exact ok

theorem Reachable.epochs {principal : PrincipalId} (reachable : Reachable rules principal s) :
    Epochs s.targets s.reservations := by
  refine reachable.induct (fun s => Epochs s.targets s.reservations) ?_
    (fun _ _ _ ok => ok) fun reached ok _ effect => effect.epochs reached.nodeTargets reached.books ok
  exact ⟨fun _ _ => rfl, fun _ _ present => by simp [trackedAt, emptyLedgerState] at present⟩

end Steps

end Mandate.Ledger
