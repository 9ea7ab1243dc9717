import Mathlib.Algebra.Group.Pi.Lemmas
import Mandate.Ledger.Epochs

/-! The budget of each epoch. Ledger time never regresses, so a reservation only ever charges the
epoch of now, and later events of an older epoch leave its total where it was or lower. -/
namespace Mandate.Ledger
open Core Lib.Scale Lib.Table Lib.Machine List
open Option (some.inj)

/-- What the reservations opened in epoch `e` have consumed at a key, and still hold open there. -/
def epochSpend (d : LedgerDimensionTerm) (key : TargetKey) (e : Int) (reservations : Reservations) : ℚ :=
  total (fun r => if epochIndex d r.reservedAt = some e then
    chargedTo key (fun demand leg => atScale demand leg (demand.consumed + demand.stillOpen)) r else 0)
    reservations

def spentIn (key : TargetKey) (e : Int) (reservations : Reservations) : ℚ :=
  total (chargedTo key fun d leg => inEpoch (fun d => d.consumed + d.stillOpen) d leg e) reservations

/-- Every leg at the key carries the epoch its reservation was opened in. -/
def Attributed (key : TargetKey) (d : LedgerDimensionTerm) (reservations : Reservations) : Prop :=
  ∀ id r, reservations.lookup id = some r → ∀ demand ∈ r.demands, ∀ leg ∈ demand.legs, leg.key = key →
    leg.epoch = epochIndex d r.reservedAt

variable {d : LedgerDimensionTerm} {key : TargetKey}

theorem epochSpend_eq {reservations : Reservations} (attributed : Attributed key d reservations) (e : Int) :
    epochSpend d key e reservations = spentIn key e reservations := by
  refine total_congr fun id r known => ?_
  by_cases opened : epochIndex d r.reservedAt = some e
  · rw [if_pos opened]
    refine chargedTo_congr fun demand listed leg charged here => ?_
    rw [inEpoch, attributed id r known demand listed leg charged here, if_pos opened]
  · rw [if_neg opened]
    refine (chargedTo_zero fun demand listed leg charged here => ?_).symm
    rw [inEpoch, attributed id r known demand listed leg charged here, if_neg opened]

theorem epochIndex_mono {early late e : Int} (le : early ≤ late)
    (index : epochIndex d early = some e) : ∃ e', epochIndex d late = some e' ∧ e ≤ e' := by
  unfold epochIndex at index ⊢
  cases epoch : d.epoch with
  | none => simp [epoch] at index
  | some ep =>
    simp only [epoch] at index ⊢
    split at index
    · cases index
    · rename_i started
      have length := ep.lengthSeconds.2.1
      refine ⟨_, if_neg (by omega), ?_⟩
      rw [← some.inj index, Int.tdiv_eq_ediv_of_nonneg (by omega), Int.tdiv_eq_ediv_of_nonneg (by omega)]
      exact Int.ediv_le_ediv (by omega) (by omega)

section Bounds
variable {targets : Targets} {reservations : Reservations} {key : TargetKey} {b : TargetBalance}
  {time e : Int}

theorem used_apply (key : TargetKey) (reservations : Reservations) (e : Int) :
    used key reservations e = total (chargedTo key fun d leg => inEpoch (·.consumed) d leg e) reservations :=
  map_charged (Pi.evalAddMonoidHom (fun _ : Int => ℚ) e) key _ reservations

theorem consumedIn_eq (epochs : Epochs targets reservations) (present : targets.lookup key = some b)
    (now : epochIndex b.dimension time = some e)
    (behind : ∀ t, b.epochConsumed = some t → t.epoch ≤ e) : (consumedIn b time : ℚ) = used key reservations e := by
  have tracks := epochs.tracks key
  rw [trackedAt, present, Option.bind_some] at tracks
  cases tracked : b.epochConsumed with
  | none =>
    rw [tracked] at tracks
    have none : used key reservations e = 0 := tracks e
    simp [consumedIn, now, tracked, none]
  | some t =>
    rw [tracked] at tracks
    obtain ⟨counted, after⟩ := tracks
    rcases (behind t tracked).eq_or_lt with same | older
    · simp [consumedIn, now, tracked, same, ← same ▸ counted]
    · simp [consumedIn, now, tracked, ne_of_lt older, after e older]

theorem held_le (books : Books targets reservations) (present : targets.lookup key = some b) (e : Int) :
    total (chargedTo key fun d leg => inEpoch (·.stillOpen) d leg e) reservations ≤ b.reserved := by
  have reserved := books.read reservedOf key
  rw [present] at reserved
  change (b.reserved : ℚ) = _ at reserved
  rw [reserved]
  refine total_mono fun id r known => chargedTo_mono fun d listed leg _ => ?_
  have ok := books.demands known d listed
  have opened : 0 ≤ d.stillOpen := ok.stillOpen
  change inEpoch (·.stillOpen) d leg e ≤ atScale d leg d.stillOpen
  unfold inEpoch
  split
  · exact le_rfl
  · exact rescaled_nonneg opened _ _

theorem spentIn_le (books : Books targets reservations) (epochs : Epochs targets reservations)
    (present : targets.lookup key = some b) (restores : b.dimension.restoration = .epoch)
    (now : epochIndex b.dimension time = some e) (behind : ∀ t, b.epochConsumed = some t → t.epoch ≤ e)
    (available : 0 ≤ availableOf b time) : spentIn key e reservations ≤ b.dimension.limit.atoms.1 := by
  have split : spentIn key e reservations = used key reservations e +
      total (chargedTo key fun d leg => inEpoch (·.stillOpen) d leg e) reservations := by
    rw [used_apply, ← total_add]
    refine total_congr fun _ r _ => ?_
    rw [chargedTo, chargedTo, chargedTo, ← sum_map_add]
    refine congrArg List.sum (map_congr_left fun d _ => ?_)
    rw [← legSum_add]
    refine legSum_congr fun leg _ _ => ?_
    unfold inEpoch
    split
    · exact atScale_add d leg _ _
    · simp
  have held := held_le books present e
  have counted := consumedIn_eq epochs present now behind
  simp only [availableOf, restores] at available
  have bound : (consumedIn b time : ℚ) + b.reserved ≤ b.dimension.limit.atoms.1 := by
    exact_mod_cast (by omega : consumedIn b time + b.reserved ≤ b.dimension.limit.atoms.1)
  rw [split, ← counted]
  linarith

theorem spentIn_nonneg (books : Books targets reservations) (key : TargetKey) (e : Int) :
    0 ≤ spentIn key e reservations := by
  refine total_nonneg fun id r known => chargedTo_nonneg fun d listed leg _ => ?_
  have ok := books.demands known d listed
  have opened := ok.stillOpen
  have consumed := ok.restored.trans ok.consumed
  unfold inEpoch
  split
  · exact rescaled_nonneg (add_nonneg consumed opened) _ _
  · exact le_rfl

end Bounds

section Accounts
variable {kind : AccountingKind} {s : LedgerState} {a : AccountingEvent} {r : ReservationRecord}
  {moved : Targets × List DemandRecord}

theorem Accounted.spentIn_le (accounted : Accounted kind s a r moved) (books : Books s.targets s.reservations)
    (key : TargetKey) (e : Int) :
    spentIn key e (kind.settled s r moved).reservations ≤ spentIn key e s.reservations := by
  have own := books.id accounted.known
  have demands := books.demands accounted.known
  refine accounted.fold own key (fun pair leg => if kind = .close then
      -inEpoch (fun _ => pair.2) pair.1 leg e else 0) (fun _ summed => summed ≤ spentIn key e s.reservations)
    (fun pair listed leg => ?_) (fun pair listed leg _ _ x b next summed _ _ before => ?_) le_rfl
  · have released := accounted.released demands pair listed
    cases kind with
    | close =>
      have zero : pair.1.released = 0 := released.resolve_right nofun
      have left : (closePosting.record pair.1 pair.2).consumed + (closePosting.record pair.1 pair.2).stillOpen =
          pair.1.consumed + pair.1.stillOpen - pair.2 := by
        simp only [closePosting, DemandRecord.stillOpen, zero]
        omega
      simp only [AccountingKind.posting, inEpoch, left, if_true]
      split
      · exact (atScale_sub pair.1 leg _ _).trans (sub_eq_add_neg _ _)
      · simp [closePosting]
    | consume =>
      have same : (consumePosting.record pair.1 pair.2).consumed + (consumePosting.record pair.1 pair.2).stillOpen =
          pair.1.consumed + pair.1.stillOpen := by
        simp only [consumePosting, DemandRecord.stillOpen]
        omega
      simp only [AccountingKind.posting, inEpoch, same, reduceCtorEq, if_false]
      simp [consumePosting, atScale]
    | restore => simp [AccountingKind.posting, restorePosting, inEpoch, DemandRecord.stillOpen, atScale]
  · have amount := accounted.nonneg pair.2 (of_mem_zip (a := pair.1) listed).2
    have nonneg : 0 ≤ inEpoch (fun _ => pair.2) pair.1 leg e := by
      unfold inEpoch
      split
      · exact rescaled_nonneg amount _ _
      · exact le_rfl
    split
    · linarith
    · simpa using before

end Accounts

theorem spentIn_absent {s : LedgerState} (books : Books s.targets s.reservations)
    (absent : s.targets.lookup key = none) (e : Int) : spentIn key e s.reservations = 0 := by
  have zero : total (fun _ : ReservationRecord => (0 : ℚ)) s.reservations = 0 := by simp [total]
  rw [← zero]
  refine total_congr fun id r known => chargedTo_zero fun d listed leg charged here => ?_
  have present := books.targets known d listed leg charged
  rw [here, absent] at present
  cases present

section Runs
variable [Keccak] {rules : ReducerRules} {principal : PrincipalId} {s next : LedgerState}
  {log : List (LedgerState × Option LedgerEvent)}

theorem trace_punctual (trace : Trace (Step rules) (emptyLedgerState principal) log s) :
    ∀ id r, s.reservations.lookup id = some r → ∃ last, s.lastAt = some last ∧ r.reservedAt ≤ last := by
  refine history_induct (fun _ s => ∀ id r, s.reservations.lookup id = some r →
    ∃ last, s.lastAt = some last ∧ r.reservedAt ≤ last) trace ?_ (fun _ ok => ok)
    fun {log s next e} earlier ok _ onward effect id r known => ?_
  · intro id r known
    simp [emptyLedgerState] at known
  · refine ⟨e.time, rfl, ?_⟩
    have before : ∀ id r, s.reservations.lookup id = some r → r.reservedAt ≤ e.time := by
      intro id r known
      obtain ⟨last, was, punctual⟩ := ok id r known
      exact punctual.trans (onward last was)
    change next.reservations.lookup id = some r at known
    cases effect with
    | reserve _ _ _ =>
      rw [lookup_insert_eq] at known
      split at known
      · rw [← some.inj known]
        exact le_rfl
      · exact before id r known
    | @account kind _ r' moved accounted =>
      change (s.reservations.insert r'.id (kind.record r' moved.2)).lookup id = some r at known
      rw [lookup_insert_eq] at known
      split at known
      · rw [← some.inj known]
        exact before _ r' accounted.known
      · exact before id r known
    | _ => exact before id r known

variable {d : LedgerDimensionTerm} {key : TargetKey} {e : Int}

theorem trace_behind (trace : Trace (Step rules) (emptyLedgerState principal) log s) {b : TargetBalance} (present : s.targets.lookup key = some b)
    (attributed : Attributed key d s.reservations) {last : Int} (clock : s.lastAt = some last)
    (now : epochIndex d last = some e) : ∀ t, b.epochConsumed = some t → t.epoch ≤ e := by
  intro t tracked
  have reachable : Reachable rules principal s := ⟨log, trace⟩
  obtain ⟨id, r, known, demand, listed, leg, charged, here, stamped⟩ :=
    reachable.epochs.stamped key t (by rw [trackedAt, present]; exact tracked)
  have index := attributed id r known demand listed leg charged here
  obtain ⟨last', clock', punctual⟩ := trace_punctual trace id r known
  obtain rfl := some.inj (clock.symm.trans clock')
  obtain ⟨e', current, le⟩ := epochIndex_mono punctual (index.symm.trans stamped)
  obtain rfl := some.inj (now.symm.trans current)
  exact le

theorem node_attributed (trace : Trace (Step rules) (emptyLedgerState principal) log s) {id : AuthorityId}
    {node : NodeRecord} (known : s.nodes.lookup id = some node)
    (listed : d ∈ grantDimensions node.grant) (restores : d.restoration = .epoch) :
    Attributed (.node id d.dimensionId) d s.reservations := by
  intro reservation r present demand inside leg charged here
  obtain ⟨lineage, dims, charges, _⟩ := (trace_provenance trace).charged present
  obtain ⟨draft, rfl, drafted⟩ := charges.leg_at_node known listed inside charged here
  have epoch := drafted.epoch
  rwa [if_pos restores] at epoch

theorem policy_attributed (trace : Trace (Step rules) (emptyLedgerState principal) log s)
    (free : CollisionFree (registeredDimensions (eventsOf log)))
    (known : d ∈ registeredDimensions (eventsOf log)) (restores : d.restoration = .epoch) :
    Attributed (policyKey d) d s.reservations := by
  intro reservation r present demand inside leg charged here
  obtain ⟨lineage, dims, charges, within, _⟩ := (trace_provenance trace).charged present
  obtain ⟨other, draft, same, rfl, drafted⟩ := charges.leg_at_policy free within known inside charged here
  have epoch := drafted.epoch
  have index : epochIndex other r.reservedAt = epochIndex d r.reservedAt := by
    simp only [epochIndex, same.epoch]
  rwa [if_pos (same.restoration.trans restores), index] at epoch

structure ChargesNow (s next : LedgerState) (time : Int) (key : TargetKey) (e : Int) (b : TargetBalance) : Prop where
  present : next.targets.lookup key = some b
  available : 0 ≤ availableOf b time
  attributed : ∀ d, Attributed key d next.reservations → epochIndex d time = some e
  policy : ∀ identity, key = .policy identity →
    ∃ d ∈ policyDimsOf s, policyKey d = key ∧ d.restoration = .epoch

variable {version : Nat}

theorem reserve_spentIn {plan : ChargePlan} {time : Int} {policy : PolicyRecord}
    {derived : DerivedReservation} {demand : List (TargetKey × Int)} {targets : Targets}
    {actions : PMap ActionId ActionRecord} (derivable : Derivable s plan time policy derived)
    (available : checkAvailability s derived.legs time "plan" = .ok demand)
    (added : addDemand demand s.targets = .ok targets) (key : TargetKey) (e : Int) :
    let next : LedgerState := { s with
      everReserved := true
      targets := targets
      reservations := s.reservations.insert (planReservationId plan)
        (reservationRecord plan derived policy.id time version)
      actions := actions }
    spentIn key e next.reservations = spentIn key e s.reservations ∨ ∃ b, ChargesNow s next time key e b := by
  intro next
  by_cases charged : ∃ d ∈ List.zipWith demandRecord plan.contributions derived.legs,
      ∃ leg ∈ d.legs, leg.key = key ∧ leg.epoch = some e
  · obtain ⟨d, listed, leg, inside, here, stamped⟩ := charged
    obtain ⟨draft, drafted, same⟩ := (drafted_ok derivable.drafted d listed).2 leg inside
    obtain ⟨b, present, enough⟩ := reserve_available available added draft drafted
    refine .inr ⟨b, by rw [← here, ← same]; exact present, enough, fun dim attributed => ?_,
      fun identity is => ?_⟩
    · have index := attributed (planReservationId plan) _ (AList.lookup_insert _)
        d listed leg inside here
      exact index.symm.trans stamped
    · obtain ⟨drafts, legs, path⟩ := (drafted_demands derivable.drafted).2 d listed
      obtain ⟨found, there, rfl⟩ := mem_map.mp (legs ▸ inside)
      obtain ⟨⟨at_, dim⟩, on, ok⟩ := drafted_of_mem path there
      obtain rfl : at_ = .policy identity := ok.key.symm.trans (here.trans is)
      obtain ⟨named, _, member⟩ := policy_mem_chargePath.mp on
      refine ⟨dim, member, named.trans is.symm, ?_⟩
      by_contra other
      have epoch := ok.epoch
      rw [if_neg other] at epoch
      simp [legRecordOf, epoch] at stamped
  · have none : chargedTo key (fun d leg => inEpoch (fun d => d.consumed + d.stillOpen) d leg e)
        (reservationRecord plan derived policy.id time version) = 0 := by
      refine chargedTo_zero fun d listed leg inside here => if_neg fun stamped => charged ?_
      exact ⟨d, listed, leg, inside, here, stamped⟩
    left
    change total _ (s.reservations.insert _ _) = _
    rw [total_insert_new derivable.unused, none, zero_add, spentIn]

theorem Effect.spentIn {event : LedgerEvent} (books : Books s.targets s.reservations)
    (effect : Effect rules s version event next) (key : TargetKey) (e : Int) :
    spentIn key e next.reservations ≤ spentIn key e s.reservations ∨
      next.policy = s.policy ∧ ∃ b, ChargesNow s next event.time key e b := by
  cases effect with
  | reserve derivable available added =>
    rcases reserve_spentIn derivable available added key e with same | ⟨b, now⟩
    · exact .inl same.le
    · exact .inr ⟨rfl, b, now⟩
  | account accounted => exact .inl (accounted.spentIn_le books key e)
  | _ => exact .inl le_rfl

theorem node_spentIn (trace : Trace (Step rules) (emptyLedgerState principal) log s) :
    ∀ id dimensionId b, s.targets.lookup (.node id dimensionId) = some b → b.dimension.restoration = .epoch →
      ∀ e, Ledger.spentIn (.node id dimensionId) e s.reservations ≤ b.dimension.limit.atoms.1 := by
  refine history_induct (fun _ s => ∀ id dimensionId b, s.targets.lookup (.node id dimensionId) = some b →
    b.dimension.restoration = .epoch → ∀ e, Ledger.spentIn (.node id dimensionId) e s.reservations ≤
      b.dimension.limit.atoms.1) trace ?_ (fun _ ok => ok)
    fun {log s next event} earlier ok later _ effect id dimensionId b present restores e => ?_
  · intro id dimensionId b present
    simp [emptyLedgerState] at present
  · have before : Reachable rules principal s := ⟨log, earlier⟩
    have after : Reachable rules principal { next with lastAt := some event.time } := ⟨_, later⟩
    obtain ⟨node, registered, owned, rfl⟩ := after.nodeTargets.registered present
    rcases effect.spentIn before.books (.node id b.dimension.dimensionId) e with less | ⟨_, b', now⟩
    · refine less.trans ?_
      cases was : s.targets.lookup (.node id b.dimension.dimensionId) with
      | none =>
        rw [spentIn_absent before.books was]
        exact_mod_cast b.dimension.limit.atoms.2.1
      | some old =>
        obtain ⟨former, known, owned', named⟩ := before.nodeTargets.registered was
        obtain ⟨kept, found, same⟩ := effect.nodesKept before.nodesOk id former known
        obtain rfl := some.inj (found.symm.trans registered)
        have dimension : old.dimension = b.dimension :=
          inj_on_of_nodup_map (dimensions_distinct kept.grant.terms) (same.grant ▸ owned') owned named
        have bound := ok id _ old was (dimension ▸ restores) e
        rwa [dimension] at bound
    · obtain rfl := some.inj (now.present.symm.trans present)
      have attributed := node_attributed later registered owned restores
      have index := now.attributed _ attributed
      exact spentIn_le after.books after.epochs present restores index
        (trace_behind later present attributed rfl index) now.available

/-- The spend is within a limit that the policy set at some instant of the epoch. -/
def InForce (log : List (LedgerState × Option LedgerEvent)) (key : TargetKey) (e : Int) (spend : ℚ) : Prop :=
  ∃ before event, (before, some event) ∈ log ∧ ∃ d ∈ policyDimsOf before, policyKey d = key ∧
    epochIndex d event.time = some e ∧ spend ≤ d.limit.atoms.1

private theorem InForce.mono {more : List (LedgerState × Option LedgerEvent)}
    {spend less : ℚ} (ok : InForce log key e spend) (grown : log ⊆ more) (le : less ≤ spend) :
    InForce more key e less := by
  obtain ⟨before, event, recorded, d, listed, named, index, bound⟩ := ok
  exact ⟨before, event, grown recorded, d, listed, named, index, le.trans bound⟩

theorem policy_spentIn (trace : Trace (Step rules) (emptyLedgerState principal) log s)
    (free : CollisionFree (registeredDimensions (eventsOf log))) (identity : Digest32) (e : Int) :
    Ledger.spentIn (.policy identity) e s.reservations ≤ 0 ∨
      InForce log (.policy identity) e (Ledger.spentIn (.policy identity) e s.reservations) := by
  revert free
  refine history_induct (fun log s => CollisionFree (registeredDimensions (eventsOf log)) →
    Ledger.spentIn (.policy identity) e s.reservations ≤ 0 ∨
      InForce log (.policy identity) e (Ledger.spentIn (.policy identity) e s.reservations)) trace
    (fun _ => .inl le_rfl) (fun {log s} head ok free => ?_)
    fun {log s next event} earlier ok later _ effect free => ?_
  · have same : eventsOf (log ++ [(s, none)]) = eventsOf log := by simp [eventsOf]
    rw [same] at free
    exact (ok free).imp_right fun inForce => inForce.mono (subset_append_left _ _) le_rfl
  · have more : eventsOf (log ++ [(s, some event)]) = eventsOf log ++ [event] := by simp [eventsOf]
    have grown := registeredDimensions_mono (eventsOf log) event
    have before : Reachable rules principal s := ⟨log, earlier⟩
    have after : Reachable rules principal { next with lastAt := some event.time } := ⟨_, later⟩
    rcases effect.spentIn before.books (.policy identity) e with less | ⟨unchanged, b, now⟩
    · rcases ok (free.subset (by rw [more]; exact grown)) with nothing | inForce
      · exact .inl (less.trans nothing)
      · exact .inr (inForce.mono (subset_append_left _ _) less)
    · -- the dimension charged is the one in force, so the target's limit is its own
      obtain ⟨d, listed, named, restores⟩ := now.policy identity rfl
      have still : d ∈ policyDimsOf { next with lastAt := some event.time } := by
        unfold policyDimsOf at listed ⊢
        rwa [unchanged]
      obtain ⟨b', present, _, dimension⟩ := (trace_provenance later).inForce free still
      rw [named] at present
      obtain rfl := some.inj (now.present.symm.trans present)
      have attributed := policy_attributed later free ((trace_provenance later).listed still) restores
      rw [named] at attributed
      have index := now.attributed d attributed
      have bound := spentIn_le after.books after.epochs present (dimension ▸ restores) (dimension ▸ index)
        (trace_behind later present attributed rfl index) now.available
      rw [dimension] at bound
      exact .inr ⟨s, event, by simp, d, listed, named, index, bound⟩

end Runs

/-- The budget of every epoch over every run: what its reservations consumed and still hold is within
the limit of a node, and within a limit that the policy had in force during that very epoch. -/
theorem run_epoch_budget [Keccak] (rules : ReducerRules) (principal : PrincipalId)
    (history : List CommittedBatch) (s : LedgerState) (run : Run rules principal history s) :
    ∃ log, Trace (Step rules) (emptyLedgerState principal) log s ∧ eventsOf log = history.flatMap (·.events) ∧
      (∀ id node, s.nodes.lookup id = some node → ∀ d ∈ grantDimensions node.grant,
        d.restoration = .epoch → ∀ e,
          epochSpend d (.node id d.dimensionId) e s.reservations ≤ d.limit.atoms.1) ∧
      (CollisionFree (registeredDimensions (history.flatMap (·.events))) →
        ∀ d ∈ registeredDimensions (history.flatMap (·.events)), d.restoration = .epoch → ∀ e,
          epochSpend d (policyKey d) e s.reservations = 0 ∨
            InForce log (policyKey d) e (epochSpend d (policyKey d) e s.reservations)) := by
  obtain ⟨log, trace, logged⟩ := run.trace
  have reachable := run.reachable
  refine ⟨log, trace, logged, fun id node known d listed restores e => ?_, fun free d listed restores e => ?_⟩
  · rw [epochSpend_eq (node_attributed trace known listed restores)]
    obtain ⟨b, present, rfl⟩ := reachable.nodeTargets.opened known d listed
    exact node_spentIn trace id _ b present restores e
  · rw [← logged] at free listed
    rw [epochSpend_eq (policy_attributed trace free listed restores)]
    refine (policy_spentIn trace free (policyDimensionIdentity d) e).imp_left fun nothing => ?_
    exact le_antisymm nothing (spentIn_nonneg reachable.books _ e)

section Sample
attribute [local instance] platformKeccak

/-- Five orders were reserved in the first epoch of a policy that allows ten. -/
theorem run_epoch_budget_sample : ∃ s, stateAfter cappedEvents = some s ∧
    epochSpend sampleDimension sampleKey 0 s.reservations ≤ 10 ∧ ∃ log, eventsOf log = cappedEvents ∧
      (epochSpend sampleDimension (policyKey sampleDimension) 0 s.reservations = 0 ∨
        InForce log (policyKey sampleDimension) 0
          (epochSpend sampleDimension (policyKey sampleDimension) 0 s.reservations)) := by
  have granted : ((stateAfter cappedEvents).bind fun s => (s.nodes.lookup (authorityId sampleGrant)).map
      (·.grant)) = some sampleGrant := by
    rewrite [platformKeccak_straight]
    decide +kernel
  obtain ⟨s, after, found⟩ := Option.bind_eq_some_iff.mp granted
  obtain ⟨node, known, grant⟩ := Option.map_eq_some_iff.mp found
  obtain ⟨history, run, events⟩ := stateAfter_run after
  obtain ⟨log, _, logged, nodes, policies⟩ := run_epoch_budget CORE_RULES samplePrincipal history s run
  rw [events] at policies
  have listed : sampleDimension ∈ grantDimensions node.grant := by
    rw [grant]
    decide +kernel
  have bound := nodes (authorityId sampleGrant) node known sampleDimension listed rfl 0
  exact ⟨s, after, bound, log, logged.trans events,
    policies (by decide +kernel) sampleDimension (by decide +kernel) rfl 0⟩

end Sample

end Mandate.Ledger
