import Mandate.Ledger.Targets

/-! The books of a ledger: at every key the counters are the sum of what each reservation
holds open, consumed and had restored there, and each demand is in order by itself. -/
namespace Mandate.Ledger
open Core Lib.Scale Lib.Table List
open Option (some.inj)

def DemandRecord.stillOpen (d : DemandRecord) : Int := d.reserved - d.consumed - d.released

/-- What one leg of a demand contributes to the counters of its target. -/
def legCounts (d : DemandRecord) (leg : LegRecord) : Counts :=
  (atScale d leg d.stillOpen, atScale d leg d.consumed,
    if leg.capacity = true then atScale d leg d.restored else 0)

/-- The sum of an amount over every leg of a reservation that is charged to `key`. -/
def chargedTo {M : Type} [AddCommMonoid M] (key : TargetKey) (amount : DemandRecord → LegRecord → M)
    (r : ReservationRecord) : M :=
  (r.demands.map fun d => legSum key (amount d) d.legs).sum

variable {key : TargetKey} {r : ReservationRecord}

theorem chargedTo_congr {M : Type} [AddCommMonoid M] {first second : DemandRecord → LegRecord → M}
    (agree : ∀ d ∈ r.demands, ∀ leg ∈ d.legs, leg.key = key → first d leg = second d leg) :
    chargedTo key first r = chargedTo key second r :=
  congrArg List.sum (map_congr_left fun d listed => legSum_congr fun leg charged here =>
    agree d listed leg charged here)

theorem chargedTo_zero {M : Type} [AddCommMonoid M] {amount : DemandRecord → LegRecord → M} (none : ∀ d ∈ r.demands, ∀ leg ∈ d.legs, leg.key = key → amount d leg = 0) :
    chargedTo key amount r = 0 := by
  rw [chargedTo_congr none, chargedTo]
  simp [legSum]

theorem chargedTo_mono {first second : DemandRecord → LegRecord → ℚ}
    (below : ∀ d ∈ r.demands, ∀ leg ∈ d.legs, first d leg ≤ second d leg) :
    chargedTo key first r ≤ chargedTo key second r := by
  refine sum_le_sum fun d listed => sum_le_sum fun leg charged => ?_
  split
  · exact below d listed leg charged
  · exact le_rfl

theorem map_charged {M N : Type} [AddCommMonoid M] [AddCommMonoid N] (hom : M →+ N) (key : TargetKey)
    (amount : DemandRecord → LegRecord → M) (reservations : PMap ReservationId ReservationRecord) :
    hom (total (chargedTo key amount) reservations) =
      total (chargedTo key fun d leg => hom (amount d leg)) reservations := by
  rw [map_total]
  refine total_congr fun _ r _ => ?_
  rw [chargedTo, chargedTo, map_list_sum, map_map]
  refine congrArg List.sum (map_congr_left fun d _ => ?_)
  simp only [Function.comp_apply, legSum, map_list_sum, map_map]
  refine congrArg List.sum (map_congr_left fun leg _ => ?_)
  simp only [Function.comp_apply, apply_ite hom, map_zero]

def Whole (counts : Counts) : Prop := ∃ reserved consumed restored : Int, counts = (↑reserved, ↑consumed, ↑restored)

theorem Whole.add {first second : Counts} (a : Whole first) (b : Whole second) : Whole (first + second) := by
  obtain ⟨r, c, t, rfl⟩ := a
  obtain ⟨r', c', t', rfl⟩ := b
  exact ⟨r + r', c + c', t + t', by simp⟩

/-- A demand never has more restored than consumed, nor consumed than reserved, is released by
its close only, and counts in whole atoms at each of its legs. -/
structure DemandOk (status : ReservationStatus) (d : DemandRecord) : Prop where
  restored : 0 ≤ d.restored
  consumed : d.restored ≤ d.consumed
  reserved : d.consumed ≤ d.reserved
  released : d.released = if status = .closed then d.reserved - d.consumed else 0
  whole : ∀ leg ∈ d.legs, Whole (legCounts d leg)

theorem DemandOk.stillOpen {status : ReservationStatus} {d : DemandRecord} (ok : DemandOk status d) :
    0 ≤ d.stillOpen := by
  have reserved := ok.reserved
  have released := ok.released
  simp only [DemandRecord.stillOpen]
  split at released <;> omega

abbrev Reservations := PMap ReservationId ReservationRecord

structure Books (targets : Targets) (reservations : Reservations) : Prop where
  counts : ∀ key, countsOf (targets.lookup key) = total (chargedTo key legCounts) reservations
  id : ∀ {id r}, reservations.lookup id = some r → r.id = id
  demands : ∀ {id r}, reservations.lookup id = some r → ∀ d ∈ r.demands, DemandOk r.status d
  targets : ∀ {id r}, reservations.lookup id = some r → ∀ d ∈ r.demands, ∀ leg ∈ d.legs,
    (targets.lookup leg.key).isSome

section Accounting
variable {kind : AccountingKind} {s : LedgerState} {e : AccountingEvent} {r : ReservationRecord}
  {moved : Targets × List DemandRecord} {d : DemandRecord} {amount : Int} {path : String}

theorem atScale_add (d : DemandRecord) (leg : LegRecord) (a b : Int) :
    atScale d leg (a + b) = atScale d leg a + atScale d leg b := rescaled_add _ _ _ _

theorem atScale_sub (d : DemandRecord) (leg : LegRecord) (a b : Int) :
    atScale d leg (a - b) = atScale d leg a - atScale d leg b := rescaled_sub _ _ _ _

def AccountingKind.Within (kind : AccountingKind) (d : DemandRecord) (amount : Int) : Prop :=
  match kind with
  | .consume => amount ≤ d.stillOpen
  | .close => amount = d.stillOpen
  | .restore => amount ≤ d.consumed - d.restored

theorem check_within (ok : kind.posting.check d amount path = .ok ())
    (released : d.released = 0 ∨ kind = .restore) : kind.Within d amount := by
  cases kind with
  | consume =>
    simp only [AccountingKind.posting, consumePosting, ite_refuse_ok] at ok
    have zero : d.released = 0 := released.resolve_right (by simp)
    simp only [AccountingKind.Within, DemandRecord.stillOpen]
    omega
  | close =>
    simp only [AccountingKind.posting, closePosting, ite_refuse_ok] at ok
    have zero : d.released = 0 := released.resolve_right (by simp)
    simp only [AccountingKind.Within, DemandRecord.stillOpen]
    omega
  | restore =>
    simp only [AccountingKind.posting, restorePosting, ite_refuse_ok] at ok
    simp only [AccountingKind.Within]
    omega

theorem record_counts (released : d.released = 0 ∨ kind = .restore) (leg : LegRecord) :
    legCounts (kind.posting.record d amount) leg = legCounts d leg +
      if kind.posting.only leg.capacity = true then kind.shift (atScale d leg amount) else 0 := by
  cases kind with
  | consume =>
    have opened : (consumePosting.record d amount).stillOpen = d.stillOpen - amount := by
      simp only [consumePosting, DemandRecord.stillOpen]
      omega
    simp only [AccountingKind.posting, legCounts, opened, atScale, rescaled_sub]
    simp [consumePosting, AccountingKind.shift, rescaled_add, sub_eq_add_neg]
  | close =>
    have zero : d.released = 0 := released.resolve_right (by simp)
    have opened : (closePosting.record d amount).stillOpen = d.stillOpen - amount := by
      simp only [closePosting, DemandRecord.stillOpen, zero]
      omega
    simp only [AccountingKind.posting, legCounts, opened, atScale, rescaled_sub]
    simp [closePosting, AccountingKind.shift, sub_eq_add_neg]
  | restore =>
    cases capacity : leg.capacity <;>
      simp [AccountingKind.posting, restorePosting, legCounts, capacity, AccountingKind.shift,
        DemandRecord.stillOpen, atScale, rescaled_add]

theorem record_ok {status : ReservationStatus} (ok : DemandOk status d) (nonneg : 0 ≤ amount)
    (active : kind = .restore ∨ status = .active) (checked : kind.posting.check d amount path = .ok ())
    (whole : ∀ leg ∈ d.legs, kind.posting.only leg.capacity = true →
      ∃ x : Int, (x : ℚ) = atScale d leg amount) :
    DemandOk (kind.status status) (kind.posting.record d amount) := by
  have released : d.released = 0 ∨ kind = .restore := by
    rcases active with restores | active
    · exact .inr restores
    · exact .inl (by simp [ok.released, active])
  have bound := check_within checked released
  have legs : (kind.posting.record d amount).legs = d.legs := by cases kind <;> rfl
  have counts : ∀ leg ∈ (kind.posting.record d amount).legs,
      Whole (legCounts (kind.posting.record d amount) leg) := by
    intro leg listed
    rw [legs] at listed
    rw [record_counts released]
    refine (ok.whole leg listed).add ?_
    split
    · obtain ⟨x, exact⟩ := whole leg listed ‹_›
      rw [← exact]
      cases kind with
      | consume => exact ⟨-x, x, 0, by simp [AccountingKind.shift]⟩
      | close => exact ⟨-x, 0, 0, by simp [AccountingKind.shift]⟩
      | restore => exact ⟨0, 0, x, by simp [AccountingKind.shift]⟩
    · exact ⟨0, 0, 0, by simp only [Int.cast_zero]; rfl⟩
  have inside := ok.restored
  have ordered := ok.consumed
  have below := ok.reserved
  have closed := ok.released
  cases kind with
  | consume =>
    have unsettled : status = .active := active.resolve_left (by simp)
    simp only [AccountingKind.Within, DemandRecord.stillOpen] at bound
    simp only [unsettled, reduceCtorEq, if_false] at closed
    refine ⟨inside, ?_, ?_, ?_, counts⟩ <;>
      simp only [AccountingKind.posting, consumePosting, AccountingKind.status, unsettled, reduceCtorEq,
        if_false] <;> omega
  | close =>
    have unsettled : status = .active := active.resolve_left (by simp)
    simp only [AccountingKind.Within, DemandRecord.stillOpen] at bound
    simp only [unsettled, reduceCtorEq, if_false] at closed
    refine ⟨inside, ordered, below, ?_, counts⟩
    simp only [AccountingKind.posting, closePosting, AccountingKind.status, if_true]
    omega
  | restore =>
    simp only [AccountingKind.Within] at bound
    refine ⟨?_, ?_, below, closed, counts⟩ <;>
      simp only [AccountingKind.posting, restorePosting] <;> omega

theorem Accounted.pairs_fst (accounted : Accounted kind s e r moved) :
    (r.demands.zip e.amounts).map Prod.fst = r.demands :=
  map_fst_zip accounted.shape.ge

private theorem Accounted.recorded {M : Type} [AddCommMonoid M] (accounted : Accounted kind s e r moved)
    (key : TargetKey) {amount : DemandRecord → LegRecord → M} {shift : DemandRecord × Int → LegRecord → M}
    (records : ∀ pair ∈ r.demands.zip e.amounts, ∀ leg, amount (kind.posting.record pair.1 pair.2) leg =
      amount pair.1 leg + if kind.posting.only leg.capacity = true then shift pair leg else 0) :
    chargedTo key amount (kind.record r moved.2) = chargedTo key amount r +
      ((r.demands.zip e.amounts).map fun pair => legSum key (fun leg =>
        if kind.posting.only leg.capacity = true then shift pair leg else 0) pair.1.legs).sum := by
  have former : chargedTo key amount r = ((r.demands.zip e.amounts).map fun pair =>
      legSum key (amount pair.1) pair.1.legs).sum := by
    have firsts : (r.demands.zip e.amounts).map (fun pair => legSum key (amount pair.1) pair.1.legs) =
        ((r.demands.zip e.amounts).map Prod.fst).map fun d => legSum key (amount d) d.legs := by
      rw [map_map]
      rfl
    rw [firsts, accounted.pairs_fst]
    rfl
  have later : (kind.record r moved.2).demands = _ := (Posting.demands_ok accounted.posted).1
  rw [former, chargedTo, later, map_map, ← sum_map_add]
  refine congrArg List.sum (map_congr_left fun pair listed => ?_)
  have legs : (kind.posting.record pair.1 pair.2).legs = pair.1.legs := by cases kind <;> rfl
  simp only [Function.comp_apply, legs]
  rw [← legSum_add]
  exact legSum_congr fun leg _ _ => records pair listed leg

theorem Accounted.fold {M : Type} [AddCommGroup M] (accounted : Accounted kind s e r moved)
    (own : r.id = e.reservation) (key : TargetKey) {amount : DemandRecord → LegRecord → M}
    (shift : DemandRecord × Int → LegRecord → M) (holds : Option TargetBalance → M → Prop)
    (records : ∀ pair ∈ r.demands.zip e.amounts, ∀ leg, amount (kind.posting.record pair.1 pair.2) leg =
      amount pair.1 leg + if kind.posting.only leg.capacity = true then shift pair leg else 0)
    (step : ∀ pair ∈ r.demands.zip e.amounts, ∀ leg ∈ pair.1.legs, leg.key = key →
      ∀ {x : Int} {b next : TargetBalance} {summed : M}, (x : ℚ) = atScale pair.1 leg pair.2 →
      kind.posting.update b x leg.epoch = some next → holds (some b) summed →
      holds (some next) (summed + shift pair leg))
    (before : holds (s.targets.lookup key) (total (chargedTo key amount) s.reservations)) :
    holds (moved.1.lookup key) (total (chargedTo key amount) (kind.settled s r moved).reservations) := by
  have known : s.reservations.lookup r.id = some r := own ▸ accounted.known
  have summed := total_insert_old known (chargedTo key amount) (kind.record r moved.2)
  rw [accounted.recorded key records, add_comm (chargedTo key amount r), ← add_assoc] at summed
  have grown := add_right_cancel summed
  change holds _ (total (chargedTo key amount) (s.reservations.insert r.id (kind.record r moved.2)))
  rw [grown]
  exact Posting.demands_fold key (fun b posted => holds b posted) shift
    (fun pair listed leg charged here _ x b next posted exact updated => step pair listed leg charged here exact updated)
    _ accounted.posted before

theorem Accounted.released (accounted : Accounted kind s e r moved)
    (demands : ∀ d ∈ r.demands, DemandOk r.status d) :
    ∀ pair ∈ r.demands.zip e.amounts, pair.1.released = 0 ∨ kind = .restore := by
  intro pair listed
  rcases accounted.active with restores | active
  · exact .inr restores
  · have ok := demands pair.1 (of_mem_zip (b := pair.2) listed).1
    exact .inl (by simp [ok.released, active])

private theorem Accounted.counts (accounted : Accounted kind s e r moved)
    (books : Books s.targets s.reservations) (key : TargetKey) :
    countsOf (moved.1.lookup key) = total (chargedTo key legCounts) (kind.settled s r moved).reservations := by
  have own := books.id accounted.known
  have demands := books.demands accounted.known
  refine accounted.fold own key (fun pair leg => kind.shift (atScale pair.1 leg pair.2))
    (fun b summed => countsOf b = summed)
    (fun pair listed leg => record_counts (accounted.released demands pair listed) leg)
    (fun pair _ leg _ _ x b next summed exact updated before => ?_) (books.counts key)
  have stepped := (AccountingKind.update_ok updated).1
  simp only [countsOf, Option.elim_some] at before ⊢
  rw [stepped, before, exact]

theorem Accounted.books (accounted : Accounted kind s e r moved) (books : Books s.targets s.reservations) :
    Books (kind.settled s r moved).targets (kind.settled s r moved).reservations := by
  have own := books.id accounted.known
  have known : s.reservations.lookup r.id = some r := own ▸ accounted.known
  have demands := books.demands known
  obtain ⟨recorded, each⟩ := Posting.demands_ok accounted.posted
  have former : ∀ d ∈ moved.2, ∃ old ∈ r.demands, d.legs = old.legs ∧ DemandOk (kind.status r.status) d := by
    intro d listed
    rw [recorded] at listed
    obtain ⟨pair, inside, rfl⟩ := mem_map.mp listed
    have sides := of_mem_zip (b := pair.2) inside
    obtain ⟨⟨path, checked⟩, whole⟩ := each pair inside
    exact ⟨pair.1, sides.1, by cases kind <;> rfl, record_ok (demands pair.1 sides.1)
      (accounted.nonneg pair.2 sides.2) accounted.active checked whole⟩
  have present : ∀ key, (s.targets.lookup key).isSome → (moved.1.lookup key).isSome := by
    intro key was
    have faces := congrArg Option.isSome (accounted.face key)
    simpa [was] using faces
  refine ⟨fun key => ?_, fun {id found} registered => ?_, fun {id found} registered => ?_,
    fun {id found} registered => ?_⟩
  · exact accounted.counts books key
  all_goals
    change (s.reservations.insert r.id (kind.record r moved.2)).lookup id = some found at registered
    rw [lookup_insert_eq] at registered
    split at registered
  · rename_i here
    rw [← some.inj registered, here]
    rfl
  · exact books.id registered
  · obtain rfl := some.inj registered
    intro d listed
    obtain ⟨_, _, _, ok⟩ := former d listed
    exact ok
  · exact books.demands registered
  · obtain rfl := some.inj registered
    intro d listed leg charged
    obtain ⟨old, was, legs, _⟩ := former d listed
    exact present _ (books.targets known old was leg (legs ▸ charged))
  · exact fun d listed leg charged => present _ (books.targets registered d listed leg charged)

end Accounting

section Reserving
variable {key : TargetKey} {c : Contribution} {time : Int} {legs : List LegDraft}

theorem draft_counts {path : List (TargetKey × LedgerDimensionTerm)}
    (drafted : List.Forall₂ (Drafted c time) path legs) (d : DemandRecord)
    (same : d.contribution = c) (opened : d.stillOpen = c.quantity.atoms) (consumed : d.consumed = 0)
    (restored : d.restored = 0) :
    legSum key (legCounts d) (legs.map legRecordOf) = (((demandAt legs key : ℤ) : ℚ), 0, 0) := by
  induction drafted with
  | nil => rfl
  | @cons target leg _ legs here _ ih =>
    have scaled : atScale d (legRecordOf leg) d.stillOpen = (leg.amount : ℚ) := by
      rw [here.amount, ← here.dimension, atScale, same, opened]
      rfl
    have counted : legCounts d (legRecordOf leg) = ((leg.amount : ℚ), 0, 0) := by
      simp only [legCounts, scaled, consumed, restored]
      simp [atScale]
    rw [map_cons, legSum_cons, ih, counted]
    by_cases charged : leg.key = key
    · simp [legRecordOf, demandAt, charged]
    · simp [legRecordOf, demandAt, charged]

theorem demandAt_append (first second : List LegDraft) (key : TargetKey) :
    demandAt (first ++ second) key = demandAt first key + demandAt second key := by
  simp [demandAt]

theorem demandAt_absent (absent : ∀ leg ∈ legs, leg.key ≠ key) : demandAt legs key = 0 := by
  have none : legs.filter (fun leg => leg.key == key) = [] :=
    filter_eq_nil_iff.mpr fun leg listed same => absent leg listed (beq_iff_eq.mp same)
  rw [demandAt, none]
  rfl

theorem drafted_counts {contributions : List Contribution} {legs : List (List LegDraft)}
    {path : Contribution → List (TargetKey × LedgerDimensionTerm)}
    (drafted : List.Forall₂ (fun c legs => List.Forall₂ (Drafted c time) (path c) legs) contributions legs) :
    ((List.zipWith demandRecord contributions legs).map fun d => legSum key (legCounts d) d.legs).sum =
      (((demandAt legs.flatten key : ℤ) : ℚ), 0, 0) := by
  induction drafted with
  | nil => rfl
  | @cons c legs _ rest here _ ih =>
    rw [zipWith_cons_cons, map_cons, sum_cons, ih, flatten_cons, demandAt_append]
    rw [demandRecord, draft_counts here _ rfl (by simp [DemandRecord.stillOpen]) rfl rfl]
    simp

theorem draft_whole {path : List (TargetKey × LedgerDimensionTerm)}
    (drafted : List.Forall₂ (Drafted c time) path legs) :
    ∀ leg ∈ (demandRecord c legs).legs, Whole (legCounts (demandRecord c legs) leg) := by
  intro record listed
  obtain ⟨leg, inside, rfl⟩ := mem_map.mp listed
  obtain ⟨target, _, here⟩ := drafted_of_mem drafted inside
  have scaled : atScale (demandRecord c legs) (legRecordOf leg) (demandRecord c legs).stillOpen =
      (leg.amount : ℚ) := by
    rw [here.amount, ← here.dimension]
    simp [atScale, demandRecord, DemandRecord.stillOpen, legRecordOf]
  refine ⟨leg.amount, 0, 0, ?_⟩
  rw [legCounts, scaled]
  simp [demandRecord, atScale]

theorem drafted_ok {contributions : List Contribution} {legs : List (List LegDraft)}
    {path : Contribution → List (TargetKey × LedgerDimensionTerm)}
    (drafted : List.Forall₂ (fun c legs => List.Forall₂ (Drafted c time) (path c) legs) contributions legs) :
    ∀ d ∈ List.zipWith demandRecord contributions legs, DemandOk .active d ∧
      ∀ leg ∈ d.legs, ∃ draft ∈ legs.flatten, draft.key = leg.key := by
  induction drafted with
  | nil => simp
  | @cons c legs _ rest here _ ih =>
    rw [zipWith_cons_cons]
    refine forall_mem_cons.mpr ⟨⟨⟨le_rfl, le_rfl, c.positive.le, rfl, draft_whole here⟩, ?_⟩, ?_⟩
    · intro leg listed
      obtain ⟨draft, inside, rfl⟩ := mem_map.mp listed
      exact ⟨draft, mem_append_left _ inside, rfl⟩
    · intro d listed
      obtain ⟨ok, legs⟩ := ih d listed
      refine ⟨ok, fun leg charged => ?_⟩
      obtain ⟨draft, inside, same⟩ := legs leg charged
      exact ⟨draft, mem_append_right _ inside, same⟩

variable [Keccak] {s : LedgerState} {plan : ChargePlan} {policy : PolicyRecord}
  {derived : DerivedReservation} {demand : List (TargetKey × Int)} {targets : Targets} {version : Nat}

theorem Derivable.drafted (derivable : Derivable s plan time policy derived) :
    List.Forall₂ (fun c legs => List.Forall₂ (Drafted c time)
      (chargePath derived.lineage (policyDimsOf s) c plan.module.domainId) legs)
      plan.contributions derived.legs :=
  deriveLegs_ok derivable.legs

theorem reserved_counts (derivable : Derivable s plan time policy derived)
    (available : checkAvailability s derived.legs time "plan" = .ok demand)
    (added : addDemand demand s.targets = .ok targets) (key : TargetKey) :
    countsOf (targets.lookup key) = countsOf (s.targets.lookup key) +
      chargedTo key legCounts (reservationRecord plan derived policy.id time version) := by
  have charged : chargedTo key legCounts (reservationRecord plan derived policy.id time version) = _ :=
    drafted_counts derivable.drafted
  rw [charged, reserve_lookup available added]
  cases present : s.targets.lookup key with
  | some b => simp [countsOf, TargetBalance.counts]
  | none =>
    have unmet : demandAt derived.legs.flatten key = 0 := by
      refine demandAt_absent fun leg listed same => ?_
      obtain ⟨b, here, _⟩ := (checkAvailability_ok available).1 leg listed
      rw [same, present] at here
      cases here
    rw [unmet, Int.cast_zero]
    exact (add_zero (0 : Counts)).symm

theorem reserve_books (derivable : Derivable s plan time policy derived)
    (available : checkAvailability s derived.legs time "plan" = .ok demand)
    (added : addDemand demand s.targets = .ok targets) (books : Books s.targets s.reservations) :
    Books targets (s.reservations.insert (planReservationId plan)
      (reservationRecord plan derived policy.id time version)) := by
  have fresh := drafted_ok derivable.drafted
  have present : ∀ key, (s.targets.lookup key).isSome → (targets.lookup key).isSome := by
    intro key was
    rw [reserve_lookup available added]
    simpa using was
  refine ⟨fun key => ?_, fun {id found} registered => ?_, fun {id found} registered => ?_,
    fun {id found} registered => ?_⟩
  · rw [total_insert_new derivable.unused, reserved_counts derivable available added, books.counts, add_comm]
  all_goals
    rw [lookup_insert_eq] at registered
    split at registered
  · rename_i here
    rw [← some.inj registered, here]
    exact derivable.reservation
  · exact books.id registered
  · obtain rfl := some.inj registered
    exact fun d listed => (fresh d listed).1
  · exact books.demands registered
  · obtain rfl := some.inj registered
    intro d listed leg charged
    obtain ⟨draft, inside, same⟩ := (fresh d listed).2 leg charged
    obtain ⟨b, here, _⟩ := (checkAvailability_ok available).1 draft inside
    exact present _ (by rw [← same, here]; rfl)
  · exact fun d listed leg charged => present _ (books.targets registered d listed leg charged)

end Reserving

private theorem Books.relabel {targets moved : Targets} {reservations : Reservations}
    (books : Books targets reservations)
    (same : ∀ key, countsOf (moved.lookup key) = countsOf (targets.lookup key))
    (present : ∀ key, (targets.lookup key).isSome → (moved.lookup key).isSome) :
    Books moved reservations where
  counts key := (same key).trans (books.counts key)
  id := books.id
  demands := books.demands
  targets registered d listed leg charged := present _ (books.targets registered d listed leg charged)

section Steps
variable [Keccak] {rules : ReducerRules} {s next : LedgerState} {version : Nat} {e : LedgerEvent}

theorem policy_counts {id : PrincipalPolicyId} {dims old : List LedgerDimensionTerm}
    {targets : Targets} (key : TargetKey) :
    countsOf ((installDimensions id dims (retireDimensions old targets)).lookup key) =
      countsOf (targets.lookup key) ∧ ((targets.lookup key).isSome →
      ((installDimensions id dims (retireDimensions old targets)).lookup key).isSome) := by
  rcases installDimensions_lookup id dims (retireDimensions old targets) key with ⟨_, same⟩ | ⟨d, _, _, set⟩
  · rw [same, retireDimensions_lookup]
    cases targets.lookup key with
    | none => simp
    | some b =>
      simp only [Option.map_some, countsOf, Option.elim_some, TargetBalance.counts]
      split <;> simp
  · rw [set, retireDimensions_lookup]
    cases targets.lookup key with
    | none => exact ⟨by simp [countsOf, TargetBalance.counts, installed, zeroBalance], by simp⟩
    | some b =>
      simp only [Option.map_some, countsOf, Option.elim_some, TargetBalance.counts, installed]
      split <;> simp

theorem Effect.books (targets : NodeTargets s.nodes s.targets) (books : Books s.targets s.reservations)
    (effect : Effect rules s version e next) : Books next.targets next.reservations := by
  cases effect with
  | registerPolicy _ _ =>
    exact books.relabel (fun key => (policy_counts key).1) fun key => (policy_counts key).2
  | @registerGrant _ grant _ _ _ registered =>
    have fresh := (checkGrantRegistration_ok registered).2.1
    refine books.relabel (fun key => ?_) fun key was => ?_
    all_goals
      rcases openNodeTargets_lookup (authorityId grant) grant s.targets key with ⟨_, same⟩ | ⟨d, _, rfl, opened⟩
    · rw [same]
    · -- the id was free, so no balance is overwritten
      rw [opened, targets.unregistered fresh]
      simp [countsOf, TargetBalance.counts, zeroBalance]
    · rwa [same]
    · rw [opened]
      rfl
  | revoke _ _ => exact books
  | reserve derivable available added => exact reserve_books derivable available added books
  | account accounted => exact accounted.books books
  | admitAttempt _ => exact books

theorem Reachable.books {principal : PrincipalId} (reachable : Reachable rules principal s) :
    Books s.targets s.reservations := by
  refine reachable.induct (fun s => Books s.targets s.reservations) ?_
    (fun _ _ _ books => books) fun reached books _ effect => effect.books reached.nodeTargets books
  exact ⟨fun _ => rfl, nofun, nofun, nofun⟩

end Steps

end Mandate.Ledger
