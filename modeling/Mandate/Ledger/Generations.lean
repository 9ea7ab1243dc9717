import Mandate.Ledger.Solvency

/-! The generations of an action: its reservations run from 1 without gaps, at most one of them
is open, and the action's pointer names that one. -/
namespace Mandate.Ledger
open Core Lib.Table
open Option (some.inj)

abbrev Actions := PMap ActionId ActionRecord

def lastOf (actions : Actions) (action : ActionId) : Int :=
  (actions.lookup action).elim 0 (·.lastGeneration.1)

def openOf (actions : Actions) (action : ActionId) : Option ReservationId :=
  (actions.lookup action).bind (·.openReservation)

structure Sequenced (reservations : Reservations) (actions : Actions) : Prop where
  within : ∀ {id r}, reservations.lookup id = some r →
    1 ≤ r.generation.1 ∧ r.generation.1 ≤ lastOf actions r.action
  every : ∀ {action} {n : Int}, 1 ≤ n → n ≤ lastOf actions action →
    ∃ id r, reservations.lookup id = some r ∧ r.action = action ∧ r.generation.1 = n
  once : ∀ {id r other r'}, reservations.lookup id = some r → reservations.lookup other = some r' →
    r.action = r'.action → r.generation.1 = r'.generation.1 → id = other
  active : ∀ {id r}, reservations.lookup id = some r →
    (r.status = .active ↔ openOf actions r.action = some id)
  opened : ∀ {action id}, openOf actions action = some id →
    ∃ r, reservations.lookup id = some r ∧ r.action = action

variable {actions : Actions} {r : ReservationRecord}

theorem Sequenced.rewrite {reservations : Reservations} {after : Actions}
    {id : ReservationId} {next : ReservationRecord} (sequenced : Sequenced reservations actions)
    (known : reservations.lookup id = some r) (action : next.action = r.action)
    (generation : next.generation = r.generation) (last : ∀ a, lastOf after a = lastOf actions a)
    (own : next.status = .active ↔ openOf after r.action = some id)
    (others : ∀ a other, other ≠ id → (openOf after a = some other ↔ openOf actions a = some other))
    (closed : ∀ a, openOf after a = some id → openOf actions a = some id) :
    Sequenced (reservations.insert id next) after := by
  have same : ∀ {other r'}, (reservations.insert id next).lookup other = some r' →
      ∃ before, reservations.lookup other = some before ∧ r'.action = before.action ∧
        r'.generation = before.generation := by
    intro other r' present
    rw [lookup_insert_eq] at present
    split at present
    · rename_i here
      obtain rfl := some.inj present
      exact ⟨r, here ▸ known, action, generation⟩
    · exact ⟨r', present, rfl, rfl⟩
  have kept : ∀ {other before}, reservations.lookup other = some before →
      ∃ r', (reservations.insert id next).lookup other = some r' ∧ r'.action = before.action ∧
        r'.generation = before.generation := by
    intro other before present
    by_cases here : other = id
    · subst here
      obtain rfl := some.inj (known.symm.trans present)
      exact ⟨next, AList.lookup_insert _, action, generation⟩
    · exact ⟨before, by rw [lookup_insert_eq, if_neg here, present], rfl, rfl⟩
  refine ⟨fun present => ?_, fun {a n} positive below => ?_, fun first second actions_ generations => ?_,
    fun {other r'} present => ?_, fun {a other} pointed => ?_⟩
  · obtain ⟨before, found, action, generation⟩ := same present
    rw [last, action, generation]
    exact sequenced.within found
  · obtain ⟨other, before, found, rfl, rfl⟩ := sequenced.every positive (last a ▸ below)
    obtain ⟨r', present, action, generation⟩ := kept found
    exact ⟨other, r', present, action, by rw [generation]⟩
  · obtain ⟨_, found, action, generation⟩ := same first
    obtain ⟨_, found', action', generation'⟩ := same second
    rw [action, action'] at actions_
    rw [generation, generation'] at generations
    exact sequenced.once found found' actions_ generations
  · rw [lookup_insert_eq] at present
    split at present
    · rename_i here
      obtain rfl := some.inj present
      rw [action, here]
      exact own
    · rename_i elsewhere
      rw [others _ _ elsewhere]
      exact sequenced.active present
  · have before : openOf actions a = some other := by
      by_cases here : other = id
      · exact here ▸ closed a (here ▸ pointed)
      · exact (others a other here).mp pointed
    obtain ⟨found, present, rfl⟩ := sequenced.opened before
    obtain ⟨r', present, action, _⟩ := kept present
    exact ⟨r', present, action⟩

theorem last_insert (actions : Actions) (action a : ActionId) (record : ActionRecord) :
    lastOf (actions.insert action record) a =
      if a = action then record.lastGeneration.1 else lastOf actions a := by
  rw [lastOf, lookup_insert_eq]
  split <;> rfl

theorem open_insert (actions : Actions) (action a : ActionId) (record : ActionRecord) :
    openOf (actions.insert action record) a =
      if a = action then record.openReservation else openOf actions a := by
  rw [openOf, lookup_insert_eq]
  split <;> rfl

theorem last_closed (actions : Actions) (r : ReservationRecord) (a : ActionId) :
    lastOf (closeAction actions r) a = lastOf actions a := by
  unfold closeAction
  cases known : actions.lookup r.action with
  | none => rfl
  | some action =>
    dsimp only
    split
    · rw [last_insert]
      split
      · rename_i here
        rw [here, lastOf, known]
        rfl
      · rfl
    · rfl

theorem open_closed (pointed : openOf actions r.action = some r.id) (a : ActionId) :
    openOf (closeAction actions r) a = if a = r.action then none else openOf actions a := by
  obtain ⟨action, known, open_⟩ := Option.bind_eq_some_iff.mp pointed
  simp only [closeAction, known, open_, if_true]
  rw [open_insert]

private theorem Sequenced.reserve {reservations : Reservations} {actions : Actions} {id : ReservationId}
    {r : ReservationRecord} (sequenced : Sequenced reservations actions)
    (unused : reservations.lookup id = none) (active : r.status = .active)
    (closed : openOf actions r.action = none) (next : r.generation.1 = lastOf actions r.action + 1)
    (nonneg : 0 ≤ lastOf actions r.action) :
    Sequenced (reservations.insert id r) (actions.insert r.action ⟨r.generation, some id⟩) := by
  have before : ∀ {other r'}, (reservations.insert id r).lookup other = some r' →
      (other = id ∧ r' = r) ∨ (other ≠ id ∧ reservations.lookup other = some r') := by
    intro other r' present
    rw [lookup_insert_eq] at present
    split at present
    · exact .inl ⟨‹_›, (some.inj present).symm⟩
    · exact .inr ⟨‹_›, present⟩
  have kept : ∀ {other r'}, reservations.lookup other = some r' →
      (reservations.insert id r).lookup other = some r' := by
    intro other r' present
    rw [lookup_insert_eq, if_neg, present]
    rintro rfl
    rw [unused] at present
    cases present
  refine ⟨fun {other r'} present => ?_, fun {a n} positive below => ?_, fun first second action generation => ?_,
    fun {other r'} present => ?_, fun {a other} pointed => ?_⟩
  · rw [last_insert]
    obtain ⟨rfl, rfl⟩ | ⟨_, found⟩ := before present
    · rw [if_pos rfl]
      exact ⟨by omega, le_rfl⟩
    · obtain ⟨positive, below⟩ := sequenced.within found
      split
      · rename_i same
        rw [same] at below
        exact ⟨positive, by simp only; omega⟩
      · exact ⟨positive, below⟩
  · rw [last_insert] at below
    split at below
    · rename_i here
      subst here
      by_cases latest : n = r.generation.1
      · exact ⟨id, r, AList.lookup_insert _, rfl, latest.symm⟩
      · have earlier : n ≤ lastOf actions r.action := by
          simp only at below
          omega
        obtain ⟨other, r', found, action, generation⟩ := sequenced.every positive earlier
        exact ⟨other, r', kept found, action, generation⟩
    · obtain ⟨other, r', found, action, generation⟩ := sequenced.every positive below
      exact ⟨other, r', kept found, action, generation⟩
  · obtain ⟨rfl, rfl⟩ | ⟨_, found⟩ := before first <;> obtain ⟨rfl, rfl⟩ | ⟨_, found'⟩ := before second
    · rfl
    · have below := (sequenced.within found').2
      rw [← action] at below
      omega
    · have below := (sequenced.within found).2
      rw [action] at below
      omega
    · exact sequenced.once found found' action generation
  · rw [open_insert]
    obtain ⟨rfl, rfl⟩ | ⟨elsewhere, found⟩ := before present
    · simp [active]
    · rw [sequenced.active found]
      split
      · rename_i same
        rw [same, closed]
        simp [Ne.symm elsewhere]
      · rfl
  · rw [open_insert] at pointed
    split at pointed
    · rename_i here
      obtain rfl := some.inj pointed
      exact ⟨r, AList.lookup_insert _, here.symm⟩
    · obtain ⟨found, present, action⟩ := sequenced.opened pointed
      exact ⟨found, kept present, action⟩

theorem last_nonneg (actions : Actions) (action : ActionId) : 0 ≤ lastOf actions action := by
  unfold lastOf
  cases actions.lookup action with
  | none => exact le_rfl
  | some record => exact le_trans (by decide) record.lastGeneration.2.1

section Steps
variable [Keccak] {rules : ReducerRules} {s next : LedgerState} {principal : PrincipalId}

theorem Derivable.closedAt {plan : ChargePlan} {time : Int} {policy : PolicyRecord}
    {derived : DerivedReservation} (derivable : Derivable s plan time policy derived) :
    openOf s.actions plan.action = none ∧ plan.generation.1 = lastOf s.actions plan.action + 1 := by
  have closed := derivable.closed
  have successive := derivable.successive
  unfold openOf lastOf
  cases known : s.actions.lookup plan.action with
  | none =>
    rw [known] at successive
    exact ⟨rfl, successive⟩
  | some action =>
    rw [known] at successive
    exact ⟨closed action known, successive⟩

theorem Effect.sequenced {version : Nat} {e : LedgerEvent} (books : Books s.targets s.reservations)
    (sequenced : Sequenced s.reservations s.actions) (effect : Effect rules s version e next) :
    Sequenced next.reservations next.actions := by
  cases effect with
  | @reserve time plan derived current _ _ derivable _ _ =>
    obtain ⟨closed, successive⟩ := derivable.closedAt
    exact sequenced.reserve (r := reservationRecord plan derived current.id time version) derivable.unused rfl
      closed successive (last_nonneg _ _)
  | @account kind e r moved accounted =>
    have whose := books.id accounted.known
    have known := accounted.known
    rw [← whose] at known
    cases kind with
    | close =>
      have active := accounted.active.resolve_left nofun
      have pointed := (sequenced.active known).mp active
      refine sequenced.rewrite known rfl rfl (last_closed _ _) ?_ ?_ ?_
      · change ReservationStatus.closed = .active ↔ openOf (closeAction s.actions r) r.action = _
        simp [open_closed pointed]
      · intro a other elsewhere
        change openOf (closeAction s.actions r) a = _ ↔ _
        rw [open_closed pointed]
        split
        · rename_i here
          simp [here, pointed, Ne.symm elsewhere]
        · rfl
      · intro a still
        change openOf (closeAction s.actions r) a = _ at still
        rw [open_closed pointed] at still
        split at still
        · cases still
        · exact still
    | consume | restore =>
      refine sequenced.rewrite known rfl rfl (fun _ => rfl) ?_ (fun _ _ _ => .rfl) fun _ same => same
      exact sequenced.active (r := r) known
  | _ => exact sequenced

theorem Reachable.sequenced (reachable : Reachable rules principal s) :
    Sequenced s.reservations s.actions := by
  refine reachable.induct (fun s => Sequenced s.reservations s.actions) ?_
    (fun _ _ _ sequenced => sequenced) fun reached sequenced _ effect => effect.sequenced reached.books sequenced
  refine ⟨nofun, fun {action n} positive below => ?_, nofun, nofun, nofun⟩
  exact absurd (le_trans positive below) (by simp [lastOf, emptyLedgerState])

/-- The generations of every action are 1 to the last, each once; at most one is open, the one the
pointer names, and none is opened next to it. -/
theorem generations_sequenced (reachable : Reachable rules principal s) (action : ActionId) :
    (∀ n, (1 ≤ n ∧ n ≤ lastOf s.actions action) ↔
      ∃ id r, s.reservations.lookup id = some r ∧ r.action = action ∧ r.generation.1 = n) ∧
    (∀ id r other r', s.reservations.lookup id = some r → s.reservations.lookup other = some r' →
      r.action = action → r'.action = action → (r.generation.1 = r'.generation.1 → id = other) ∧
      (r.status = .active → r'.status = .active → id = other)) ∧ (∀ id, openOf s.actions action = some id ↔
      ∃ r, s.reservations.lookup id = some r ∧ r.action = action ∧ r.status = .active) ∧
    ∀ id r, s.reservations.lookup id = some r → r.action = action → r.status = .active →
      ∀ time plan lineage policy legs version result, plan.action = action →
        applyEvent s (.reserve time plan lineage policy legs) version rules ≠ .ok result := by
  have sequenced := reachable.sequenced
  refine ⟨fun n => ⟨fun ⟨positive, below⟩ => sequenced.every positive below, ?_⟩, ?_, fun id => ⟨?_, ?_⟩, ?_⟩
  · rintro ⟨id, r, known, rfl, rfl⟩
    exact sequenced.within known
  · rintro id r other r' known known' rfl action
    refine ⟨fun generation => sequenced.once known known' action.symm generation, fun active active' => ?_⟩
    have pointed := (sequenced.active known).mp active
    have pointed' := (sequenced.active known').mp active'
    rw [action, pointed] at pointed'
    exact some.inj pointed'
  · intro pointed
    obtain ⟨r, known, rfl⟩ := sequenced.opened pointed
    exact ⟨r, known, rfl, (sequenced.active known).mpr pointed⟩
  · rintro ⟨r, known, rfl, active⟩
    exact (sequenced.active known).mp active
  · rintro id r known rfl active time plan lineage policy legs version result same accepted
    have pointed := (sequenced.active known).mp active
    obtain ⟨_, _, dispatched, _⟩ := applyEvent_ok accepted
    obtain ⟨_, _, _, _, derivable, _⟩ := applyReserve_ok dispatched
    rw [← same, derivable.closedAt.1] at pointed
    cases pointed

end Steps

section Sample
attribute [local instance] platformKeccak

/-- The one generation of the sample's action is its open reservation. -/
theorem generations_sequenced_sample : ∃ s id r, stateAfter sampleEvents = some s ∧
    s.reservations.lookup id = some r ∧ r.action = 1 ∧ r.status = .active ∧ lastOf s.actions 1 = 1 := by
  have pointed : (stateAfter sampleEvents).map (fun s => (openOf s.actions 1, lastOf s.actions 1)) =
      some (some (planReservationId (samplePlan 1)), 1) := by
    rewrite [platformKeccak_straight]
    decide +kernel
  obtain ⟨s, after, same⟩ := Option.map_eq_some_iff.mp pointed
  obtain ⟨pointed, last⟩ := Prod.mk.inj same
  obtain ⟨history, run, _⟩ := stateAfter_run after
  obtain ⟨r, known, action, active⟩ := ((generations_sequenced run.reachable 1).2.2.1 _).mp pointed
  exact ⟨s, _, r, after, known, action, active, last⟩

end Sample

end Mandate.Ledger
