import Mandate.Ledger.Solvency

/-! Issuance attempts over a whole run: their indexes are functions of the attempts themselves,
no artifact or slot is ever bound again, and a reservation has at most one attempt that is live. -/
namespace Mandate.Ledger
open Core Lib.Table Lib.Machine List

def attemptsOf (s : LedgerState) (reservation : ReservationId) : List AttemptId :=
  (s.reservationAttempts.lookup reservation).getD []

/-- The attempts of a state, its reservations and the three indexes agree. -/
structure Indexed [Keccak] (s : LedgerState) : Prop where
  derived : ∀ {id record}, s.attempts.lookup id = some record →
    record.admission.attempt = id ∧ attemptIdFor record.admission = id
  restated : ∀ {id record}, s.attempts.lookup id = some record →
    ∃ r, s.reservations.lookup record.admission.reservation = some r ∧
      r.generation = record.admission.generation ∧ r.action = record.admission.action ∧
      r.module = record.admission.module
  artifact : Indexes (fun record => some record.admission.artifact) s.attemptArtifacts s.attempts
  slot : Indexes (fun record => record.admission.slot) s.attemptSlots s.attempts
  listed : ∀ reservation id, id ∈ attemptsOf s reservation ↔
    ∃ record, s.attempts.lookup id = some record ∧ record.admission.reservation = reservation
  filled : ∀ reservation, s.reservationAttempts.lookup reservation ≠ some []
  ordinals : ∀ reservation, (attemptsOf s reservation).map
      (fun id => (s.attempts.lookup id).map (·.admission.ordinal)) =
    (List.range (attemptsOf s reservation).length).map fun i : Nat => some ((i : Int) + 1)
  live : ∀ {id record other record'}, s.attempts.lookup id = some record →
    s.attempts.lookup other = some record' → record.admission.reservation = record'.admission.reservation →
    record.status = .admitted → record'.status = .admitted → id = other

def ReservationsKept (before after : Reservations) : Prop :=
  ∀ id r, before.lookup id = some r → ∃ later, after.lookup id = some later ∧
    later.generation = r.generation ∧ later.action = r.action ∧ later.module = r.module

theorem reservationsKept_insert {reservations : Reservations} {id : ReservationId} {record : ReservationRecord}
    (same : ∀ r, reservations.lookup id = some r →
      record.generation = r.generation ∧ record.action = r.action ∧ record.module = r.module) :
    ReservationsKept reservations (reservations.insert id record) := by
  intro other r known
  by_cases here : other = id
  · subst here
    exact ⟨record, AList.lookup_insert _, same r known⟩
  · exact ⟨r, by rw [lookup_insert_eq, if_neg here, known], rfl, rfl, rfl⟩

section Steps
variable [Keccak] {rules : ReducerRules} {s next : LedgerState} {principal : PrincipalId} {version : Nat}
  {e : LedgerEvent}

theorem Effect.reservationsKept (books : Books s.targets s.reservations)
    (effect : Effect rules s version e next) : ReservationsKept s.reservations next.reservations := by
  cases effect with
  | reserve derivable =>
    refine reservationsKept_insert fun r known => ?_
    rw [derivable.unused] at known
    cases known
  | account accounted =>
    refine reservationsKept_insert fun r known => ?_
    rw [books.id accounted.known, accounted.known] at known
    obtain rfl := Option.some.inj known
    exact ⟨rfl, rfl, rfl⟩
  | _ => exact fun _ r known => ⟨r, known, rfl, rfl, rfl⟩

theorem Indexed.framed (indexed : Indexed s) (kept : ReservationsKept s.reservations next.reservations)
    (attempts : next.attempts = s.attempts) (artifacts : next.attemptArtifacts = s.attemptArtifacts)
    (slots : next.attemptSlots = s.attemptSlots) (lists : next.reservationAttempts = s.reservationAttempts) :
    Indexed next := by
  have same : attemptsOf next = attemptsOf s := by
    funext reservation
    rw [attemptsOf, attemptsOf, lists]
  constructor
  · exact fun known => indexed.derived (attempts ▸ known)
  · intro id record known
    obtain ⟨r, found, generation, action, module⟩ := indexed.restated (attempts ▸ known)
    obtain ⟨later, found', generation', action', module'⟩ := kept _ r found
    exact ⟨later, found', generation'.trans generation, action'.trans action, module'.trans module⟩
  · rw [attempts, artifacts]
    exact indexed.artifact
  · rw [attempts, slots]
    exact indexed.slot
  · rw [attempts, same]
    exact indexed.listed
  · rw [lists]
    exact indexed.filled
  · rw [attempts, same]
    exact indexed.ordinals
  · exact fun known known' => indexed.live (attempts ▸ known) (attempts ▸ known')

variable {time : Int} {a : AttemptAdmission}

private theorem Indexed.admitted {r : ReservationRecord}
    (indexed : Indexed s) (admissible : Admissible s a time r) : Indexed { s with
      attempts := s.attempts.insert a.attempt ⟨a, version, time, .admitted⟩
      attemptArtifacts := s.attemptArtifacts.insert a.artifact a.attempt
      attemptSlots := a.slot.elim s.attemptSlots fun slot => s.attemptSlots.insert slot a.attempt
      reservationAttempts := s.reservationAttempts.insert a.reservation
        ((s.reservationAttempts.lookup a.reservation).getD [] ++ [a.attempt]) } := by
  let record : AttemptRecord := ⟨a, version, time, .admitted⟩
  have before : ∀ {id found}, (s.attempts.insert a.attempt record).lookup id = some found →
      (id = a.attempt ∧ found = record) ∨ (id ≠ a.attempt ∧ s.attempts.lookup id = some found) := by
    intro id found present
    rw [lookup_insert_eq] at present
    split at present
    · exact .inl ⟨‹_›, (Option.some.inj present).symm⟩
    · exact .inr ⟨‹_›, present⟩
  have kept : ∀ {id found}, s.attempts.lookup id = some found →
      (s.attempts.insert a.attempt record).lookup id = some found := by
    intro id found present
    rw [lookup_insert_eq, if_neg, present]
    rintro rfl
    rw [admissible.unused] at present
    cases present
  have lists : ∀ reservation, ((s.reservationAttempts.insert a.reservation
      (attemptsOf s a.reservation ++ [a.attempt])).lookup reservation).getD [] =
      if reservation = a.reservation then attemptsOf s a.reservation ++ [a.attempt]
      else attemptsOf s reservation := by
    intro reservation
    rw [lookup_insert_eq]
    split <;> rfl
  have quiet : ∀ {id found}, s.attempts.lookup id = some found →
      found.admission.reservation = a.reservation → found.status ≠ .admitted := by
    intro id found present same
    obtain ⟨other, there, resolved⟩ :=
      admissible.unresolved id ((indexed.listed a.reservation id).mpr ⟨found, present, same⟩)
    obtain rfl := Option.some.inj (present.symm.trans there)
    exact resolved
  constructor
  · intro id found present
    obtain ⟨rfl, rfl⟩ | ⟨_, present⟩ := before present
    · exact ⟨rfl, admissible.derived⟩
    · exact indexed.derived present
  · intro id found present
    obtain ⟨rfl, rfl⟩ | ⟨_, present⟩ := before present
    · exact ⟨r, admissible.reservation, admissible.generation, admissible.action, admissible.module⟩
    · exact indexed.restated present
  · refine @Indexes.insert _ _ _ _ _ _ _ _ indexed.artifact _ record admissible.unused fun artifact here => ?_
    exact Option.some.inj here ▸ admissible.artifact
  · exact @Indexes.insert _ _ _ _ _ _ _ _ indexed.slot _ record admissible.unused admissible.slot
  · intro reservation id
    change id ∈ ((s.reservationAttempts.insert a.reservation
      (attemptsOf s a.reservation ++ [a.attempt])).lookup reservation).getD [] ↔ _
    rw [lists]
    constructor
    · intro listed
      split at listed
      · rename_i here
        rcases mem_append.mp listed with earlier | latest
        · obtain ⟨found, present, same⟩ := (indexed.listed _ id).mp earlier
          exact ⟨found, kept present, same.trans here.symm⟩
        · obtain rfl := mem_singleton.mp latest
          exact ⟨record, AList.lookup_insert _, here.symm⟩
      · obtain ⟨found, present, same⟩ := (indexed.listed _ id).mp listed
        exact ⟨found, kept present, same⟩
    · rintro ⟨found, present, rfl⟩
      obtain ⟨rfl, rfl⟩ | ⟨_, present⟩ := before present
      · rw [if_pos rfl]
        exact mem_append_right _ (mem_singleton.mpr rfl)
      · have earlier := (indexed.listed _ id).mpr ⟨found, present, rfl⟩
        split
        · rename_i here
          exact mem_append_left _ (here ▸ earlier)
        · exact earlier
  · intro reservation
    change (s.reservationAttempts.insert a.reservation
      (attemptsOf s a.reservation ++ [a.attempt])).lookup reservation ≠ some []
    rw [lookup_insert_eq]
    split
    · simp
    · exact indexed.filled reservation
  · intro reservation
    have ids : ∀ reservation, (attemptsOf s reservation).map
        (fun id => ((s.attempts.insert a.attempt record).lookup id).map (·.admission.ordinal)) =
        (attemptsOf s reservation).map (fun id => (s.attempts.lookup id).map (·.admission.ordinal)) := by
      intro reservation
      refine map_congr_left fun id listed => ?_
      obtain ⟨found, present, _⟩ := (indexed.listed _ id).mp listed
      rw [kept present, present]
    change (((s.reservationAttempts.insert a.reservation
      (attemptsOf s a.reservation ++ [a.attempt])).lookup reservation).getD []).map
        (fun id => ((s.attempts.insert a.attempt record).lookup id).map (·.admission.ordinal)) =
      (List.range (((s.reservationAttempts.insert a.reservation
        (attemptsOf s a.reservation ++ [a.attempt])).lookup reservation).getD []).length).map
          fun i : Nat => some ((i : Int) + 1)
    rw [lists]
    split
    · rw [map_append, ids, indexed.ordinals, length_append, length_singleton,
        range_succ, map_append, map_singleton, map_singleton]
      have ordinal := admissible.ordinal
      simp only [AList.lookup_insert, Option.map_some, record]
      rw [ordinal]
      rfl
    · rw [ids, indexed.ordinals]
  · intro id found other found' present present' same live live'
    obtain ⟨rfl, rfl⟩ | ⟨_, present⟩ := before present <;> obtain ⟨rfl, rfl⟩ | ⟨_, present'⟩ := before present'
    · rfl
    · exact absurd live' (quiet present' same.symm)
    · exact absurd live (quiet present same)
    · exact indexed.live present present' same live live'

theorem Effect.indexed (books : Books s.targets s.reservations) (indexed : Indexed s)
    (effect : Effect rules s version e next) : Indexed next := by
  have kept := effect.reservationsKept books
  cases effect with
  | admitAttempt admissible => exact indexed.admitted admissible
  | _ => exact indexed.framed kept rfl rfl rfl rfl

theorem Reachable.indexed (reachable : Reachable rules principal s) : Indexed s := by
  refine reachable.induct Indexed ?_ (fun _ _ _ indexed => ?_)
    fun reached indexed _ effect => effect.indexed reached.books indexed
  · constructor <;> simp [emptyLedgerState, Indexes, attemptsOf]
  · exact indexed.framed (fun _ r known => ⟨r, known, rfl, rfl, rfl⟩) rfl rfl rfl rfl

theorem attempts_kept {later : LedgerState} (onward : Reaches (Step rules) s later) {id : AttemptId} {record : AttemptRecord}
    (known : s.attempts.lookup id = some record) : later.attempts.lookup id = some record := by
  refine onward.induct (fun later => later.attempts.lookup id = some record) known
    fun {before label after} reached kept step => ?_
  cases step with
  | «sealed» head => exact kept
  | event accepted =>
    obtain ⟨_, moved, effect, rfl⟩ := applyEvent_effect accepted
    cases effect with
    | admitAttempt admissible =>
      change ((before.attempts.insert _ _).lookup id) = some record
      rw [lookup_insert_eq, if_neg, kept]
      rintro rfl
      rw [admissible.unused] at kept
      cases kept
    | _ => exact kept

theorem applyBatch_admitAttempt {applied : AppliedBatch}
    (accepted : applyBatch s [.admitAttempt time a] rules = .ok applied) : (∃ r, Admissible s a time r) ∧
      applied.state.attempts = s.attempts.insert a.attempt ⟨a, s.version + 1, time, .admitted⟩ ∧
      applied.state.reservationAttempts =
        s.reservationAttempts.insert a.reservation (attemptsOf s a.reservation ++ [a.attempt]) := by
  obtain ⟨current, folded, _, state⟩ := applyBatch_ok accepted
  obtain ⟨reached, one, rest⟩ := except_bind_success folded
  obtain rfl := Except.ok.inj rest
  rw [state]
  cases outcome : applyEvent s (.admitAttempt time a) (s.version + 1) rules with
  | error _ => simp [outcome, Except.mapError] at one
  | ok next =>
    obtain rfl : next = reached := by simpa [outcome, Except.mapError] using one
    obtain ⟨_, moved, effect, rfl⟩ := applyEvent_effect outcome
    generalize told : LedgerEvent.admitAttempt time a = e at effect
    cases effect with
    | admitAttempt admissible =>
      cases told
      exact ⟨⟨_, admissible⟩, rfl, rfl⟩
    | @account kind => cases kind <;> cases told
    | _ => cases told

/-- In every reachable state the indexes are functions of the attempts, and in every continuation
an attempt's artifact and slot are its own for good. -/
theorem attempts_indexed (reachable : Reachable rules principal s) :
    Indexed s ∧ ∀ later, Reaches (Step rules) s later → ∀ id record, s.attempts.lookup id = some record →
      later.attempts.lookup id = some record ∧ ∀ other record', later.attempts.lookup other = some record' →
        (record'.admission.artifact = record.admission.artifact ∨
          ∃ slot, record'.admission.slot = some slot ∧ record.admission.slot = some slot) → other = id := by
  refine ⟨reachable.indexed, fun later onward id record known => ?_⟩
  have kept := attempts_kept onward known
  have indexed := Reachable.indexed (reachable.trans onward)
  refine ⟨kept, fun other record' present shared => ?_⟩
  rcases shared with same | ⟨slot, here, there⟩
  · exact indexed.artifact.unique present kept rfl (congrArg some same.symm)
  · exact indexed.slot.unique present kept here there

end Steps

section Sample

def sampleAdmission [Keccak] : AttemptAdmission where
  attempt := 0
  ordinal := 1
  reservation := planReservationId (samplePlan 1)
  generation := ⟨1, positive_one⟩
  action := 1
  authorization := 3
  module := sampleModule
  adapter := ⟨⟨"dex", .refl true⟩, ⟨1, version_one⟩, ⟨1, digest_one⟩⟩
  venueAccount := ⟨⟨⟨"spot", .refl true⟩, .account, ⟨"main", by decide +kernel⟩⟩, by decide⟩
  artifact := ⟨⟨"order", .refl true⟩, [7]⟩
  slot := some ⟨⟨"nonce", .refl true⟩, 4⟩
  validUntil := 50
  requirements := 5
  revalidation := 6

/-- The sample order is sent to its venue under the id derived from it. -/
def sampleAdmit [Keccak] : LedgerEvent :=
  .admitAttempt 3 { sampleAdmission with attempt := attemptIdFor sampleAdmission }

attribute [local instance] platformKeccak

theorem attempts_indexed_sample : ∃ s id record, stateAfter (sampleEvents ++ [sampleAdmit]) = some s ∧
    s.attempts.lookup id = some record ∧ attemptsOf s (planReservationId (samplePlan 1)) = [id] ∧
    ∀ other record', s.attempts.lookup other = some record' →
      record'.admission.artifact = record.admission.artifact → other = id := by
  have admitted : (stateAfter (sampleEvents ++ [sampleAdmit])).map
      (fun s => attemptsOf s (planReservationId (samplePlan 1))) = some [attemptIdFor sampleAdmission] := by
    rewrite [platformKeccak_straight]
    decide +kernel
  obtain ⟨s, after, listed⟩ := Option.map_eq_some_iff.mp admitted
  obtain ⟨history, run, _⟩ := stateAfter_run after
  obtain ⟨indexed, unique⟩ := attempts_indexed run.reachable
  obtain ⟨record, known, _⟩ := (indexed.listed _ _).mp (listed ▸ mem_singleton.mpr rfl)
  exact ⟨s, _, record, after, known, listed, fun other record' present same =>
    (unique s (.refl s) _ record known).2 other record' present (.inl same)⟩

end Sample

end Mandate.Ledger
