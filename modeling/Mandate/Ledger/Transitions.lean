import Mandate.Ledger.Run

/-! What each accepted event found in the state and did to it: one inversion lemma a
handler, guards included, so that no later proof unfolds a handler again. -/
namespace Mandate.Ledger
open Core Lib.Table Lib.Machine List

variable {s next : LedgerState} {time : Int} {version : Nat}

theorem orThrow_bind {α β : Type} {value : Option α} {rest : α → LedgerResult β} {result : β}
    (ok : (orThrow value >>= rest) = .ok result) : ∃ found, value = some found ∧ rest found = .ok result := by
  obtain ⟨found, present, ok⟩ := except_bind_success ok
  exact ⟨found, orThrow_ok.mp present, ok⟩

variable {grant : AuthorityGrant} {path : String}

theorem checkDelegation_ok {id parentId : AuthorityId} {prove : NarrowingProver} {depth : Nat}
    (ok : checkDelegation s id grant time path prove parentId = .ok depth) :
    ∃ parent ancestors, resolveLineage s parentId (path ++ ".lineage.parent") = .ok (parent :: ancestors) ∧
      checkLineageValid s (parent :: ancestors) time (path ++ ".lineage.parent") = .ok () ∧
      grant.lineage.issuer = parent.grant.holder ∧
      (parent :: ancestors).length < MAX_LINEAGE_LENGTH ∧ depth = parent.depth + 1 ∧
      checkDelegationSubset parent.grant grant ((effectiveDepths (parent :: ancestors)).head?.getD 0) prove = [] := by
  obtain ⟨lineage, resolved, ok⟩ := except_bind_success ok
  obtain ⟨_, valid, ok⟩ := except_bind_success ok
  cases lineage with
  | nil => simp at ok
  | cons parent ancestors =>
    simp only [ite_refuseAt_ok] at ok
    obtain ⟨_, issuer, ok⟩ := ok
    by_cases violated : checkDelegationSubset parent.grant grant
        ((effectiveDepths (parent :: ancestors)).head?.getD 0) prove = []
    · simp only [violated, ne_eq, not_true_eq_false, if_false, ite_refuseAt_ok] at ok
      obtain ⟨short, built⟩ := ok
      exact ⟨parent, ancestors, resolved, valid, by simpa using issuer, by omega,
        (Except.ok.inj built).symm, violated⟩
    · simp [violated] at ok

theorem checkGrantRegistration_ok {id : AuthorityId} {prove : NarrowingProver} {depth : Nat}
    (ok : checkGrantRegistration s id grant time path prove = .ok depth) :
    grant.principal = s.principal ∧ s.nodes.lookup id = none ∧
      (grant.lineage.parent = none ∧ depth = 0 ∨ ∃ parentId, grant.lineage.parent = some parentId ∧
        checkDelegation s id grant time path prove parentId = .ok depth) := by
  simp only [checkGrantRegistration, ite_refuseAt_ok] at ok
  obtain ⟨principal, _, fresh, _, ok⟩ := ok
  refine ⟨by simpa using principal, by simpa using fresh, ?_⟩
  cases parent : grant.lineage.parent with
  | none =>
    simp only [parent] at ok
    exact .inl ⟨rfl, (Except.ok.inj ok).symm⟩
  | some parentId =>
    simp only [parent] at ok
    exact .inr ⟨parentId, rfl, ok⟩

theorem checkUnrevoked_ok {lineage : List NodeRecord}
    (ok : checkUnrevoked path lineage = .ok ()) : ∀ n ∈ lineage, n.revokedAt = none := by
  induction lineage with
  | nil => simp
  | cons node rest ih =>
    simp only [checkUnrevoked, ite_refuseAt_ok] at ok
    exact forall_mem_cons.mpr ⟨by simpa using ok.1, ih ok.2⟩

theorem checkRevocation_ok {revocation : Revocation} (ok : checkRevocation s revocation time path = .ok ()) :
    ∃ lineage, resolveLineage s revocation.target (path ++ ".target") = .ok lineage ∧
      revocation.effectiveAt.1 ≤ time ∧ (∀ n ∈ lineage, n.revokedAt = none) ∧
      ∃ n ∈ lineage, n.grant.lineage.issuer = revocation.issuer := by
  obtain ⟨lineage, resolved, ok⟩ := except_bind_success ok
  simp only [ite_refuseAt_ok] at ok
  obtain ⟨effective, ok⟩ := ok
  obtain ⟨_, unrevoked, ok⟩ := except_bind_success ok
  by_cases issued : lineage.any fun n => partyIdsEqual n.grant.lineage.issuer revocation.issuer
  · exact ⟨lineage, resolved, by omega, checkUnrevoked_ok unrevoked, by simpa using issued⟩
  · simp [issued] at ok

variable {plan : ChargePlan}

theorem checkActor_ok {lineage : List NodeRecord} {policy : PolicyRecord}
    {effective : EffectiveAuthority} (ok : checkActor plan lineage policy = .ok effective) :
    lineage ≠ [] := by
  cases lineage with
  | nil => simp [checkActor] at ok
  | cons leaf ancestors => nofun

variable {e : AccountingEvent}

theorem reservationFor_ok {r : ReservationRecord} (ok : reservationFor s e = .ok r) :
    s.reservations.lookup e.reservation = some r ∧ r.generation = e.generation ∧
      e.amounts.length = r.demands.length ∧ ∀ amount ∈ e.amounts, 0 ≤ amount := by
  unfold reservationFor at ok
  cases known : s.reservations.lookup e.reservation with
  | none => simp [known] at ok
  | some found =>
    simp only [known, ite_refuse_ok, not_or, Decidable.not_not] at ok
    obtain ⟨generation, ⟨shape, signs⟩, same⟩ := ok
    obtain rfl := Except.ok.inj same
    refine ⟨rfl, generation, shape, fun amount listed => ?_⟩
    simp only [any_eq_true, not_exists, not_and, decide_eq_true_eq, not_lt] at signs
    exact signs amount listed

inductive AccountingKind | consume | close | restore
deriving DecidableEq

namespace AccountingKind

def event : AccountingKind → AccountingEvent → LedgerEvent
  | consume => .consume
  | close => .close
  | restore => .restore

def posting : AccountingKind → Posting
  | consume => consumePosting
  | close => closePosting
  | restore => restorePosting

def status (kind : AccountingKind) (before : ReservationStatus) : ReservationStatus :=
  match kind with
  | close => .closed
  | _ => before

def actions (kind : AccountingKind) (before : PMap ActionId ActionRecord) (r : ReservationRecord) :
    PMap ActionId ActionRecord :=
  match kind with
  | close => closeAction before r
  | _ => before

def record (kind : AccountingKind) (r : ReservationRecord) (demands : List DemandRecord) :
    ReservationRecord :=
  { r with status := kind.status r.status, demands := demands }

def settled (kind : AccountingKind) (s : LedgerState) (r : ReservationRecord)
    (moved : Targets × List DemandRecord) : LedgerState :=
  { s with
    targets := moved.1
    actions := kind.actions s.actions r
    reservations := s.reservations.insert r.id (kind.record r moved.2) }

end AccountingKind

/-- What an accepted accounting event found: only a restoration may follow the close. -/
structure Accounted (kind : AccountingKind) (s : LedgerState) (e : AccountingEvent)
    (r : ReservationRecord) (moved : Targets × List DemandRecord) : Prop where
  known : s.reservations.lookup e.reservation = some r
  generation : r.generation = e.generation
  shape : e.amounts.length = r.demands.length
  nonneg : ∀ amount ∈ e.amounts, 0 ≤ amount
  active : kind = .restore ∨ r.status = .active
  posted : kind.posting.demands (r.demands.zip e.amounts) 0 s.targets = .ok moved

theorem applyConsume_ok (ok : applyConsume s e = .ok next) :
    ∃ r moved, Accounted .consume s e r moved ∧ next = AccountingKind.consume.settled s r moved := by
  obtain ⟨r, found, ok⟩ := except_bind_success ok
  simp only [ite_refuse_ok, not_not] at ok
  obtain ⟨active, _, ok⟩ := ok
  obtain ⟨moved, posted, ok⟩ := except_bind_success ok
  obtain ⟨known, generation, shape, nonneg⟩ := reservationFor_ok found
  exact ⟨r, moved, ⟨known, generation, shape, nonneg, .inr active, posted⟩, (Except.ok.inj ok).symm⟩

theorem applyClose_ok (ok : applyClose s e = .ok next) :
    ∃ r moved, Accounted .close s e r moved ∧ next = AccountingKind.close.settled s r moved := by
  obtain ⟨r, found, ok⟩ := except_bind_success ok
  simp only [ite_refuse_ok, not_not] at ok
  obtain ⟨active, ok⟩ := ok
  obtain ⟨moved, posted, ok⟩ := except_bind_success ok
  obtain ⟨known, generation, shape, nonneg⟩ := reservationFor_ok found
  exact ⟨r, moved, ⟨known, generation, shape, nonneg, .inr active, posted⟩, (Except.ok.inj ok).symm⟩

theorem applyRestore_ok (ok : applyRestore s e = .ok next) :
    ∃ r moved, Accounted .restore s e r moved ∧ next = AccountingKind.restore.settled s r moved := by
  obtain ⟨r, found, ok⟩ := except_bind_success ok
  simp only [ite_refuse_ok] at ok
  obtain ⟨_, ok⟩ := ok
  obtain ⟨moved, posted, ok⟩ := except_bind_success ok
  obtain ⟨known, generation, shape, nonneg⟩ := reservationFor_ok found
  exact ⟨r, moved, ⟨known, generation, shape, nonneg, .inl rfl, posted⟩, (Except.ok.inj ok).symm⟩

theorem mapM_orThrow_ok {attempts : PMap AttemptId AttemptRecord} {ids : List AttemptId}
    {records : List AttemptRecord} (ok : (ids.mapM fun id => orThrow (attempts.lookup id)) = .ok records) :
    ∀ id ∈ ids, ∃ record ∈ records, attempts.lookup id = some record := by
  induction ids generalizing records with
  | nil => simp
  | cons id ids ih =>
    rw [mapM_cons] at ok
    obtain ⟨record, known, ok⟩ := orThrow_bind ok
    obtain ⟨others, rest, ok⟩ := except_bind_success ok
    obtain rfl := Except.ok.inj ok
    refine forall_mem_cons.mpr ⟨⟨record, mem_cons_self, known⟩, fun other listed => ?_⟩
    obtain ⟨found, inside, here⟩ := ih rest other listed
    exact ⟨found, mem_cons_of_mem _ inside, here⟩

variable [Keccak] {rules : ReducerRules}

theorem checkKeptDimensions_ok {kept : List TargetKey} {dims : List LedgerDimensionTerm}
    {index : Nat} (ok : checkKeptDimensions kept dims index = .ok ()) : ∀ d ∈ dims, policyKey d ∈ kept := by
  induction dims generalizing index with
  | nil => simp
  | cons d dims ih =>
    simp only [checkKeptDimensions, ite_else_refuse_ok] at ok
    exact forall_mem_cons.mpr ⟨contains_iff_mem.mp ok.1, ih ok.2⟩

theorem applyRegisterPolicy_ok {policy : PrincipalPolicy} {proofs : List SemanticProofRef}
    {bindings : List SemanticTermBinding}
    (ok : applyRegisterPolicy s policy proofs bindings version rules = .ok next) :
    policy.principal = s.principal ∧
      (∀ previous, constrainedBy s = some previous → ∀ d ∈ policyDimensions policy,
        policyKey d ∈ (policyDimensions previous.policy).map policyKey) ∧ next = { s with
        policy := some ⟨principalPolicyId policy, policy, canonicalBindings bindings, version⟩
        targets := installDimensions (principalPolicyId policy) (policyDimensions policy)
          (retireDimensions (s.policy.elim [] fun p => policyDimensions p.policy) s.targets) } := by
  simp only [applyRegisterPolicy, ite_refuse_ok] at ok
  obtain ⟨principal, _, ok⟩ := ok
  obtain ⟨_, _, ok⟩ := except_bind_success ok
  obtain ⟨_, baseline, ok⟩ := except_bind_success ok
  refine ⟨by simpa using principal, fun previous constrained => ?_, (Except.ok.inj ok).symm⟩
  obtain ⟨_, _, baseline⟩ := except_bind_success baseline
  obtain ⟨_, _, baseline⟩ := except_bind_success baseline
  simp only [constrained] at baseline
  obtain ⟨_, kept, _⟩ := except_bind_success baseline
  exact checkKeptDimensions_ok kept

theorem applyRegisterGrant_ok {proofs : List SemanticProofRef} {bindings : List SemanticTermBinding}
    (ok : applyRegisterGrant s time grant proofs bindings version rules = .ok next) :
    ∃ depth, checkGrantRegistration s (authorityId grant) grant time "grant"
        (committedProver rules.invariantOrdering proofs) = .ok depth ∧ next = { s with
        nodes := s.nodes.insert (authorityId grant)
          ⟨authorityId grant, grant, depth, canonicalBindings bindings, version, none, none⟩
        targets := openNodeTargets (authorityId grant) grant s.targets } := by
  obtain ⟨_, _, ok⟩ := except_bind_success ok
  obtain ⟨_, _, ok⟩ := except_bind_success ok
  obtain ⟨depth, registered, ok⟩ := except_bind_success ok
  exact ⟨depth, registered, (Except.ok.inj ok).symm⟩

theorem applyRevoke_ok {revocation : Revocation} (ok : applyRevoke s time revocation version = .ok next) :
    ∃ node, checkRevocation s revocation time "revocation" = .ok () ∧
      s.nodes.lookup revocation.target = some node ∧ next = { s with
        nodes := s.nodes.insert node.id
          { node with revokedAt := some version, revocation := some (revocationId revocation) } } := by
  obtain ⟨_, valid, ok⟩ := except_bind_success ok
  obtain ⟨node, known, ok⟩ := orThrow_bind ok
  exact ⟨node, valid, known, (Except.ok.inj ok).symm⟩

/-- A derived reservation has a valid lineage, an unused id and the next generation of an
action that has none open. -/
structure Derivable (s : LedgerState) (plan : ChargePlan) (time : Int) (policy : PolicyRecord)
    (derived : DerivedReservation) : Prop where
  principal : plan.principal = s.principal
  known : s.policy = some policy
  resolved : resolveLineage s plan.authority "plan.authority" = .ok derived.lineage
  valid : checkLineageValid s derived.lineage time "plan.authority" = .ok ()
  leaf : derived.lineage ≠ []
  reservation : derived.reservation = planReservationId plan
  unused : s.reservations.lookup (planReservationId plan) = none
  closed : ∀ action, s.actions.lookup plan.action = some action → action.openReservation = none
  successive : plan.generation.1 = (s.actions.lookup plan.action).elim 1 (·.lastGeneration.1 + 1)
  legs : deriveLegs derived.lineage policy.id (policyDimsOf s) plan.module.domainId time
    "plan.contributions" plan.contributions 0 = .ok derived.legs

theorem deriveReservation_ok {derived : DerivedReservation}
    (ok : deriveReservation s plan time = .ok derived) : ∃ policy, Derivable s plan time policy derived := by
  simp only [deriveReservation, ite_refuse_ok] at ok
  obtain ⟨principal, ok⟩ := ok
  cases known : s.policy with
  | none => simp [known] at ok
  | some policy =>
    simp only [known] at ok
    obtain ⟨lineage, resolved, ok⟩ := except_bind_success ok
    obtain ⟨_, valid, ok⟩ := except_bind_success ok
    obtain ⟨effective, actor, ok⟩ := except_bind_success ok
    obtain ⟨_, generation, ok⟩ := except_bind_success ok
    obtain ⟨legs, path, ok⟩ := except_bind_success ok
    simp only [checkGeneration, ite_refuse_ok] at generation
    obtain ⟨unused, closed, successive, _⟩ := generation
    refine ⟨policy, ?_⟩
    obtain rfl := Except.ok.inj ok
    exact {
      principal := by simpa using principal
      known := known
      resolved := resolved
      valid := valid
      leaf := checkActor_ok actor
      reservation := rfl
      unused := by simpa using unused
      closed := fun action known => by simpa [known] using closed
      successive := not_not.mp successive
      legs := path }

theorem applyReserve_ok {lineage : List AuthorityId} {policy : PrincipalPolicyId}
    {legs : List (List EventLeg)} (ok : applyReserve s time plan lineage policy legs version = .ok next) :
    ∃ derived current demand targets, Derivable s plan time current derived ∧
      policy = current.id ∧ lineage = derived.lineage.map (·.id) ∧ legs = eventLegsOf derived.legs ∧
      checkAvailability s derived.legs time "plan" = .ok demand ∧ addDemand demand s.targets = .ok targets ∧
      next = { s with
        everReserved := true
        targets := targets
        reservations := s.reservations.insert (planReservationId plan)
          (reservationRecord plan derived current.id time version)
        actions := s.actions.insert plan.action ⟨plan.generation, some (planReservationId plan)⟩ } := by
  obtain ⟨derived, derivable, ok⟩ := except_bind_success ok
  obtain ⟨current, derivable⟩ := deriveReservation_ok derivable
  obtain ⟨found, known, ok⟩ := orThrow_bind ok
  obtain rfl := Option.some.inj (derivable.known.symm.trans known)
  simp only [ite_refuse_ok, not_not] at ok
  obtain ⟨samePolicy, sameLineage, sameLegs, ok⟩ := ok
  obtain ⟨demand, available, ok⟩ := except_bind_success ok
  obtain ⟨targets, added, ok⟩ := except_bind_success ok
  rw [derivable.reservation] at ok
  exact ⟨derived, current, demand, targets, derivable, samePolicy, sameLineage, sameLegs, available,
    added, (Except.ok.inj ok).symm⟩

structure Admissible (s : LedgerState) (a : AttemptAdmission) (time : Int) (r : ReservationRecord) :
    Prop where
  shape : checkAdmissionShape a "admission" = .ok ()
  reservation : s.reservations.lookup a.reservation = some r
  generation : r.generation = a.generation
  action : r.action = a.action
  module : r.module = a.module
  active : r.status = .active
  unresolved : ∀ id ∈ (s.reservationAttempts.lookup a.reservation).getD [],
    ∃ record, s.attempts.lookup id = some record ∧ record.status ≠ .admitted
  ordinal : a.ordinal = ((s.reservationAttempts.lookup a.reservation).getD []).length + 1
  derived : attemptIdFor a = a.attempt
  unused : s.attempts.lookup a.attempt = none
  artifact : s.attemptArtifacts.lookup a.artifact = none
  slot : ∀ bound, a.slot = some bound → s.attemptSlots.lookup bound = none
  fresh : time < a.validUntil
  lineage : ∃ lineage, resolveLineage s r.authority "admission.lineage" = .ok lineage ∧
    checkLineageValid s lineage time "admission.lineage" = .ok ()

theorem applyAdmitAttempt_ok {a : AttemptAdmission} (ok : applyAdmitAttempt s a time version = .ok next) :
    ∃ r, Admissible s a time r ∧ next = { s with
      attempts := s.attempts.insert a.attempt ⟨a, version, time, .admitted⟩
      attemptArtifacts := s.attemptArtifacts.insert a.artifact a.attempt
      attemptSlots := a.slot.elim s.attemptSlots fun slot => s.attemptSlots.insert slot a.attempt
      reservationAttempts := s.reservationAttempts.insert a.reservation
        ((s.reservationAttempts.lookup a.reservation).getD [] ++ [a.attempt]) } := by
  obtain ⟨_, shape, ok⟩ := except_bind_success ok
  cases known : s.reservations.lookup a.reservation with
  | none => simp [known] at ok
  | some r =>
    simp only [known, ite_refuse_ok] at ok
    obtain ⟨generation, action, module, active, ok⟩ := ok
    obtain ⟨records, prior, ok⟩ := except_bind_success ok
    simp only [ite_refuse_ok] at ok
    obtain ⟨live, ordinal, derived, unused, artifact, slot, fresh, ok⟩ := ok
    obtain ⟨lineage, resolved, ok⟩ := except_bind_success ok
    obtain ⟨_, valid, ok⟩ := except_bind_success ok
    refine ⟨r, ?_, (Except.ok.inj ok).symm⟩
    exact {
      shape := shape
      reservation := known
      generation := not_not.mp generation
      action := not_not.mp action
      module := by simpa using module
      active := not_not.mp active
      unresolved := fun id listed => by
        obtain ⟨record, inside, here⟩ := mapM_orThrow_ok prior id listed
        refine ⟨record, here, fun admitted => live ?_⟩
        exact any_eq_true.mpr ⟨record, inside, by simp⟩
      ordinal := not_not.mp ordinal
      derived := not_not.mp derived
      unused := by simpa using unused
      artifact := by simpa using artifact
      slot := fun bound present => by simpa [present] using slot
      fresh := by omega
      lineage := ⟨lineage, resolved, valid⟩ }

inductive Effect (rules : ReducerRules) (s : LedgerState) (version : Nat) :
    LedgerEvent → LedgerState → Prop
  | registerPolicy {time : Int} {policy : PrincipalPolicy} {proofs : List SemanticProofRef}
      {bindings : List SemanticTermBinding} (principal : policy.principal = s.principal)
      (kept : ∀ previous, constrainedBy s = some previous → ∀ d ∈ policyDimensions policy,
        policyKey d ∈ (policyDimensions previous.policy).map policyKey) :
      Effect rules s version (.registerPolicy time policy proofs bindings) { s with
        policy := some ⟨principalPolicyId policy, policy, canonicalBindings bindings, version⟩
        targets := installDimensions (principalPolicyId policy) (policyDimensions policy)
          (retireDimensions (s.policy.elim [] fun p => policyDimensions p.policy) s.targets) }
  | registerGrant {time : Int} {grant : AuthorityGrant} {proofs : List SemanticProofRef}
      {bindings : List SemanticTermBinding} {depth : Nat}
      (registered : checkGrantRegistration s (authorityId grant) grant time "grant"
        (committedProver rules.invariantOrdering proofs) = .ok depth) :
      Effect rules s version (.registerGrant time grant proofs bindings) { s with
        nodes := s.nodes.insert (authorityId grant)
          ⟨authorityId grant, grant, depth, canonicalBindings bindings, version, none, none⟩
        targets := openNodeTargets (authorityId grant) grant s.targets }
  | revoke {time : Int} {revocation : Revocation} {node : NodeRecord}
      (valid : checkRevocation s revocation time "revocation" = .ok ())
      (known : s.nodes.lookup revocation.target = some node) :
      Effect rules s version (.revoke time revocation) { s with
        nodes := s.nodes.insert node.id
          { node with revokedAt := some version, revocation := some (revocationId revocation) } }
  | reserve {time : Int} {plan : ChargePlan} {derived : DerivedReservation} {current : PolicyRecord}
      {demand : List (TargetKey × Int)} {targets : Targets}
      (derivable : Derivable s plan time current derived)
      (available : checkAvailability s derived.legs time "plan" = .ok demand)
      (added : addDemand demand s.targets = .ok targets) :
      Effect rules s version (.reserve time plan (derived.lineage.map (·.id)) current.id
        (eventLegsOf derived.legs)) { s with
        everReserved := true
        targets := targets
        reservations := s.reservations.insert (planReservationId plan)
          (reservationRecord plan derived current.id time version)
        actions := s.actions.insert plan.action ⟨plan.generation, some (planReservationId plan)⟩ }
  | account {kind : AccountingKind} {e : AccountingEvent} {r : ReservationRecord}
      {moved : Targets × List DemandRecord} (accounted : Accounted kind s e r moved) :
      Effect rules s version (kind.event e) (kind.settled s r moved)
  | admitAttempt {time : Int} {a : AttemptAdmission} {r : ReservationRecord}
      (admissible : Admissible s a time r) :
      Effect rules s version (.admitAttempt time a) { s with
        attempts := s.attempts.insert a.attempt ⟨a, version, time, .admitted⟩
        attemptArtifacts := s.attemptArtifacts.insert a.artifact a.attempt
        attemptSlots := a.slot.elim s.attemptSlots fun slot => s.attemptSlots.insert slot a.attempt
        reservationAttempts := s.reservationAttempts.insert a.reservation
          ((s.reservationAttempts.lookup a.reservation).getD [] ++ [a.attempt]) }

theorem dispatchEvent_effect {e : LedgerEvent} (ok : dispatchEvent s version rules e = .ok next) :
    Effect rules s version e next := by
  cases e with
  | registerPolicy time policy proofs bindings =>
    obtain ⟨principal, kept, rfl⟩ := applyRegisterPolicy_ok ok
    exact .registerPolicy principal kept
  | registerGrant time grant proofs bindings =>
    obtain ⟨depth, registered, rfl⟩ := applyRegisterGrant_ok ok
    exact .registerGrant registered
  | revoke time revocation =>
    obtain ⟨node, valid, known, rfl⟩ := applyRevoke_ok ok
    exact .revoke valid known
  | reserve time plan lineage policy legs =>
    obtain ⟨derived, current, demand, targets, derivable, rfl, rfl, rfl, available, added, rfl⟩ :=
      applyReserve_ok ok
    exact .reserve derivable available added
  | consume event =>
    obtain ⟨r, moved, accounted, rfl⟩ := applyConsume_ok ok
    exact .account accounted
  | close event =>
    obtain ⟨r, moved, accounted, rfl⟩ := applyClose_ok ok
    exact .account accounted
  | restore event =>
    obtain ⟨r, moved, accounted, rfl⟩ := applyRestore_ok ok
    exact .account accounted
  | admitAttempt time a =>
    obtain ⟨r, admissible, rfl⟩ := applyAdmitAttempt_ok ok
    exact .admitAttempt admissible

theorem applyEvent_effect {e : LedgerEvent} (ok : applyEvent s e version rules = .ok next) :
    (∀ last, s.lastAt = some last → last ≤ e.time) ∧
      ∃ moved, Effect rules s version e moved ∧ next = { moved with lastAt := some e.time } := by
  obtain ⟨onward, moved, dispatched, built⟩ := applyEvent_ok ok
  exact ⟨onward, moved, dispatchEvent_effect dispatched, built⟩

theorem Effect.frame {e : LedgerEvent} (effect : Effect rules s version e next) :
    next.principal = s.principal ∧ next.version = s.version ∧ next.head = s.head := by
  cases effect <;> exact ⟨rfl, rfl, rfl⟩

variable {principal : PrincipalId}

theorem history_induct {log : List (LedgerState × Option LedgerEvent)}
    (holds : List (LedgerState × Option LedgerEvent) → LedgerState → Prop)
    (trace : Trace (Step rules) (emptyLedgerState principal) log s)
    (genesis : holds [] (emptyLedgerState principal))
    (batch : ∀ {log : List (LedgerState × Option LedgerEvent)} {s : LedgerState} (head : LedgerHeadDigest),
      holds log s → holds (log ++ [(s, none)]) { s with version := s.version + 1, head := head })
    (effect : ∀ {log : List (LedgerState × Option LedgerEvent)} {s next : LedgerState} {e : LedgerEvent},
      Trace (Step rules) (emptyLedgerState principal) log s → holds log s →
      Trace (Step rules) (emptyLedgerState principal) (log ++ [(s, some e)])
        { next with lastAt := some e.time } →
      (∀ last, s.lastAt = some last → last ≤ e.time) → Effect rules s (s.version + 1) e next →
      holds (log ++ [(s, some e)]) { next with lastAt := some e.time }) : holds log s := by
  refine trace.history holds genesis fun {log before label after} earlier before step => ?_
  cases step with
  | event accepted =>
    obtain ⟨onward, moved, done, rfl⟩ := applyEvent_effect accepted
    exact effect earlier before (earlier.snoc (.event accepted)) onward done
  | «sealed» head => exact batch head before

theorem Reachable.induct (holds : LedgerState → Prop)
    (reachable : Reachable rules principal s) (genesis : holds (emptyLedgerState principal))
    (clock : ∀ {s : LedgerState} (version : Nat) (head : LedgerHeadDigest) (lastAt : Option Int),
      holds s → holds { s with version := version, head := head, lastAt := lastAt })
    (effect : ∀ {s next : LedgerState} {e : LedgerEvent}, Reachable rules principal s → holds s →
      (∀ last, s.lastAt = some last → last ≤ e.time) →
      Effect rules s (s.version + 1) e next → holds next) : holds s := by
  obtain ⟨log, trace⟩ := reachable
  exact history_induct (fun _ => holds) trace genesis (fun head before => clock _ head _ before)
    fun {_ _ next _} earlier before _ onward done =>
      clock next.version next.head _ (effect ⟨_, earlier⟩ before onward done)

theorem applyEvents_trace {start : LedgerState} {log : List (LedgerState × Option LedgerEvent)}
    {events : List LedgerEvent} {index : Nat} (trace : Trace (Step rules) start log s)
    (ok : applyEvents (s.version + 1) rules s events index = .ok next) :
    ∃ more, Trace (Step rules) start (log ++ more) next ∧ more.filterMap (·.2) = events ∧
      next.version = s.version ∧ next.principal = s.principal := by
  induction events generalizing s log index with
  | nil =>
    obtain rfl := Except.ok.inj ok
    exact ⟨[], by simpa using trace, rfl, rfl, rfl⟩
  | cons e rest ih =>
    obtain ⟨middle, accepted, ok⟩ := except_bind_success ok
    have accepted : applyEvent s e (s.version + 1) rules = .ok middle := by
      cases outcome : applyEvent s e (s.version + 1) rules with
      | error _ => simp [outcome, Except.mapError] at accepted
      | ok value => simpa [outcome, Except.mapError] using accepted
    obtain ⟨_, moved, effect, rfl⟩ := applyEvent_effect accepted
    obtain ⟨principal, kept, _⟩ := effect.frame
    have kept : ({ moved with lastAt := some e.time } : LedgerState).version = s.version := kept
    rw [← kept] at ok
    obtain ⟨more, traced, events, version, whose⟩ := ih (trace.snoc (.event accepted)) ok
    refine ⟨(s, some e) :: more, by simpa using traced, by simp [events], version.trans kept, ?_⟩
    exact whose.trans principal

theorem applyBatch_ok {events : List LedgerEvent} {applied : AppliedBatch}
    (ok : applyBatch s events rules = .ok applied) :
    ∃ current, applyEvents (s.version + 1) rules s events 0 = .ok current ∧
      encodeBatch s.principal (s.version + 1) s.head events = some applied.encoded ∧
      applied.state = { current with version := s.version + 1, head := batchHead applied.encoded } := by
  simp only [applyBatch, ite_refuse_ok] at ok
  obtain ⟨_, _, ok⟩ := ok
  obtain ⟨current, folded, ok⟩ := except_bind_success ok
  obtain ⟨encoded, written, ok⟩ := orThrow_bind ok
  obtain rfl := Except.ok.inj ok
  exact ⟨current, folded, written, rfl⟩

theorem Run.trace {history : List CommittedBatch} (run : Run rules principal history s) :
    ∃ log, Trace (Step rules) (emptyLedgerState principal) log s ∧
      log.filterMap (·.2) = history.flatMap (·.events) := by
  induction run with
  | genesis => exact ⟨[], .nil, rfl⟩
  | @batch history s events applied _ accepted ih =>
    obtain ⟨log, trace, logged⟩ := ih
    obtain ⟨current, folded, _, state⟩ := applyBatch_ok accepted
    obtain ⟨more, traced, listed, version, _⟩ := applyEvents_trace trace folded
    have ended := traced.snoc (.sealed (batchHead applied.encoded))
    rw [version, ← state] at ended
    exact ⟨_, ended, by simp [logged, listed, committedBatch]⟩

theorem Run.reachable {history : List CommittedBatch}
    (run : Run rules principal history s) : Reachable rules principal s := by
  obtain ⟨log, trace, _⟩ := run.trace
  exact ⟨log, trace⟩

theorem Effect.reachable {e : LedgerEvent} (reachable : Reachable rules principal s)
    (accepted : applyEvent s e (s.version + 1) rules = .ok next) : Reachable rules principal next :=
  reachable.extend (.event accepted)

end Mandate.Ledger
