import Mandate.Ledger.Events

/-! The ledger's transition rules: a pure fold of event batches over an immutable state. The
recorded charge path of a reservation is evidence, never trusted input: it is derived again. -/
namespace Mandate.Ledger
open Core Lib.Wire Lib.Table

def zeroBalance (ref : TargetRef) (source : CapacitySource) (dimension : LedgerDimensionTerm) :
    TargetBalance where
  ref := ref
  source := source
  dimension := dimension
  current := true
  reserved := 0
  consumed := 0
  restored := 0
  epochConsumed := none

/-- A dimension new to the policy would start from zero while earlier reservations exist. -/
def checkKeptDimensions [Keccak] (kept : List TargetKey) :
    (dims : List LedgerDimensionTerm) → Nat → LedgerResult Unit
  | [], _ => .ok ()
  | d :: rest, index =>
    if kept.contains (policyKey d) then checkKeptDimensions kept rest (index + 1)
    else refuse .policyUpdateRequiresBaseline (atIndex "policy.terms.dimension" index)

/-- Same meaning as in the previous policy, and provably no stronger. -/
def keptInvariant (previous : PolicyRecord) (bindings : List SemanticTermBinding)
    (prove : NarrowingProver) (t : StateInvariantTerm) : Bool :=
  (restatedFrom (policyInvariants previous.policy) t).any fun p =>
    keepsSemantics p previous.bindings t bindings && (p.params == t.params || prove t p == .noWeaker)

def checkKeptInvariants (previous : PolicyRecord) (bindings : List SemanticTermBinding)
    (prove : NarrowingProver) : (terms : List StateInvariantTerm) → Nat → LedgerResult Unit
  | [], _ => .ok ()
  | t :: rest, index =>
    if keptInvariant previous bindings prove t then
      checkKeptInvariants previous bindings prove rest (index + 1)
    else refuse .policyUpdateRequiresBaseline (atIndex "policy.terms.invariant" index)

/-- The policy an update has to account to: there is one as soon as anything was reserved. -/
def constrainedBy (s : LedgerState) : Option PolicyRecord := if s.everReserved then s.policy else none

/-- A policy update may not activate a constraint over activity that already exists. -/
def checkPolicyBaseline [Keccak] (s : LedgerState) (policy : PrincipalPolicy) (rules : ReducerRules)
    (proofs : List SemanticProofRef) (bindings : List SemanticTermBinding) : LedgerResult Unit := do
  let needed := (constrainedBy s).elim [] fun previous =>
    restatedInvariants (policyInvariants previous.policy) (policyInvariants policy)
  checkProofSet proofs needed "proofs"
  checkProofsBound bindings "proofs" proofs 0
  match constrainedBy s with
  | none => .ok ()
  | some previous => do
    checkKeptDimensions ((policyDimensions previous.policy).map policyKey) (policyDimensions policy) 0
    checkKeptInvariants previous bindings (committedProver rules.invariantOrdering proofs)
      (policyInvariants policy) 0

def retireDimensions [Keccak] (dims : List LedgerDimensionTerm) (targets : Targets) : Targets :=
  dims.foldl (fun targets d =>
    match targets.lookup (policyKey d) with
    | none => targets
    | some b => targets.insert (policyKey d) { b with current := false }) targets

/-- A kept dimension keeps its whole history; only its ceiling follows the new policy. -/
def installed (id : PrincipalPolicyId) (d : LedgerDimensionTerm) (before : Option TargetBalance) :
    TargetBalance :=
  match before with
  | none => zeroBalance (.policy id d.dimensionId) .policy d
  | some b => { b with ref := .policy id d.dimensionId, dimension := d, current := true }

def installDimensions [Keccak] (id : PrincipalPolicyId) (dims : List LedgerDimensionTerm)
    (targets : Targets) : Targets :=
  dims.foldl (fun targets d =>
    targets.insert (policyKey d) (installed id d (targets.lookup (policyKey d)))) targets

def applyRegisterPolicy [Keccak] (s : LedgerState) (policy : PrincipalPolicy)
    (proofs : List SemanticProofRef) (bindings : List SemanticTermBinding) (version : Nat)
    (rules : ReducerRules) : LedgerResult LedgerState :=
  if !partyIdsEqual policy.principal s.principal then refuse .principalMismatch "policy.principal"
  else if s.policy.any (fun previous => policy.sequence.1 ≤ previous.policy.sequence.1) = true then
    refuse .policySequenceNotIncreasing "policy.sequence"
  else do
    checkBindingSet bindings (policyInvariants policy) "bindings" "policy.terms"
    checkPolicyBaseline s policy rules proofs bindings
    let id := principalPolicyId policy
    let retired := retireDimensions (s.policy.elim [] fun p => policyDimensions p.policy) s.targets
    .ok { s with
      policy := some ⟨id, policy, canonicalBindings bindings, version⟩
      targets := installDimensions id (policyDimensions policy) retired }

def parentOf (s : LedgerState) (grant : AuthorityGrant) : Option NodeRecord :=
  grant.lineage.parent.bind fun parent => s.nodes.lookup parent

/-- A restated term keeps its parent's meaning, proved under the definition it is bound to. -/
def checkNarrowing (parent : Option NodeRecord) (grant : AuthorityGrant)
    (proofs : List SemanticProofRef) (bindings : List SemanticTermBinding) : LedgerResult Unit := do
  let invariants := grantInvariants grant
  let needed := parent.elim [] fun p => restatedInvariants (grantInvariants p.grant) invariants
  checkProofSet proofs needed "proofs"
  checkProofsBound bindings "proofs" proofs 0
  match parent with
  | none => .ok ()
  | some p => checkRestatedBindings (grantInvariants p.grant) p.bindings bindings "grant.terms" invariants 0

def openNodeTargets (id : AuthorityId) (grant : AuthorityGrant) (targets : Targets) : Targets :=
  (grantDimensions grant).foldl (fun targets d =>
    targets.insert (.node id d.dimensionId) (zeroBalance (.node id d.dimensionId) .grant d)) targets

def applyRegisterGrant [Keccak] (s : LedgerState) (time : Int) (grant : AuthorityGrant)
    (proofs : List SemanticProofRef) (bindings : List SemanticTermBinding) (version : Nat)
    (rules : ReducerRules) : LedgerResult LedgerState := do
  let id := authorityId grant
  checkBindingSet bindings (grantInvariants grant) "bindings" "grant.terms"
  checkNarrowing (parentOf s grant) grant proofs bindings
  let depth ← checkGrantRegistration s id grant time "grant"
    (committedProver rules.invariantOrdering proofs)
  .ok { s with
    nodes := s.nodes.insert id ⟨id, grant, depth, canonicalBindings bindings, version, none, none⟩
    targets := openNodeTargets id grant s.targets }

/-- The node is marked, never removed; its outstanding reservations are untouched. -/
def applyRevoke [Keccak] (s : LedgerState) (time : Int) (revocation : Revocation) (version : Nat) :
    LedgerResult LedgerState := do
  checkRevocation s revocation time "revocation"
  let node ← orThrow (s.nodes.lookup revocation.target)
  .ok { s with
    nodes := s.nodes.insert node.id
      { node with revokedAt := some version, revocation := some (revocationId revocation) } }

structure DerivedReservation where
  reservation : ReservationId
  lineage : List NodeRecord
  effective : EffectiveAuthority
  legs : List (List LegDraft)

/-- Generations of one action run from 1 without gaps, and one is open at a time. -/
def checkGeneration [Keccak] (s : LedgerState) (plan : ChargePlan) : LedgerResult Unit :=
  let action := s.actions.lookup plan.action
  if (s.reservations.lookup (planReservationId plan)).isSome then
    refuse .reservationExists "plan.generation"
  else if action.any (·.openReservation.isSome) = true then
    refuse .previousGenerationOpen "plan.generation"
  else if plan.generation.1 ≠ action.elim 1 (·.lastGeneration.1 + 1) then
    refuse .generationOutOfSequence "plan.generation"
  else .ok ()

/-- What the leaf's holder may do with the lineage, under the policy in force. -/
def checkActor (plan : ChargePlan) (lineage : List NodeRecord) (policy : PolicyRecord) :
    LedgerResult EffectiveAuthority :=
  match lineage with
  | [] => .error .thrown
  | leaf :: _ =>
    if !partyIdsEqual plan.actor leaf.grant.holder then
      refuseAt .actorNotHolder "plan.actor" (some leaf.id)
    else do
      let effective ← effectiveAuthority lineage policy.policy "plan.authority" policy.bindings
      if !moduleAllowed effective plan.module then
        refuseAt .moduleNotPermitted "plan.module" (some leaf.id)
      else .ok effective

/-- Everything a reservation for `plan` must be but available, derived from the state. -/
def deriveReservation [Keccak] (s : LedgerState) (plan : ChargePlan) (time : Int) :
    LedgerResult DerivedReservation :=
  if !partyIdsEqual plan.principal s.principal then refuse .principalMismatch "plan.principal"
  else match s.policy with
    | none => refuse .principalPolicyMissing "plan"
    | some policy => do
      let lineage ← resolveLineage s plan.authority "plan.authority"
      checkLineageValid s lineage time "plan.authority"
      let effective ← checkActor plan lineage policy
      checkGeneration s plan
      let legs ← deriveLegs lineage policy.id (policyDimsOf s) plan.module.domainId time
        "plan.contributions" plan.contributions 0
      .ok ⟨planReservationId plan, lineage, effective, legs⟩

def eventLegsOf (legs : List (List LegDraft)) : List (List EventLeg) :=
  legs.map fun legs => legs.map fun leg => ⟨leg.ref, leg.amount, leg.epoch⟩

def deriveReserveEvent [Keccak] (s : LedgerState) (plan : ChargePlan) (time : Int) :
    LedgerResult LedgerEvent := do
  let derived ← deriveReservation s plan time
  let policy ← orThrow s.policy
  .ok (.reserve time plan (derived.lineage.map (·.id)) policy.id (eventLegsOf derived.legs))

def addDemand : List (TargetKey × Int) → Targets → LedgerResult Targets
  | [], targets => .ok targets
  | (key, amount) :: rest, targets => do
    let b ← orThrow (targets.lookup key)
    addDemand rest (targets.insert key { b with reserved := b.reserved + amount })

def demandRecord (c : Contribution) (legs : List LegDraft) : DemandRecord where
  contribution := c
  legs := legs.map legRecordOf
  reserved := c.quantity.atoms
  consumed := 0
  released := 0
  restored := 0

def reservationRecord (plan : ChargePlan) (derived : DerivedReservation) (policy : PrincipalPolicyId)
    (time : Int) (version : Nat) : ReservationRecord where
  id := derived.reservation
  action := plan.action
  generation := plan.generation
  authority := plan.authority
  lineage := derived.lineage.map (·.id)
  policy := policy
  module := plan.module
  implementation := plan.implementation
  committedAt := version
  reservedAt := time
  status := .active
  demands := List.zipWith demandRecord plan.contributions derived.legs

def applyReserve [Keccak] (s : LedgerState) (time : Int) (plan : ChargePlan)
    (lineage : List AuthorityId) (policy : PrincipalPolicyId) (legs : List (List EventLeg))
    (version : Nat) : LedgerResult LedgerState := do
  let derived ← deriveReservation s plan time
  let current ← orThrow s.policy
  if policy ≠ current.id then refuse .chargePathMismatch "policy"
  else if lineage ≠ derived.lineage.map (·.id) then refuse .chargePathMismatch "lineage"
  else if legs ≠ eventLegsOf derived.legs then refuse .chargePathMismatch "legs"
  else do
    let demand ← checkAvailability s derived.legs time "plan"
    let targets ← addDemand demand s.targets
    .ok { s with
      everReserved := true
      targets := targets
      reservations := s.reservations.insert derived.reservation
        (reservationRecord plan derived current.id time version)
      actions := s.actions.insert plan.action ⟨plan.generation, some derived.reservation⟩ }

def reservationFor (s : LedgerState) (e : AccountingEvent) : LedgerResult ReservationRecord :=
  match s.reservations.lookup e.reservation with
  | none => refuse .reservationUnknown "reservation"
  | some r =>
    if r.generation ≠ e.generation then refuse .reservationIdMismatch "generation"
    else if e.amounts.length ≠ r.demands.length ∨ e.amounts.any (· < 0) = true then
      refuse .accountingShapeInvalid "amounts"
    else .ok r

/-- Each leg's amount is the demand's, rescaled exactly; `update` is `none` on overflow. -/
def forEachLeg (demand : DemandRecord) (amount : Int) (path : String) (only : Bool → Bool)
    (update : TargetBalance → Int → Option Int → Option TargetBalance) :
    List LegRecord → Targets → LedgerResult Targets
  | [], targets => .ok targets
  | leg :: rest, targets =>
    if only leg.capacity then
      match rescaleExact amount demand.contribution.quantity.decimals.1 leg.decimals.1 with
      | none => refuse .inexactRescale path
      | some legAmount => do
        let b ← orThrow (targets.lookup leg.key)
        match update b legAmount leg.epoch with
        | none => refuse .amountOverflow path
        | some next => forEachLeg demand amount path only update rest (targets.insert leg.key next)
    else forEachLeg demand amount path only update rest targets

/-- What one kind of accounting event does to a demand: the check of its amount, the legs it
moves and how it moves a target, and what the demand records. -/
structure Posting where
  check : DemandRecord → Int → String → LedgerResult Unit
  only : Bool → Bool
  update : TargetBalance → Int → Option Int → Option TargetBalance
  record : DemandRecord → Int → DemandRecord

def Posting.demand (p : Posting) (d : DemandRecord) (amount : Int) (path : String)
    (targets : Targets) : LedgerResult Targets := do
  p.check d amount path
  forEachLeg d amount path p.only p.update d.legs targets

def Posting.demands (p : Posting) : List (DemandRecord × Int) → Nat → Targets →
    LedgerResult (Targets × List DemandRecord)
  | [], _, targets => .ok (targets, [])
  | (d, amount) :: rest, index, targets => do
    let moved ← p.demand d amount (atIndex "amounts" index) targets
    let others ← p.demands rest (index + 1) moved
    .ok (others.1, p.record d amount :: others.2)

/-- What an event of `epoch` adds to the counter of the latest epoch: an older epoch's nothing. -/
def rollEpoch (tracked : Option EpochConsumed) (atoms : Int) : Option Int → Option EpochConsumed
  | none => tracked
  | some epoch =>
    match tracked with
    | none => some ⟨epoch, atoms⟩
    | some t =>
      if t.epoch < epoch then some ⟨epoch, atoms⟩
      else if t.epoch = epoch then some ⟨epoch, t.atoms + atoms⟩
      else some t

/-- Consumption beyond the reservation is an overrun, which is not recorded here. -/
def consumePosting : Posting where
  check d amount path :=
    if d.reserved - d.consumed < amount then refuse .consumeExceedsReserved path else .ok ()
  only _ := true
  update b x epoch :=
    if (UINT256_MAX : Int) < b.consumed + x then none
    else some { b with
      reserved := b.reserved - x
      consumed := b.consumed + x
      epochConsumed := rollEpoch b.epochConsumed x epoch }
  record d amount := { d with consumed := d.consumed + amount }

def closePosting : Posting where
  check d amount path :=
    if amount ≠ d.reserved - d.consumed then refuse .releaseMismatch path else .ok ()
  only _ := true
  update b x _ := some { b with reserved := b.reserved - x }
  record d amount := { d with released := amount }

/-- Credited to the legs the reservation was charged to; budget legs never restore. -/
def restorePosting : Posting where
  check d amount path :=
    if d.consumed - d.restored < amount then refuse .restoreExceedsConsumed path
    else if 0 < amount ∧ d.legs.all (fun l => !l.capacity) = true then refuse .restoreNotPermitted path
    else .ok ()
  only capacity := capacity
  update b x _ := some { b with restored := b.restored + x }
  record d amount := { d with restored := d.restored + amount }

def applyConsume (s : LedgerState) (e : AccountingEvent) : LedgerResult LedgerState := do
  let r ← reservationFor s e
  if r.status ≠ .active then refuse .reservationClosed "reservation"
  else if e.amounts.all (· ≤ 0) = true then refuse .accountingShapeInvalid "amounts"
  else do
    let moved ← consumePosting.demands (r.demands.zip e.amounts) 0 s.targets
    .ok { s with
      targets := moved.1
      reservations := s.reservations.insert r.id { r with demands := moved.2 } }

def closeAction (actions : PMap ActionId ActionRecord) (r : ReservationRecord) : PMap ActionId ActionRecord :=
  match actions.lookup r.action with
  | none => actions
  | some a =>
    if a.openReservation = some r.id then actions.insert r.action { a with openReservation := none }
    else actions

def applyClose (s : LedgerState) (e : AccountingEvent) : LedgerResult LedgerState := do
  let r ← reservationFor s e
  if r.status ≠ .active then refuse .reservationClosed "reservation"
  else do
    let moved ← closePosting.demands (r.demands.zip e.amounts) 0 s.targets
    .ok { s with
      targets := moved.1
      actions := closeAction s.actions r
      reservations := s.reservations.insert r.id { r with status := .closed, demands := moved.2 } }

def applyRestore (s : LedgerState) (e : AccountingEvent) : LedgerResult LedgerState := do
  let r ← reservationFor s e
  if e.amounts.all (· ≤ 0) = true then refuse .accountingShapeInvalid "amounts"
  else do
    let moved ← restorePosting.demands (r.demands.zip e.amounts) 0 s.targets
    .ok { s with
      targets := moved.1
      reservations := s.reservations.insert r.id { r with demands := moved.2 } }

/-- An attempt is admitted against an active reservation it restates, under its derived id, with
an artifact and slot never bound before, while the lineage is still valid. -/
def applyAdmitAttempt [Keccak] (s : LedgerState) (a : AttemptAdmission) (time : Int) (version : Nat) :
    LedgerResult LedgerState := do
  checkAdmissionShape a "admission"
  match s.reservations.lookup a.reservation with
  | none => refuse .reservationUnknown "admission.reservation"
  | some r =>
    if r.generation ≠ a.generation then refuse .reservationIdMismatch "admission.generation"
    else if r.action ≠ a.action then refuse .attemptBindingMismatch "admission.action"
    else if !moduleRefsEqual r.module a.module then refuse .attemptBindingMismatch "admission.module"
    else if r.status ≠ .active then refuse .reservationClosed "admission.reservation"
    else do
      let prior := (s.reservationAttempts.lookup a.reservation).getD []
      let records ← prior.mapM fun id => orThrow (s.attempts.lookup id)
      if records.any (fun record => record.status = .admitted) = true then
        refuse .attemptUnresolved "admission.reservation"
      else if a.ordinal ≠ prior.length + 1 then refuse .attemptIdMismatch "admission.ordinal"
      else if attemptIdFor a ≠ a.attempt then refuse .attemptIdMismatch "admission.attempt"
      else if (s.attempts.lookup a.attempt).isSome then refuse .attemptIdMismatch "admission.attempt"
      else if (s.attemptArtifacts.lookup a.artifact).isSome then
        refuse .artifactReused "admission.artifact"
      else if a.slot.any (fun slot => (s.attemptSlots.lookup slot).isSome) = true then
        refuse .venueSlotReused "admission.slot"
      else if a.validUntil ≤ time then refuse .attemptExpired "admission.validUntil"
      else do
        let lineage ← resolveLineage s r.authority "admission.lineage"
        checkLineageValid s lineage time "admission.lineage"
        .ok { s with
          attempts := s.attempts.insert a.attempt ⟨a, version, time, .admitted⟩
          attemptArtifacts := s.attemptArtifacts.insert a.artifact a.attempt
          attemptSlots := a.slot.elim s.attemptSlots fun slot => s.attemptSlots.insert slot a.attempt
          reservationAttempts := s.reservationAttempts.insert a.reservation (prior ++ [a.attempt]) }

def dispatchEvent [Keccak] (s : LedgerState) (version : Nat) (rules : ReducerRules) :
    LedgerEvent → LedgerResult LedgerState
  | .registerPolicy _ policy proofs bindings => applyRegisterPolicy s policy proofs bindings version rules
  | .registerGrant time grant proofs bindings =>
    applyRegisterGrant s time grant proofs bindings version rules
  | .revoke time revocation => applyRevoke s time revocation version
  | .reserve time plan lineage policy legs => applyReserve s time plan lineage policy legs version
  | .consume event => applyConsume s event
  | .close event => applyClose s event
  | .restore event => applyRestore s event
  | .admitAttempt time admission => applyAdmitAttempt s admission time version

def applyEvent [Keccak] (s : LedgerState) (e : LedgerEvent) (version : Nat) (rules : ReducerRules) :
    LedgerResult LedgerState :=
  if s.lastAt.any (fun last => e.time < last) = true then refuse .evaluationTimeRegressed "at"
  else do
    let next ← dispatchEvent s version rules e
    .ok { next with lastAt := some e.time }

def applyEvents [Keccak] (version : Nat) (rules : ReducerRules) (s : LedgerState) :
    List LedgerEvent → Nat → LedgerResult LedgerState
  | [], _ => .ok s
  | e :: rest, index => do
    let next ← (applyEvent s e version rules).mapError (readdress (atIndex "events" index))
    applyEvents version rules next rest (index + 1)

structure AppliedBatch where
  state : LedgerState
  encoded : Bytes

def applyBatch [Keccak] (s : LedgerState) (events : List LedgerEvent) (rules : ReducerRules) :
    LedgerResult AppliedBatch :=
  if events.length = 0 then refuse .batchEmpty "events"
  else if MAX_BATCH_EVENTS < events.length then refuse .batchTooLarge "events"
  else do
    let version := s.version + 1
    let current ← applyEvents version rules s events 0
    let encoded ← orThrow (encodeBatch s.principal version s.head events)
    .ok ⟨{ current with version := version, head := batchHead encoded }, encoded⟩

end Mandate.Ledger
