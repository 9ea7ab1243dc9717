import Mandate.Ledger.ChargedAt

/-! Where every reservation of a run comes from: the lineage and the policy it was charged
along. Once anything is reserved, a policy update only ever drops dimensions. -/
namespace Mandate.Ledger
open Core Lib.Table Lib.Machine Lib.Ancestry List

def eventDimensions : LedgerEvent → List LedgerDimensionTerm
  | .registerPolicy _ policy _ _ => policyDimensions policy
  | _ => []

def registeredDimensions (events : List LedgerEvent) : List LedgerDimensionTerm :=
  events.flatMap eventDimensions

def eventsOf (log : List (LedgerState × Option LedgerEvent)) : List LedgerEvent := log.filterMap (·.2)

theorem registeredDimensions_mono (events : List LedgerEvent) (e : LedgerEvent) :
    registeredDimensions events ⊆ registeredDimensions (events ++ [e]) := by
  rw [registeredDimensions, registeredDimensions, flatMap_append]
  exact subset_append_left _ _

def DemandRecord.charge (d : DemandRecord) : Contribution × List LegRecord × Int :=
  (d.contribution, d.legs, d.reserved)

theorem Accounted.charges {kind : AccountingKind} {s : LedgerState} {e : AccountingEvent}
    {r : ReservationRecord} {moved : Targets × List DemandRecord} (accounted : Accounted kind s e r moved) :
    moved.2.map DemandRecord.charge = r.demands.map DemandRecord.charge := by
  calc moved.2.map DemandRecord.charge
    _ = ((r.demands.zip e.amounts).map Prod.fst).map DemandRecord.charge := by
      rw [(Posting.demands_ok accounted.posted).1, map_map, map_map]
      refine map_congr_left fun pair _ => ?_
      cases kind <;> rfl
    _ = r.demands.map DemandRecord.charge := by rw [accounted.pairs_fst]

theorem drafted_demands {time : Int} {contributions : List Contribution} {legs : List (List LegDraft)}
    {path : Contribution → List (TargetKey × LedgerDimensionTerm)}
    (drafted : List.Forall₂ (fun c legs => List.Forall₂ (Drafted c time) (path c) legs) contributions legs) :
    (List.zipWith demandRecord contributions legs).map (fun d => (d.contribution, d.reserved)) =
        contributions.map (fun c => (c, c.quantity.atoms)) ∧
      ∀ d ∈ List.zipWith demandRecord contributions legs, ∃ drafts, d.legs = drafts.map legRecordOf ∧
        List.Forall₂ (Drafted d.contribution time) (path d.contribution) drafts := by
  induction drafted with
  | nil => exact ⟨rfl, by simp⟩
  | @cons c legs _ _ here _ ih =>
    rw [zipWith_cons_cons, map_cons, map_cons, ih.1]
    exact ⟨rfl, forall_mem_cons.mpr ⟨⟨legs, rfl, here⟩, ih.2⟩⟩

section Policy
variable [Keccak] {dims registered : List LedgerDimensionTerm} {targets moved : Targets}

/-- A policy target is the dimension it is keyed by, and is current while that is in force. -/
structure PolicyTargets (dims registered : List LedgerDimensionTerm) (targets : Targets) : Prop where
  keyed : ∀ {identity b}, targets.lookup (.policy identity) = some b →
    policyKey b.dimension = .policy identity ∧ b.dimension ∈ registered ∧
      (b.current = true → b.dimension ∈ dims)
  opened : ∀ d ∈ dims, ∃ b, targets.lookup (policyKey d) = some b ∧ b.current = true

private theorem PolicyTargets.relabel (ok : PolicyTargets dims registered targets)
    (same : ∀ identity, (moved.lookup (.policy identity)).map (fun b => (b.dimension, b.current)) =
      (targets.lookup (.policy identity)).map fun b => (b.dimension, b.current)) :
    PolicyTargets dims registered moved := by
  refine ⟨fun {identity b} present => ?_, fun d listed => ?_⟩
  · have there := same identity
    rw [present, Option.map_some] at there
    obtain ⟨old, was, faces⟩ := Option.map_eq_some_iff.mp there.symm
    obtain ⟨dimension, current⟩ := Prod.mk.inj faces
    rw [← dimension, ← current]
    exact ok.keyed was
  · obtain ⟨old, was, current⟩ := ok.opened d listed
    have there := same (policyDimensionIdentity d)
    rw [show TargetKey.policy (policyDimensionIdentity d) = policyKey d from rfl, was,
      Option.map_some] at there
    obtain ⟨b, present, faces⟩ := Option.map_eq_some_iff.mp there
    exact ⟨b, present, (Prod.mk.inj faces).2.trans current⟩

private theorem PolicyTargets.mono {more : List LedgerDimensionTerm}
    (ok : PolicyTargets dims registered targets) (grown : registered ⊆ more) :
    PolicyTargets dims more targets :=
  ⟨fun present => ⟨(ok.keyed present).1, grown (ok.keyed present).2.1, (ok.keyed present).2.2⟩, ok.opened⟩

theorem PolicyTargets.install {id : PrincipalPolicyId} {fresh more : List LedgerDimensionTerm}
    (ok : PolicyTargets dims registered targets) (grown : registered ⊆ more) (inside : fresh ⊆ more) :
    PolicyTargets fresh more (installDimensions id fresh (retireDimensions dims targets)) := by
  refine ⟨fun {identity b} present => ?_, fun d listed => ?_⟩
  · rcases installDimensions_lookup id fresh (retireDimensions dims targets) (.policy identity)
      with ⟨_, same⟩ | ⟨d, listed, same, set⟩
    · rw [same, retireDimensions_lookup] at present
      obtain ⟨old, was, rfl⟩ := Option.map_eq_some_iff.mp present
      obtain ⟨key, known, current⟩ := ok.keyed was
      split
      · exact ⟨key, grown known, by simp⟩
      · rename_i unlisted
        exact ⟨key, grown known, fun is =>
          absurd (mem_map.mpr ⟨_, current is, key⟩) unlisted⟩
    · rw [set] at present
      have dimension : b.dimension = d := by
        rw [← Option.some.inj present]
        cases (retireDimensions dims targets).lookup (TargetKey.policy identity) <;> rfl
      rw [dimension]
      exact ⟨same, inside listed, fun _ => listed⟩
  · rcases installDimensions_lookup id fresh (retireDimensions dims targets) (policyKey d)
      with ⟨unlisted, _⟩ | ⟨other, _, _, set⟩
    · exact absurd (mem_map_of_mem listed) unlisted
    · refine ⟨_, set, ?_⟩
      cases (retireDimensions dims targets).lookup (policyKey d) <;> rfl

end Policy

variable [Keccak]

/-- A reservation charged along a lineage of registered nodes and the dimensions of one policy. -/
structure ChargedBy (nodes : Nodes) (lineage : List NodeRecord) (dims : List LedgerDimensionTerm)
    (r : ReservationRecord) : Prop where
  recorded : lineage.map (·.id) = r.lineage
  walk : Path (nodeParent nodes) r.authority r.lineage
  grants : ∀ n ∈ lineage, ∃ node, nodes.lookup n.id = some node ∧ node.grant = n.grant
  names : (dims.map (·.dimensionId)).Nodup
  demands : ∀ d ∈ r.demands, ∃ drafts, d.legs = drafts.map legRecordOf ∧
    List.Forall₂ (Drafted d.contribution r.reservedAt)
      (chargePath lineage dims d.contribution r.module.domainId) drafts

structure Commits (plan : ChargePlan) (r : ReservationRecord) : Prop where
  authority : r.authority = plan.authority
  module : r.module = plan.module
  demands : r.demands.map (fun d => (d.contribution, d.reserved)) =
    plan.contributions.map fun c => (c, c.quantity.atoms)

structure Provenance (events : List LedgerEvent) (s : LedgerState) : Prop where
  listed : policyDimsOf s ⊆ registeredDimensions events
  targets : PolicyTargets (policyDimsOf s) (registeredDimensions events) s.targets
  constrained : ∀ {id r}, s.reservations.lookup id = some r → ∃ policy, constrainedBy s = some policy
  charged : ∀ {id r}, s.reservations.lookup id = some r → ∃ lineage dims,
    ChargedBy s.nodes lineage dims r ∧ dims ⊆ registeredDimensions events ∧
      ∀ d ∈ policyDimsOf s, policyKey d ∈ dims.map policyKey
  committed : ∀ {time plan lineage policy legs}, LedgerEvent.reserve time plan lineage policy legs ∈ events →
    ∃ r, s.reservations.lookup (planReservationId plan) = some r ∧ Commits plan r

section Steps
variable {rules : ReducerRules} {s next : LedgerState} {version : Nat} {e : LedgerEvent}
  {events : List LedgerEvent} {r : ReservationRecord}

private theorem ChargedBy.kept {before after : Nodes} {lineage : List NodeRecord}
    {dims : List LedgerDimensionTerm} (charged : ChargedBy before lineage dims r)
    (kept : NodesKept before after) : ChargedBy after lineage dims r where
  recorded := charged.recorded
  walk := charged.walk.mono kept.parent
  grants n listed := by
    obtain ⟨node, known, grant⟩ := charged.grants n listed
    obtain ⟨later, found, same⟩ := kept n.id node known
    exact ⟨later, found, same.grant.trans grant⟩
  names := charged.names
  demands := charged.demands

private theorem ChargedBy.account {kind : AccountingKind} {e : AccountingEvent} {r : ReservationRecord}
    {moved : Targets × List DemandRecord} (accounted : Accounted kind s e r moved) {nodes : Nodes}
    {lineage : List NodeRecord} {dims : List LedgerDimensionTerm} (charged : ChargedBy nodes lineage dims r) :
    ChargedBy nodes lineage dims (kind.record r moved.2) where
  recorded := charged.recorded
  walk := charged.walk
  grants := charged.grants
  names := charged.names
  demands d listed := by
    have inside : d.charge ∈ moved.2.map DemandRecord.charge := mem_map_of_mem listed
    rw [accounted.charges] at inside
    obtain ⟨old, was, same⟩ := mem_map.mp inside
    obtain ⟨contribution, rest⟩ := Prod.mk.inj same
    obtain ⟨legs, _⟩ := Prod.mk.inj rest
    rw [← contribution, ← legs]
    exact charged.demands old was

variable {time : Int} {plan : ChargePlan}

private theorem Derivable.charged (version : Nat) {policy : PolicyRecord}
    {derived : DerivedReservation} (nodes : NodesOk s.principal s.nodes)
    (derivable : Derivable s plan time policy derived) : ChargedBy s.nodes derived.lineage (policyDimsOf s)
        (reservationRecord plan derived policy.id time version) ∧
      Commits plan (reservationRecord plan derived policy.id time version) := by
  obtain ⟨walk, _, registered⟩ := resolveLineage_ok nodes derivable.resolved
  obtain ⟨demands, legs⟩ := drafted_demands derivable.drafted
  have names : ((policyDimsOf s).map (·.dimensionId)).Nodup := by
    rw [policyDimsOf, derivable.known]
    exact dimensions_distinct policy.policy.terms
  exact ⟨⟨rfl, walk, fun n listed => ⟨n, registered n listed, rfl⟩, names, legs⟩, rfl, rfl, demands⟩

omit [Keccak] in
private theorem Accounted.commits {kind : AccountingKind} {e : AccountingEvent}
    {moved : Targets × List DemandRecord} (accounted : Accounted kind s e r moved)
    (commits : Commits plan r) : Commits plan (kind.record r moved.2) := by
  have charges := congrArg (List.map fun charge : Contribution × List LegRecord × Int =>
    (charge.1, charge.2.2)) accounted.charges
  rw [map_map, map_map] at charges
  exact ⟨commits.authority, commits.module, charges.trans commits.demands⟩

private theorem Provenance.keep (ok : Provenance events s) (nodes : NodesKept s.nodes next.nodes)
    (policy : next.policy = s.policy) (everReserved : next.everReserved = s.everReserved)
    (reservations : next.reservations = s.reservations)
    (targets : ∀ identity, (next.targets.lookup (.policy identity)).map (fun b => (b.dimension, b.current)) =
      (s.targets.lookup (.policy identity)).map fun b => (b.dimension, b.current))
    (idle : ∀ time plan lineage policy legs, e ≠ .reserve time plan lineage policy legs) :
    Provenance (events ++ [e]) next := by
  have grown := registeredDimensions_mono events e
  have dims : policyDimsOf next = policyDimsOf s := by rw [policyDimsOf, policyDimsOf, policy]
  have bound : constrainedBy next = constrainedBy s := by
    rw [constrainedBy, constrainedBy, policy, everReserved]
  refine ⟨?_, ?_, fun known => ?_, fun known => ?_, fun {time plan lineage _ legs} listed => ?_⟩
  · rw [dims]
    exact List.Subset.trans ok.listed grown
  · rw [dims]
    exact (ok.targets.relabel targets).mono grown
  · rw [bound]
    exact ok.constrained (reservations ▸ known)
  · obtain ⟨lineage, dims', charged, inside, kept⟩ := ok.charged (reservations ▸ known)
    rw [dims]
    exact ⟨lineage, dims', charged.kept nodes, List.Subset.trans inside grown, kept⟩
  · have earlier : LedgerEvent.reserve time plan lineage _ legs ∈ events :=
      (mem_append.mp listed).resolve_right fun last =>
        idle _ _ _ _ _ (mem_singleton.mp last).symm
    rw [reservations]
    exact ok.committed earlier

theorem registerPolicy_provenance {policy : PrincipalPolicy}
    {proofs : List SemanticProofRef} {bindings : List SemanticTermBinding} (ok : Provenance events s)
    (kept : ∀ previous, constrainedBy s = some previous → ∀ d ∈ policyDimensions policy,
      policyKey d ∈ (policyDimensions previous.policy).map policyKey) :
    Provenance (events ++ [.registerPolicy time policy proofs bindings]) { s with
      policy := some ⟨principalPolicyId policy, policy, canonicalBindings bindings, version⟩
      targets := installDimensions (principalPolicyId policy) (policyDimensions policy)
        (retireDimensions (policyDimsOf s) s.targets) } := by
  have grown := registeredDimensions_mono events (.registerPolicy time policy proofs bindings)
  have fresh : policyDimensions policy ⊆
      registeredDimensions (events ++ [.registerPolicy time policy proofs bindings]) := by
    rw [registeredDimensions, flatMap_append]
    exact subset_append_of_subset_right _ (by simp [eventDimensions])
  refine ⟨fresh, ok.targets.install grown fresh, fun known => ?_, fun known => ?_,
    fun {_ _ _ _ _} listed => ok.committed (by simpa using listed)⟩
  · obtain ⟨previous, constrained⟩ := ok.constrained known
    have ever : s.everReserved = true := by
      by_contra never
      simp [constrainedBy, never] at constrained
    exact ⟨⟨_, _, _, _⟩, by simp only [constrainedBy, ever, if_true]; rfl⟩
  · obtain ⟨previous, constrained⟩ := ok.constrained known
    obtain ⟨lineage, dims, charged, inside, current⟩ := ok.charged known
    refine ⟨lineage, dims, charged, List.Subset.trans inside grown, fun d listed => ?_⟩
    obtain ⟨old, was, same⟩ := mem_map.mp (kept previous constrained d listed)
    have inForce : policyDimsOf s = policyDimensions previous.policy := by
      unfold constrainedBy at constrained
      split at constrained
      · rw [policyDimsOf, constrained]
        rfl
      · cases constrained
    rw [← same]
    exact current old (inForce ▸ was)

theorem reserve_provenance {derived : DerivedReservation}
    {current : PolicyRecord} {demand : List (TargetKey × Int)} {targets : Targets}
    {lineage : List AuthorityId} {policy : PrincipalPolicyId} {legs : List (List EventLeg)}
    {actions : PMap ActionId ActionRecord} (nodes : NodesOk s.principal s.nodes)
    (ok : Provenance events s) (derivable : Derivable s plan time current derived)
    (available : checkAvailability s derived.legs time "plan" = .ok demand)
    (added : addDemand demand s.targets = .ok targets) :
    Provenance (events ++ [.reserve time plan lineage policy legs]) { s with
      everReserved := true
      targets := targets
      reservations := s.reservations.insert (planReservationId plan)
        (reservationRecord plan derived current.id time version)
      actions := actions } := by
  have grown := registeredDimensions_mono events (.reserve time plan lineage policy legs)
  obtain ⟨charged, commits⟩ := derivable.charged version nodes
  refine ⟨List.Subset.trans ok.listed grown, (ok.targets.relabel fun identity => ?_).mono grown,
    fun _ => ⟨current, by simp only [constrainedBy, if_true, derivable.known]⟩,
    fun {id r} known => ?_, fun {time' plan' lineage' policy' legs'} listed => ?_⟩
  · rw [reserve_lookup available added, Option.map_map]
    rfl
  · change (s.reservations.insert _ _).lookup id = some r at known
    rw [lookup_insert_eq] at known
    split at known
    · obtain rfl := Option.some.inj known
      exact ⟨_, _, charged, List.Subset.trans ok.listed grown, fun d listed => mem_map_of_mem listed⟩
    · obtain ⟨lineage, dims, charged, inside, kept⟩ := ok.charged known
      exact ⟨lineage, dims, charged, List.Subset.trans inside grown, kept⟩
  · change ∃ r, (s.reservations.insert _ _).lookup _ = some r ∧ Commits plan' r
    rw [lookup_insert_eq]
    rcases mem_append.mp listed with earlier | latest
    · obtain ⟨r, known, committed⟩ := ok.committed earlier
      have other : planReservationId plan' ≠ planReservationId plan := by
        intro same
        rw [same, derivable.unused] at known
        cases known
      exact ⟨r, by rwa [if_neg other], committed⟩
    · obtain ⟨_, rfl, _⟩ := LedgerEvent.reserve.inj (mem_singleton.mp latest)
      exact ⟨_, if_pos rfl, commits⟩

theorem account_provenance {kind : AccountingKind} {e : AccountingEvent}
    {moved : Targets × List DemandRecord} (books : Books s.targets s.reservations) (ok : Provenance events s)
    (accounted : Accounted kind s e r moved) :
    Provenance (events ++ [kind.event e]) (kind.settled s r moved) := by
  have known : s.reservations.lookup r.id = some r := books.id accounted.known ▸ accounted.known
  have grown := registeredDimensions_mono events (kind.event e)
  refine ⟨List.Subset.trans ok.listed grown, (ok.targets.relabel fun identity => ?_).mono grown,
    fun _ => ok.constrained known, fun {id found} registered => ?_,
    fun {time plan lineage policy legs} listed => ?_⟩
  · have faces := congrArg (Option.map fun face : TargetRef × CapacitySource × LedgerDimensionTerm × Bool =>
      face.2.2) (accounted.face (.policy identity))
    rwa [Option.map_map, Option.map_map] at faces
  · change (s.reservations.insert r.id (kind.record r moved.2)).lookup id = some found at registered
    rw [lookup_insert_eq] at registered
    split at registered
    · obtain rfl := Option.some.inj registered
      obtain ⟨lineage, dims, charged, inside, kept⟩ := ok.charged known
      exact ⟨lineage, dims, charged.account accounted, List.Subset.trans inside grown, kept⟩
    · obtain ⟨lineage, dims, charged, inside, kept⟩ := ok.charged registered
      exact ⟨lineage, dims, charged, List.Subset.trans inside grown, kept⟩
  · have earlier : LedgerEvent.reserve time plan lineage policy legs ∈ events := by
      refine (mem_append.mp listed).resolve_right fun latest => ?_
      cases kind <;> cases mem_singleton.mp latest
    obtain ⟨found, there, commits⟩ := ok.committed earlier
    change ∃ r', (s.reservations.insert r.id (kind.record r moved.2)).lookup _ = some r' ∧ Commits plan r'
    rw [lookup_insert_eq]
    split
    · rename_i same
      rw [same, known] at there
      obtain rfl := Option.some.inj there
      exact ⟨_, rfl, accounted.commits commits⟩
    · exact ⟨found, there, commits⟩

theorem Effect.provenance (nodes : NodesOk s.principal s.nodes) (books : Books s.targets s.reservations)
    (ok : Provenance events s) (effect : Effect rules s version e next) :
    Provenance (events ++ [e]) next := by
  have kept := effect.nodesKept nodes
  cases effect with
  | registerPolicy _ dropped => exact registerPolicy_provenance ok dropped
  | @registerGrant _ grant _ _ _ _ =>
    refine ok.keep kept rfl rfl rfl (fun identity => ?_) nofun
    rcases openNodeTargets_lookup (authorityId grant) grant s.targets (.policy identity)
      with ⟨_, same⟩ | ⟨_, _, absurd, _⟩
    · rw [same]
    · cases absurd
  | revoke _ _ | admitAttempt _ => exact ok.keep kept rfl rfl rfl (fun _ => rfl) nofun
  | reserve derivable available added => exact reserve_provenance nodes ok derivable available added
  | account accounted => exact account_provenance books ok accounted

theorem trace_provenance {principal : PrincipalId} {log : List (LedgerState × Option LedgerEvent)}
    (trace : Trace (Step rules) (emptyLedgerState principal) log s) : Provenance (eventsOf log) s := by
  refine history_induct (fun log s => Provenance (eventsOf log) s) trace ?_ (fun {log s} head ok => ?_)
    fun {log s next e} earlier ok _ _ effect => ?_
  · exact ⟨by simp [emptyLedgerState, policyDimsOf], ⟨fun present => by simp [emptyLedgerState] at present,
      fun d listed => by simp [emptyLedgerState, policyDimsOf] at listed⟩,
      fun present => by simp [emptyLedgerState] at present,
      fun present => by simp [emptyLedgerState] at present, fun listed => by simp [eventsOf] at listed⟩
  · have same : eventsOf (log ++ [(s, none)]) = eventsOf log := by simp [eventsOf]
    rw [same]
    exact ⟨ok.listed, ok.targets, ok.constrained, ok.charged, ok.committed⟩
  · have reachable : Reachable rules principal s := ⟨log, earlier⟩
    have more : eventsOf (log ++ [(s, some e)]) = eventsOf log ++ [e] := by simp [eventsOf]
    have stepped := effect.provenance reachable.nodesOk reachable.books ok
    rw [more]
    exact ⟨stepped.listed, stepped.targets, stepped.constrained, stepped.charged, stepped.committed⟩

end Steps

end Mandate.Ledger
