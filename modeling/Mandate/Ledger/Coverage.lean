import Mandate.Ledger.Provenance
import Mandate.Ledger.Solvency

/-! No escape from accounting: every target counts each reservation that it matches, below its
node or, for a policy, anywhere, however the policy came to be in force. -/
namespace Mandate.Ledger
open Core Lib.Scale Lib.Table Lib.Machine List

/-- One demand at one key: one leg of dimension `d` where the reservation is below it and the
contribution matches, and no leg elsewhere. -/
def ChargedOnce (key : TargetKey) (d : LedgerDimensionTerm) (below : Prop) (r : ReservationRecord)
    (demand : DemandRecord) : Prop :=
  let hit := below ∧ contributionMatches demand.contribution r.module.domainId d = true
  (hit ∧ ∃ leg, Drafted demand.contribution r.reservedAt (key, d) leg ∧
    ∀ (M : Type) [AddCommMonoid M] (amount : LegRecord → M),
      legSum key amount demand.legs = amount (legRecordOf leg)) ∨
  (¬hit ∧ ∀ (M : Type) [AddCommMonoid M] (amount : LegRecord → M), legSum key amount demand.legs = 0)

/-- What a reservation still holds or has consumed of the demands that `d` matches. -/
def incurred (d : LedgerDimensionTerm) (r : ReservationRecord) : ℚ :=
  (r.demands.map fun demand => if contributionMatches demand.contribution r.module.domainId d then
    rescaled (demand.reserved - demand.released) demand.contribution.quantity.decimals.1 d.limit.decimals.1
    else 0).sum

variable {d : LedgerDimensionTerm} {key : TargetKey}

theorem chargedOnce_incurred {r : ReservationRecord}
    {below : Prop} [Decidable below] (once : ∀ demand ∈ r.demands, ChargedOnce key d below r demand) :
    chargedTo key (fun demand leg => atScale demand leg (demand.reserved - demand.released)) r =
      if below then incurred d r else 0 := by
  have each : ∀ demand ∈ r.demands,
      legSum key (fun leg => atScale demand leg (demand.reserved - demand.released)) demand.legs =
        if below ∧ contributionMatches demand.contribution r.module.domainId d = true then
          rescaled (demand.reserved - demand.released) demand.contribution.quantity.decimals.1
            d.limit.decimals.1 else 0 := by
    intro demand listed
    rcases once demand listed with ⟨here, leg, drafted, only⟩ | ⟨missed, none⟩
    · rw [if_pos here, only, atScale, legRecordOf, drafted.dimension]
    · rw [if_neg missed, none]
  rw [chargedTo, map_congr_left each, incurred]
  by_cases here : below
  · simp [here]
  · simp [here]

theorem Books.charged {targets : Targets} {reservations : Reservations} (books : Books targets reservations) {b : TargetBalance} (present : targets.lookup key = some b) :
    (b.reserved : ℚ) + b.consumed = total (chargedTo key fun demand leg =>
      atScale demand leg (demand.reserved - demand.released)) reservations := by
  have sum := books.read (reservedOf + consumedOf) key
  rw [present] at sum
  refine sum.trans (total_congr fun _ r _ => ?_)
  refine chargedTo_congr fun demand _ leg _ _ => ?_
  change atScale demand leg demand.stillOpen + atScale demand leg demand.consumed = _
  rw [← atScale_add]
  refine congrArg (atScale demand leg) ?_
  simp only [DemandRecord.stillOpen]
  omega

variable {other : LedgerDimensionTerm}

theorem SameDimension.matches (same : SameDimension d other) (c : Contribution) (domain : DomainId) :
    contributionMatches c domain d = contributionMatches c domain other := by
  simp only [contributionMatches, same.kind, same.unit, same.scope]

private theorem SameDimension.incurred (same : SameDimension d other)
    (r : ReservationRecord) : incurred d r = incurred other r := by
  simp only [Ledger.incurred, same.matches, same.decimals]

section Hashed
variable [Keccak]

theorem CollisionFree.subset {dims more : List LedgerDimensionTerm} (free : CollisionFree more)
    (inside : dims ⊆ more) : CollisionFree dims :=
  fun d listed other listed' => free d (inside listed) other (inside listed')

section Keys
variable {nodes : Nodes} {lineage : List NodeRecord} {dims : List LedgerDimensionTerm}
  {r : ReservationRecord} {d : LedgerDimensionTerm} {demand : DemandRecord} {id : AuthorityId} {node : NodeRecord}

theorem ChargedBy.at_node (charged : ChargedBy nodes lineage dims r)
    (known : nodes.lookup id = some node) (listed : d ∈ grantDimensions node.grant)
    (inside : demand ∈ r.demands) : ChargedOnce (.node id d.dimensionId) d (id ∈ r.lineage) r demand := by
  obtain ⟨drafts, legs, drafted⟩ := charged.demands demand inside
  have ids : (lineage.map (·.id)).Nodup := charged.recorded ▸ charged.walk.nodup
  by_cases hit : id ∈ r.lineage ∧ contributionMatches demand.contribution r.module.domainId d = true
  · obtain ⟨n, above, rfl⟩ := mem_map.mp (charged.recorded ▸ hit.1)
    obtain ⟨found, there, grant⟩ := charged.grants n above
    obtain rfl := Option.some.inj (known.symm.trans there)
    have onPath : (TargetKey.node n.id d.dimensionId, d) ∈
        chargePath lineage dims demand.contribution r.module.domainId :=
      node_mem_chargePath.mpr ⟨rfl, hit.2, n, above, rfl, grant ▸ listed⟩
    obtain ⟨leg, here, only⟩ := legSum_met drafted (chargePath_node ids onPath)
    exact .inl ⟨hit, leg, here, fun M _ amount => by rw [legs, only]⟩
  · refine .inr ⟨hit, fun M _ amount => ?_⟩
    rw [legs]
    refine legSum_unmet drafted (fun other there => hit ?_) amount
    obtain ⟨named, matched, n, above, same, owned⟩ := node_mem_chargePath.mp there
    obtain ⟨found, registered, grant⟩ := charged.grants n above
    rw [same, known] at registered
    obtain rfl := Option.some.inj registered
    have identical : other = d := inj_on_of_nodup_map (dimensions_distinct node.grant.terms)
      (grant ▸ owned) listed named
    rw [← identical, ← same, ← charged.recorded]
    exact ⟨mem_map_of_mem above, matched⟩

variable {registered : List LedgerDimensionTerm}

theorem ChargedBy.at_policy (charged : ChargedBy nodes lineage dims r)
    (free : CollisionFree registered) (inside : dims ⊆ registered) (known : d ∈ registered)
    (kept : policyKey d ∈ dims.map policyKey) : ∃ other, SameDimension other d ∧
      ∀ demand ∈ r.demands, ChargedOnce (policyKey d) other True r demand := by
  obtain ⟨other, there, key⟩ := mem_map.mp kept
  refine ⟨other, free.same (inside there) known key, fun demand listed => ?_⟩
  obtain ⟨drafts, legs, drafted⟩ := charged.demands demand listed
  have alone := free.subset inside
  by_cases hit : contributionMatches demand.contribution r.module.domainId other = true
  · have onPath : (policyKey d, other) ∈ chargePath lineage dims demand.contribution r.module.domainId :=
      policy_mem_chargePath.mpr ⟨key, hit, there⟩
    obtain ⟨leg, here, only⟩ := legSum_met drafted (chargePath_policy charged.names alone onPath)
    exact .inl ⟨⟨trivial, hit⟩, leg, here, fun M _ amount => by rw [legs]; exact only amount⟩
  · refine .inr ⟨fun both => hit both.2, fun M _ amount => ?_⟩
    rw [legs]
    refine legSum_unmet drafted (fun found path => hit ?_) amount
    obtain ⟨key', matched, member⟩ := policy_mem_chargePath.mp path
    rwa [← (alone.same member there (key'.trans key.symm)).matches]

variable {leg : LegRecord}

theorem ChargedBy.leg_at_node (charged : ChargedBy nodes lineage dims r)
    (known : nodes.lookup id = some node) (listed : d ∈ grantDimensions node.grant)
    (inside : demand ∈ r.demands) (on : leg ∈ demand.legs)
    (here : leg.key = .node id d.dimensionId) : ∃ draft, leg = legRecordOf draft ∧
      Drafted demand.contribution r.reservedAt (leg.key, d) draft := by
  obtain ⟨drafts, legs, drafted⟩ := charged.demands demand inside
  obtain ⟨draft, there, rfl⟩ := mem_map.mp (legs ▸ on)
  obtain ⟨⟨key, other⟩, path, ok⟩ := drafted_of_mem drafted there
  obtain rfl : key = .node id d.dimensionId := ok.key.symm.trans here
  obtain ⟨named, _, n, above, same, owned⟩ := node_mem_chargePath.mp path
  obtain ⟨found, registered, grant⟩ := charged.grants n above
  rw [same, known] at registered
  obtain rfl := Option.some.inj registered
  obtain rfl : other = d := inj_on_of_nodup_map (dimensions_distinct node.grant.terms)
    (grant ▸ owned) listed named
  exact ⟨draft, rfl, here ▸ ok⟩

theorem ChargedBy.leg_at_policy (charged : ChargedBy nodes lineage dims r)
    (free : CollisionFree registered) (inside : dims ⊆ registered) (known : d ∈ registered) (listed : demand ∈ r.demands) (on : leg ∈ demand.legs)
    (here : leg.key = policyKey d) : ∃ other draft, SameDimension other d ∧ leg = legRecordOf draft ∧
      Drafted demand.contribution r.reservedAt (leg.key, other) draft := by
  obtain ⟨drafts, legs, drafted⟩ := charged.demands demand listed
  obtain ⟨draft, there, rfl⟩ := mem_map.mp (legs ▸ on)
  obtain ⟨⟨key, other⟩, path, ok⟩ := drafted_of_mem drafted there
  obtain rfl : key = policyKey d := ok.key.symm.trans here
  obtain ⟨same, _, member⟩ := policy_mem_chargePath.mp path
  exact ⟨other, draft, free.same (inside member) known same, rfl, here ▸ ok⟩

end Keys

section Runs
variable {rules : ReducerRules} {principal : PrincipalId} {s : LedgerState}
  {log : List (LedgerState × Option LedgerEvent)} {d : LedgerDimensionTerm}

theorem node_covered (trace : Trace (Step rules) (emptyLedgerState principal) log s)
    {id : AuthorityId} {node : NodeRecord} (known : s.nodes.lookup id = some node)
    (listed : d ∈ grantDimensions node.grant) :
    ∃ b, s.targets.lookup (.node id d.dimensionId) = some b ∧ b.dimension = d ∧
      (b.reserved : ℚ) + b.consumed =
        total (fun r => if id ∈ r.lineage then incurred d r else 0) s.reservations := by
  have reachable : Reachable rules principal s := ⟨log, trace⟩
  obtain ⟨b, present, dimension⟩ := reachable.nodeTargets.opened known d listed
  refine ⟨b, present, dimension, (reachable.books.charged present).trans (total_congr fun _ r there => ?_)⟩
  obtain ⟨lineage, dims, charged, _⟩ := (trace_provenance trace).charged there
  exact chargedOnce_incurred fun demand inside => charged.at_node known listed inside

omit [Keccak] in
theorem policyDimsOf_nodup : ((policyDimsOf s).map (·.dimensionId)).Nodup := by
  unfold policyDimsOf
  cases s.policy with
  | none => exact nodup_nil
  | some policy => exact dimensions_distinct policy.policy.terms

theorem Provenance.inForce {events : List LedgerEvent} (ok : Provenance events s)
    (free : CollisionFree (registeredDimensions events)) (listed : d ∈ policyDimsOf s) :
    ∃ b, s.targets.lookup (policyKey d) = some b ∧ b.current = true ∧ b.dimension = d := by
  obtain ⟨b, present, is⟩ := ok.targets.opened d listed
  obtain ⟨key, member, here⟩ := ok.targets.keyed present
  have alike := free.same member (ok.listed listed) key
  exact ⟨b, present, is, inj_on_of_nodup_map policyDimsOf_nodup (here is) listed alike.dimensionId⟩

theorem policy_covered (trace : Trace (Step rules) (emptyLedgerState principal) log s)
    (free : CollisionFree (registeredDimensions (eventsOf log))) (listed : d ∈ policyDimsOf s) :
    ∃ b, s.targets.lookup (policyKey d) = some b ∧ b.current = true ∧ b.dimension = d ∧
      (b.reserved : ℚ) + b.consumed = total (incurred d) s.reservations := by
  have ok := trace_provenance trace
  have reachable : Reachable rules principal s := ⟨log, trace⟩
  obtain ⟨b, present, is, dimension⟩ := ok.inForce free listed
  refine ⟨b, present, is, dimension, (reachable.books.charged present).trans (total_congr fun _ r there => ?_)⟩
  obtain ⟨lineage, dims, charged, inside, kept⟩ := ok.charged there
  obtain ⟨other, same, once⟩ := charged.at_policy free inside (ok.listed listed) (kept d listed)
  rw [chargedOnce_incurred once, if_pos trivial, same.incurred]

end Runs

/-- No escape: every reservation of the run is on the books, below each node of its lineage and at
every current policy target that it matches, whatever policies came before. -/
theorem run_covered (rules : ReducerRules) (principal : PrincipalId) (history : List CommittedBatch)
    (s : LedgerState) (run : Run rules principal history s) : (∀ time plan lineage policy legs,
      LedgerEvent.reserve time plan lineage policy legs ∈ history.flatMap (·.events) →
      ∃ r, s.reservations.lookup (planReservationId plan) = some r ∧ Commits plan r) ∧
    (∀ reservation r, s.reservations.lookup reservation = some r →
      ∀ id, id ∈ r.lineage ↔ Descends s.nodes r.authority id) ∧
    (∀ id node, s.nodes.lookup id = some node → ∀ d ∈ grantDimensions node.grant,
      ∃ b, s.targets.lookup (.node id d.dimensionId) = some b ∧ b.dimension = d ∧
        (b.reserved : ℚ) + b.consumed =
          total (fun r => if id ∈ r.lineage then incurred d r else 0) s.reservations) ∧
    (CollisionFree (registeredDimensions (history.flatMap (·.events))) →
      ∀ policy, s.policy = some policy → ∀ d ∈ policyDimensions policy.policy,
        ∃ b, s.targets.lookup (policyKey d) = some b ∧ b.current = true ∧ b.dimension = d ∧
          (b.reserved : ℚ) + b.consumed = total (incurred d) s.reservations) := by
  obtain ⟨log, trace, logged⟩ := run.trace
  have ok := trace_provenance trace
  rw [← logged]
  refine ⟨fun time plan lineage policy legs listed => ok.committed listed, fun _ r known id => ?_,
    fun id node known d listed => node_covered trace known listed,
    fun free policy current d listed => policy_covered trace free ?_⟩
  · obtain ⟨lineage, dims, charged, _⟩ := ok.charged known
    exact charged.walk.mem_iff
  · rw [policyDimsOf, current]
    exact listed

end Hashed

section Sample

def cappedPolicy : PrincipalPolicy where
  principal := samplePrincipal
  sequence := ⟨0, uint64_zero⟩
  terms := ⟨[.ledgerDimension sampleDimension], by decide, by decide, by decide +kernel, by decide⟩
  nonce := ⟨0, uint64_zero⟩

/-- A reservation of five under a grant and a policy that both cap orders. -/
def cappedReserve [Keccak] (time epoch : Int) (action : ActionId) : LedgerEvent :=
  .reserve time (samplePlan action) [authorityId sampleGrant] (principalPolicyId cappedPolicy)
    [[⟨.node (authorityId sampleGrant) sampleDimension.dimensionId, 5, some epoch⟩,
      ⟨.policy (principalPolicyId cappedPolicy) sampleDimension.dimensionId, 5, some epoch⟩]]

def cappedEvents [Keccak] : List LedgerEvent :=
  [.registerPolicy 0 cappedPolicy [] [], .registerGrant 0 sampleGrant [] [], cappedReserve 1 0 1]

attribute [local instance] platformKeccak

theorem run_covered_sample : ∃ s b, stateAfter cappedEvents = some s ∧
    s.targets.lookup (policyKey sampleDimension) = some b ∧ b.reserved = 5 ∧
    (b.reserved : ℚ) + b.consumed = total (incurred sampleDimension) s.reservations := by
  have counted : ((stateAfter cappedEvents).bind fun s => (s.policy.map (·.policy)).bind fun p =>
      (s.targets.lookup (policyKey sampleDimension)).map fun b => (p, b.reserved)) =
      some (cappedPolicy, 5) := by
    rewrite [platformKeccak_straight]
    decide +kernel
  obtain ⟨s, after, rest⟩ := Option.bind_eq_some_iff.mp counted
  obtain ⟨p, inForce, found⟩ := Option.bind_eq_some_iff.mp rest
  obtain ⟨policy, current, rfl⟩ := Option.map_eq_some_iff.mp inForce
  obtain ⟨b, present, amounts⟩ := Option.map_eq_some_iff.mp found
  obtain ⟨capped, reserved⟩ := Prod.mk.inj amounts
  obtain ⟨history, run, events⟩ := stateAfter_run after
  have free : CollisionFree (registeredDimensions (history.flatMap (·.events))) := by
    rw [events]
    decide +kernel
  have listed : sampleDimension ∈ policyDimensions policy.policy := by
    rw [capped]
    decide +kernel
  obtain ⟨b', present', _, _, covered⟩ := (run_covered CORE_RULES samplePrincipal history s run).2.2.2
    free policy current sampleDimension listed
  obtain rfl := Option.some.inj (present.symm.trans present')
  exact ⟨s, b, after, present, reserved, covered⟩

end Sample

end Mandate.Ledger
