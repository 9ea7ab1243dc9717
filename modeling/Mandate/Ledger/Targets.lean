import Mandate.Ledger.Postings

/-! Which targets exist and what they are the target of: accounting moves counters only, and
registrations open, retire and relabel targets without touching a counter. -/
namespace Mandate.Ledger
open Core Lib.Table List
open Option (some.inj)

abbrev Counts := ℚ × ℚ × ℚ

def TargetBalance.counts (b : TargetBalance) : Counts := (b.reserved, b.consumed, b.restored)

def countsOf (balance : Option TargetBalance) : Counts := balance.elim 0 TargetBalance.counts

def TargetBalance.face (b : TargetBalance) : TargetRef × CapacitySource × LedgerDimensionTerm × Bool :=
  (b.ref, b.source, b.dimension, b.current)

theorem dimensions_distinct {max : Nat} {admits : AuthorityTerm → Bool} (terms : TermList max admits) :
    ((terms.items.filterMap dimensionOf).map (·.dimensionId)).Nodup := by
  have keys := pairwise_map.mp terms.distinct
  refine pairwise_map.mpr (keys.filterMap dimensionOf fun a a' different d is d' is' => ?_)
  cases a <;> cases a' <;> simp_all [dimensionOf, termKey]

theorem installed_twice {id : PrincipalPolicyId} (d other : LedgerDimensionTerm)
    (before : Option TargetBalance) :
    installed id other (some (installed id d before)) = installed id other before := by
  cases before <;> rfl

section Labels
variable [Keccak] {dims : List LedgerDimensionTerm} {targets : Targets} {key : TargetKey}

theorem retireDimensions_lookup :
    (retireDimensions dims targets).lookup key = (targets.lookup key).map fun b =>
      if key ∈ dims.map policyKey then { b with current := false } else b := by
  induction dims generalizing targets with
  | nil => simp [retireDimensions]
  | cons d rest ih =>
    change (retireDimensions rest _).lookup key = _
    rw [ih]
    by_cases here : key = policyKey d
    · subst here
      cases present : targets.lookup (policyKey d) with
      | none => simp [present]
      | some b => simp [present]
    · cases present : targets.lookup (policyKey d) with
      | none => simp [here, present]
      | some b => simp [here, present]

theorem installDimensions_lookup (id : PrincipalPolicyId) (dims : List LedgerDimensionTerm)
    (targets : Targets) (key : TargetKey) :
    key ∉ dims.map policyKey ∧ (installDimensions id dims targets).lookup key = targets.lookup key ∨
    ∃ d ∈ dims, policyKey d = key ∧
      (installDimensions id dims targets).lookup key = some (installed id d (targets.lookup key)) := by
  induction dims generalizing targets with
  | nil => exact .inl ⟨not_mem_nil, rfl⟩
  | cons d rest ih =>
    have unfolded : installDimensions id (d :: rest) targets = installDimensions id rest
        (targets.insert (policyKey d) (installed id d (targets.lookup (policyKey d)))) := rfl
    rw [unfolded]
    rcases ih (targets.insert (policyKey d) (installed id d (targets.lookup (policyKey d))))
      with ⟨unlisted, kept⟩ | ⟨other, listed, same, set⟩
    · by_cases here : key = policyKey d
      · subst here
        exact .inr ⟨d, mem_cons_self, rfl, by rw [kept, lookup_insert_eq, if_pos rfl]⟩
      · refine .inl ⟨by simpa [here] using unlisted, ?_⟩
        rw [kept, lookup_insert_eq, if_neg here]
    · refine .inr ⟨other, mem_cons_of_mem _ listed, same, ?_⟩
      rw [set, lookup_insert_eq]
      split
      · rename_i here
        rw [here, installed_twice]
      · rfl

end Labels

theorem openNodeTargets_lookup (id : AuthorityId) (grant : AuthorityGrant) (targets : Targets)
    (key : TargetKey) : (∀ d ∈ grantDimensions grant, key ≠ .node id d.dimensionId) ∧
      (openNodeTargets id grant targets).lookup key = targets.lookup key ∨
    ∃ d ∈ grantDimensions grant, key = .node id d.dimensionId ∧
      (openNodeTargets id grant targets).lookup key =
        some (zeroBalance (.node id d.dimensionId) .grant d) := by
  unfold openNodeTargets
  generalize grantDimensions grant = dims
  induction dims generalizing targets with
  | nil => exact .inl ⟨by simp, rfl⟩
  | cons d rest ih =>
    rw [foldl_cons]
    rcases ih (targets.insert (.node id d.dimensionId)
      (zeroBalance (.node id d.dimensionId) .grant d)) with ⟨other, kept⟩ | ⟨later, listed, same, set⟩
    · by_cases here : key = .node id d.dimensionId
      · exact .inr ⟨d, mem_cons_self, here, by rw [kept, lookup_insert_eq, if_pos here]⟩
      · exact .inl ⟨forall_mem_cons.mpr ⟨here, other⟩, by rw [kept, lookup_insert_eq, if_neg here]⟩
    · exact .inr ⟨later, mem_cons_of_mem _ listed, same, set⟩

section Faces
variable {kind : AccountingKind} {s : LedgerState} {e : AccountingEvent} {r : ReservationRecord}
  {moved : Targets × List DemandRecord}

/-- How much an accounting event moves the counters of a target, by the amount at its scale. -/
def AccountingKind.shift (kind : AccountingKind) (x : ℚ) : Counts :=
  match kind with
  | .consume => (-x, x, 0)
  | .close => (-x, 0, 0)
  | .restore => (0, 0, x)

theorem AccountingKind.update_ok {b next : TargetBalance} {x : Int} {epoch : Option Int}
    (ok : kind.posting.update b x epoch = some next) :
    next.counts = b.counts + kind.shift x ∧ next.face = b.face := by
  cases kind with
  | consume =>
    simp only [AccountingKind.posting, consumePosting] at ok
    split at ok
    · cases ok
    · obtain rfl := some.inj ok
      simp [TargetBalance.counts, TargetBalance.face, AccountingKind.shift, sub_eq_add_neg]
  | close =>
    obtain rfl := some.inj ok
    simp [TargetBalance.counts, TargetBalance.face, AccountingKind.shift, sub_eq_add_neg]
  | restore =>
    obtain rfl := some.inj ok
    simp [TargetBalance.counts, TargetBalance.face, AccountingKind.shift]

theorem Accounted.face (accounted : Accounted kind s e r moved) (key : TargetKey) :
    (moved.1.lookup key).map TargetBalance.face = (s.targets.lookup key).map TargetBalance.face :=
  Posting.demands_fold key
    (fun b (_ : Counts) => b.map TargetBalance.face = (s.targets.lookup key).map TargetBalance.face)
    (fun _ _ => 0) (fun _ _ _ _ _ _ _ _ _ _ _ updated before => by
      rw [← before, Option.map_some, Option.map_some, (AccountingKind.update_ok updated).2])
    0 accounted.posted rfl

end Faces

variable {targets : Targets}

theorem reserve_lookup {s : LedgerState} {legs : List (List LegDraft)} {time : Int} {path : String}
    {demand : List (TargetKey × Int)} (available : checkAvailability s legs time path = .ok demand)
    (added : addDemand demand s.targets = .ok targets) (key : TargetKey) :
    targets.lookup key = (s.targets.lookup key).map fun b =>
      { b with reserved := b.reserved + demandAt legs.flatten key } := by
  rw [addDemand_lookup added]
  simp only [(checkAvailability_ok available).2 key]

structure NodeTargets (nodes : Nodes) (targets : Targets) : Prop where
  registered : ∀ {id dimensionId b}, targets.lookup (.node id dimensionId) = some b →
    ∃ node, nodes.lookup id = some node ∧ b.dimension ∈ grantDimensions node.grant ∧
      b.dimension.dimensionId = dimensionId
  opened : ∀ {id node}, nodes.lookup id = some node → ∀ d ∈ grantDimensions node.grant,
    ∃ b, targets.lookup (.node id d.dimensionId) = some b ∧ b.dimension = d

variable {nodes : Nodes} {id : AuthorityId}

theorem NodeTargets.unregistered (ok : NodeTargets nodes targets) (fresh : nodes.lookup id = none) {dimensionId : DimensionId} :
    targets.lookup (.node id dimensionId) = none := by
  cases present : targets.lookup (.node id dimensionId) with
  | none => rfl
  | some b =>
    obtain ⟨node, known, _⟩ := ok.registered present
    simp [fresh] at known

private theorem NodeTargets.relabel {before after : Nodes} {moved : Targets}
    (ok : NodeTargets before targets) (kept : NodesKept before after)
    (known : ∀ id node, after.lookup id = some node → ∃ old, before.lookup id = some old)
    (same : ∀ id dimensionId, (moved.lookup (.node id dimensionId)).map (·.dimension) =
      (targets.lookup (.node id dimensionId)).map (·.dimension)) : NodeTargets after moved := by
  refine ⟨fun {id dimensionId b} present => ?_, fun {id node} registered d listed => ?_⟩
  · have there := same id dimensionId
    rw [present, Option.map_some] at there
    obtain ⟨old, found, dimension⟩ := Option.map_eq_some_iff.mp there.symm
    obtain ⟨node, registered, listed, named⟩ := ok.registered found
    obtain ⟨later, found', still⟩ := kept id node registered
    rw [dimension] at listed named
    exact ⟨later, found', by rwa [still.grant], named⟩
  · obtain ⟨old, was⟩ := known id node registered
    obtain ⟨later, found', still⟩ := kept id old was
    obtain rfl := some.inj (registered.symm.trans found')
    rw [still.grant] at listed
    obtain ⟨b, present, dimension⟩ := ok.opened was d listed
    have there := same id d.dimensionId
    rw [present, Option.map_some] at there
    obtain ⟨b', present', dimension'⟩ := Option.map_eq_some_iff.mp there
    exact ⟨b', present', dimension'.trans dimension⟩

theorem face_dimension {b b' : Option TargetBalance}
    (same : b.map TargetBalance.face = b'.map TargetBalance.face) :
    b.map (·.dimension) = b'.map (·.dimension) := by
  have projected := congrArg (Option.map fun face => face.2.2.1) same
  simpa [Option.map_map, Function.comp_def, TargetBalance.face] using projected

theorem registered_targets {grant : AuthorityGrant} {node : NodeRecord} (ok : NodeTargets nodes targets) (own : node.grant = grant)
    (fresh : nodes.lookup id = none) :
    NodeTargets (nodes.insert id node) (openNodeTargets id grant targets) := by
  have distinct := dimensions_distinct grant.terms
  subst own
  refine ⟨fun {other dimensionId b} present => ?_, fun {other found} registered d listed => ?_⟩
  · rcases openNodeTargets_lookup id node.grant targets (.node other dimensionId)
      with ⟨_, kept⟩ | ⟨d, listed, same, opened⟩
    · rw [kept] at present
      obtain ⟨found, registered, rest⟩ := ok.registered present
      refine ⟨found, ?_, rest⟩
      rw [lookup_insert_eq, if_neg, registered]
      rintro rfl
      simp [fresh] at registered
    · rw [opened] at present
      obtain rfl := some.inj present
      obtain ⟨rfl, rfl⟩ := TargetKey.node.inj same
      exact ⟨node, by simp, listed, rfl⟩
  · rw [lookup_insert_eq] at registered
    rcases openNodeTargets_lookup id node.grant targets (.node other d.dimensionId)
      with ⟨unlisted, kept⟩ | ⟨d', listed', same, opened⟩
    · rw [kept]
      split at registered
      · rename_i here
        obtain rfl := some.inj registered
        exact absurd (by rw [here]) (unlisted d listed)
      · exact ok.opened registered d listed
    · obtain ⟨rfl, named⟩ := TargetKey.node.inj same
      rw [if_pos rfl] at registered
      obtain rfl := some.inj registered
      exact ⟨_, opened, inj_on_of_nodup_map distinct listed' listed named.symm⟩

section Steps
variable [Keccak] {rules : ReducerRules} {s next : LedgerState} {version : Nat} {e : LedgerEvent}

theorem Effect.nodeTargets (nodes : NodesOk s.principal s.nodes) (ok : NodeTargets s.nodes s.targets)
    (effect : Effect rules s version e next) : NodeTargets next.nodes next.targets := by
  have kept := effect.nodesKept nodes
  cases effect with
  | registerPolicy _ _ =>
    refine ok.relabel kept (fun _ node known => ⟨node, known⟩) fun id dimensionId => ?_
    rcases installDimensions_lookup _ _ _ _ with ⟨_, same⟩ | ⟨d, _, same, _⟩
    · rw [same, retireDimensions_lookup, Option.map_map]
      refine congrArg (Option.map · _) (funext fun b => ?_)
      simp [policyKey]
    · simp [policyKey] at same
  | registerGrant registered =>
    exact registered_targets ok rfl (checkGrantRegistration_ok registered).2.1
  | @revoke _ _ node _ known =>
    refine ok.relabel kept (fun id found known' => ?_) fun _ _ => rfl
    have same := nodes.id known
    rw [lookup_insert_eq] at known'
    split at known'
    · rename_i here
      exact ⟨node, by rw [here, same, known]⟩
    · exact ⟨found, known'⟩
  | reserve _ available added =>
    refine ok.relabel kept (fun _ node known => ⟨node, known⟩) fun id dimensionId => ?_
    rw [reserve_lookup available added, Option.map_map]
    rfl
  | account accounted =>
    exact ok.relabel kept (fun _ node known => ⟨node, known⟩) fun id dimensionId =>
      face_dimension (accounted.face _)
  | admitAttempt _ => exact ok

theorem Reachable.nodeTargets {principal : PrincipalId} (reachable : Reachable rules principal s) :
    NodeTargets s.nodes s.targets := by
  refine reachable.induct (fun s => NodeTargets s.nodes s.targets) ?_
    (fun _ _ _ ok => ok) fun reached ok _ effect => effect.nodeTargets reached.nodesOk ok
  exact ⟨nofun, nofun⟩

end Steps

end Mandate.Ledger
