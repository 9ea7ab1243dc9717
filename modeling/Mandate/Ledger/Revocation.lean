import Mandate.Ledger.Acceptance

/-! Revocation: what may revoke a node, and what a revoked node never does again in any
continuation of the run, while what was reserved under it runs its course. -/
namespace Mandate.Ledger
open Core Lib.Machine Lib.Ancestry

/-- The authority an event draws on anew: a reservation's leaf, a delegation's parent and the
leaf of the reservation that an attempt is admitted under. -/
def LedgerEvent.drawsOn (s : LedgerState) : LedgerEvent → Option AuthorityId
  | .reserve _ plan _ _ _ => some plan.authority
  | .registerGrant _ grant _ _ => grant.lineage.parent
  | .admitAttempt _ a => (s.reservations.lookup a.reservation).map (·.authority)
  | _ => none

def remainder (time : Int) (id : ReservationId) (r : ReservationRecord) (evidence : ObservationId) :
    AccountingEvent :=
  ⟨time, id, r.generation, evidence, r.demands.map (·.stillOpen)⟩

section Subtree
variable [Keccak] {rules : ReducerRules} {s next : LedgerState} {principal : PrincipalId}

theorem Reachable.whose (reachable : Reachable rules principal s) : s.principal = principal := by
  refine reachable.induct (fun s => s.principal = principal) rfl (fun _ _ _ same => same) ?_
  intro _ _ _ _ same _ effect
  exact effect.frame.1.trans same

theorem Effect.unrevoked {version : Nat} {e : LedgerEvent} (nodes : NodesOk s.principal s.nodes)
    (effect : Effect rules s version e next) {leaf ancestor : AuthorityId} {node : NodeRecord}
    (draws : e.drawsOn s = some leaf) (above : Descends s.nodes leaf ancestor)
    (known : s.nodes.lookup ancestor = some node) : node.revokedAt = none := by
  cases effect with
  | registerGrant registered =>
    obtain ⟨_, _, ⟨root, _⟩ | ⟨parent, link, delegated⟩⟩ := checkGrantRegistration_ok registered
    · rw [LedgerEvent.drawsOn, root] at draws
      cases draws
    · obtain rfl := Option.some.inj (link.symm.trans draws)
      obtain ⟨_, _, resolved, valid, _⟩ := checkDelegation_ok delegated
      exact valid_unrevoked nodes resolved valid above known
  | reserve derivable =>
    obtain rfl := Option.some.inj draws
    exact valid_unrevoked nodes derivable.resolved derivable.valid above known
  | admitAttempt admissible =>
    rw [LedgerEvent.drawsOn, admissible.reservation] at draws
    obtain rfl := Option.some.inj draws
    obtain ⟨_, resolved, valid⟩ := admissible.lineage
    exact valid_unrevoked nodes resolved valid above known
  | @account kind => cases kind <;> cases draws
  | registerPolicy | revoke => cases draws

variable {revocation : Revocation} {time : Int}

omit [Keccak] in
theorem revocation_eligible (nodes : NodesOk s.principal s.nodes)
    {path : String} (valid : checkRevocation s revocation time path = .ok ()) :
    revocation.issuer = s.principal ∨ ∃ above node, s.nodes.lookup above = some node ∧
      Beneath (nodeParent s.nodes) revocation.target above ∧ revocation.issuer = node.grant.holder := by
  obtain ⟨lineage, resolved, _, _, n, listed, issued⟩ := checkRevocation_ok valid
  obtain ⟨walk, _, registered⟩ := resolveLineage_ok nodes resolved
  have reached : Descends s.nodes revocation.target n.id :=
    walk.mem_iff.mp (List.mem_map.mpr ⟨n, listed, rfl⟩)
  have known := registered n listed
  obtain ⟨_, root⟩ | ⟨parent, above, link, found, holder⟩ := nodes.issuer known
  · exact .inl (issued.symm.trans root)
  · refine .inr ⟨parent, above, found, ?_, issued.symm.trans holder⟩
    exact Relation.TransGen.tail' reached (by simp [nodeParent, known, link])

theorem revoked_later (reachable : Reachable rules principal s)
    (accepted : applyEvent s (.revoke time revocation) (s.version + 1) rules = .ok next) {later : LedgerState}
    (onward : Reaches (Step rules) next later) :
    ∃ node, later.nodes.lookup revocation.target = some node ∧ node.revokedAt.isSome := by
  have reached := Effect.reachable reachable accepted
  obtain ⟨_, moved, dispatched, rfl⟩ := applyEvent_ok accepted
  obtain ⟨node, _, known, rfl⟩ := applyRevoke_ok dispatched
  have marked : (s.nodes.insert node.id { node with
      revokedAt := some (s.version + 1), revocation := some (revocationId revocation) }).lookup
      revocation.target = some { node with
        revokedAt := some (s.version + 1), revocation := some (revocationId revocation) } := by
    rw [← reachable.nodesOk.id known]
    exact AList.lookup_insert _
  obtain ⟨found, present, kept⟩ := Reachable.nodesKept reached onward _ _ marked
  exact ⟨found, present, kept.revoked rfl⟩

theorem close_accepted (reachable : Reachable rules principal s) {id : ReservationId} {r : ReservationRecord}
    (known : s.reservations.lookup id = some r) (active : r.status = .active) (time : Int)
    (evidence : ObservationId) (clock : ∀ last, s.lastAt = some last → last ≤ time) (version : Nat) :
    ∃ next, applyEvent s (.close (remainder time id r evidence)) version rules = .ok next := by
  have books := reachable.books
  change ∃ next, applyEvent s (AccountingKind.event .close (remainder time id r evidence)) version rules = _
  refine account_accepted books known rfl
    (.inr active) (.inl rfl) ?_ nofun clock version rules
  refine List.forall₂_map_right_iff.mpr (List.forall₂_same.mpr fun d listed => ?_)
  have ok := books.demands known d listed
  have released := ok.released
  rw [active, if_neg nofun] at released
  refine ⟨ok.stillOpen, by simp only [DemandRecord.stillOpen]; omega, fun leg charged _ => ?_⟩
  obtain ⟨reserved, _, _, counts⟩ := ok.whole leg charged
  exact ⟨reserved, (Prod.mk.inj counts).1.symm⟩

end Subtree

section Sample

def sampleRevocation [Keccak] : Revocation where
  target := authorityId sampleGrant
  issuer := samplePrincipal
  effectiveAt := ⟨0, seconds_zero⟩
  nonce := ⟨0, uint64_zero⟩

attribute [local instance] platformKeccak

end Sample

end Mandate.Ledger
