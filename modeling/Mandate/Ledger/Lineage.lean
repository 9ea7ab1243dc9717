import Mandate.Lib.Ancestry
import Mandate.Ledger.Transitions

/-! The authority graph over a whole run: nodes are added and marked, never removed or
rewritten, so a lineage, once resolved, is the lineage for good. -/
namespace Mandate.Ledger
open Core Lib.Table Lib.Machine Lib.Ancestry List

abbrev Nodes := PMap AuthorityId NodeRecord

def nodeParent (nodes : Nodes) (id : AuthorityId) : Option (Option AuthorityId) :=
  (nodes.lookup id).map (·.grant.lineage.parent)

def Descends (nodes : Nodes) (id ancestor : AuthorityId) : Prop := Under (nodeParent nodes) id ancestor

/-- A later record of the same node: its grant is the same, and a mark is never lifted. -/
structure NodeRecord.Kept (before after : NodeRecord) : Prop where
  id : after.id = before.id
  grant : after.grant = before.grant
  revoked : before.revokedAt.isSome → after.revokedAt.isSome

def NodesKept (before after : Nodes) : Prop :=
  ∀ id node, before.lookup id = some node → ∃ later, after.lookup id = some later ∧ node.Kept later

theorem NodesKept.refl (nodes : Nodes) : NodesKept nodes nodes :=
  fun _ node known => ⟨node, known, rfl, rfl, fun revoked => revoked⟩

theorem NodesKept.trans {first second third : Nodes} (early : NodesKept first second)
    (late : NodesKept second third) : NodesKept first third := by
  intro id node known
  obtain ⟨between, found, kept⟩ := early id node known
  obtain ⟨after, found', kept'⟩ := late id between found
  exact ⟨after, found', kept'.id.trans kept.id, kept'.grant.trans kept.grant,
    fun revoked => kept'.revoked (kept.revoked revoked)⟩

theorem NodesKept.parent {before after : Nodes} (kept : NodesKept before after) (id : AuthorityId)
    (above : Option AuthorityId) (known : nodeParent before id = some above) :
    nodeParent after id = some above := by
  obtain ⟨node, found, rfl⟩ := Option.map_eq_some_iff.mp known
  obtain ⟨later, found', same⟩ := kept id node found
  simp [nodeParent, found', same.grant]

/-- What every registered node is: itself, issued by the principal or by the holder of its
registered parent, with a whole lineage above it. -/
structure NodesOk (principal : PrincipalId) (nodes : Nodes) : Prop where
  id : ∀ {id node}, nodes.lookup id = some node → node.id = id
  issuer : ∀ {id node}, nodes.lookup id = some node →
    (node.grant.lineage.parent = none ∧ node.grant.lineage.issuer = principal) ∨
    ∃ parent above, node.grant.lineage.parent = some parent ∧ nodes.lookup parent = some above ∧
      node.grant.lineage.issuer = above.grant.holder
  path : ∀ {id node}, nodes.lookup id = some node →
    ∃ ids, Path (nodeParent nodes) id ids ∧ ids.length ≤ MAX_LINEAGE_LENGTH

section Resolution
variable {s : LedgerState} {path : String} {leaf : AuthorityId} {lineage : List NodeRecord}

theorem resolveFrom_succ {id : AuthorityId} {fuel : Nat} (ok : resolveFrom s leaf path (fuel + 1) id = .ok lineage) :
    ∃ node, s.nodes.lookup id = some node ∧ (node.grant.lineage.parent = none ∧ lineage = [node] ∨
      ∃ above rest, node.grant.lineage.parent = some above ∧ resolveFrom s leaf path fuel above = .ok rest ∧
        lineage = node :: rest) := by
  cases known : s.nodes.lookup id with
  | none => simp [resolveFrom, known] at ok
  | some node =>
    simp only [resolveFrom, known] at ok
    cases parent : node.grant.lineage.parent with
    | none =>
      simp only [parent] at ok
      exact ⟨node, rfl, .inl ⟨parent, (Except.ok.inj ok).symm⟩⟩
    | some above =>
      simp only [parent] at ok
      obtain ⟨rest, higher, ok⟩ := except_bind_success ok
      exact ⟨node, rfl, .inr ⟨above, rest, parent, higher, (Except.ok.inj ok).symm⟩⟩

theorem resolveFrom_ok {id : AuthorityId} {fuel : Nat}
    (own : ∀ {id node}, s.nodes.lookup id = some node → node.id = id)
    (ok : resolveFrom s leaf path fuel id = .ok lineage) :
    Path (nodeParent s.nodes) id (lineage.map (·.id)) ∧ lineage.length ≤ fuel ∧
      ∀ node ∈ lineage, s.nodes.lookup node.id = some node := by
  induction fuel generalizing id lineage with
  | zero => simp [resolveFrom] at ok
  | succ fuel ih =>
    obtain ⟨node, known, root⟩ := resolveFrom_succ ok
    obtain rfl := own known
    rcases root with ⟨parent, rfl⟩ | ⟨above, rest, parent, higher, rfl⟩
    · refine ⟨.root (by simp [nodeParent, known, parent]), by simp, ?_⟩
      simpa using known
    · obtain ⟨walk, short, nodes⟩ := ih higher
      refine ⟨.under (by simp [nodeParent, known, parent]) walk, by simpa using short, ?_⟩
      exact forall_mem_cons.mpr ⟨known, nodes⟩

theorem resolveLineage_ok (nodes : NodesOk s.principal s.nodes) (ok : resolveLineage s leaf path = .ok lineage) :
    Path (nodeParent s.nodes) leaf (lineage.map (·.id)) ∧ lineage.length ≤ MAX_LINEAGE_LENGTH ∧
      ∀ node ∈ lineage, s.nodes.lookup node.id = some node :=
  resolveFrom_ok nodes.id ok

variable {time : Int}

theorem checkNodesValid_unrevoked
    (ok : checkNodesValid s time path lineage = .ok ()) : ∀ node ∈ lineage, node.revokedAt = none := by
  induction lineage with
  | nil => simp
  | cons node ancestors ih =>
    obtain ⟨_, above, ok⟩ := except_bind_success ok
    simp only [checkNodeValid, ite_refuseAt_ok] at ok
    obtain ⟨_, _, _, unrevoked, _⟩ := ok
    exact forall_mem_cons.mpr ⟨by simpa using unrevoked, ih above⟩

theorem valid_unrevoked (nodes : NodesOk s.principal s.nodes) {ancestor : AuthorityId} {node : NodeRecord} (resolved : resolveLineage s leaf path = .ok lineage)
    (valid : checkLineageValid s lineage time path = .ok ()) (above : Descends s.nodes leaf ancestor)
    (known : s.nodes.lookup ancestor = some node) : node.revokedAt = none := by
  obtain ⟨walk, _, registered⟩ := resolveLineage_ok nodes resolved
  obtain ⟨on, listed, rfl⟩ := mem_map.mp (walk.mem_iff.mpr above)
  simp only [checkLineageValid, ite_refuse_ok] at valid
  obtain rfl := Option.some.inj ((registered on listed).symm.trans known)
  exact checkNodesValid_unrevoked valid.2 on listed

end Resolution

variable {nodes : Nodes}

theorem insert_kept {id : AuthorityId} (node : NodeRecord)
    (fresh : nodes.lookup id = none) : NodesKept nodes (nodes.insert id node) := by
  intro other known found
  refine ⟨known, ?_, rfl, rfl, fun revoked => revoked⟩
  rw [lookup_insert_eq, if_neg, found]
  rintro rfl
  simp [fresh] at found

theorem mark_kept {node marked : NodeRecord}
    (known : nodes.lookup node.id = some node) (kept : node.Kept marked) :
    NodesKept nodes (nodes.insert node.id marked) := by
  intro other found present
  by_cases same : other = node.id
  · subst same
    obtain rfl := Option.some.inj (known.symm.trans present)
    exact ⟨marked, by simp, kept⟩
  · exact ⟨found, by simp [same, present], rfl, rfl, fun revoked => revoked⟩

theorem insert_nodesOk {principal : PrincipalId} (node : NodeRecord)
    (ok : NodesOk principal nodes) (kept : NodesKept nodes (nodes.insert node.id node))
    (issuer : (node.grant.lineage.parent = none ∧ node.grant.lineage.issuer = principal) ∨
      ∃ parent above, node.grant.lineage.parent = some parent ∧ nodes.lookup parent = some above ∧
        node.grant.lineage.issuer = above.grant.holder)
    (path : ∃ ids, Path (nodeParent (nodes.insert node.id node)) node.id ids ∧
      ids.length ≤ MAX_LINEAGE_LENGTH) : NodesOk principal (nodes.insert node.id node) := by
  have issued : ∀ {n : NodeRecord}, ((n.grant.lineage.parent = none ∧ n.grant.lineage.issuer = principal) ∨
      ∃ parent above, n.grant.lineage.parent = some parent ∧ nodes.lookup parent = some above ∧
        n.grant.lineage.issuer = above.grant.holder) →
      ((n.grant.lineage.parent = none ∧ n.grant.lineage.issuer = principal) ∨
      ∃ parent above, n.grant.lineage.parent = some parent ∧
        (nodes.insert node.id node).lookup parent = some above ∧
        n.grant.lineage.issuer = above.grant.holder) := by
    rintro n (root | ⟨parent, above, link, known, holder⟩)
    · exact .inl root
    · obtain ⟨later, found, same⟩ := kept parent above known
      exact .inr ⟨parent, later, link, found, by rw [holder, same.grant]⟩
  refine ⟨fun {id found} known => ?_, fun {id found} known => ?_, fun {id found} known => ?_⟩ <;>
    rw [lookup_insert_eq] at known <;> split at known
  · rename_i same
    rw [← Option.some.inj known, same]
  · exact ok.id known
  · rw [← Option.some.inj known]
    exact issued issuer
  · exact issued (ok.issuer known)
  · rename_i same
    exact same ▸ path
  · obtain ⟨ids, walk, short⟩ := ok.path known
    exact ⟨ids, walk.mono kept.parent, short⟩

section Steps
variable [Keccak] {rules : ReducerRules} {s next : LedgerState} {version : Nat} {e : LedgerEvent}

theorem Effect.nodesKept (nodes : NodesOk s.principal s.nodes) (effect : Effect rules s version e next) :
    NodesKept s.nodes next.nodes := by
  cases effect with
  | registerGrant registered => exact insert_kept _ (checkGrantRegistration_ok registered).2.1
  | revoke _ known =>
    exact mark_kept (by rwa [nodes.id known]) ⟨rfl, rfl, fun _ => rfl⟩
  | _ => exact .refl _

theorem Effect.nodesOk (nodes : NodesOk s.principal s.nodes) (effect : Effect rules s version e next) :
    NodesOk next.principal next.nodes := by
  have kept := effect.nodesKept nodes
  cases effect with
  | @registerGrant time grant _ _ depth registered =>
    obtain ⟨principal, fresh, lineage⟩ := checkGrantRegistration_ok registered
    refine insert_nodesOk ⟨authorityId grant, grant, depth, _, version, none, none⟩ nodes kept
      ?_ ?_
    · rcases lineage with ⟨root, _⟩ | ⟨parentId, link, delegated⟩
      · have issued := grant.issued
        cases kind : grant.lineage with
        | root issuer =>
          simp only [rootIssued, kind, GrantLineage.kind, GrantLineage.issuer, bne_self_eq_false,
            Bool.false_or, partyIdsEqual_iff] at issued
          exact .inl ⟨by simp [GrantLineage.parent], by simp [GrantLineage.issuer, issued, principal]⟩
        | delegation parent issuer => simp [kind, GrantLineage.parent] at root
      · obtain ⟨parent, ancestors, resolved, _, issuer, _⟩ := checkDelegation_ok delegated
        obtain ⟨walk, _, registered⟩ := resolveLineage_ok nodes resolved
        have known := registered parent mem_cons_self
        have same : parent.id = parentId := Option.some.inj walk.head?
        exact .inr ⟨parentId, parent, link, same ▸ known, issuer⟩
    · have top : ∀ node : NodeRecord, node.grant = grant →
          nodeParent (s.nodes.insert (authorityId grant) node) (authorityId grant) =
            some grant.lineage.parent := by
        intro node same
        simp [nodeParent, same]
      rcases lineage with ⟨root, _⟩ | ⟨parentId, link, delegated⟩
      · exact ⟨_, .root (root ▸ top _ rfl), (by decide : 1 ≤ MAX_LINEAGE_LENGTH)⟩
      · obtain ⟨parent, ancestors, resolved, _, _, short, _⟩ := checkDelegation_ok delegated
        obtain ⟨walk, _, _⟩ := resolveLineage_ok nodes resolved
        refine ⟨_, .under (link ▸ top _ rfl) (walk.mono kept.parent), ?_⟩
        simp only [length_cons, length_map] at short ⊢
        omega
  | @revoke _ revocation node _ known =>
    have same := nodes.id known
    rw [← same] at known
    have issuer := nodes.issuer known
    obtain ⟨ids, walk, short⟩ := nodes.path known
    exact insert_nodesOk { node with
      revokedAt := some version, revocation := some (revocationId revocation) } nodes kept issuer
      ⟨ids, walk.mono kept.parent, short⟩
  | _ => exact nodes

variable {principal : PrincipalId}

theorem Reachable.nodesOk (reachable : Reachable rules principal s) : NodesOk s.principal s.nodes := by
  refine reachable.induct (fun s => NodesOk s.principal s.nodes) ?_
    (fun _ _ _ nodes => nodes) fun _ nodes _ effect => effect.nodesOk nodes
  exact ⟨nofun, nofun, nofun⟩

theorem Reachable.nodesKept (reachable : Reachable rules principal s)
    (onward : Reaches (Step rules) s next) : NodesKept s.nodes next.nodes := by
  refine onward.induct (fun later => NodesKept s.nodes later.nodes) (.refl _)
    fun {before label after} reached kept step => ?_
  cases step with
  | event accepted =>
    obtain ⟨_, moved, effect, rfl⟩ := applyEvent_effect accepted
    have stepped := effect.nodesKept (Reachable.nodesOk (reachable.trans reached))
    exact kept.trans stepped
  | «sealed» head => exact kept

end Steps

end Mandate.Ledger
