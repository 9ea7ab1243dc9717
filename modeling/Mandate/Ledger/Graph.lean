import Mandate.Ledger.Subset

/-! The authority graph: lineage resolution and validity, and what registering and revoking
a node require. The graph is the `nodes` of the state. -/
namespace Mandate.Ledger
open Core

def resolveFrom (s : LedgerState) (leaf : AuthorityId) (path : String) :
    Nat → AuthorityId → LedgerResult (List NodeRecord)
  | 0, _ => refuseAt .authorityDepthExceeded path (some leaf)
  | fuel + 1, id =>
    match s.nodes.lookup id with
    | none => refuseAt .authorityUnknown path (some id)
    | some node =>
      match node.grant.lineage.parent with
      | none => .ok [node]
      | some parent => do
        let rest ← resolveFrom s leaf path fuel parent
        .ok (node :: rest)

def resolveLineage (s : LedgerState) (leaf : AuthorityId) (path : String) :
    LedgerResult (List NodeRecord) := resolveFrom s leaf path MAX_LINEAGE_LENGTH leaf

/-- Leaf to root: each node's own depth, and at most one less than its parent's. -/
def effectiveDepths : List NodeRecord → List Nat
  | [] => []
  | node :: ancestors =>
    let above := effectiveDepths ancestors
    let own := delegateDepth node.grant
    (match above.head? with
      | none => own
      | some parent => min own (parent - 1)) :: above

def issuerFits (principal : PrincipalId) (node : NodeRecord) : Option NodeRecord → Bool
  | none => node.grant.lineage.kind == .root && partyIdsEqual node.grant.lineage.issuer principal
  | some parent => node.grant.lineage.parent == some parent.id &&
      partyIdsEqual node.grant.lineage.issuer parent.grant.holder

/-- One node of a lineage, its parent (if any) and its parent's effective depth. -/
def checkNodeValid (s : LedgerState) (time : Int) (path : String) (node : NodeRecord)
    (parent : Option NodeRecord) (parentDepth : Option Nat) : LedgerResult Unit :=
  if !partyIdsEqual node.grant.principal s.principal then
    refuseAt .authorityPrincipalMismatch path (some node.id)
  else if !issuerFits s.principal node parent then
    refuseAt .authorityIssuerMismatch path (some node.id)
  else if parentDepth.any (· < 1) = true then refuseAt .authorityDepthExceeded path (some node.id)
  else if node.revokedAt.isSome then refuseAt .authorityRevoked path (some node.id)
  else if time < node.grant.window.notBefore.1 then refuseAt .authorityNotYetValid path (some node.id)
  else if node.grant.window.expiresAt.1 ≤ time then refuseAt .authorityExpired path (some node.id)
  else .ok ()

def checkNodesValid (s : LedgerState) (time : Int) (path : String) : List NodeRecord → LedgerResult Unit
  | [] => .ok ()
  | node :: ancestors => do
    checkNodesValid s time path ancestors
    checkNodeValid s time path node ancestors.head? (effectiveDepths ancestors).head?

def checkLineageValid (s : LedgerState) (lineage : List NodeRecord) (time : Int) (path : String) :
    LedgerResult Unit :=
  if s.policy.isNone then refuse .principalPolicyMissing path else checkNodesValid s time path lineage

/-- What a delegation under `parentId` must satisfy; the new node's depth. -/
def checkDelegation (s : LedgerState) (id : AuthorityId) (grant : AuthorityGrant) (time : Int)
    (path : String) (prove : NarrowingProver) (parentId : AuthorityId) : LedgerResult Nat := do
  let parentPath := path ++ ".lineage.parent"
  let lineage ← resolveLineage s parentId parentPath
  checkLineageValid s lineage time parentPath
  match lineage with
  | [] => .error .thrown
  | parent :: _ =>
    if !partyIdsEqual grant.principal parent.grant.principal then
      refuseAt .authorityPrincipalMismatch (path ++ ".principal") (some id)
    else if !partyIdsEqual grant.lineage.issuer parent.grant.holder then
      refuseAt .authorityIssuerMismatch (path ++ ".lineage.issuer") (some id)
    else
      let violations := checkDelegationSubset parent.grant grant
        ((effectiveDepths lineage).head?.getD 0) prove
      if violations ≠ [] then .error (.refused (.delegationRefused path violations))
      else if MAX_LINEAGE_LENGTH ≤ lineage.length then
        refuseAt .authorityDepthExceeded path (some id)
      else .ok (parent.depth + 1)

def checkGrantRegistration (s : LedgerState) (id : AuthorityId) (grant : AuthorityGrant) (time : Int)
    (path : String) (prove : NarrowingProver) : LedgerResult Nat :=
  if !partyIdsEqual grant.principal s.principal then
    refuseAt .principalMismatch (path ++ ".principal") (some id)
  else if s.policy.isNone then refuseAt .principalPolicyMissing path (some id)
  else if (s.nodes.lookup id).isSome then refuseAt .authorityAlreadyRegistered path (some id)
  else if grant.window.expiresAt.1 ≤ time then
    refuseAt .authorityExpired (path ++ ".expiresAt") (some id)
  else match grant.lineage.parent with
    | none => .ok 0
    | some parentId => checkDelegation s id grant time path prove parentId

def checkUnrevoked (path : String) : List NodeRecord → LedgerResult Unit
  | [] => .ok ()
  | node :: rest =>
    if node.revokedAt.isSome then refuseAt .authorityRevoked path (some node.id)
    else checkUnrevoked path rest

/-- The target is registered and not yet revoked, itself or through an ancestor, and the
issuer issued it or one of its ancestors. -/
def checkRevocation (s : LedgerState) (revocation : Revocation) (time : Int) (path : String) :
    LedgerResult Unit := do
  let lineage ← resolveLineage s revocation.target (path ++ ".target")
  if time < revocation.effectiveAt.1 then
    refuseAt .revocationNotEffective (path ++ ".effectiveAt") (some revocation.target)
  else
    checkUnrevoked (path ++ ".target") lineage
    if lineage.any fun n => partyIdsEqual n.grant.lineage.issuer revocation.issuer then .ok ()
    else refuseAt .revocationIssuerNotEligible (path ++ ".issuer") (some revocation.target)

end Mandate.Ledger
