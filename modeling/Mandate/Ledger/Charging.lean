import Mandate.Ledger.Meet

/-! Charging paths and the availability check: the path of a contribution is every matching
dimension of the lineage, leaf to root, and then of the principal policy. -/
namespace Mandate.Ledger
open Core

def scopeMatches {allowed : List ResourceKind} (want held : Option (ResourceOf allowed)) : Bool :=
  match want with
  | none => true
  | some want => held.any fun r => resourceIdsEqual want.1 r.1

def contributionMatches (c : Contribution) (domain : DomainId) (d : LedgerDimensionTerm) : Bool :=
  c.quantity.kind == d.limit.kind && c.quantity.unit == d.limit.unit &&
    scopeMatches d.scope.asset c.quantity.asset && scopeMatches d.scope.market c.market &&
    d.scope.domain.all (· == domain) && scopeMatches d.scope.account c.account

structure LegDraft where
  key : TargetKey
  ref : TargetRef
  dimension : LedgerDimensionTerm
  amount : Int
  epoch : Option Int

def legEpoch (d : LedgerDimensionTerm) (time : Int) (path : String) (node : Option AuthorityId) :
    LedgerResult (Option Int) :=
  if d.restoration = .epoch then
    match epochIndex d time with
    | none => refuseAt .epochNotStarted path node
    | some epoch => .ok (some epoch)
  else .ok none

def legFor (key : TargetKey) (ref : TargetRef) (d : LedgerDimensionTerm) (c : Contribution) (time : Int)
    (path : String) (node : Option AuthorityId) : LedgerResult LegDraft :=
  if d.sign = .net then refuseAt .netDimensionUnsupported path node
  else match rescaleExact c.quantity.atoms c.quantity.decimals.1 d.limit.decimals.1 with
    | none => refuseAt .inexactRescale path node
    | some amount => do
      let epoch ← legEpoch d time path node
      .ok ⟨key, ref, d, amount, epoch⟩

def grantDimensions (g : AuthorityGrant) : List LedgerDimensionTerm := g.terms.items.filterMap dimensionOf

def nodeLegs (node : NodeRecord) (c : Contribution) (domain : DomainId) (time : Int) (path : String) :
    LedgerResult (List LegDraft) :=
  ((grantDimensions node.grant).filter (contributionMatches c domain)).mapM fun d =>
    legFor (.node node.id d.dimensionId) (.node node.id d.dimensionId) d c time path (some node.id)

def policyLegs [Keccak] (policyId : PrincipalPolicyId) (policyDims : List LedgerDimensionTerm)
    (c : Contribution) (domain : DomainId) (time : Int) (path : String) : LedgerResult (List LegDraft) :=
  (policyDims.filter (contributionMatches c domain)).mapM fun d =>
    legFor (policyKey d) (.policy policyId d.dimensionId) d c time path none

/-- Closed world: a required contribution must match a dimension granted on the lineage, and a
principal-global one does not stand in for it. -/
def contributionLegs [Keccak] (lineage : List NodeRecord) (policyId : PrincipalPolicyId)
    (policyDims : List LedgerDimensionTerm) (c : Contribution) (domain : DomainId) (time : Int)
    (path : String) : LedgerResult (List LegDraft) := do
  let granted ← lineage.mapM fun node => nodeLegs node c domain time path
  if c.required ∧ granted.flatten = [] then
    refuseAt .unboundedContribution path (lineage.head?.map (·.id))
  else
    let global ← policyLegs policyId policyDims c domain time path
    .ok (granted.flatten ++ global)

def deriveLegs [Keccak] (lineage : List NodeRecord) (policyId : PrincipalPolicyId)
    (policyDims : List LedgerDimensionTerm) (domain : DomainId) (time : Int) (path : String) :
    List Contribution → Nat → LedgerResult (List (List LegDraft))
  | [], _ => .ok []
  | c :: rest, index => do
    let legs ← contributionLegs lineage policyId policyDims c domain time (atIndex path index)
    let others ← deriveLegs lineage policyId policyDims domain time path rest (index + 1)
    .ok (legs :: others)

def policyDimsOf (s : LedgerState) : List LedgerDimensionTerm :=
  s.policy.elim [] fun p => policyDimensions p.policy

def demandAt (legs : List LegDraft) (key : TargetKey) : Int :=
  ((legs.filter fun leg => leg.key == key).map (·.amount)).sum

/-- The first leg of each target, in the order the targets were first met. -/
def firstLegs : List LegDraft → List TargetKey → List LegDraft
  | [], _ => []
  | leg :: rest, seen =>
    if leg.key ∈ seen then firstLegs rest seen else leg :: firstLegs rest (leg.key :: seen)

def limitFailure (leg : LegDraft) (requested available : Int) : LimitFailure :=
  ⟨leg.ref, leg.dimension.limit.kind, leg.dimension.limit.unit, leg.dimension.limit.decimals,
    requested, available, leg.dimension.limit.atoms.1⟩

def TargetRef.authority : TargetRef → Option AuthorityId
  | .node authority _ => some authority
  | .policy _ _ => none

def limitFailures (s : LedgerState) (all : List LegDraft) (time : Int) (path : String) :
    List LegDraft → LedgerResult (List LimitFailure)
  | [] => .ok []
  | leg :: rest => do
    let balance ← orThrow (s.targets.lookup leg.key)
    let requested := demandAt all leg.key
    if (UINT256_MAX : Int) < balance.reserved + requested then
      refuseAt .amountOverflow path (TargetRef.authority leg.ref)
    else
      let others ← limitFailures s all time path rest
      let available := availableOf balance time
      .ok (if available < requested then limitFailure leg requested available :: others else others)

/-- All or nothing: the demand at each target, or every target it does not fit. -/
def checkAvailability (s : LedgerState) (legs : List (List LegDraft)) (time : Int) (path : String) :
    LedgerResult (List (TargetKey × Int)) := do
  let all := legs.flatten
  let order := firstLegs all []
  let failures ← limitFailures s all time path order
  if failures ≠ [] then .error (.refused (.limitExceeded path failures))
  else .ok (order.map fun leg => (leg.key, demandAt all leg.key))

def legRecordOf (leg : LegDraft) : LegRecord where
  key := leg.key
  ref := leg.ref
  decimals := leg.dimension.limit.decimals
  capacity := leg.dimension.accounting == .capacity
  epoch := leg.epoch

end Mandate.Ledger
