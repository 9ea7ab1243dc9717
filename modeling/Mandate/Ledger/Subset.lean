import Mandate.Ledger.State

/-! Child ⊆ parent at registration: each kind of term has its own rule, and every violation
is reported. Absence means different things for different kinds. -/
namespace Mandate.Ledger
open Core

inductive SetMember
  | module (m : ModuleRef)
  | adapter (a : AdapterRef)
  | resource (r : ResourceId)
  | actionType (a : ActionTypeRef)
deriving DecidableEq

def setMemberKeys : SetConstraintTerm → List SetMember
  | .modules set => set.members.map .module
  | .adapters set => set.members.map .adapter
  | .resources _ set => set.members.map fun r => .resource r.1
  | .actionTypes set => set.members.map .actionType

def compareBoundValues : BoundValue → BoundValue → Option Ordering
  | .quantity c, .quantity p =>
    if c.kind ≠ p.kind ∨ c.unit ≠ p.unit then none
    else some (compareScaled c.atoms.1 c.decimals.1 p.atoms.1 p.decimals.1)
  | .ratio c, .ratio p => some (compareRatios c p)
  | _, _ => none

/-- The same measure under the same rules: everything but the limit and its decimals. -/
def dimensionsComparable (c p : LedgerDimensionTerm) : Bool :=
  c.limit.kind == p.limit.kind && c.limit.unit == p.limit.unit && c.accounting == p.accounting &&
    c.restoration == p.restoration && c.epoch == p.epoch && c.sign == p.sign && c.scope == p.scope

def TRUST_RANK : TrustClass → Nat
  | .authoritative => 2
  | .verified => 1
  | .advisory => 0
  | .untrusted => 0

def AT_ISSUE_RANK : AtIssue → Nat
  | .withinPolicy => 1
  | .recheck => 2

abbrev Verdict := Option DelegationViolationCode

def weakerUnless (condition : Bool) : Verdict := if condition then none else some .weakensStatePolicy

def freshnessVerdict (c p : FreshnessPolicy) : Verdict :=
  match p, c with
  | .age parent, .age child => weakerUnless (child.1 ≤ parent.1)
  | .blocks parent, .blocks child => weakerUnless (child.1 ≤ parent.1)
  | .sequence, .sequence => none
  | .version pinned parent, .version pinned' child =>
    if pinned' = pinned then weakerUnless (child.1 ≤ parent.1) else some .termIncomparable
  | _, _ => some .termIncomparable

def executionVerdict (c p : ExecutionDependence) : Verdict :=
  if c = p then none
  else if p.kind = .notRequired then none
  else if c.kind = .notRequired then some .weakensStatePolicy
  else some .narrowingUnproven

def statePolicyVerdicts (c p : StatePolicyTerm) : List DelegationViolationCode :=
  [ weakerUnless (c.admittedSources.members.all p.admittedSources.members.contains),
    freshnessVerdict c.requirement.freshness p.requirement.freshness,
    weakerUnless (TRUST_RANK p.requirement.minTrust.1 ≤ TRUST_RANK c.requirement.minTrust.1),
    if c.requirement.minFinality = p.requirement.minFinality then none else some .narrowingUnproven,
    weakerUnless (AT_ISSUE_RANK p.requirement.atIssue ≤ AT_ISSUE_RANK c.requirement.atIssue),
    executionVerdict c.requirement.atExecution p.requirement.atExecution ].filterMap id

def delegateDepth (g : AuthorityGrant) : Nat :=
  (g.terms.items.findSome? fun t => match t with
    | .right (.delegate maxDepth) => some maxDepth.1
    | _ => none).getD 0

def boundWidens (polarity : BoundPolarity) (order : Ordering) : Bool :=
  (polarity == .max && order == .gt) || (polarity == .min && order == .lt)

def termViolations (prove : NarrowingProver) (child : AuthorityTerm) (parent : Option AuthorityTerm) :
    List DelegationViolationCode :=
  match child, parent with
  | .set c, some (.set p) =>
    if (setMemberKeys c).all (setMemberKeys p).contains then [] else [.widensSet]
  | .set _, _ => [.widensSet]
  | .right (.delegate _), _ => []
  | .right (.plain _), none => [.widensRight]
  | .bound c, some (.bound p) =>
    match compareBoundValues c.value p.value with
    | none => [.termIncomparable]
    | some order => if boundWidens c.polarity order then [.widensBound] else []
  | .timeWindow c, some (.timeWindow p) =>
    if c.window.notBefore.1 < p.window.notBefore.1 ∨ p.window.expiresAt.1 < c.window.expiresAt.1 then
      [.widensWindow]
    else []
  | .ledgerDimension c, some (.ledgerDimension p) =>
    if !dimensionsComparable c p then [.termIncomparable]
    else if compareScaled c.limit.atoms.1 c.limit.decimals.1 p.limit.atoms.1 p.limit.decimals.1 = .gt then
      [.widensLimit]
    else []
  | .stateInvariant c, some (.stateInvariant p) =>
    if p.params = c.params then []
    else match prove p c with
      | .noWeaker => []
      | .weaker => [.weakensInvariant]
      | .unprovable => [.narrowingUnproven]
  | .statePolicy c, some (.statePolicy p) => statePolicyVerdicts c p
  | _, _ => []

/-- Restatement: a dropped bound, invariant or state policy is refused. -/
def droppedViolation : AuthorityTerm → Option DelegationViolationCode
  | .bound _ => some .dropsBound
  | .stateInvariant _ => some .dropsInvariant
  | .statePolicy _ => some .dropsStatePolicy
  | _ => none

def termOf (g : AuthorityGrant) (key : TermKey) : Option AuthorityTerm :=
  g.terms.items.find? fun t => termKey t == key

def depthViolations (child : AuthorityGrant) (parentDepth : Nat) : List DelegationViolation :=
  (if parentDepth < 1 then [⟨.depthExceeded, .term (.right .delegate)⟩] else []) ++
    if 0 < delegateDepth child ∧ parentDepth < delegateDepth child + 1 then
      [⟨.depthExceeded, .term (.right .delegate)⟩]
    else []

def validityViolations (parent child : AuthorityGrant) : List DelegationViolation :=
  if child.window.notBefore.1 < parent.window.notBefore.1 ∨
      parent.window.expiresAt.1 < child.window.expiresAt.1 then [⟨.widensWindow, .validity⟩]
  else []

/-- Every way `child` fails to be ⊆ `parent`, each once; empty means the delegation is valid. -/
def checkDelegationSubset (parent child : AuthorityGrant) (parentDepth : Nat)
    (prove : NarrowingProver) : List DelegationViolation :=
  let stated := child.terms.items.flatMap fun c =>
    (termViolations prove c (termOf parent (termKey c))).map fun code =>
      ⟨code, .term (termKey c)⟩
  let dropped := parent.terms.items.filterMap fun p =>
    if (termOf child (termKey p)).isSome then none
    else (droppedViolation p).map fun code => ⟨code, .term (termKey p)⟩
  (depthViolations child parentDepth ++ validityViolations parent child ++ stated ++ dropped).eraseDups

end Mandate.Ledger
