import Mandate.Ledger.Graph

/-! Effective authority: the meet of every grant on a lineage, recomputed for each decision,
so that a widening grant that somehow reached the ledger still widens nothing. -/
namespace Mandate.Ledger
open Core Lib.Wire

structure EffectiveWindow where
  notBefore : Int
  expiresAt : Int
  empty : Bool

structure EffectiveTimeWindow where
  domain : DomainId
  window : EffectiveWindow

structure EffectiveStatePolicy where
  domain : DomainId
  stateKind : Identifier
  admittedSources : List Identifier
  requirements : List StateRequirement

/-- An invariant with the definition its own registration bound it to; `none` for a Core term. -/
structure BoundInvariant where
  term : StateInvariantTerm
  binding : Option SemanticTermBinding

structure EffectiveAuthority where
  leaf : AuthorityId
  lineage : List AuthorityId
  holder : AgentId
  validity : EffectiveWindow
  sets : List SetConstraintTerm
  rights : List PlainRight
  delegateDepth : Nat
  bounds : List PerActionBoundTerm
  timeWindows : List EffectiveTimeWindow
  invariants : List BoundInvariant
  principalInvariants : List BoundInvariant
  statePolicies : List EffectiveStatePolicy

def CanonicalSet.filter {α : Type} {write : α → Writer} {max : Nat} (set : CanonicalSet write max)
    (keep : α → Bool) : CanonicalSet write max where
  members := set.members.filter keep
  bounded := (List.length_filter_le _ _).trans set.bounded
  ascending := set.ascending.filter _

def filterMembers (keep : SetMember → Bool) : SetConstraintTerm → SetConstraintTerm
  | .modules set => .modules (CanonicalSet.filter set fun m => keep (.module m))
  | .adapters set => .adapters (CanonicalSet.filter set fun a => keep (.adapter a))
  | .resources vocabulary set =>
    .resources vocabulary (CanonicalSet.filter set fun r => keep (.resource r.1))
  | .actionTypes set => .actionTypes (CanonicalSet.filter set fun a => keep (.actionType a))

def setOf : AuthorityTerm → Option SetConstraintTerm
  | .set t => some t
  | _ => none

def boundOf : AuthorityTerm → Option PerActionBoundTerm
  | .bound t => some t
  | _ => none

def timeWindowOf : AuthorityTerm → Option TimeWindowTerm
  | .timeWindow t => some t
  | _ => none

def grantSets (g : AuthorityGrant) : List SetConstraintTerm := g.terms.items.filterMap setOf

/-- The leaf's set narrowed by each ancestor; a vocabulary any node lacks is absent. -/
def meetSet (ancestors : List AuthorityGrant) (t : SetConstraintTerm) : Option SetConstraintTerm :=
  ancestors.foldl (fun current g => current.bind fun kept =>
    ((grantSets g).find? fun other => other.vocabulary == t.vocabulary).map fun other =>
      filterMembers (setMemberKeys other).contains kept) (some t)

def PLAIN_RIGHTS : List PlainRight :=
  [⟨.openRisk, by decide⟩, ⟨.reduceRisk, by decide⟩, ⟨.transferOut, by decide⟩]

def hasRight (g : AuthorityGrant) (right : PlainRight) : Bool :=
  g.terms.items.any fun t => t == .right (.plain right)

def boundTightens (polarity : BoundPolarity) (order : Ordering) : Bool :=
  (polarity == .max && order == .lt) || (polarity == .min && order == .gt)

/-- The tightest bound of each key, in the order the keys were first met. -/
def meetBound (path : String) (leaf : AuthorityId) (t : PerActionBoundTerm) :
    List PerActionBoundTerm → LedgerResult (List PerActionBoundTerm)
  | [] => .ok [t]
  | prev :: rest =>
    if prev.boundId = t.boundId ∧ prev.polarity = t.polarity then
      match compareBoundValues t.value prev.value with
      | none => refuseAt .lineageTermsIncomparable path (some leaf)
      | some order => .ok ((if boundTightens t.polarity order then t else prev) :: rest)
    else do
      let bounds ← meetBound path leaf t rest
      .ok (prev :: bounds)

def effectiveWindow (notBefore expiresAt : Int) : EffectiveWindow :=
  ⟨notBefore, expiresAt, expiresAt ≤ notBefore⟩

def meetWindow (t : TimeWindowTerm) : List EffectiveTimeWindow → List EffectiveTimeWindow
  | [] => [⟨t.domain, effectiveWindow t.window.notBefore.1 t.window.expiresAt.1⟩]
  | prev :: rest =>
    if prev.domain = t.domain then
      ⟨prev.domain, effectiveWindow (max t.window.notBefore.1 prev.window.notBefore)
        (min t.window.expiresAt.1 prev.window.expiresAt)⟩ :: rest
    else prev :: meetWindow t rest

/-- The owner of a binding: all that can differ between two bindings of one term. -/
def sameMeaning (a b : BoundInvariant) : Bool :=
  termKey (.stateInvariant a.term) == termKey (.stateInvariant b.term) && a.term.params == b.term.params &&
    a.binding.map (·.definition.owner) == b.binding.map (·.definition.owner)

def nodeInvariants (n : NodeRecord) : List BoundInvariant :=
  (grantInvariants n.grant).map fun t => ⟨t, bindingOf n.bindings t⟩

def distinctInvariants (invariants : List BoundInvariant) : List BoundInvariant :=
  invariants.foldl (fun kept x => if kept.any (sameMeaning x) then kept else kept ++ [x]) []

def addRequirement (requirement : StateRequirement) (requirements : List StateRequirement) :
    List StateRequirement :=
  if requirement ∈ requirements then requirements else requirements ++ [requirement]

def meetStatePolicy (t : StatePolicyTerm) : List EffectiveStatePolicy → List EffectiveStatePolicy
  | [] => [⟨t.domain, t.stateKind, t.admittedSources.members, [t.requirement]⟩]
  | prev :: rest =>
    if prev.domain = t.domain ∧ prev.stateKind = t.stateKind then
      ⟨prev.domain, prev.stateKind, prev.admittedSources.filter t.admittedSources.members.contains,
        addRequirement t.requirement prev.requirements⟩ :: rest
    else prev :: meetStatePolicy t rest

def effectiveAuthority (lineage : List NodeRecord) (policy : PrincipalPolicy) (path : String)
    (policyBindings : List SemanticTermBinding) : LedgerResult EffectiveAuthority :=
  match lineage with
  | [] => .error .thrown
  | leaf :: ancestors => do
    let grants := lineage.map (·.grant)
    let bounds ← (grants.flatMap fun g => g.terms.items.filterMap boundOf).foldlM
      (fun bounds t => meetBound path leaf.id t bounds) []
    .ok {
      leaf := leaf.id
      lineage := lineage.map (·.id)
      holder := leaf.grant.holder
      validity := effectiveWindow
        (ancestors.foldl (fun t n => max t n.grant.window.notBefore.1) leaf.grant.window.notBefore.1)
        (ancestors.foldl (fun t n => min t n.grant.window.expiresAt.1) leaf.grant.window.expiresAt.1)
      sets := (grantSets leaf.grant).filterMap (meetSet (ancestors.map (·.grant)))
      rights := PLAIN_RIGHTS.filter fun right => grants.all fun g => hasRight g right
      delegateDepth := (effectiveDepths lineage).head?.getD 0
      bounds
      timeWindows := (grants.flatMap fun g => g.terms.items.filterMap timeWindowOf).foldl
        (fun windows t => meetWindow t windows) []
      invariants := distinctInvariants (lineage.flatMap nodeInvariants)
      principalInvariants := (policyInvariants policy).map fun t => ⟨t, bindingOf policyBindings t⟩
      statePolicies := ((grants.flatMap fun g => g.terms.items.filterMap statePolicyOf) ++
        policyStatePolicy policy).foldl (fun policies t => meetStatePolicy t policies) [] }

/-- The exact module reference, digest included, is in the effective module set. -/
def moduleAllowed (e : EffectiveAuthority) (module : ModuleRef) : Bool :=
  match e.sets.find? fun s => s.vocabulary == .modules with
  | some (.modules set) => set.members.any fun m => moduleRefsEqual m module
  | _ => false

end Mandate.Ledger
