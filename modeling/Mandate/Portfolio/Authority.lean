import Mandate.Portfolio.PortfolioMandate

/-! Child authority within parent authority: one subset rule at every level. An execution is
the singleton scope of its resolved action, so permitting it is being a superset of it. -/
namespace Mandate.Portfolio
open Core Lib.Wire
open Kernel (CanonicalAssetId)

def WIDENS : ScopeSet → ReasonCode
  | .domains => .childWidensDomains
  | .actions => .childWidensActions
  | .chains => .childWidensChains
  | .venues => .childWidensVenues
  | .assets => .childWidensAssets
  | .representations => .childWidensRepresentations
  | .issuers => .childWidensIssuers
  | .recipients => .childWidensRecipients

def scopeMembers (s : AuthorityScope) : ScopeSet → List (String × String)
  | .assets => s.assets.members.map fun a =>
      (assetKey a, a.assetClass.1 ++ ":" ++ a.idScheme.1 ++ ":" ++ a.value.1)
  | set => (setKeys s set).map fun k => (k, k)

/-- An absent bound permits nothing, so a child may hold one only under a parent's. -/
def widensBound {α : Type} (exceeds : α → α → Bool) (parent child : Option α) : Bool :=
  child.any fun c => parent.all fun p => exceeds c p

/-- Every way `child` is not a subset of `parent`; empty: the child is valid. -/
def checkChildScope (parent child : AuthorityScope) : List Reason :=
  canonicalReasons ((SCOPE_SETS.flatMap fun set =>
      ((scopeMembers child set).filter fun member => !(setKeys parent set).contains member.1).map
        fun member => reason (WIDENS set) (set.text ++ ":" ++ member.2)) ++
    (if parent.syntheticPolicy = .forbidden ∧ child.syntheticPolicy ≠ .forbidden then
      [reason .childWidensSyntheticPolicy "syntheticPolicy"] else []) ++
    ((parent.requiredRights.members.filter fun right => !child.requiredRights.members.contains right).map
      fun right => reason .childDropsRequiredRight ("requiredRights:" ++ right.text)) ++
    (if widensBound (fun c p => compareRatios c p == .gt) parent.maxLeverage child.maxLeverage then
      [reason .childWidensLeverage "maxLeverage"] else []) ++
    (if widensBound (fun c p => p.1 < c.1) parent.maxSlippageBps child.maxSlippageBps then
      [reason .childWidensSlippage "maxSlippageBps"] else []) ++
    (if widensBound (fun c p => p.1 < c.1) parent.maxQuoteAgeSeconds child.maxQuoteAgeSeconds then
      [reason .childWidensQuoteAge "maxQuoteAgeSeconds"] else []))

def checkChildWindow (parent : Window) (notBefore expiresAt : Int) : List Reason :=
  if notBefore < parent.notBefore.1 ∨ parent.expiresAt.1 < expiresAt then
    [reason .childWidensWindow "window"] else []

/-- Against the portfolio a resource without a limit has limit zero; against an agent only the
ceilings it lists apply. -/
def checkChildLimits (parentLimits childLimits : ResourceVector) (declared : ResourceTable)
    (closed : Bool) : List Reason :=
  ((childLimits.filter fun a => !declared.has a.resource).map
    fun a => reason .childResourceUndeclared a.resource.1) ++
  (((if closed then exceeding childLimits parentLimits else exceedingListed childLimits parentLimits).filter
    fun r => declared.has r).map fun r => reason .childWidensResourceLimit r.1)

/-- One agent's policy against its portfolio: scope, window and hard maxima. -/
def checkAgentPolicy (m : PortfolioMandate) (a : AgentPolicy) : List Reason :=
  canonicalReasons (prefixed a.agent.value.1 (checkChildScope m.scope a.scope ++
    checkChildWindow m.window a.window.notBefore.1 a.window.expiresAt.1 ++
    checkChildLimits m.limits.amounts a.hardMaxima.amounts m.resources.members true))

/-- Every way a structurally valid mandate is not valid: its limits, its agents within it, and
their preferred allocations within theirs and together within the portfolio's. -/
def checkPortfolioMandate (m : PortfolioMandate) : List Reason :=
  canonicalReasons (undeclared m.limits.amounts m.resources.members ++ (m.agents.members.flatMap fun a =>
      checkAgentPolicy m a ++ prefixed a.agent.value.1 (undeclared a.preferred.amounts m.resources.members) ++
      ((exceedingListed a.preferred.amounts a.hardMaxima.amounts).map fun r =>
        reason .preferredExceedsHardMaximum (a.agent.value.1 ++ "/" ++ r.1)) ++
      (if m.allocationMode = .dynamic ∧ 0 < a.preferred.amounts.length then
        [reason .allocationModeViolation (a.agent.value.1 ++ "/preferred")] else [])) ++
    ((m.resources.members.filter fun d => amountOf m.limits.amounts d.resource <
        (m.agents.members.map fun a => amountOf a.preferred.amounts d.resource).sum).map
      fun d => reason .preferredExceedsPortfolioLimit d.resource.1))

/-- One action after identity resolution: every fact derived from trusted data, and its demand. -/
structure ResolvedAction where
  kind : ActionKind
  domain : DomainId
  chain : Identifier
  venue : Identifier
  route : List Identifier
  asset : CanonicalAssetId
  representation : Identifier
  issuer : Option Identifier
  recipient : Identifier
  synthetic : Bool
  rights : List RightKind
  leverage : Option Ratio
  slippageBps : Option BasisPoints
  quoteObservedAt : Option Int
  demand : ResourceVector
  unrepeated : Unrepeated demand

def quoteAge (observedAt now : Int) : Option Int := if now < observedAt then none else some (now - observedAt)

def quoteAgeBound (a b : AuthorityScope) : Option Uint64 :=
  match a.maxQuoteAgeSeconds, b.maxQuoteAgeSeconds with
  | some first, some second => some (if second.1 < first.1 then second else first)
  | _, _ => none

def quoteExpiresAt (observedAt bound : Int) : Int := observedAt + bound + 1

def singleton {α : Type} (write : α → Writer) (item : α) : CanonicalSet write MAX_SCOPE_MEMBERS :=
  ⟨[item], by simp [MAX_SCOPE_MEMBERS], List.pairwise_singleton _ _⟩

def noMembers {α : Type} (write : α → Writer) : CanonicalSet write MAX_SCOPE_MEMBERS :=
  ⟨[], Nat.zero_le _, List.Pairwise.nil⟩

theorem rights_bounded (rights : List RightKind) : rights.dedup.length ≤ MAX_SCOPE_MEMBERS :=
  (List.Nodup.length_le_card (List.nodup_dedup rights)).trans (by decide)

/-- The scope of exactly one action; an age no scope can hold is a throw of the source. -/
def singletonScope (a : ResolvedAction) (maxQuoteAgeSeconds : Option Int) : Option AuthorityScope := do
  let age ← match maxQuoteAgeSeconds with
    | none => some none
    | some age => if inside : 0 ≤ age ∧ age ≤ UINT64_MAX then some (some ⟨age, inside⟩) else none
  match canonicalSet (writeCode RIGHT_CODE) a.rights.dedup (rights_bounded a.rights)
      "action.requiredRights" with
  | .error _ => none
  | .ok requiredRights => some {
      domains := singleton _ a.domain
      actions := singleton _ a.kind
      chains := singleton _ a.chain
      venues := singleton _ a.venue
      assets := singleton _ a.asset
      representations := singleton _ a.representation
      issuers := match a.issuer with
        | none => noMembers _
        | some issuer => singleton _ issuer
      recipients := singleton _ a.recipient
      syntheticPolicy := if a.synthetic then .allowed else .forbidden
      requiredRights
      maxLeverage := a.leverage
      maxSlippageBps := a.slippageBps
      maxQuoteAgeSeconds := if a.quoteObservedAt = none then none else age }

/-- The singleton scope at `now`: its quote bound is the quote's age then. -/
def actionScope (a : ResolvedAction) (now : Int) : Option AuthorityScope :=
  singletonScope a (a.quoteObservedAt.bind fun observedAt => quoteAge observedAt now)

/-- The singleton scope a child commits to, with the static policy bound. -/
def authorizedScope (a : ResolvedAction) (bound : Option Uint64) : Option AuthorityScope :=
  singletonScope a (if a.quoteObservedAt = none then none else bound.map (·.1))

def ACTION_CODE : ReasonCode → ReasonCode
  | .childWidensDomains => .domainNotAllowed
  | .childWidensActions => .actionNotAllowed
  | .childWidensChains => .chainNotAllowed
  | .childWidensVenues => .venueNotAllowed
  | .childWidensAssets => .assetNotAllowed
  | .childWidensRepresentations => .representationNotAllowed
  | .childWidensIssuers => .issuerNotAllowed
  | .childWidensRecipients => .recipientNotAllowed
  | .childWidensSyntheticPolicy => .syntheticNotAllowed
  | .childDropsRequiredRight => .requiredRightMissing
  | .childWidensLeverage => .leverageNotAllowed
  | .childWidensSlippage => .slippageNotAllowed
  | code => code

def quoteRefusal (scope : AuthorityScope) : Reason :=
  reason (if scope.maxQuoteAgeSeconds = none then .quoteNotAllowed else .quoteStale) "quote"

/-- Every reason `scope` does not permit action `a` at `now`; empty: permitted. -/
def permits (scope : AuthorityScope) (a : ResolvedAction) (now : Int) : Option (List Reason) := do
  let action ← actionScope a now
  some (canonicalReasons (
    (if a.quoteObservedAt.any fun observedAt => now < observedAt then [quoteRefusal scope] else []) ++
    ((checkChildScope scope action).map fun r =>
      if r.code = .childWidensQuoteAge then quoteRefusal scope else reason (ACTION_CODE r.code) r.subject) ++
    ((a.route.filter fun hop => !(scope.venues.members.contains hop)).map
      fun hop => reason .routeNotAllowed ("route:" ++ hop.1))))

end Mandate.Portfolio
