import Mandate.Control.Errors
import Mandate.Portfolio.Fixture
import Mandate.Portfolio.Perps
import Mandate.Portfolio.Stock

/-! Compilation into Core: a valid mandate becomes a root grant and one delegation for each agent,
and a child authorization exactly one Core action, named after its signed proposal. -/
set_option linter.dupNamespace false
namespace Mandate.Portfolio
open Core Lib.Wire Lib.Table
open Control (coreErrorText)

def dimensionOf (d : ResourceDefinition) (atoms : Int) : AuthorityTermInput := .ledgerDimension {
  dimensionId := d.resource.1
  limit := ⟨d.kind.1, d.unit.1, .integer d.decimals.1, .bigint atoms⟩
  accounting := .capacity
  restoration := if d.kind.1 = .positionSize then .units else .asCharged
  epoch := none
  sign := .unsigned
  scope := ⟨none, none, d.domain.map (·.1), none⟩ }

/-- One dimension for each limit; an undeclared resource is a throw. -/
def dimensions (table : ResourceTable) (limits : ResourceVector) : Option (List AuthorityTermInput) :=
  limits.mapM fun l => (table.find? fun d => d.resource = l.resource).map fun d => dimensionOf d l.atoms

/-- The bindings a scope reaches: those whose domain and action kind it names. -/
def reached (bindings : List Binding) (scope : AuthorityScope) : List Binding :=
  bindings.filter fun b => scope.domains.members.contains b.domain && scope.actions.members.contains b.kind

def kindText : Core.ResourceKind → String
  | .market => "MARKET" | .canonicalAsset => "CANONICAL_ASSET" | .representationAsset => "REPRESENTATION_ASSET"
  | .account => "ACCOUNT" | .venue => "VENUE" | .recipient => "RECIPIENT" | .proposal => "PROPOSAL"

def resourceKey (r : ResourceIdInput) : String := r.domain ++ " " ++ kindText r.kind ++ " " ++ r.localId

/-- One resource for each key: the last written, where the first stood. -/
def unique (resources : List ResourceIdInput) : List ResourceIdInput :=
  resources.foldl (fun kept r =>
    if kept.any fun k => resourceKey k == resourceKey r then
      kept.map fun k => if resourceKey k == resourceKey r then r else k
    else kept ++ [r]) []

theorem openRisk_plain : Right.openRisk ≠ .delegate := by decide

/-- The coverage of a scope: exact modules and adapters, action types, and what the bindings compile. -/
def coverage (bindings : List Binding) (scope : AuthorityScope) : Option (List AuthorityTermInput) := do
  let bs := reached bindings scope
  let covered ← bs.mapM fun b => b.coverage scope
  some [.set (.modules (bs.map fun b => moduleRefInputOf b.module)), .set (.adapters (bs.map (·.adapter))),
    .set (.actionTypes (bs.flatMap fun b => b.actionTypes.map fun t => ⟨b.domain.1, t⟩)),
    .set (.resources .markets (unique (covered.flatMap (·.markets)))),
    .set (.resources .venues (unique (covered.flatMap (·.venues)))),
    .set (.resources .recipients (unique (covered.flatMap (·.recipients)))),
    .right (.plain ⟨.openRisk, openRisk_plain⟩)]

structure CompiledPortfolio where
  mandate : PortfolioMandate
  policy : PrincipalPolicy
  root : AuthorityGrant
  delegations : PMap Identifier AuthorityGrant
  bindings : List Binding

abbrev Compiled (α : Type) := OptionT (Except (List Reason)) α

def orMalformed {α : Type} (text : CoreError → String) (result : CoreResult α) : Compiled α :=
  OptionT.lift (result.mapError fun e => [reason .mandateMalformed (text e)])

def orThrown {α : Type} (result : Option α) : Compiled α := OptionT.mk (.ok result)

def placedError (e : CoreError) : String := coreErrorText e.code ++ "@" ++ e.path

variable [Keccak]

def rootInput (m : PortfolioMandate) (terms : List AuthorityTermInput) : AuthorityGrantInput where
  lineage := .root (partyIdInputOf m.principal)
  principal := partyIdInputOf m.principal
  holder := partyIdInputOf m.principal
  notBefore := .bigint m.window.notBefore.1
  expiresAt := .bigint m.window.expiresAt.1
  terms
  nonce := .bigint m.nonce.1

def delegationInput (m : PortfolioMandate) (root : AuthorityGrant) (a : AgentPolicy)
    (terms : List AuthorityTermInput) : AuthorityGrantInput where
  lineage := .delegation (authorityId root).toHex (partyIdInputOf m.principal)
  principal := partyIdInputOf m.principal
  holder := partyIdInputOf a.agent
  notBefore := .bigint a.window.notBefore.1
  expiresAt := .bigint a.window.expiresAt.1
  terms
  nonce := .bigint m.nonce.1

def rootTerms (m : PortfolioMandate) (bindings : List Binding) : Option (List AuthorityTermInput) := do
  let covered ← coverage bindings m.scope
  let limits ← dimensions m.resources.members m.limits.amounts
  some (covered ++ [.right (.delegate (.integer 1))] ++ limits)

def delegationTermsOf (m : PortfolioMandate) (bindings : List Binding) (a : AgentPolicy) :
    Option (List AuthorityTermInput) := do
  let covered ← coverage bindings a.scope
  let limits ← dimensions m.resources.members a.hardMaxima.amounts
  let extra ← (reached bindings a.scope).mapM fun b => b.delegationTerms a.scope
  some (covered ++ limits ++ extra.flatten)

/-- Keyed by the agent's value alone: of two agents with one value the later stands. -/
def compileDelegation (m : PortfolioMandate) (bindings : List Binding) (root : AuthorityGrant)
    (delegations : PMap Identifier AuthorityGrant) (a : AgentPolicy) : Compiled (PMap Identifier AuthorityGrant) := do
  let terms ← orThrown (delegationTermsOf m bindings a)
  let grant ← orMalformed (fun e => "delegation:" ++ a.agent.value.1 ++ ":" ++ placedError e)
    (validateAuthorityGrant (delegationInput m root a terms) "grant")
  pure (delegations.insert a.agent.value grant)

/-- Refuses a mandate that is not valid, with every reason, and one Core would not represent. -/
def compilePortfolio (m : PortfolioMandate) (bindings : List Binding) : Compiled CompiledPortfolio :=
  if checkPortfolioMandate m ≠ [] then OptionT.lift (.error (checkPortfolioMandate m))
  else do
    let policy ← orMalformed (fun e => "policy:" ++ coreErrorText e.code)
      (validatePrincipalPolicy ⟨partyIdInputOf m.principal, .bigint m.policyVersion.1, [], .bigint m.nonce.1⟩ "policy")
    let terms ← orThrown (rootTerms m bindings)
    let root ← orMalformed (fun e => "root:" ++ placedError e) (validateAuthorityGrant (rootInput m terms) "grant")
    let delegations ← m.agents.members.foldlM (compileDelegation m bindings root) ∅
    pure ⟨m, policy, root, delegations, bindings⟩

def actionNonce (child : ChildExecutionAuthorization) : Nat := beNat ((Digest32.bytes child.proposal).take 8)

structure CompiledAction where
  envelope : ActionEnvelope
  payload : Bytes
  binding : Binding
  delegation : AuthorityGrant
  agent : AgentPolicy

def bindingOf (bindings : List Binding) (kind : ActionKind) : Except Reason Binding :=
  match bindings.filter fun b => b.kind = kind with
  | [b] => .ok b
  | _ => .error (reason .instrumentUnknown ("binding:" ++ kind.text))

def orUnknown {α : Type} (label : String) (text : CoreError → String) (result : CoreResult α) : Except Reason α :=
  result.mapError fun e => reason .instrumentUnknown (label ++ text e)

def envelopeInput (c : CompiledPortfolio) (child : ChildExecutionAuthorization) (delegation : AuthorityGrant)
    (b : Binding) (core : CoreAction) (payloadDigest : Digest32) : ActionEnvelopeInput where
  principal := partyIdInputOf c.mandate.principal
  authority := (authorityId delegation).toHex
  actor := partyIdInputOf child.agent
  module := moduleRefInputOf b.module
  actionType := core.actionType
  adapter := b.adapter
  target := core.target
  resources := core.resources
  payloadDigest := payloadDigest.toHex
  validFrom := .bigint child.notBefore
  expiresAt := .bigint child.expiresAt
  nonce := .bigint (actionNonce child)

def envelopeOf (c : CompiledPortfolio) (child : ChildExecutionAuthorization) (agent : AgentPolicy)
    (delegation : AuthorityGrant) (b : Binding) (core : CoreAction) : Except Reason CompiledAction := do
  let payloadDigest ← orUnknown "payload:" (fun e => coreErrorText e.code) (actionPayloadDigest b.module core.payload)
  let envelope ← orUnknown "envelope:" placedError
    (validateActionEnvelope (envelopeInput c child delegation b core payloadDigest) "action")
  .ok ⟨envelope, core.payload, b, delegation, agent⟩

/-- The one Core action of a child, or why it has none; `none` where the binding throws. -/
def compileAction (c : CompiledPortfolio) (child : ChildExecutionAuthorization) (candidate : ActionCandidate) :
    Option (Except Reason CompiledAction) :=
  if candidateDigest candidate ≠ child.candidate then some (.error (reason .childActionMutated "candidate"))
  else match agentPolicyOf c.mandate child.agent, c.delegations.lookup child.agent.value with
  | some agent, some delegation =>
    match bindingOf c.bindings candidate.kind with
    | .error refused => some (.error refused)
    | .ok b => (b.coreAction candidate (childAuthorizationDigest child)).map fun core =>
      match core with
      | none => .error (reason .instrumentUnknown ("core-action:" ++ candidate.kind.text))
      | some core => envelopeOf c child agent delegation b core
  | _, _ => some (.error (reason .agentUnknown child.agent.value.1))

end Mandate.Portfolio
